import LoftGraph.Geometry.StableOrder.Run

/-!
# Merging ordered runs

Two neighbouring runs are merged from their beginnings, or from their ends when the upper one is
the shorter.  What lies below the upper run's first item, or above the lower run's last, stays where
it is.

As long as neither run wins often, items are compared in pairs.  When one has won several times in
a row, the place of the other's head is searched in leaps (`StableOrder.gallop`), and leaping goes
on for as long as it pays.  How often a run has to win is a threshold that is carried from merge to
merge: it falls while leaping pays and rises when it does not.

`StableOrder.mergeRuns_perm`: merging neither loses nor invents items, whatever the comparison is.
-/

namespace LoftGraph.StableOrder

variable {β : Type}

/-- How far the items that pass a test reach, in leaps that double: the last item seen to pass, and
the first place behind it that is known not to. -/
def leap (passes : β → Bool) (items : List β) (last next : Nat) : Nat × Nat :=
  if h : next < items.length then
    if passes items[next] then leap passes items next (2 * next + 1) else (last, next)
  else (last, items.length)
termination_by items.length - next

/-- How many items a list begins with that pass a test. -/
def gallop (passes : β → Bool) (turned : Bool) (items : List β) : Nat :=
  if items.head?.any passes then
    let (last, next) := leap passes items 0 1
    boundary passes turned items (last + 1) next
  else 0

/-- Leaping goes on while it covers so many items. -/
def leapLeast : Nat := 7

/-- A merge of two lists from their beginnings. -/
structure Merge (β : Type) where
  /-- Does an item of the second list come out before one of the first? -/
  secondWins : β → β → Bool
  turned : Bool

/-- What a stretch of leaping comes to. -/
inductive Stretch (β : Type) where
  | finished (items : List β)
  /-- Some items are, and two lists are left; the number of items leapt over tells if it paid. -/
  | going (taken first second : List β) (leapt : Nat)

/-- Does a stretch hold exactly these items, and does it get on? -/
def Stretch.Keeps (items : List β) : Stretch β → Prop
  | finished out => out.Perm items
  | going taken first second _ => taken ≠ [] ∧ (taken ++ (first ++ second)).Perm items

/-- What a merge does at the moment. -/
inductive Phase where
  /-- Items are compared in pairs; how often each list has won in a row. -/
  | pairs (firstWon secondWon : Nat)
  /-- The winner is searched in leaps. -/
  | leaps

namespace Merge

variable (m : Merge β)

/-- Takes the items of the first list that come out before the head of the second, then that
head.  One item that is left of the first list comes out last. -/
def leapFirst (xs ys : List β) : Stretch β :=
  match ys with
  | [] => .finished xs
  | y :: ys =>
    let leapt := gallop (fun x => !m.secondWins x y) m.turned xs
    match xs.drop leapt with
    | [] => .finished (xs.take leapt ++ y :: ys)
    | [x] => .finished (xs.take leapt ++ (y :: ys ++ [x]))
    | left =>
      if ys.isEmpty then .finished (xs.take leapt ++ y :: left)
      else .going (xs.take leapt ++ [y]) left ys leapt

/-- Takes the items of the second list that come out before the head of the first, then that
head.  One item that is left of the first list comes out last. -/
def leapSecond (xs ys : List β) : Stretch β :=
  match xs with
  | [] => .finished ys
  | x :: xs =>
    let leapt := gallop (fun y => m.secondWins x y) m.turned ys
    match ys.drop leapt with
    | [] => .finished (ys.take leapt ++ x :: xs)
    | left =>
      if xs.length = 1 then .finished (ys.take leapt ++ (x :: left ++ xs))
      else .going (ys.take leapt ++ [x]) xs left leapt

/-- Leaps through one list and then through the other. -/
def leapBoth (xs ys : List β) : Stretch β :=
  match if m.turned then m.leapSecond xs ys else m.leapFirst xs ys with
  | .finished items => .finished items
  | .going taken xs ys leapt =>
    match if m.turned then m.leapFirst xs ys else m.leapSecond xs ys with
    | .finished items => .finished (taken ++ items)
    | .going more xs ys leapt' => .going (taken ++ more) xs ys (max leapt leapt')

theorem leapFirst_keeps (xs ys : List β) : (m.leapFirst xs ys).Keeps (xs ++ ys) := by
  classical
  cases ys with
  | nil => simp [leapFirst, Stretch.Keeps]
  | cons y ys =>
      simp only [leapFirst]
      generalize gallop (fun x => !m.secondWins x y) m.turned xs = k
      obtain ⟨a, b, ha, hb, rfl⟩ : ∃ a b, a = xs.take k ∧ b = xs.drop k ∧ a ++ b = xs :=
        ⟨_, _, rfl, rfl, List.take_append_drop k xs⟩
      rw [← ha, ← hb]
      clear ha hb
      split
      · simp [Stretch.Keeps]
      · simp only [Stretch.Keeps, List.perm_iff_count, List.count_append, List.count_cons,
          List.count_nil]
        omega
      · split
        · rename_i h
          obtain rfl := List.isEmpty_iff.1 h
          simp only [Stretch.Keeps, List.perm_iff_count, List.count_append, List.count_cons,
            List.count_nil]
          omega
        · refine ⟨by simp, ?_⟩
          simp only [List.perm_iff_count, List.count_append, List.count_cons, List.count_nil]
          omega

theorem leapSecond_keeps (xs ys : List β) : (m.leapSecond xs ys).Keeps (xs ++ ys) := by
  classical
  cases xs with
  | nil => simp [leapSecond, Stretch.Keeps]
  | cons x xs =>
      simp only [leapSecond]
      generalize gallop (fun y => m.secondWins x y) m.turned ys = k
      obtain ⟨a, b, ha, hb, rfl⟩ : ∃ a b, a = ys.take k ∧ b = ys.drop k ∧ a ++ b = ys :=
        ⟨_, _, rfl, rfl, List.take_append_drop k ys⟩
      rw [← ha, ← hb]
      clear ha hb
      split
      · simp only [Stretch.Keeps, List.perm_iff_count, List.count_append, List.count_cons,
          List.count_nil]
        omega
      · split
        · simp only [Stretch.Keeps, List.perm_iff_count, List.count_append, List.count_cons]
          omega
        · refine ⟨by simp, ?_⟩
          simp only [List.perm_iff_count, List.count_append, List.count_cons, List.count_nil]
          omega

/-- One stretch of leaping and another behind it. -/
theorem Stretch.keeps_bind {items : List β} {s : Stretch β} {next : List β → List β → Stretch β}
    (hs : s.Keeps items) (hnext : ∀ xs ys, (next xs ys).Keeps (xs ++ ys)) :
    (match s with
      | .finished items => Stretch.finished items
      | .going taken xs ys leapt =>
        match next xs ys with
        | .finished items => .finished (taken ++ items)
        | .going more xs ys leapt' => .going (taken ++ more) xs ys (max leapt leapt')).Keeps
      items := by
  cases s with
  | finished out => exact hs
  | going taken xs ys leapt =>
      obtain ⟨hne, hp⟩ := hs
      have h := hnext xs ys
      simp only
      cases hn : next xs ys with
      | finished out =>
          rw [hn] at h
          exact (List.Perm.append_left taken h).trans hp
      | going more xs' ys' leapt' =>
          rw [hn] at h
          refine ⟨by simp [hne], ?_⟩
          rw [List.append_assoc]
          exact (List.Perm.append_left taken h.2).trans hp

theorem leapBoth_keeps (xs ys : List β) : (m.leapBoth xs ys).Keeps (xs ++ ys) := by
  unfold leapBoth
  cases m.turned with
  | true => exact Stretch.keeps_bind (m.leapSecond_keeps xs ys) m.leapFirst_keeps
  | false => exact Stretch.keeps_bind (m.leapFirst_keeps xs ys) m.leapSecond_keeps

/-- After a stretch of leaping fewer items are left. -/
theorem length_leapBoth_lt {xs ys taken first second : List β} {leapt : Nat}
    (h : m.leapBoth xs ys = .going taken first second leapt) :
    first.length + second.length < xs.length + ys.length := by
  have hk := m.leapBoth_keeps xs ys
  rw [h] at hk
  have hl := hk.2.length_eq
  have hn := List.length_pos_iff.2 hk.1
  simp only [List.length_append] at hl
  omega

/-- The items in the order in which they come out, from a phase and a threshold on, and the
threshold at the end.  One item that is left of the first list comes out last. -/
def run (phase : Phase) (threshold : Nat) (xs ys : List β) : List β × Nat :=
  match phase with
  | .leaps =>
    let threshold := max 1 (threshold - 1)
    match h : m.leapBoth xs ys with
    | .finished items => (items, threshold)
    | .going taken first second leapt =>
      have := m.length_leapBoth_lt h
      let (items, threshold) :=
        if leapLeast ≤ leapt then run .leaps threshold first second
        else run (.pairs 0 0) (threshold + 1) first second
      (taken ++ items, threshold)
  | .pairs firstWon secondWon =>
    match xs, ys with
    | x :: xs, y :: ys =>
      if m.secondWins x y then
        if ys.isEmpty then (y :: x :: xs, threshold)
        else
          let (items, threshold) :=
            if threshold ≤ secondWon + 1 then run .leaps (threshold + 1) (x :: xs) ys
            else run (.pairs 0 (secondWon + 1)) threshold (x :: xs) ys
          (y :: items, threshold)
      else if xs.length = 1 then (x :: y :: ys ++ xs, threshold)
      else
        let (items, threshold) :=
          if threshold ≤ firstWon + 1 then run .leaps (threshold + 1) xs (y :: ys)
          else run (.pairs (firstWon + 1) 0) threshold xs (y :: ys)
        (x :: items, threshold)
    | xs, ys => (xs ++ ys, threshold)
termination_by xs.length + ys.length

/-- The whole merge.  The head of the second list is known to come out first, and the last item of
the first list to come out last. -/
def start (threshold : Nat) (xs ys : List β) : List β × Nat :=
  match ys with
  | [] => (xs, threshold)
  | y :: ys =>
    if ys.isEmpty then (y :: xs, threshold)
    else if xs.length = 1 then (y :: ys ++ xs, threshold)
    else
      let (items, threshold) := m.run (.pairs 0 0) threshold xs ys
      (y :: items, threshold)

/-- Of two runs on either side of a test, both hold what the chosen one has to hold. -/
private theorem perm_of_ite {c : Prop} [Decidable c] {p q r : List β × Nat} {items : List β}
    (hp : p.1.Perm items) (hq : q.1.Perm items) (h : (if c then p else q) = r) :
    r.1.Perm items := by
  subst h
  split
  · exact hp
  · exact hq

/-- A merge neither loses nor invents items. -/
theorem run_perm (phase : Phase) (threshold : Nat) (xs ys : List β) :
    (m.run phase threshold xs ys).1.Perm (xs ++ ys) := by
  fun_induction m.run phase threshold xs ys with
  | case1 _ xs ys _ items h =>
      have hk := m.leapBoth_keeps xs ys
      rw [h] at hk
      exact hk
  | case2 _ xs ys _ taken first second leapt h _ items _ hr leaps pairs =>
      have hk := m.leapBoth_keeps xs ys
      rw [h] at hk
      exact (List.Perm.append_left taken (perm_of_ite leaps pairs hr)).trans hk.2
  | case3 _ _ _ x xs y ys _ h =>
      obtain rfl := List.isEmpty_iff.1 h
      exact (@List.perm_append_comm _ (x :: xs) [y]).symm
  | case4 _ _ _ x xs y ys _ _ items _ hr leaps pairs =>
      exact ((perm_of_ite leaps pairs hr).cons y).trans List.perm_middle.symm
  | case5 _ _ _ x xs y ys _ _ =>
      exact (@List.perm_append_comm _ (y :: ys) xs).cons x
  | case6 _ _ _ x xs y ys _ _ items _ hr leaps pairs =>
      exact (perm_of_ite leaps pairs hr).cons x
  | case7 _ _ _ xs ys => exact .refl _

theorem start_perm (threshold : Nat) (xs ys : List β) :
    (m.start threshold xs ys).1.Perm (xs ++ ys) := by
  cases ys with
  | nil => simp [start]
  | cons y ys =>
      refine List.Perm.trans ?_ List.perm_middle.symm
      simp only [start]
      split
      · rename_i h
        obtain rfl := List.isEmpty_iff.1 h
        simp
      · split
        · exact (@List.perm_append_comm _ ys xs).cons y
        · exact (m.run_perm _ threshold xs ys).cons y

end Merge

variable (before : β → β → Bool)

/-- Two runs merged from their beginnings. -/
def mergeUp (threshold : Nat) (low high : List β) : List β × Nat :=
  Merge.start ⟨fun x y => before y x, false⟩ threshold low high

/-- Two runs merged from their ends. -/
def mergeDown (threshold : Nat) (low high : List β) : List β × Nat :=
  let (items, threshold) :=
    Merge.start ⟨fun x y => before x y, true⟩ threshold high.reverse low.reverse
  (items.reverse, threshold)

/-- Two neighbouring runs as one, and the threshold after it. -/
def mergeRuns (threshold : Nat) (low high : List β) : List β × Nat :=
  let settled := gallop (fun x => high.head?.all (fun y => !before y x)) false low
  match (low.drop settled).getLast? with
  | none => (low ++ high, threshold)
  | some last =>
    let above := high.length - gallop (fun y => !before y last) true high.reverse
    let (items, threshold) :=
      if (low.drop settled).length ≤ (high.take above).length then
        mergeUp before threshold (low.drop settled) (high.take above)
      else mergeDown before threshold (low.drop settled) (high.take above)
    (low.take settled ++ (items ++ high.drop above), threshold)

theorem mergeUp_perm (threshold : Nat) (low high : List β) :
    (mergeUp before threshold low high).1.Perm (low ++ high) :=
  Merge.start_perm _ threshold low high

theorem mergeDown_perm (threshold : Nat) (low high : List β) :
    (mergeDown before threshold low high).1.Perm (low ++ high) := by
  refine (List.reverse_perm _).trans ((Merge.start_perm _ threshold _ _).trans ?_)
  rw [← List.reverse_append]
  exact List.reverse_perm _

/-- Merging neither loses nor invents items. -/
theorem mergeRuns_perm (threshold : Nat) (low high : List β) :
    (mergeRuns before threshold low high).1.Perm (low ++ high) := by
  unfold mergeRuns
  simp only
  split
  · exact .refl _
  · generalize gallop _ false low = i
    generalize high.length - _ = j
    have hm : ∀ items : List β × Nat, items.1.Perm (low.drop i ++ high.take j) →
        (low.take i ++ (items.1 ++ high.drop j)).Perm (low ++ high) := by
      intro items h
      refine List.Perm.trans ((h.append_right _).append_left _) ?_
      rw [List.append_assoc, List.take_append_drop, ← List.append_assoc, List.take_append_drop]
    split
    · exact hm _ (mergeUp_perm before threshold _ _)
    · exact hm _ (mergeDown_perm before threshold _ _)

end LoftGraph.StableOrder
