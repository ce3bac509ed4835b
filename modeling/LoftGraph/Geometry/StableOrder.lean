import LoftGraph.Geometry.StableOrder.Merge

/-!
# Stable ordering by runs

`StableOrder.sort` puts a list in order with respect to a strict comparison and keeps the order of
items of which neither comes before the other.  It goes through the list once, run after run, and
merges neighbouring runs as it goes.

* Which runs are merged when follows from the power of the boundary between two runs: the number of
  times the list has to be halved until the middles of the runs lie in different halves.  A boundary
  is removed before one of less power is laid down.
* What is left at the end is merged from the end, the shorter neighbour first.

The comparison need not be an order: numbers that are not comparable to anything may occur.  Then
the result is still a rearrangement (`sort_perm`), and which one it is follows from the runs and the
merges.
-/

namespace LoftGraph.StableOrder

variable {β : Type}

/-- The power of the boundary between two runs of a list of some size, of which the lower one starts
at a place. -/
def boundaryPower (size place lower upper : Nat) : Nat :=
  let middle := 2 * place + lower
  let most := size.log2 + 2
  ((List.range most).find? (fun power =>
    middle * Nat.pow 2 power / (2 * size) ≠
      (middle + lower + upper) * Nat.pow 2 power / (2 * size))).getD most

/-- A run that waits for its merges. -/
structure Pending (β : Type) where
  items : List β
  /-- Where it starts in the list. -/
  place : Nat
  /-- The power of the boundary above it. -/
  power : Nat

/-- The runs that wait, the last one first, and the threshold for leaping. -/
structure Waiting (β : Type) where
  runs : List (Pending β)
  /-- How often a run has to win before it is searched in leaps. -/
  threshold : Nat

/-- All items of runs that wait, in the order of the runs. -/
def itemsOf : List (Pending β) → List β
  | [] => []
  | last :: rest => itemsOf rest ++ last.items

variable (before : β → β → Bool)

/-- Merges the last two runs for as long as the boundary between them has more power. -/
def collapse (power threshold : Nat) (runs : List (Pending β)) : Waiting β :=
  match runs with
  | last :: below :: rest =>
    if power < below.power then
      let (items, threshold) := mergeRuns before threshold below.items last.items
      collapse power threshold (⟨items, below.place, below.power⟩ :: rest)
    else ⟨runs, threshold⟩
  | runs => ⟨runs, threshold⟩
termination_by runs.length

/-- A further run, before which boundaries of more power are removed. -/
def Waiting.push (w : Waiting β) (size : Nat) (items : List β) : Waiting β :=
  match w.runs with
  | [] => { w with runs := [⟨items, 0, 0⟩] }
  | last :: rest =>
    let power := boundaryPower size last.place last.items.length items.length
    let w := collapse before power w.threshold (last :: rest)
    let place := last.place + last.items.length
    match w.runs with
    | [] => { w with runs := [⟨items, place, 0⟩] }
    | last :: rest => { w with runs := ⟨items, place, 0⟩ :: { last with power } :: rest }

/-- Goes through items run by run. -/
def collect (size least : Nat) (w : Waiting β) (items : List β) : Waiting β :=
  if h : items = [] then w
  else
    have := length_nextRun_lt before least h
    collect size least (w.push before size (nextRun before least items).1)
      (nextRun before least items).2
termination_by items.length

def finish (threshold : Nat) (runs : List (Pending β)) : List β :=
  match runs with
  | [] => []
  | [run] => run.items
  | last :: below :: [] => (mergeRuns before threshold below.items last.items).1
  | last :: below :: third :: rest =>
    if third.items.length < last.items.length then
      let (items, threshold) := mergeRuns before threshold third.items below.items
      finish threshold (last :: ⟨items, third.place, third.power⟩ :: rest)
    else
      let (items, threshold) := mergeRuns before threshold below.items last.items
      finish threshold (⟨items, below.place, below.power⟩ :: third :: rest)
termination_by runs.length

def sort (items : List β) : List β :=
  let w := collect before items.length (leastRun items.length) ⟨[], leapLeast⟩ items
  finish before w.threshold w.runs

theorem collapse_perm (power threshold : Nat) (runs : List (Pending β)) :
    (itemsOf (collapse before power threshold runs).runs).Perm (itemsOf runs) := by
  fun_induction collapse before power threshold runs with
  | case1 threshold last below rest _ items _ hm ih =>
      refine ih.trans ?_
      have hp := mergeRuns_perm before threshold below.items last.items
      rw [hm] at hp
      simp only [itemsOf, List.append_assoc]
      exact hp.append_left _
  | case2 => exact .refl _
  | case3 => exact .refl _

/-- A further run adds its items. -/
theorem push_perm (w : Waiting β) (size : Nat) (items : List β) :
    (itemsOf (w.push before size items).runs).Perm (itemsOf w.runs ++ items) := by
  unfold Waiting.push
  split
  · rename_i h
    simp [h, itemsOf]
  · rename_i last rest h
    have hc := collapse_perm before
      (boundaryPower size last.place last.items.length items.length) w.threshold (last :: rest)
    simp only
    split
    · rename_i h'
      rw [h'] at hc
      rw [h]
      simpa [itemsOf] using hc.append_right items
    · rename_i h'
      rw [h'] at hc
      rw [h]
      simpa [itemsOf] using hc.append_right items

theorem collect_perm (size least : Nat) (w : Waiting β) (items : List β) :
    (itemsOf (collect before size least w items).runs).Perm (itemsOf w.runs ++ items) := by
  fun_induction collect before size least w items with
  | case1 => simp
  | case2 w items _ _ ih =>
      refine ih.trans (((push_perm before w size _).append_right _).trans ?_)
      rw [List.append_assoc]
      exact (nextRun_perm before least items).append_left _

theorem finish_perm (threshold : Nat) (runs : List (Pending β)) :
    (finish before threshold runs).Perm (itemsOf runs) := by
  fun_induction finish before threshold runs with
  | case1 => exact .refl _
  | case2 => simp [itemsOf]
  | case3 threshold last below =>
      simpa [itemsOf] using mergeRuns_perm before threshold below.items last.items
  | case4 threshold last below third rest _ items _ hm ih =>
      refine ih.trans ?_
      have hp := mergeRuns_perm before threshold third.items below.items
      rw [hm] at hp
      simp only [itemsOf, List.append_assoc]
      rw [← List.append_assoc third.items]
      exact (hp.append_right _).append_left _
  | case5 threshold last below third rest _ items _ hm ih =>
      refine ih.trans ?_
      have hp := mergeRuns_perm before threshold below.items last.items
      rw [hm] at hp
      simp only [itemsOf, List.append_assoc]
      exact (hp.append_left _).append_left _

theorem sort_perm (items : List β) : (sort before items).Perm items := by
  refine (finish_perm before _ _).trans ((collect_perm before _ _ _ items).trans ?_)
  simp [itemsOf]

end LoftGraph.StableOrder
