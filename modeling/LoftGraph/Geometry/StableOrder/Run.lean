/-!
# Ordered runs

Ordering starts from what is in order already.  `StableOrder.firstRun` takes the ordered run off the
beginning of a list, turned round if it descends, and `StableOrder.nextRun` makes it longer where it
is short: further items are inserted one after the other, each behind all items it does not come
before.

`StableOrder.boundary` is the search by halving that everything here rests on: where the items that
pass a test end.  It does not assume that they come first, so its result may depend on the places
it looks at.
-/

namespace LoftGraph.StableOrder

variable {β : Type}

/-- Where the items that pass a test end, between two places, by halving.  Of two places in the
middle it looks at the upper one, or at the lower one for a list that was turned round. -/
def boundary (passes : β → Bool) (turned : Bool) (items : List β) (low high : Nat) : Nat :=
  if low < high then
    let half := (high - low) / 2
    let middle := if turned then high - 1 - half else low + half
    match items[middle]? with
    | some x =>
      if passes x then boundary passes turned items (middle + 1) high
      else boundary passes turned items low middle
    | none => low
  else low
termination_by high - low
decreasing_by all_goals (split <;> omega)

variable (before : β → β → Bool)

/-- The items that go on without one coming before its predecessor, and the rest. -/
def ascendingRun : β → List β → List β × List β
  | _, [] => ([], [])
  | last, x :: rest =>
    if before x last then ([], x :: rest)
    else ((x :: (ascendingRun x rest).1), (ascendingRun x rest).2)

/-- The items each of which comes before its predecessor, and the rest. -/
def descendingRun : β → List β → List β × List β
  | _, [] => ([], [])
  | last, x :: rest =>
    if before x last then ((x :: (descendingRun x rest).1), (descendingRun x rest).2)
    else ([], x :: rest)

/-- The run a list begins with, in order, and the rest. -/
def firstRun : List β → List β × List β
  | [] => ([], [])
  | [x] => ([x], [])
  | x :: y :: rest =>
    -- every step of such a run is strict, so turning it round moves no equal items past each other
    if before y x then
      let (run, rest) := descendingRun before y rest
      ((x :: y :: run).reverse, rest)
    else
      let (run, rest) := ascendingRun before y rest
      (x :: y :: run, rest)

/-- Puts an item at its place: behind all items it does not come before. -/
def insert (sorted : List β) (item : β) : List β :=
  let i := boundary (fun x => !before item x) false sorted 0 sorted.length
  sorted.take i ++ item :: sorted.drop i

/-- The run a list begins with, made as long as asked for if there are items left, and the rest. -/
def nextRun (least : Nat) (items : List β) : List β × List β :=
  let (run, rest) := firstRun before items
  let more := min least items.length - run.length
  ((rest.take more).foldl (insert before) run, rest.drop more)

/-- How long runs are made at least: all items if there are few, else so many that the number of
runs is a power of two or a little less. -/
def leastRun (size : Nat) : Nat :=
  if size < 64 then size else shrunk size 0
where
  /-- Halves a size until it is small; what is lost on the way counts as one. -/
  shrunk (size lost : Nat) : Nat :=
    if size < 64 then size + lost else shrunk (size / 2) (max lost (size % 2))
  termination_by size

theorem ascendingRun_append (last : β) (xs : List β) :
    (ascendingRun before last xs).1 ++ (ascendingRun before last xs).2 = xs := by
  induction xs generalizing last with
  | nil => rfl
  | cons x rest ih =>
      unfold ascendingRun
      split
      · rfl
      · simp [ih]

theorem descendingRun_append (last : β) (xs : List β) :
    (descendingRun before last xs).1 ++ (descendingRun before last xs).2 = xs := by
  induction xs generalizing last with
  | nil => rfl
  | cons x rest ih =>
      unfold descendingRun
      split
      · simp [ih]
      · rfl

/-- The run and the rest hold all items. -/
theorem firstRun_perm (xs : List β) :
    ((firstRun before xs).1 ++ (firstRun before xs).2).Perm xs := by
  match xs with
  | [] => exact .refl _
  | [x] => exact .refl _
  | x :: y :: rest =>
      by_cases hb : before y x = true
      · have h := descendingRun_append before y rest
        simp only [firstRun, hb, if_true]
        conv => rhs; rw [← h]
        exact List.Perm.append_right _ (List.reverse_perm (x :: y :: _))
      · have h := ascendingRun_append before y rest
        simp [firstRun, hb, h]

/-- A list that has items begins with a run that has some. -/
theorem firstRun_ne_nil {xs : List β} (h : xs ≠ []) : (firstRun before xs).1 ≠ [] := by
  match xs with
  | [] => exact absurd rfl h
  | [x] => simp [firstRun]
  | x :: y :: rest =>
      simp only [firstRun]
      split <;> simp

theorem insert_perm (sorted : List β) (item : β) :
    (insert before sorted item).Perm (item :: sorted) := by
  unfold insert
  simp only
  exact List.perm_middle.trans (by simp)

theorem foldl_insert_perm (run items : List β) :
    (items.foldl (insert before) run).Perm (run ++ items) := by
  induction items generalizing run with
  | nil => simp
  | cons x rest ih =>
      refine (ih _).trans ?_
      refine ((insert_perm before run x).append_right rest).trans ?_
      exact List.perm_middle.symm

/-- The longer run and the rest hold all items. -/
theorem nextRun_perm (least : Nat) (items : List β) :
    ((nextRun before least items).1 ++ (nextRun before least items).2).Perm items := by
  refine List.Perm.trans ?_ (firstRun_perm before items)
  unfold nextRun
  simp only
  refine ((foldl_insert_perm before _ _).append_right _).trans ?_
  rw [List.append_assoc, List.take_append_drop]

/-- Behind the longer run fewer items are left. -/
theorem length_nextRun_lt (least : Nat) {items : List β} (h : items ≠ []) :
    (nextRun before least items).2.length < items.length := by
  have hp := (firstRun_perm before items).length_eq
  have hn := List.length_pos_iff.2 (firstRun_ne_nil before h)
  simp only [nextRun, List.length_drop]
  rw [List.length_append] at hp
  omega

end LoftGraph.StableOrder
