import LoftGraph.Fault

/-!
# Going through a list

Going through a list with a computation that may fail gives a result exactly when every entry gives
its part of it (`mapM_eq_ok_iff`), and otherwise fails as the first entry that fails does
(`mapM_eq_error_iff`).

Where different entries contribute to a list and all but one contribute nothing, the list is what
the one contributes (`flatMap_eq_of_mem`).
-/

namespace LoftGraph

variable {ε α β : Type}

/-- A computation fails exactly when its first step fails or the rest does from what the first
step gives. -/
theorem bind_eq_error_iff {x : Except ε α} {f : α → Except ε β} {e : ε} :
    (x >>= f) = .error e ↔ x = .error e ∨ ∃ a, x = .ok a ∧ f a = .error e := by
  cases x <;> simp [bind, Except.bind]

theorem map_eq_ok_iff {f : α → β} {x : Except ε α} {b : β} :
    x.map f = .ok b ↔ ∃ a, x = .ok a ∧ f a = b := by
  cases x <;> simp [Except.map]

variable {f : α → Except ε β} {xs : List α} {ys : List β}

theorem mapM_cons_eq_ok_iff {x : α} :
    (x :: xs).mapM f = .ok ys ↔ ∃ y rest, f x = .ok y ∧ xs.mapM f = .ok rest ∧ ys = y :: rest := by
  rw [List.mapM_cons, bind_eq_ok_iff]
  constructor
  · rintro ⟨y, hy, h⟩
    obtain ⟨rest, hrest, h⟩ := bind_eq_ok_iff.mp h
    exact ⟨y, rest, hy, hrest, (Except.ok.inj h).symm⟩
  · rintro ⟨y, rest, hy, hrest, rfl⟩
    exact ⟨y, hy, bind_eq_ok_iff.mpr ⟨rest, hrest, rfl⟩⟩

theorem mapM_eq_ok_iff : xs.mapM f = .ok ys ↔ xs.map f = ys.map .ok := by
  induction xs generalizing ys with
  | nil => cases ys <;> simp [pure, Except.pure]
  | cons x rest ih =>
    rw [mapM_cons_eq_ok_iff]
    constructor
    · rintro ⟨y, others, hy, hothers, rfl⟩
      rw [List.map_cons, List.map_cons, hy, ih.mp hothers]
    · intro h
      obtain ⟨y, others, rfl, hy, hothers⟩ := List.map_eq_cons_iff.mp h.symm
      exact ⟨y, others, hy.symm, ih.mpr hothers.symm, rfl⟩

/-- What holds of every entry and its part of the result holds of the lists. -/
theorem map_eq_map_of_mapM {γ : Type} {k : α → γ} {l : β → γ} (h : xs.mapM f = .ok ys)
    (hentry : ∀ x y, f x = .ok y → k x = l y) : xs.map k = ys.map l := by
  induction xs generalizing ys with
  | nil =>
    cases h
    rfl
  | cons x rest ih =>
    obtain ⟨y, others, hy, hothers, rfl⟩ := mapM_cons_eq_ok_iff.mp h
    rw [List.map_cons, List.map_cons, hentry x y hy, ih hothers]

theorem length_of_mapM (h : xs.mapM f = .ok ys) : ys.length = xs.length := by
  have hlength := congrArg List.length (mapM_eq_ok_iff.mp h)
  rw [List.length_map, List.length_map] at hlength
  exact hlength.symm

/-- Going through a list gives something if every entry does. -/
theorem exists_mapM_iff : (∃ ys, xs.mapM f = .ok ys) ↔ ∀ x ∈ xs, ∃ y, f x = .ok y := by
  induction xs with
  | nil => exact ⟨fun _ => nofun, fun _ => ⟨[], rfl⟩⟩
  | cons x rest ih =>
    rw [List.forall_mem_cons, ← ih]
    constructor
    · rintro ⟨ys, h⟩
      obtain ⟨y, others, hy, hothers, -⟩ := mapM_cons_eq_ok_iff.mp h
      exact ⟨⟨y, hy⟩, others, hothers⟩
    · rintro ⟨⟨y, hy⟩, others, hothers⟩
      exact ⟨y :: others, mapM_cons_eq_ok_iff.mpr ⟨y, others, hy, hothers, rfl⟩⟩

theorem getElem?_eq_some_iff_of_mapM (h : xs.mapM f = .ok ys) {i : Nat} {y : β} :
    ys[i]? = some y ↔ ∃ x, xs[i]? = some x ∧ f x = .ok y := by
  have hi : xs[i]?.map f = ys[i]?.map .ok := by
    rw [← List.getElem?_map, mapM_eq_ok_iff.mp h, List.getElem?_map]
  rw [← Option.map_eq_some_iff, hi]
  constructor
  · intro hy
    rw [hy, Option.map_some]
  · intro hy
    obtain ⟨y', hy', heq⟩ := Option.map_eq_some_iff.mp hy
    cases heq
    exact hy'

/-- What going through a list gives comes entry by entry. -/
theorem exists_of_mem_mapM (h : xs.mapM f = .ok ys) {y : β} (hy : y ∈ ys) :
    ∃ x ∈ xs, f x = .ok y := by
  have hmem : .ok y ∈ xs.map f := by
    rw [mapM_eq_ok_iff.mp h]
    exact List.mem_map_of_mem hy
  exact List.mem_map.mp hmem

theorem mapM_congr {m : Type → Type} [Monad m] [LawfulMonad m] {f k : α → m β}
    (h : ∀ x ∈ xs, f x = k x) : xs.mapM f = xs.mapM k := by
  induction xs with
  | nil => rfl
  | cons x rest ih =>
    rw [List.mapM_cons, List.mapM_cons, h x (.head _), ih fun x hx => h x (.tail _ hx)]

/-- Going through a list ends at the first entry that fails. -/
theorem mapM_eq_error_iff {e : ε} : xs.mapM f = .error e ↔ ∃ before x after,
    xs = before ++ x :: after ∧ (∀ b ∈ before, ∃ y, f b = .ok y) ∧ f x = .error e := by
  induction xs with
  | nil =>
    refine iff_of_false nofun ?_
    rintro ⟨before, x, after, h, -⟩
    cases before <;> cases h
  | cons first rest ih =>
    rw [List.mapM_cons, bind_eq_error_iff]
    constructor
    · rintro (hfirst | ⟨y, hy, hrest⟩)
      · exact ⟨[], first, rest, rfl, nofun, hfirst⟩
      · obtain hrest | ⟨ys, -, hrest⟩ := bind_eq_error_iff.mp hrest
        · obtain ⟨before, x, after, rfl, hbefore, hx⟩ := ih.mp hrest
          exact ⟨first :: before, x, after, rfl, List.forall_mem_cons.mpr ⟨⟨y, hy⟩, hbefore⟩, hx⟩
        · cases hrest
    · rintro ⟨before, x, after, hentries, hbefore, hx⟩
      cases before with
      | nil =>
        cases hentries
        exact .inl hx
      | cons b before =>
        cases hentries
        obtain ⟨⟨y, hy⟩, hbefore⟩ := List.forall_mem_cons.mp hbefore
        have hrest := ih.mpr ⟨before, x, after, rfl, hbefore, hx⟩
        exact .inr ⟨y, hy, bind_eq_error_iff.mpr (.inl hrest)⟩

theorem mapM_eq_some_iff {f : α → Option β} {xs : List α} {ys : List β} :
    xs.mapM f = some ys ↔ xs.map f = ys.map some := by
  induction xs generalizing ys with
  | nil => cases ys <;> simp
  | cons x rest ih =>
    rw [List.mapM_cons]
    constructor
    · intro h
      obtain ⟨y, hy, h⟩ := Option.bind_eq_some_iff.mp h
      obtain ⟨others, hothers, h⟩ := Option.bind_eq_some_iff.mp h
      cases h
      rw [List.map_cons, List.map_cons, hy, ih.mp hothers]
    · intro h
      obtain ⟨y, others, rfl, hy, hothers⟩ := List.map_eq_cons_iff.mp h.symm
      rw [← hy, ih.mpr hothers.symm]
      rfl

theorem exists_mapM_eq_some {f : α → Option β} {xs : List α}
    (h : ∀ x ∈ xs, ∃ y, f x = some y) : ∃ ys, xs.mapM f = some ys := by
  induction xs with
  | nil => exact ⟨[], rfl⟩
  | cons x rest ih =>
    obtain ⟨⟨y, hy⟩, hrest⟩ := List.forall_mem_cons.mp h
    obtain ⟨others, hothers⟩ := ih hrest
    refine ⟨y :: others, mapM_eq_some_iff.mpr ?_⟩
    rw [List.map_cons, List.map_cons, hy, mapM_eq_some_iff.mp hothers]

/-- What makes as many entries of each one makes a multiple of all. -/
theorem length_flatMap_of_length {n : Nat} {k : α → List β} (h : ∀ x ∈ xs, (k x).length = n) :
    (xs.flatMap k).length = n * xs.length := by
  induction xs with
  | nil => rfl
  | cons x rest ih =>
    obtain ⟨hx, hrest⟩ := List.forall_mem_cons.mp h
    rw [List.flatMap_cons, List.length_append, hx, ih hrest, List.length_cons, Nat.mul_succ,
      Nat.add_comm]

/-- The largest number is bounded where all of them are. -/
theorem foldl_max_le_iff {xs : List Nat} {init n : Nat} :
    xs.foldl max init ≤ n ↔ init ≤ n ∧ ∀ x ∈ xs, x ≤ n := by
  induction xs generalizing init with
  | nil => simp
  | cons x rest ih => rw [List.foldl_cons, ih, Nat.max_le, List.forall_mem_cons, and_assoc]

/-- Where one of some different entries at most contributes, it contributes all. -/
theorem flatMap_eq_of_mem {k : α → List β} {x : α} (hnodup : xs.Nodup) (hx : x ∈ xs)
    (hother : ∀ y ∈ xs, y ≠ x → k y = []) : xs.flatMap k = k x := by
  obtain ⟨before, after, rfl⟩ := List.append_of_mem hx
  obtain ⟨-, hlater, hdisjoint⟩ := List.nodup_append.mp hnodup
  have hbefore : before.flatMap k = [] :=
    List.flatMap_eq_nil_iff.mpr fun y hy =>
      hother y (List.mem_append_left _ hy) (hdisjoint y hy x (.head _))
  have hafter : after.flatMap k = [] := by
    refine List.flatMap_eq_nil_iff.mpr fun y hy =>
      hother y (List.mem_append_right _ (.tail _ hy)) ?_
    rintro rfl
    exact (List.nodup_cons.mp hlater).1 hy
  rw [List.flatMap_append, List.flatMap_cons, hbefore, hafter, List.nil_append, List.append_nil]

end LoftGraph
