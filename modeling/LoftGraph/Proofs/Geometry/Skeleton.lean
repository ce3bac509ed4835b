import LoftGraph.Geometry.Loft
import Mathlib.Data.List.Nodup

/-!
# The skeleton of a loft

Which triangles a loft has depends on the vertex counts of its rings alone. A `Skeleton` holds these
counts, and its edges run between spots, places on the rings of tubes and the apex over the tip.

* A quad has two edges on rims of its wall, `lowerRim` and `upperRim`; each other edge is met by its
  reverse in the same quad or in a neighbour (`rim_or_inner`). A fan has one on the rim of the tip.
* From three vertices on, no edge is in two quads (`quadEdges_unique`). With two, the ring between
  two walls would have the same edge in both.
* So the edges of a skeleton are distinct (`Skeleton.nodup_edges`), and an edge without its reverse
  is on a rim that no wall and no fan faces (`Skeleton.boundary_iff`).
* A `Numbering` gives a block of numbers to every ring that is used. Distinct spots then have
  distinct numbers, so what holds of the skeleton holds of the triangles.
-/

namespace LoftGraph

/-- The directed edges of a triangle, around it. -/
def Triangle.edges (t : Triangle) : List (Int × Int) := [(t.a, t.b), (t.b, t.c), (t.c, t.a)]

namespace Loft

/-- The tubes of a loft: the one of the outer boundaries, and one for each hole slot. -/
inductive Tube where
  | outer
  | hole (slot : Nat)
  deriving DecidableEq

namespace Tube

/-- All tubes of a loft with so many hole slots. -/
def all (slots : Nat) : List Tube := .outer :: (List.range slots).map .hole

theorem hole_mem_all {slot slots : Nat} : .hole slot ∈ all slots ↔ slot < slots := by
  simp [all]

theorem nodup_all (slots : Nat) : (all slots).Nodup := by
  refine List.nodup_cons.mpr ⟨by simp, ?_⟩
  exact List.nodup_range.map fun slot slot' h => Tube.hole.inj h

end Tube

/-- Is the segment above ring `i` stitched? `count` tells how many vertices the rings have. -/
def Stitched (count : Nat → Nat) (i : Nat) : Prop := count i ≠ 0 ∧ count (i + 1) = count i

instance (count : Nat → Nat) (i : Nat) : Decidable (Stitched count i) :=
  inferInstanceAs (Decidable (_ ∧ _))

/-- Is the segment below ring `i` stitched? -/
def StitchedBelow (count : Nat → Nat) : Nat → Prop
  | 0 => False
  | i + 1 => Stitched count i

instance (count : Nat → Nat) : (i : Nat) → Decidable (StitchedBelow count i)
  | 0 => .isFalse id
  | i + 1 => inferInstanceAs (Decidable (Stitched count i))

/-- A vertex of a loft: a place on a ring of a tube, or the middle of the tip. -/
inductive Spot where
  | on (tube : Tube) (ring place : Nat)
  | apex
  deriving DecidableEq

/-! ## Places on a ring -/

/-- Does place `k'` follow place `k` on a ring of `n` vertices? -/
def Next (n k k' : Nat) : Prop := k < n ∧ (k' = k + 1 ∧ k' < n ∨ k' = 0 ∧ k + 1 = n)

theorem next_iff {n k k' : Nat} : Next n k k' ↔ k < n ∧ k' = (k + 1) % n := by
  refine and_congr_right fun hk => ?_
  rcases Nat.lt_or_ge (k + 1) n with h | h
  · rw [Nat.mod_eq_of_lt h]
    omega
  · have hn : k + 1 = n := by omega
    rw [hn, Nat.mod_self]
    omega

theorem next_succ_mod {n k : Nat} (hk : k < n) : Next n k ((k + 1) % n) := next_iff.mpr ⟨hk, rfl⟩

theorem Next.right_lt {n k k' : Nat} (h : Next n k k') : k' < n := by
  obtain ⟨hk, h⟩ := h
  omega

theorem exists_next {n k : Nat} (hk : k < n) : ∃ k', Next n k k' := ⟨_, next_succ_mod hk⟩

theorem exists_next_left {n k' : Nat} (hk : k' < n) : ∃ k, Next n k k' := by
  cases k' with
  | zero => exact ⟨n - 1, by omega, .inr ⟨rfl, by omega⟩⟩
  | succ k => exact ⟨k, by omega, .inl ⟨rfl, hk⟩⟩

/-! ## Edges of quads and fans -/

/-- The directed edges of the two triangles between neighbouring places of two rings. -/
def quadEdges (tube : Tube) (i k k' : Nat) : List (Spot × Spot) :=
  let lower := Spot.on tube i
  let upper := Spot.on tube (i + 1)
  match tube with
  | .outer =>
    [(lower k, upper k), (upper k, lower k'), (lower k', lower k),
     (upper k, upper k'), (upper k', lower k'), (lower k', upper k)]
  | .hole _ =>
    [(lower k, lower k'), (lower k', upper k), (upper k, lower k),
     (upper k, lower k'), (lower k', upper k'), (upper k', upper k)]

/-- The edge of a ring that the wall above it has. -/
def lowerRim (tube : Tube) (i k k' : Nat) : Spot × Spot :=
  match tube with
  | .outer => (.on tube i k', .on tube i k)
  | .hole _ => (.on tube i k, .on tube i k')

/-- The edge of a ring that the wall below it has. -/
def upperRim (tube : Tube) (i k k' : Nat) : Spot × Spot := (lowerRim tube i k k').swap

/-- The directed edges of the triangle between neighbouring places of a ring and its middle. -/
def fanEdges (i k k' : Nat) : List (Spot × Spot) :=
  [(.apex, .on .outer i k'), lowerRim .outer i k k', (.on .outer i k, .apex)]

variable {t t' : Tube} {i j n n' k k' m m' : Nat} {e : Spot × Spot}

theorem nodup_quadEdges (hk : k ≠ k') : (quadEdges t i k k').Nodup := by
  cases t <;> simp [quadEdges, hk, hk.symm]

theorem tube_of_mem_quadEdges (he : e ∈ quadEdges t i k k') :
    (∃ j m, e.1 = .on t j m) ∧ ∃ j m, e.2 = .on t j m := by
  cases t <;> simp only [quadEdges, List.mem_cons, List.not_mem_nil, or_false] at he <;>
    rcases he with rfl | rfl | rfl | rfl | rfl | rfl <;> exact ⟨⟨_, _, rfl⟩, _, _, rfl⟩

/-- No directed edge is in two quads. Rings of three vertices suffice: with two, the edge that a
ring has in the wall above is also the one that it has in the wall below. -/
theorem quadEdges_unique (hn : 3 ≤ n) (hk : Next n k k') (hm : Next n' m m')
    (hcount : t = t' → i = j ∨ i = j + 1 ∨ j = i + 1 → n = n')
    (he : e ∈ quadEdges t i k k') (he' : e ∈ quadEdges t' j m m') : t = t' ∧ i = j ∧ k = m := by
  obtain ⟨hk, hk'⟩ := hk
  obtain ⟨hm, hm'⟩ := hm
  obtain ⟨-, _, _, hleft⟩ := tube_of_mem_quadEdges he
  obtain ⟨-, _, _, hright⟩ := tube_of_mem_quadEdges he'
  cases hleft.symm.trans hright
  replace hcount := hcount rfl
  refine ⟨rfl, ?_⟩
  -- each edge of the one quad against the other: the rings tell the wall, the places tell the quad
  cases t <;> simp only [quadEdges, List.mem_cons, List.not_mem_nil, or_false] at he he' <;>
    rcases he with rfl | rfl | rfl | rfl | rfl | rfl <;>
    simp only [Prod.mk.injEq, Spot.on.injEq, true_and] at he' <;> omega

theorem lowerRim_mem_quadEdges : lowerRim t i k k' ∈ quadEdges t i k k' := by
  cases t <;> simp [lowerRim, quadEdges]

theorem upperRim_mem_quadEdges : upperRim t (i + 1) k k' ∈ quadEdges t i k k' := by
  cases t <;> simp [upperRim, lowerRim, quadEdges]

/-- An edge that is not on a rim is met by its reverse, in the same quad or in a neighbour. -/
theorem rim_or_inner (hk : Next n k k') (he : e ∈ quadEdges t i k k') :
    e = lowerRim t i k k' ∨ e = upperRim t (i + 1) k k' ∨
      ∃ m m', Next n m m' ∧ e.swap ∈ quadEdges t i m m' := by
  obtain ⟨m, hm⟩ := exists_next_left hk.1
  obtain ⟨m', hm'⟩ := exists_next hk.right_lt
  cases t with
  | outer =>
    simp only [quadEdges, List.mem_cons, List.not_mem_nil, or_false] at he
    rcases he with rfl | rfl | rfl | rfl | rfl | rfl
    · exact .inr (.inr ⟨m, k, hm, by simp [quadEdges]⟩)
    · exact .inr (.inr ⟨k, k', hk, by simp [quadEdges]⟩)
    · exact .inl rfl
    · exact .inr (.inl rfl)
    · exact .inr (.inr ⟨k', m', hm', by simp [quadEdges]⟩)
    · exact .inr (.inr ⟨k, k', hk, by simp [quadEdges]⟩)
  | hole slot =>
    simp only [quadEdges, List.mem_cons, List.not_mem_nil, or_false] at he
    rcases he with rfl | rfl | rfl | rfl | rfl | rfl
    · exact .inl rfl
    · exact .inr (.inr ⟨k, k', hk, by simp [quadEdges]⟩)
    · exact .inr (.inr ⟨m, k, hm, by simp [quadEdges]⟩)
    · exact .inr (.inr ⟨k, k', hk, by simp [quadEdges]⟩)
    · exact .inr (.inr ⟨k', m', hm', by simp [quadEdges]⟩)
    · exact .inr (.inl rfl)

/-- The lower rim of a ring is in no wall but the one above it. -/
theorem eq_of_lowerRim_mem (hn : 3 ≤ n) (hk : Next n k k') (hm : Next n' m m')
    (hcount : t = t' → i = j + 1 → n = n') (h : lowerRim t i k k' ∈ quadEdges t' j m m') :
    t = t' ∧ i = j := by
  obtain ⟨hk, hk'⟩ := hk
  obtain ⟨hm, hm'⟩ := hm
  obtain ⟨-, _, _, hleft⟩ := tube_of_mem_quadEdges (lowerRim_mem_quadEdges : lowerRim t i k k' ∈ _)
  obtain ⟨-, _, _, hright⟩ := tube_of_mem_quadEdges h
  cases hleft.symm.trans hright
  replace hcount := hcount rfl
  refine ⟨rfl, ?_⟩
  cases t <;>
    simp only [lowerRim, quadEdges, List.mem_cons, List.not_mem_nil, or_false, Prod.mk.injEq,
      Spot.on.injEq, true_and] at h <;> omega

/-- The upper rim of a ring is in no wall but the one below it. -/
theorem eq_of_upperRim_mem (hn : 3 ≤ n) (hk : Next n k k') (hm : Next n' m m')
    (hcount : t = t' → i = j → n = n') (h : upperRim t i k k' ∈ quadEdges t' j m m') :
    t = t' ∧ i = j + 1 := by
  obtain ⟨hk, hk'⟩ := hk
  obtain ⟨hm, hm'⟩ := hm
  obtain ⟨⟨_, _, hleft⟩, -⟩ :=
    tube_of_mem_quadEdges (lowerRim_mem_quadEdges : lowerRim t i k k' ∈ _)
  obtain ⟨-, _, _, hright⟩ := tube_of_mem_quadEdges h
  cases hleft.symm.trans hright
  replace hcount := hcount rfl
  refine ⟨rfl, ?_⟩
  cases t <;>
    simp only [upperRim, lowerRim, Prod.swap_prod_mk, quadEdges, List.mem_cons, List.not_mem_nil,
      or_false, Prod.mk.injEq, Spot.on.injEq, true_and] at h <;> omega

theorem nodup_fanEdges : (fanEdges i k k').Nodup := by
  simp [fanEdges, lowerRim]

theorem fanEdges_unique (hk : Next n k k') (hm : Next n m m') (he : e ∈ fanEdges i k k')
    (he' : e ∈ fanEdges i m m') : k = m := by
  obtain ⟨hk, hk'⟩ := hk
  obtain ⟨hm, hm'⟩ := hm
  simp only [fanEdges, lowerRim, List.mem_cons, List.not_mem_nil, or_false] at he he'
  rcases he with rfl | rfl | rfl <;>
    simp only [Prod.mk.injEq, Spot.on.injEq, true_and, and_true, reduceCtorEq, false_and, and_false,
      or_false, false_or] at he' <;> omega

theorem eq_of_lowerRim_mem_fan (h : lowerRim t i k k' ∈ fanEdges j m m') :
    t = .outer ∧ i = j := by
  cases t with
  | outer =>
    simp only [lowerRim, fanEdges, List.mem_cons, List.not_mem_nil, or_false, Prod.mk.injEq,
      Spot.on.injEq, true_and, reduceCtorEq, false_and, and_false, false_or] at h
    exact ⟨rfl, h.1.1⟩
  | hole slot => simp [lowerRim, fanEdges] at h

theorem upperRim_not_mem_fan (hn : 3 ≤ n) (hk : Next n k k') (hm : Next n' m m')
    (hcount : t = .outer → i = j → n = n') : upperRim t i k k' ∉ fanEdges j m m' := by
  intro h
  obtain ⟨hk, hk'⟩ := hk
  obtain ⟨hm, hm'⟩ := hm
  cases t with
  | outer =>
    replace hcount := hcount rfl
    simp only [upperRim, lowerRim, Prod.swap_prod_mk, fanEdges, List.mem_cons, List.not_mem_nil,
      or_false, Prod.mk.injEq, Spot.on.injEq, true_and, reduceCtorEq, false_and, and_false,
      false_or] at h
    omega
  | hole slot => simp [upperRim, lowerRim, fanEdges] at h

/-! ## Skeletons -/

/-- What the triangles of a loft depend on, and nothing else. -/
structure Skeleton where
  /-- How many vertices the rings of a tube have. -/
  count : Tube → Nat → Nat
  /-- How many rings a tube has. -/
  height : Nat
  /-- How many hole slots there are. -/
  slots : Nat
  /-- The outer ring that is closed by a fan, if there is one. -/
  tip? : Option Nat
  stitched_lt : ∀ {t i}, Stitched (count t) i → i < height
  slot_lt : ∀ {slot i}, Stitched (count (.hole slot)) i → slot < slots
  three_le : ∀ {t i}, Stitched (count t) i → 3 ≤ count t i
  three_le_tip : ∀ {i}, tip? = some i → 3 ≤ count .outer i
  /-- The closed ring is the last one. -/
  not_stitched_tip : ∀ {i}, tip? = some i → ¬ Stitched (count .outer) i

namespace Skeleton

variable (s : Skeleton)

def tubes : List Tube := Tube.all s.slots

/-- The quads of the walls, each by its tube, its lower ring and its place. -/
def quads : List (Tube × Nat × Nat) :=
  s.tubes.flatMap (fun t => (List.range s.height).flatMap (fun i =>
    if Stitched (s.count t) i then (List.range (s.count t i)).map (fun k => (t, i, k)) else []))

/-- The place that follows on a ring. -/
def next (t : Tube) (i k : Nat) : Nat := (k + 1) % s.count t i

/-- The directed edges of all triangles, in the order of the triangles. -/
def edges : List (Spot × Spot) :=
  s.quads.flatMap (fun q => quadEdges q.1 q.2.1 q.2.2 (s.next q.1 q.2.1 q.2.2)) ++
    s.tip?.toList.flatMap (fun i =>
      (List.range (s.count .outer i)).flatMap (fun k => fanEdges i k (s.next .outer i k)))

variable {s}

theorem mem_tubes (h : Stitched (s.count t) i) : t ∈ s.tubes := by
  cases t with
  | outer => exact .head _
  | hole slot => exact Tube.hole_mem_all.mpr (s.slot_lt h)

theorem mem_quads {q : Tube × Nat × Nat} :
    q ∈ s.quads ↔ Stitched (s.count q.1) q.2.1 ∧ q.2.2 < s.count q.1 q.2.1 := by
  obtain ⟨t, i, k⟩ := q
  simp only [quads, List.mem_flatMap, List.mem_range]
  constructor
  · rintro ⟨t', -, i', -, h⟩
    split at h
    · next hstitched =>
      obtain ⟨k', hk', h⟩ := List.mem_map.mp h
      cases h
      exact ⟨hstitched, List.mem_range.mp hk'⟩
    · cases h
  · rintro ⟨hstitched, hk⟩
    refine ⟨t, mem_tubes hstitched, i, s.stitched_lt hstitched, ?_⟩
    rw [if_pos hstitched]
    exact List.mem_map.mpr ⟨k, List.mem_range.mpr hk, rfl⟩

theorem nodup_quads : s.quads.Nodup := by
  have hquad : ∀ {t i q}, q ∈ (if Stitched (s.count t) i then
      (List.range (s.count t i)).map (fun k => (t, i, k)) else []) → q.1 = t ∧ q.2.1 = i := by
    intro t i q hq
    split at hq
    · obtain ⟨k, -, rfl⟩ := List.mem_map.mp hq
      exact ⟨rfl, rfl⟩
    · cases hq
  refine List.nodup_flatMap.mpr ⟨fun t _ => List.nodup_flatMap.mpr ⟨fun i _ => ?_, ?_⟩, ?_⟩
  · split
    · exact List.nodup_range.map fun k k' h => by cases h; rfl
    · exact List.nodup_nil
  · refine List.nodup_range.imp fun hne q hq hq' => ?_
    exact hne ((hquad hq).2.symm.trans (hquad hq').2)
  · refine (Tube.nodup_all s.slots).imp fun hne q hq hq' => ?_
    obtain ⟨i, -, hq⟩ := List.mem_flatMap.mp hq
    obtain ⟨j, -, hq'⟩ := List.mem_flatMap.mp hq'
    exact hne ((hquad hq).1.symm.trans (hquad hq').1)

theorem mem_edges : e ∈ s.edges ↔
    (∃ t i k k', Stitched (s.count t) i ∧ Next (s.count t i) k k' ∧ e ∈ quadEdges t i k k') ∨
      ∃ i k k', s.tip? = some i ∧ Next (s.count .outer i) k k' ∧ e ∈ fanEdges i k k' := by
  simp only [edges, List.mem_append, List.mem_flatMap, Option.mem_toList, List.mem_range,
    mem_quads, Prod.exists, next_iff, next]
  constructor
  · rintro (⟨t, i, k, ⟨hstitched, hk⟩, he⟩ | ⟨i, htip, k, hk, he⟩)
    · exact .inl ⟨t, i, k, _, hstitched, ⟨hk, rfl⟩, he⟩
    · exact .inr ⟨i, k, _, htip, ⟨hk, rfl⟩, he⟩
  · rintro (⟨t, i, k, _, hstitched, ⟨hk, rfl⟩, he⟩ | ⟨i, k, _, htip, ⟨hk, rfl⟩, he⟩)
    · exact .inl ⟨t, i, k, ⟨hstitched, hk⟩, he⟩
    · exact .inr ⟨i, htip, k, hk, he⟩

theorem count_eq (h : Stitched (s.count t) i) (h' : Stitched (s.count t) j)
    (hnear : i = j ∨ i = j + 1 ∨ j = i + 1) : s.count t i = s.count t j := by
  rcases hnear with rfl | rfl | rfl
  · rfl
  · exact h'.2
  · exact h.2.symm

/-- No quad has an edge of the fan: the rim of the tip faces it from below. -/
theorem not_mem_fanEdges (hstitched : Stitched (s.count t) i) (hk : Next (s.count t i) k k')
    (he : e ∈ quadEdges t i k k') (htip : s.tip? = some j) (hm : Next (s.count .outer j) m m') :
    e ∉ fanEdges j m m' := by
  intro he'
  simp only [fanEdges, List.mem_cons, List.not_mem_nil, or_false] at he'
  obtain ⟨⟨_, _, hleft⟩, _, _, hright⟩ := tube_of_mem_quadEdges he
  rcases he' with rfl | rfl | rfl
  · cases hleft
  · obtain ⟨rfl, rfl⟩ := eq_of_lowerRim_mem (s.three_le_tip htip) hm hk
      (by rintro rfl rfl; exact hstitched.2) he
    exact s.not_stitched_tip htip hstitched
  · cases hright

/-- Every directed edge is in one triangle at most, and there once. -/
theorem nodup_edges : s.edges.Nodup := by
  -- within the walls, within the fan, and between them
  refine List.nodup_append.mpr ⟨?_, ?_, ?_⟩
  · refine List.nodup_flatMap.mpr ⟨?_, nodup_quads.imp_of_mem ?_⟩
    · rintro ⟨t, i, k⟩ hq
      obtain ⟨hstitched, hk⟩ := mem_quads.mp hq
      have hthree := s.three_le hstitched
      obtain ⟨-, hnext⟩ := next_succ_mod hk
      refine nodup_quadEdges fun h => ?_
      rw [next] at h
      omega
    · rintro ⟨t, i, k⟩ ⟨t', j, m⟩ hq hr hne e he he'
      obtain ⟨hstitched, hk⟩ := mem_quads.mp hq
      obtain ⟨hstitched', hm⟩ := mem_quads.mp hr
      have hcount : t = t' → i = j ∨ i = j + 1 ∨ j = i + 1 → s.count t i = s.count t' j := by
        rintro rfl hnear
        exact count_eq hstitched hstitched' hnear
      obtain ⟨rfl, rfl, rfl⟩ := quadEdges_unique (s.three_le hstitched) (next_succ_mod hk)
        (next_succ_mod hm) hcount he he'
      exact hne rfl
  · cases htip : s.tip? with
    | none => exact List.nodup_nil
    | some i =>
      simp only [Option.toList_some, List.flatMap_cons, List.flatMap_nil, List.append_nil]
      refine List.nodup_flatMap.mpr ⟨fun k _ => nodup_fanEdges, ?_⟩
      refine List.nodup_range.imp_of_mem fun hk hm hne e he he' => ?_
      exact hne (fanEdges_unique (next_succ_mod (List.mem_range.mp hk))
        (next_succ_mod (List.mem_range.mp hm)) he he')
  · intro e he e' he' heq
    subst heq
    obtain ⟨⟨t, i, k⟩, hq, he⟩ := List.mem_flatMap.mp he
    obtain ⟨hstitched, hk⟩ := mem_quads.mp hq
    obtain ⟨j, htip, he'⟩ := List.mem_flatMap.mp he'
    obtain ⟨m, hm, he'⟩ := List.mem_flatMap.mp he'
    exact not_mem_fanEdges hstitched (next_succ_mod hk) he (Option.mem_toList.mp htip)
      (next_succ_mod (List.mem_range.mp hm)) he'

/-! ### The boundary -/

/-- Is the ring one of a wall or of the fan? Only such a ring gets a block of vertices. -/
def Used (s : Skeleton) (t : Tube) (i : Nat) : Prop :=
  Stitched (s.count t) i ∨ StitchedBelow (s.count t) i ∨ (t = .outer ∧ s.tip? = some i)

theorem three_le_of_used (h : s.Used t i) : 3 ≤ s.count t i := by
  rcases h with h | h | ⟨rfl, h⟩
  · exact s.three_le h
  · cases i with
    | zero => exact h.elim
    | succ i => exact h.2.symm ▸ s.three_le h
  · exact s.three_le_tip h

theorem lowerRim_mem_edges (hk : Next (s.count t i) k k') (hthree : 3 ≤ s.count t i) :
    lowerRim t i k k' ∈ s.edges ↔ Stitched (s.count t) i ∨ (t = .outer ∧ s.tip? = some i) := by
  rw [mem_edges]
  constructor
  · rintro (⟨t', j, m, m', hstitched, hm, he⟩ | ⟨j, m, m', htip, hm, he⟩)
    · obtain ⟨rfl, rfl⟩ := eq_of_lowerRim_mem hthree hk hm
        (by rintro rfl rfl; exact hstitched.2) he
      exact .inl hstitched
    · obtain ⟨rfl, rfl⟩ := eq_of_lowerRim_mem_fan he
      exact .inr ⟨rfl, htip⟩
  · rintro (hstitched | ⟨rfl, htip⟩)
    · exact .inl ⟨t, i, k, k', hstitched, hk, lowerRim_mem_quadEdges⟩
    · exact .inr ⟨i, k, k', htip, hk, by simp [fanEdges]⟩

theorem upperRim_mem_edges (hk : Next (s.count t i) k k') (hthree : 3 ≤ s.count t i) :
    upperRim t i k k' ∈ s.edges ↔ StitchedBelow (s.count t) i := by
  rw [mem_edges]
  constructor
  · rintro (⟨t', j, m, m', hstitched, hm, he⟩ | ⟨j, m, m', htip, hm, he⟩)
    · obtain ⟨rfl, rfl⟩ := eq_of_upperRim_mem hthree hk hm (by rintro rfl rfl; rfl) he
      exact hstitched
    · exact absurd he (upperRim_not_mem_fan hthree hk hm (by rintro rfl rfl; rfl))
  · intro hbelow
    cases i with
    | zero => exact hbelow.elim
    | succ i =>
      exact .inl ⟨t, i, k, k', hbelow, hbelow.2 ▸ hk, upperRim_mem_quadEdges⟩

/-- The edges that a loft should have as its boundary: the rings where a run of stitched segments
starts or ends. A closed tip is no such end, but a boundary if nothing is stitched to it. -/
inductive Boundary (s : Skeleton) : Spot × Spot → Prop where
  | first {t : Tube} {i k k' : Nat} (hstitched : Stitched (s.count t) i)
      (hbelow : ¬ StitchedBelow (s.count t) i) (hk : Next (s.count t i) k k') :
      Boundary s (lowerRim t i k k')
  | last {t : Tube} {i k k' : Nat} (hbelow : StitchedBelow (s.count t) i)
      (hstitched : ¬ Stitched (s.count t) i) (htip : ¬ (t = .outer ∧ s.tip? = some i))
      (hk : Next (s.count t i) k k') : Boundary s (upperRim t i k k')
  | tip {i k k' : Nat} (htip : s.tip? = some i) (hbelow : ¬ StitchedBelow (s.count .outer) i)
      (hk : Next (s.count .outer i) k k') : Boundary s (lowerRim .outer i k k')

theorem swap_upperRim (t : Tube) (i k k' : Nat) : (upperRim t i k k').swap = lowerRim t i k k' :=
  Prod.swap_swap _

/-- An edge of a fan is met by its reverse in a neighbour, unless it is on the rim of the tip. -/
theorem rim_or_spoke (hk : Next n k k') (he : e ∈ fanEdges i k k') :
    e = lowerRim .outer i k k' ∨ ∃ m m', Next n m m' ∧ e.swap ∈ fanEdges i m m' := by
  obtain ⟨m, hm⟩ := exists_next_left hk.1
  obtain ⟨m', hm'⟩ := exists_next hk.right_lt
  simp only [fanEdges, List.mem_cons, List.not_mem_nil, or_false] at he
  rcases he with rfl | rfl | rfl
  · exact .inr ⟨k', m', hm', by simp [fanEdges]⟩
  · exact .inl rfl
  · exact .inr ⟨m, k, hm, by simp [fanEdges]⟩

/-- A directed edge whose reverse is in no triangle is one of the boundary. -/
theorem boundary_iff : e ∈ s.edges ∧ e.swap ∉ s.edges ↔ s.Boundary e := by
  constructor
  · rintro ⟨he, hswap⟩
    rcases mem_edges.mp he with ⟨t, i, k, k', hstitched, hk, hquad⟩ | ⟨i, k, k', htip, hk, hfan⟩
    · have hthree := s.three_le hstitched
      rcases rim_or_inner hk hquad with rfl | rfl | ⟨m, m', hm, hinner⟩
      · exact .first hstitched (mt (upperRim_mem_edges hk hthree).mpr hswap) hk
      · have hk' : Next (s.count t (i + 1)) k k' := hstitched.2.symm ▸ hk
        rw [swap_upperRim, lowerRim_mem_edges hk' (hstitched.2.symm ▸ hthree), not_or] at hswap
        exact .last hstitched hswap.1 hswap.2 hk'
      · exact absurd (mem_edges.mpr (.inl ⟨t, i, m, m', hstitched, hm, hinner⟩)) hswap
    · rcases rim_or_spoke hk hfan with rfl | ⟨m, m', hm, hspoke⟩
      · exact .tip htip (mt (upperRim_mem_edges hk (s.three_le_tip htip)).mpr hswap) hk
      · exact absurd (mem_edges.mpr (.inr ⟨i, m, m', htip, hm, hspoke⟩)) hswap
  · intro h
    cases h with
    | first hstitched hbelow hk =>
      have hthree := s.three_le hstitched
      exact ⟨(lowerRim_mem_edges hk hthree).mpr (.inl hstitched),
        mt (upperRim_mem_edges hk hthree).mp hbelow⟩
    | @last t i k k' hbelow hstitched htip hk =>
      have hthree := three_le_of_used (.inr (.inl hbelow))
      refine ⟨(upperRim_mem_edges hk hthree).mpr hbelow, ?_⟩
      rw [swap_upperRim, lowerRim_mem_edges hk hthree]
      exact not_or.mpr ⟨hstitched, htip⟩
    | tip htip hbelow hk =>
      have hthree := s.three_le_tip htip
      exact ⟨(lowerRim_mem_edges hk hthree).mpr (.inr ⟨rfl, htip⟩),
        mt (upperRim_mem_edges hk hthree).mp hbelow⟩

/-! ## Numbered skeletons -/

def HasSpot (s : Skeleton) : Spot → Prop
  | .on t i k => s.Used t i ∧ k < s.count t i
  | .apex => True

theorem edges_ne_nil (h : s.Used t i) : s.edges ≠ [] := by
  have hthree := three_le_of_used h
  suffices ∃ e, e ∈ s.edges by
    obtain ⟨e, he⟩ := this
    exact List.ne_nil_of_mem he
  obtain ⟨k', hk⟩ : ∃ k', Next (s.count t i) 0 k' := exists_next (by omega)
  rcases h with h | h | ⟨rfl, h⟩
  · exact ⟨_, (lowerRim_mem_edges hk hthree).mpr (.inl h)⟩
  · exact ⟨_, (upperRim_mem_edges hk hthree).mpr h⟩
  · exact ⟨_, (lowerRim_mem_edges hk hthree).mpr (.inr ⟨rfl, h⟩)⟩

theorem exists_used_of_mem_edges (he : e ∈ s.edges) : ∃ t i, s.Used t i := by
  rcases mem_edges.mp he with ⟨t, i, _, _, h, -⟩ | ⟨i, _, _, h, -⟩
  · exact ⟨t, i, .inl h⟩
  · exact ⟨.outer, i, .inr (.inr ⟨rfl, h⟩)⟩

theorem hasSpot_of_mem_edges (he : e ∈ s.edges) : s.HasSpot e.1 ∧ s.HasSpot e.2 := by
  rcases mem_edges.mp he with ⟨t, i, k, k', hstitched, hk, hquad⟩ | ⟨i, k, k', htip, hk, hfan⟩
  · have hlower : ∀ {m}, m < s.count t i → s.HasSpot (.on t i m) := fun hm => ⟨.inl hstitched, hm⟩
    have hupper : ∀ {m}, m < s.count t i → s.HasSpot (.on t (i + 1) m) :=
      fun hm => ⟨.inr (.inl hstitched), hstitched.2.symm ▸ hm⟩
    have hk' := hk.right_lt
    have hk := hk.1
    cases t <;> simp only [quadEdges, List.mem_cons, List.not_mem_nil, or_false] at hquad <;>
      rcases hquad with rfl | rfl | rfl | rfl | rfl | rfl <;>
      exact ⟨by first | exact hlower ‹_› | exact hupper ‹_›,
        by first | exact hlower ‹_› | exact hupper ‹_›⟩
  · have htip : ∀ {m}, m < s.count .outer i → s.HasSpot (.on .outer i m) :=
      fun hm => ⟨.inr (.inr ⟨rfl, htip⟩), hm⟩
    simp only [fanEdges, List.mem_cons, List.not_mem_nil, or_false] at hfan
    rcases hfan with rfl | rfl | rfl
    · exact ⟨trivial, htip hk.right_lt⟩
    · exact ⟨htip hk.right_lt, htip hk.1⟩
    · exact ⟨htip hk.1, trivial⟩

end Skeleton

/-- Numbers for the vertices of a skeleton: a block for every ring that is used, and the apex behind
them all. -/
structure Numbering (s : Skeleton) where
  /-- Where the block of a ring starts. -/
  start : Tube → Nat → Nat
  apex : Nat
  disjoint : ∀ {t i t' i'}, s.Used t i → s.Used t' i' → (t, i) ≠ (t', i') →
    start t i + s.count t i ≤ start t' i' ∨ start t' i' + s.count t' i' ≤ start t i
  le_apex : ∀ {t i}, s.Used t i → start t i + s.count t i ≤ apex

namespace Numbering

variable {s : Skeleton} (ν : Numbering s)

def number : Spot → Int
  | .on t i k => ν.start t i + k
  | .apex => ν.apex

/-- The triangles of the skeleton. -/
def triangles : List Triangle :=
  s.quads.flatMap (fun q => MeshBuilder.quad (ν.start q.1 q.2.1) (ν.start q.1 (q.2.1 + 1))
      (decide (q.1 ≠ .outer)) q.2.2 (s.next q.1 q.2.1 q.2.2)) ++
    s.tip?.toList.flatMap (fun i =>
      MeshBuilder.fan ν.apex (ν.start .outer i) (s.count .outer i) true)

variable {ν}

theorem number_inj {p q : Spot} (hp : s.HasSpot p) (hq : s.HasSpot q)
    (h : ν.number p = ν.number q) : p = q := by
  cases p with
  | on t i k =>
    obtain ⟨hused, hk⟩ := hp
    cases q with
    | on t' j m =>
      obtain ⟨hused', hm⟩ := hq
      simp only [number] at h
      by_cases hring : (t, i) = (t', j)
      · cases hring
        have hplace : k = m := by omega
        rw [hplace]
      · have hdisjoint := ν.disjoint hused hused' hring
        omega
    | apex =>
      simp only [number] at h
      have hle := ν.le_apex hused
      omega
  | apex =>
    cases q with
    | on t' j m =>
      obtain ⟨hused', hm⟩ := hq
      simp only [number] at h
      have hle := ν.le_apex hused'
      omega
    | apex => rfl

theorem edges_quad (t : Tube) (i k k' : Nat) :
    (MeshBuilder.quad (ν.start t i) (ν.start t (i + 1)) (decide (t ≠ .outer)) k k').flatMap
      Triangle.edges = (quadEdges t i k k').map (Prod.map ν.number ν.number) := by
  cases t <;> rfl

theorem edges_fan (i n : Nat) :
    (MeshBuilder.fan ν.apex (ν.start .outer i) n true).flatMap Triangle.edges
      = ((List.range n).flatMap (fun k => fanEdges i k ((k + 1) % n))).map
          (Prod.map ν.number ν.number) := by
  rw [MeshBuilder.fan, List.flatMap_map, List.map_flatMap]
  rfl

theorem edges_triangles :
    ν.triangles.flatMap Triangle.edges = s.edges.map (Prod.map ν.number ν.number) := by
  rw [triangles, Skeleton.edges, List.flatMap_append, List.map_append, List.flatMap_assoc,
    List.flatMap_assoc, List.map_flatMap, List.map_flatMap]
  congr 1
  · exact congrArg (List.flatMap · s.quads) (funext fun q => edges_quad q.1 q.2.1 q.2.2 _)
  · exact congrArg (List.flatMap · s.tip?.toList) (funext fun i => edges_fan i _)

theorem triangles_eq_nil_iff : ν.triangles = [] ↔ ∀ t i, ¬ s.Used t i := by
  have hedges : ν.triangles = [] ↔ s.edges = [] := by
    have hnone : ν.triangles.flatMap Triangle.edges = [] ↔ ν.triangles = [] := by
      rw [List.flatMap_eq_nil_iff, List.eq_nil_iff_forall_not_mem]
      exact forall_congr' fun t =>
        ⟨fun h ht => absurd (h ht) (List.cons_ne_nil _ _), fun h ht => absurd ht h⟩
    rw [← hnone, edges_triangles, List.map_eq_nil_iff]
  rw [hedges]
  constructor
  · exact fun h t i hused => Skeleton.edges_ne_nil hused h
  · refine fun h => List.eq_nil_iff_forall_not_mem.mpr fun e he => ?_
    obtain ⟨t, i, hused⟩ := Skeleton.exists_used_of_mem_edges he
    exact h t i hused

/-- No directed edge is in two of the triangles. -/
theorem nodup_edges : (ν.triangles.flatMap Triangle.edges).Nodup := by
  rw [edges_triangles]
  refine Skeleton.nodup_edges.map_on fun e he e' he' h => ?_
  obtain ⟨hleft, hright⟩ := Skeleton.hasSpot_of_mem_edges he
  obtain ⟨hleft', hright'⟩ := Skeleton.hasSpot_of_mem_edges he'
  exact Prod.ext (number_inj hleft hleft' (congrArg Prod.fst h))
    (number_inj hright hright' (congrArg Prod.snd h))

theorem swap_mem_iff {e : Spot × Spot} (he : e ∈ s.edges) :
    (ν.number e.2, ν.number e.1) ∈ ν.triangles.flatMap Triangle.edges ↔ e.swap ∈ s.edges := by
  rw [edges_triangles, List.mem_map]
  constructor
  · rintro ⟨e', he', h⟩
    obtain ⟨hleft, hright⟩ := Skeleton.hasSpot_of_mem_edges he
    obtain ⟨hleft', hright'⟩ := Skeleton.hasSpot_of_mem_edges he'
    have hswap : e' = e.swap := Prod.ext (number_inj hleft' hright (congrArg Prod.fst h))
      (number_inj hright' hleft (congrArg Prod.snd h))
    exact hswap ▸ he'
  · intro hswap
    exact ⟨e.swap, hswap, rfl⟩

/-- The edges whose reverse is in no triangle are those of the boundary. -/
theorem boundary_iff {a b : Int} :
    ((a, b) ∈ ν.triangles.flatMap Triangle.edges ∧ (b, a) ∉ ν.triangles.flatMap Triangle.edges) ↔
      ∃ e, s.Boundary e ∧ (ν.number e.1, ν.number e.2) = (a, b) := by
  constructor
  · rintro ⟨hmem, hswap⟩
    rw [edges_triangles, List.mem_map] at hmem
    obtain ⟨e, he, h⟩ := hmem
    cases h
    exact ⟨e, Skeleton.boundary_iff.mp ⟨he, mt (swap_mem_iff he).mpr hswap⟩, rfl⟩
  · rintro ⟨e, hboundary, h⟩
    cases h
    obtain ⟨he, hswap⟩ := Skeleton.boundary_iff.mpr hboundary
    refine ⟨?_, mt (swap_mem_iff he).mp hswap⟩
    rw [edges_triangles]
    exact List.mem_map.mpr ⟨e, he, rfl⟩

end Numbering

end Loft

end LoftGraph
