import LoftGraph.Proofs.Geometry.Manifold
import LoftGraph.Proofs.Mesh.WellFormed

/-!
# What a loft contains

`Contents` describes vertices and triangles by the counts of the rings: the rings of walls and the
closed tip have one block of vertices each, one behind the other, with the apex at the end, and each
triangle stands between neighbouring places of a ring and the one above, or belongs to the fan.

* Blocks do not overlap, so a vertex is on one ring only (`Blocks.unique`). Hence the triangles with
  corners on two neighbouring rings are those of the wall between them (`Assembled.filter_joins`).
* A stack is assembled to such contents (`Assembled.contents`), and a smooth mesh shows the
  vertices and triangles of its builder unchanged (`build_contents`).
* Rings of different counts are told pair by pair (`filter_warnings`).
-/

namespace LoftGraph

open Loft

/-- The rings that a warning about different counts is about, by the lower one. -/
def LoftWarning.pair? : LoftWarning → Option (Tube × Nat)
  | collapsed _ => none
  | outerMismatch lower _ _ => some (.outer, lower)
  | holeMismatch slot lower _ _ => some (.hole slot, lower)

namespace Loft

/-- Rings with a block each, and where it starts. -/
structure Blocks where
  rings : List (Tube × Nat)
  start : Tube → Nat → Nat

namespace Blocks

variable (blocks : Blocks) (count : Tube → Nat → Nat)

/-- The number behind all blocks. -/
def total : Nat := (blocks.rings.map (fun r => count r.1 r.2)).sum

/-- Is this the number of a vertex of the ring? -/
def On (t : Tube) (i : Nat) (corner : Int) : Prop :=
  (t, i) ∈ blocks.rings ∧ blocks.start t i ≤ corner ∧ corner < blocks.start t i + count t i

instance (t : Tube) (i : Nat) (corner : Int) : Decidable (blocks.On count t i corner) :=
  inferInstanceAs (Decidable (_ ∧ _ ∧ _))

/-- Has the triangle corners on the ring and on the one above? -/
def Joins (t : Tube) (i : Nat) (T : Triangle) : Prop :=
  (∃ corner ∈ T.corners, blocks.On count t i corner) ∧
    ∃ corner ∈ T.corners, blocks.On count t (i + 1) corner

instance (t : Tube) (i : Nat) (T : Triangle) : Decidable (blocks.Joins count t i T) :=
  inferInstanceAs (Decidable (_ ∧ _))

/-- Are all corners at these two places of the ring and of the one above? -/
def Between (t : Tube) (i k k' : Nat) (T : Triangle) : Prop :=
  ∀ corner ∈ T.corners, ∃ j m : Nat,
    (j = i ∨ j = i + 1) ∧ (m = k ∨ m = k') ∧ corner = blocks.start t j + m

/-- Does the triangle join these two places of a ring with the apex behind all blocks? -/
def OfFan (i k k' : Nat) (T : Triangle) : Prop :=
  T = ⟨blocks.total count, blocks.start .outer i + k', blocks.start .outer i + k⟩

end Blocks

/-- Vertices and triangles of a loft whose rings have these counts, `ring` giving their points and
`tip?` the ring that gets closed. -/
structure Contents {α : Type} [Scalar α] (count : Tube → Nat → Nat) (ring : Tube × Nat → Ring α)
    (tip? : Option Nat) (blocks : Blocks) (vertices : List (Point3 α)) (triangles : List Triangle) :
    Prop where
  /-- No ring has two blocks. -/
  nodup : blocks.rings.Nodup
  /-- A ring has a block if it is stitched to a neighbour or closed by the fan. -/
  mem_rings : ∀ t i, (t, i) ∈ blocks.rings ↔
    Stitched (count t) i ∨ StitchedBelow (count t) i ∨ (t = .outer ∧ tip? = some i)
  vertices_eq : vertices = blocks.rings.flatMap ring ++
    tip?.toList.map (fun i => ringCenter (ring (.outer, i)))
  length_ring : ∀ r ∈ blocks.rings, (ring r).length = count r.1 r.2
  laid : Laid (fun r => count r.1 r.2) (fun r => blocks.start r.1 r.2) 0 blocks.rings
  /-- Every vertex is one of a triangle. -/
  used : ∀ v < vertices.length, ∃ T ∈ triangles, (v : Int) ∈ T.corners
  wall_or_fan : ∀ T ∈ triangles,
    (∃ t i k k', Stitched (count t) i ∧ Next (count t i) k k' ∧ blocks.Between t i k k' T) ∨
      ∃ i k k', tip? = some i ∧ Next (count .outer i) k k' ∧ blocks.OfFan count i k k' T
  /-- A wall between two rings of one count, and nothing between others. -/
  joining : ∀ t i, (triangles.filter (fun T => decide (blocks.Joins count t i T))).length
    = if Stitched (count t) i then 2 * count t i else 0
  /-- No triangle joins the two sides of a section that leaves a gap. -/
  gap : ∀ g, count .outer g = 0 → (.outer, g) ∉ blocks.rings ∧
    ∀ T ∈ triangles, ∀ t i t' j, i < g → g < j → ∀ corner ∈ T.corners, ∀ corner' ∈ T.corners,
      blocks.On count t i corner → ¬ blocks.On count t' j corner'

/-! ## Quads and fans -/

theorem mem_wall {lower upper : Int} {n : Nat} {reverse : Bool} {T : Triangle} :
    T ∈ MeshBuilder.wall lower upper n reverse ↔
      ∃ k k', Next n k k' ∧ T ∈ MeshBuilder.quad lower upper reverse k k' := by
  simp only [MeshBuilder.wall, List.mem_flatMap, List.mem_range, next_iff]
  constructor
  · rintro ⟨k, hk, hT⟩
    exact ⟨k, _, ⟨hk, rfl⟩, hT⟩
  · rintro ⟨k, _, ⟨hk, rfl⟩, hT⟩
    exact ⟨k, hk, hT⟩

theorem mem_fan {apex ring : Int} {n : Nat} {T : Triangle} :
    T ∈ MeshBuilder.fan apex ring n true ↔
      ∃ k k', Next n k k' ∧ T = ⟨apex, ring + k', ring + k⟩ := by
  simp only [MeshBuilder.fan, List.mem_map, List.mem_range, next_iff]
  constructor
  · rintro ⟨k, hk, rfl⟩
    exact ⟨k, _, ⟨hk, rfl⟩, rfl⟩
  · rintro ⟨k, _, ⟨hk, rfl⟩, rfl⟩
    exact ⟨k, hk, rfl⟩

/-- Where at most one ring of a stack contributes, it contributes all. -/
theorem flatMap_tubes_eq {β : Type} {f : Tube → Nat → List β} {slots height : Nat} {t : Tube}
    {i : Nat} (hin : f t i ≠ [] → t ∈ Tube.all slots ∧ i < height)
    (hother : ∀ t' j, (t', j) ≠ (t, i) → f t' j = []) :
    (Tube.all slots).flatMap (fun t => (List.range height).flatMap (f t)) = f t i := by
  have htube : ∀ t', t' ≠ t → (List.range height).flatMap (f t') = [] := fun t' ht' =>
    List.flatMap_eq_nil_iff.mpr fun j _ => hother t' j fun heq => ht' (congrArg Prod.fst heq)
  have hring : ∀ j, j ≠ i → f t j = [] := fun j hj =>
    hother t j fun heq => hj (congrArg Prod.snd heq)
  by_cases hnone : f t i = []
  · rw [hnone]
    refine List.flatMap_eq_nil_iff.mpr fun t' _ => List.flatMap_eq_nil_iff.mpr fun j _ => ?_
    by_cases heq : (t', j) = (t, i)
    · cases heq
      exact hnone
    · exact hother t' j heq
  · obtain ⟨ht, hi⟩ := hin hnone
    rw [flatMap_eq_of_mem (Tube.nodup_all slots) ht fun t' _ => htube t',
      flatMap_eq_of_mem List.nodup_range (List.mem_range.mpr hi) fun j _ => hring j]

/-! ## Contents of a stack -/

variable {α : Type} [Scalar α] {placed : List (PlacedSection α)} {closeTip : Bool}
  {b : MeshBuilder α} {start : Tube → Nat → Nat}

/-- The counts of the rings of a stack. -/
def counts (placed : List (PlacedSection α)) (t : Tube) : Nat → Nat := ringCount (t.rings placed)

namespace Assembled

/-- The blocks of an assembled stack. -/
def ringBlocks (_ : Assembled placed closeTip b start) : Blocks := ⟨blocks placed closeTip, start⟩

variable (h : Assembled placed closeTip b start)

include h

theorem mem_triangles {T : Triangle} : T ∈ b.triangles.toList ↔
    (∃ t i k k', Stitched (counts placed t) i ∧ Next (counts placed t i) k k' ∧
      T ∈ MeshBuilder.quad (start t i) (start t (i + 1)) t.isInner k k') ∨
    ∃ i k k', tip? placed closeTip = some i ∧ Next (counts placed .outer i) k k' ∧
      h.ringBlocks.OfFan (counts placed) i k k' T := by
  rw [h.triangles, List.mem_append]
  refine or_congr ?_ ?_
  · simp only [walls, List.mem_flatMap, List.mem_range]
    constructor
    · rintro ⟨t, -, i, -, hT⟩
      split at hT
      · next hstitched =>
        obtain ⟨k, k', hk, hT⟩ := mem_wall.mp hT
        exact ⟨t, i, k, k', hstitched, hk, hT⟩
      · cases hT
    · rintro ⟨t, i, k, k', hstitched, hk, hT⟩
      have hwalled := lt_length_of_walled (Or.inl hstitched)
      rw [Tube.length_rings] at hwalled
      refine ⟨t, mem_all_of_walled (.inl hstitched), i, hwalled, ?_⟩
      rw [if_pos (show Stitched (ringCount (t.rings placed)) i from hstitched)]
      exact mem_wall.mpr ⟨k, k', hk, hT⟩
  · simp only [List.mem_flatMap, Option.mem_toList]
    constructor
    · rintro ⟨i, htip, hT⟩
      obtain ⟨k, k', hk, hT⟩ := mem_fan.mp hT
      exact ⟨i, k, k', htip, hk, hT⟩
    · rintro ⟨i, k, k', htip, hk, hT⟩
      exact ⟨i, htip, mem_fan.mpr ⟨k, k', hk, hT⟩⟩

/-- A vertex of a ring is on no other ring. -/
theorem unique {t t' : Tube} {i j : Nat} {corner : Int}
    (hon : h.ringBlocks.On (counts placed) t i corner)
    (hon' : h.ringBlocks.On (counts placed) t' j corner) : (t, i) = (t', j) := by
  by_contra hne
  obtain ⟨hr, hle, hlt⟩ := hon
  obtain ⟨hr', hle', hlt'⟩ := hon'
  have hapart : start t i + counts placed t i ≤ start t' j ∨
    start t' j + counts placed t' j ≤ start t i := h.laid.disjoint hr hr' hne
  simp only [ringBlocks] at hle hlt hle' hlt'
  omega

theorem on_of_lt {t : Tube} {i m : Nat} (hr : (t, i) ∈ blocks placed closeTip)
    (hm : m < counts placed t i) :
    h.ringBlocks.On (counts placed) t i (start t i + m) :=
  ⟨hr, Int.le_add_of_nonneg_right (Int.natCast_nonneg m),
    Int.add_lt_add_left (Int.ofNat_lt.mpr hm) _⟩

theorem lt_total {t : Tube} {i : Nat} {corner : Int}
    (hon : h.ringBlocks.On (counts placed) t i corner) :
    corner < h.ringBlocks.total (counts placed) := by
  obtain ⟨hr, -, hlt⟩ := hon
  have hsum : start t i + counts placed t i
      ≤ 0 + h.ringBlocks.total (counts placed) := h.laid.le_sum hr
  simp only [ringBlocks] at hlt hsum ⊢
  omega

/-- The rings that a triangle of a wall has its corners on. -/
theorem on_of_mem_quad {t : Tube} {i k k' : Nat} {T : Triangle}
    (hstitched : Stitched (counts placed t) i) (hk : Next (counts placed t i) k k')
    (hT : T ∈ MeshBuilder.quad (start t i) (start t (i + 1)) t.isInner k k') :
    h.ringBlocks.Joins (counts placed) t i T ∧
      ∀ corner ∈ T.corners, h.ringBlocks.On (counts placed) t i corner ∨
        h.ringBlocks.On (counts placed) t (i + 1) corner := by
  have hlower : ∀ {m}, m = k ∨ m = k' →
      h.ringBlocks.On (counts placed) t i (start t i + (m : Nat)) := by
    rintro m hm
    refine h.on_of_lt (mem_blocks.mpr (.inl (.inl hstitched))) ?_
    rcases hm with rfl | rfl
    · exact hk.1
    · exact hk.right_lt
  have hupper : ∀ {m}, m = k ∨ m = k' →
      h.ringBlocks.On (counts placed) t (i + 1)
        (start t (i + 1) + (m : Nat)) := by
    rintro m hm
    refine h.on_of_lt (mem_blocks.mpr (.inl (.inr hstitched))) ?_
    rw [hstitched.2]
    rcases hm with rfl | rfl
    · exact hk.1
    · exact hk.right_lt
  obtain ⟨⟨m, hm, hcorner⟩, ⟨m', hm', hcorner'⟩, hall⟩ := MeshBuilder.corners_of_mem_quad hT
  refine ⟨⟨⟨_, hcorner, hlower hm⟩, _, hcorner', hupper hm'⟩, fun corner hc => ?_⟩
  obtain ⟨m, hm, rfl | rfl⟩ := hall corner hc
  · exact .inl (hlower hm)
  · exact .inr (hupper hm)

/-- A triangle of the fan has its corners on the tip and the apex. -/
theorem on_of_fan {i k k' : Nat} {T : Triangle} (htip : tip? placed closeTip = some i)
    (hk : Next (counts placed .outer i) k k')
    (hT : h.ringBlocks.OfFan (counts placed) i k k' T) :
    ∀ corner ∈ T.corners,
      h.ringBlocks.On (counts placed) .outer i corner ∨
        corner = h.ringBlocks.total (counts placed) := by
  have hr : (.outer, i) ∈ blocks placed closeTip := mem_blocks.mpr (.inr ⟨rfl, htip⟩)
  intro corner hc
  rw [hT] at hc
  simp only [Triangle.corners, List.mem_cons, List.not_mem_nil, or_false] at hc
  rcases hc with rfl | rfl | rfl
  · exact .inr rfl
  · exact .inl (h.on_of_lt hr hk.right_lt)
  · exact .inl (h.on_of_lt hr hk.1)

/-- All corners of a triangle that are on rings are on two neighbouring rings of one tube. -/
theorem exists_neighbours {T : Triangle} (hT : T ∈ b.triangles.toList) :
    ∃ t i, ∀ corner ∈ T.corners, ∀ {t' j},
      h.ringBlocks.On (counts placed) t' j corner →
        t' = t ∧ (j = i ∨ j = i + 1) := by
  rcases h.mem_triangles.mp hT with ⟨t, i, k, k', hstitched, hk, hT⟩ | ⟨i, k, k', htip, hk, hT⟩
  · refine ⟨t, i, fun corner hc {t' j} hon => ?_⟩
    rcases (h.on_of_mem_quad hstitched hk hT).2 corner hc with hon' | hon' <;>
      cases h.unique hon hon'
    · exact ⟨rfl, .inl rfl⟩
    · exact ⟨rfl, .inr rfl⟩
  · refine ⟨.outer, i, fun corner hc {t' j} hon => ?_⟩
    rcases h.on_of_fan htip hk hT corner hc with hon' | rfl
    · cases h.unique hon hon'
      exact ⟨rfl, .inl rfl⟩
    · exact absurd (h.lt_total hon) (Int.lt_irrefl _)

/-- The triangles between two neighbouring rings are those of their wall. -/
theorem filter_joins (t : Tube) (i : Nat) :
    b.triangles.toList.filter (fun T =>
        decide (h.ringBlocks.Joins (counts placed) t i T))
      = if Stitched (counts placed t) i then
          MeshBuilder.wall (start t i) (start t (i + 1)) (counts placed t i) t.isInner else [] := by
  -- a wall is kept as a whole or not at all
  have hother : ∀ t' j, (t', j) ≠ (t, i) →
      (if Stitched (ringCount (t'.rings placed)) j then MeshBuilder.wall (start t' j)
          (start t' (j + 1)) (ringCount (t'.rings placed) j) t'.isInner else []).filter
        (fun T => decide (h.ringBlocks.Joins (counts placed) t i T)) = [] := by
    intro t' j hne
    split
    · next hstitched =>
      refine List.filter_eq_nil_iff.mpr fun T hT hjoins => hne ?_
      obtain ⟨k, k', hk, hT⟩ := mem_wall.mp hT
      obtain ⟨⟨c, hc, hlower⟩, c', hc', hupper⟩ := of_decide_eq_true hjoins
      have hon := (h.on_of_mem_quad hstitched hk hT).2
      rcases hon c hc with hc | hc <;> rcases hon c' hc' with hc' | hc' <;>
        have heq := h.unique hlower hc <;> have heq' := h.unique hupper hc' <;>
        simp only [Prod.mk.injEq] at heq heq' ⊢ <;> exact ⟨heq.1.symm, by omega⟩
    · rfl
  have hfan : ∀ j, tip? placed closeTip = some j →
      (MeshBuilder.fan (apexOf placed closeTip) (start .outer j)
          (ringCount (Tube.outer.rings placed) j) true).filter
        (fun T => decide (h.ringBlocks.Joins (counts placed) t i T)) = [] := by
    intro j htip
    refine List.filter_eq_nil_iff.mpr fun T hT hjoins => ?_
    obtain ⟨k, k', hk, hT⟩ := mem_fan.mp hT
    obtain ⟨⟨c, hc, hlower⟩, c', hc', hupper⟩ := of_decide_eq_true hjoins
    have hon := h.on_of_fan htip hk hT
    have heq := h.unique hlower ((hon c hc).resolve_right (Int.ne_of_lt (h.lt_total hlower)))
    have heq' := h.unique hupper ((hon c' hc').resolve_right (Int.ne_of_lt (h.lt_total hupper)))
    simp only [Prod.mk.injEq] at heq heq'
    omega
  have hkept : (if Stitched (ringCount (t.rings placed)) i then MeshBuilder.wall (start t i)
        (start t (i + 1)) (ringCount (t.rings placed) i) t.isInner else []).filter
      (fun T => decide (h.ringBlocks.Joins (counts placed) t i T))
      = if Stitched (counts placed t) i then
          MeshBuilder.wall (start t i) (start t (i + 1)) (counts placed t i) t.isInner else [] := by
    refine List.filter_eq_self.mpr fun T hT => decide_eq_true ?_
    split at hT
    · next hstitched =>
      obtain ⟨k, k', hk, hT⟩ := mem_wall.mp hT
      exact (h.on_of_mem_quad hstitched hk hT).1
    · cases hT
  have htip : ((tip? placed closeTip).toList.flatMap (fun j =>
      MeshBuilder.fan (apexOf placed closeTip) (start .outer j)
        (ringCount (Tube.outer.rings placed) j) true)).filter
      (fun T => decide (h.ringBlocks.Joins (counts placed) t i T)) = [] := by
    rw [List.filter_flatMap]
    exact List.flatMap_eq_nil_iff.mpr fun j hj => hfan j (Option.mem_toList.mp hj)
  rw [h.triangles, List.filter_append, htip, List.append_nil, List.filter_flatMap]
  simp only [walls, List.filter_flatMap]
  refine (flatMap_tubes_eq (t := t) (i := i) (fun hne => ?_) hother).trans hkept
  rw [hkept] at hne
  have hstitched : Stitched (counts placed t) i := by
    by_contra hopen
    exact hne (if_neg hopen)
  have hi : i + 1 < (t.rings placed).length := lt_length_of_stitched hstitched
  rw [Tube.length_rings] at hi
  exact ⟨mem_all_of_walled (.inl hstitched), Nat.lt_of_succ_lt hi⟩

/-- Every vertex is one of a triangle: those of rings of the walls and the fan that need them, the
apex of the fan. -/
theorem exists_triangle (htip : ∀ i, tip? placed closeTip = some i → counts placed .outer i ≠ 0)
    {v : Nat} (hv : v < b.vertices.toList.length) :
    ∃ T ∈ b.triangles.toList, (v : Int) ∈ T.corners := by
  have hring : ∀ t i m, (t, i) ∈ blocks placed closeTip → m < counts placed t i →
      ∃ T ∈ b.triangles.toList, (start t i + m : Int) ∈ T.corners := by
    intro t i m hr hm
    rcases mem_blocks.mp hr with (hstitched | hbelow) | ⟨rfl, hclosed⟩
    · obtain ⟨k', hk⟩ := exists_next hm
      obtain ⟨T, hT, hcorner, -⟩ :=
        MeshBuilder.exists_mem_quad (start t i) (start t (i + 1)) t.isInner m k'
      exact ⟨T, h.mem_triangles.mpr (.inl ⟨t, i, m, k', hstitched, hk, hT⟩), hcorner⟩
    · cases i with
      | zero => exact hbelow.elim
      | succ i =>
        obtain ⟨k', hk⟩ : ∃ k', Next (counts placed t i) m k' :=
          exists_next (Nat.lt_of_lt_of_eq hm hbelow.2)
        obtain ⟨T, hT, -, hcorner⟩ :=
          MeshBuilder.exists_mem_quad (start t i) (start t (i + 1)) t.isInner m k'
        exact ⟨T, h.mem_triangles.mpr (.inl ⟨t, i, m, k', hbelow, hk, hT⟩), hcorner⟩
    · obtain ⟨k', hk⟩ := exists_next hm
      refine ⟨_, h.mem_triangles.mpr (.inr ⟨i, m, k', hclosed, hk, rfl⟩), ?_⟩
      exact .tail _ (.tail _ (.head _))
  rw [h.vertices, List.length_append, List.length_flatMap, List.length_map] at hv
  rcases Nat.lt_or_ge v (apexOf placed closeTip) with hlt | hge
  · obtain ⟨⟨t, i⟩, hr, hle, hlt⟩ := h.laid.exists_of_lt (Nat.zero_le v)
      (by rw [Nat.zero_add]; exact hlt)
    have hplace : v - start t i < counts placed t i := Nat.sub_lt_left_of_lt_add hle hlt
    obtain ⟨T, hT, hcorner⟩ := hring t i (v - start t i) hr hplace
    refine ⟨T, hT, ?_⟩
    have hback : start t i + (v - start t i) = v := Nat.add_sub_cancel' hle
    rwa [← Int.natCast_add, hback] at hcorner
  · cases hclosed : tip? placed closeTip with
    | none =>
      rw [hclosed] at hv
      exact absurd hv (Nat.not_lt.mpr hge)
    | some i =>
      rw [hclosed] at hv
      have hapex : v = apexOf placed closeTip := Nat.le_antisymm (Nat.le_of_lt_succ hv) hge
      obtain ⟨k', hk⟩ := exists_next (Nat.pos_of_ne_zero (htip i hclosed))
      refine ⟨_, h.mem_triangles.mpr (.inr ⟨i, 0, k', hclosed, hk, rfl⟩), ?_⟩
      rw [hapex]
      exact .head _

/-- The triangles of a stack name vertices. -/
theorem sound : b.Sound True := by
  have htotal : h.ringBlocks.total (counts placed) + (tip? placed closeTip).toList.length
      = b.vertexCount := by
    rw [← MeshBuilder.length_toList_vertices, h.vertices, List.length_append, List.length_flatMap,
      List.length_map]
    rfl
  have hon : ∀ {t i corner}, h.ringBlocks.On (counts placed) t i corner →
      0 ≤ corner ∧ (True → corner < b.vertexCount) := by
    intro t i corner hon
    have hlt := h.lt_total hon
    have hle := hon.2.1
    exact ⟨by omega, fun _ => by omega⟩
  intro T hT corner hc
  rcases h.mem_triangles.mp hT with ⟨t, i, k, k', hstitched, hk, hT⟩ | ⟨i, k, k', htip, hk, hT⟩
  · exact ((h.on_of_mem_quad hstitched hk hT).2 corner hc).elim hon hon
  · rcases h.on_of_fan htip hk hT corner hc with hring | rfl
    · exact hon hring
    · rw [htip, Option.toList_some, List.length_singleton] at htotal
      exact ⟨Int.natCast_nonneg _, fun _ => by omega⟩

/-- A stack is assembled to what it should contain. -/
theorem contents (htip : ∀ i, tip? placed closeTip = some i → counts placed .outer i ≠ 0) :
    Contents (counts placed) (ringAt placed) (tip? placed closeTip) h.ringBlocks b.vertices.toList
      b.triangles.toList := by
  refine ⟨nodup_blocks placed closeTip, fun t i => mem_blocks.trans or_assoc, h.vertices,
    fun r _ => rfl, h.laid, fun v hv => h.exists_triangle htip hv, fun T hT => ?_, fun t i => ?_,
    fun g hg => ⟨fun hr => ?_, fun T hT t i t' j hi hj c hc c' hc' hon hon' => ?_⟩⟩
  · refine (h.mem_triangles.mp hT).imp_left fun ⟨t, i, k, k', hstitched, hk, hT⟩ => ?_
    refine ⟨t, i, k, k', hstitched, hk, fun c hc => ?_⟩
    obtain ⟨m, hm, hcorner⟩ := (MeshBuilder.corners_of_mem_quad hT).2.2 c hc
    rcases hcorner with rfl | rfl
    · exact ⟨i, m, .inl rfl, hm, rfl⟩
    · exact ⟨i + 1, m, .inr rfl, hm, rfl⟩
  · rw [h.filter_joins t i]
    split
    · exact MeshBuilder.length_wall _ _ _ _
    · rfl
  · rcases mem_blocks.mp hr with (hstitched | hbelow) | ⟨-, hclosed⟩
    · exact hstitched.1 hg
    · cases g with
      | zero => exact hbelow
      | succ g => exact hbelow.1 (hbelow.2.symm.trans hg)
    · exact htip g hclosed hg
  · obtain ⟨t₀, i₀, hall⟩ := h.exists_neighbours hT
    have hnear := (hall c hc hon).2
    have hnear' := (hall c' hc' hon').2
    omega

end Assembled

/-- A smooth mesh has the vertices and triangles of its builder. -/
theorem build_contents {count : Tube → Nat → Nat} {ring : Tube × Nat → Ring α} {tip? : Option Nat}
    {B : Blocks} (h : Contents count ring tip? B b.vertices.toList b.triangles.toList) :
    (b.build true).vertices = b.vertices ∧ (b.build true).triangles = b.triangles := by
  have hnone : b.triangles = #[] → b.vertices = #[] := by
    intro htriangles
    by_contra hvertices
    have hpos : 0 < b.vertices.toList.length := by
      rw [Array.length_toList]
      exact Array.size_pos_iff.mpr hvertices
    obtain ⟨T, hT, -⟩ := h.used 0 hpos
    rw [htriangles] at hT
    cases hT
  have hempty : b.vertices = #[] → b.triangles = #[] := by
    intro hvertices
    have hrings := h.vertices_eq
    rw [hvertices] at hrings
    have hzero : ∀ r ∈ B.rings, count r.1 r.2 = 0 := by
      intro r hr
      have hring := List.flatMap_eq_nil_iff.mp (List.append_eq_nil_iff.mp hrings.symm).1 r hr
      rw [← h.length_ring r hr, hring, List.length_nil]
    refine Array.toList_eq_nil_iff.mp (List.eq_nil_iff_forall_not_mem.mpr fun T hT => ?_)
    rcases h.wall_or_fan T hT with ⟨t, i, -, -, hstitched, -, -⟩ | ⟨i, k, k', hclosed, hk, -⟩
    · exact hstitched.1 (hzero (t, i) ((h.mem_rings t i).mpr (.inl hstitched)))
    · have hcount := hzero (.outer, i) ((h.mem_rings .outer i).mpr (.inr (.inr ⟨rfl, hclosed⟩)))
      exact absurd (Nat.lt_of_lt_of_eq hk.1 hcount) (Nat.not_lt_zero k)
  refine ⟨?_, triangles_build hempty⟩
  by_cases hvertices : b.vertices = #[]
  · rw [MeshBuilder.build, if_pos (by simp [hvertices]), hvertices]
    rfl
  · exact vertices_build hvertices (mt hnone hvertices)

/-! ## What is told about rings of different counts -/

omit [Scalar α] in
theorem lt_of_mismatched {t : Tube} {i : Nat} (h : Mismatched (counts placed t) i) :
    t ∈ Tube.all (slotCount placed) ∧ i < placed.length := by
  constructor
  · cases t with
    | outer => exact .head _
    | hole slot => exact Tube.hole_mem_all.mpr (slot_lt_slotCount h.1)
  · by_contra hle
    refine h.1 ?_
    rw [counts, ringCount, Tube.getD_rings, List.getElem?_eq_none (Nat.le_of_not_lt hle)]
    rfl

theorem pair?_mismatch (t : Tube) (i m n : Nat) : (t.mismatch i m n).pair? = some (t, i) := by
  cases t <;> rfl

theorem mem_collapseWarnings {placed : List (PlacedSection α)} {closeTip : Bool} {w : LoftWarning}
    (h : w ∈ collapseWarnings placed closeTip) :
    ∃ entry ∈ placed.zipIdx, w = .collapsed entry.2 := by
  obtain ⟨entry, hentry, h⟩ := List.mem_filterMap.mp h
  split at h
  · cases h
  · split at h
    · exact ⟨entry, hentry, (Option.some.inj h).symm⟩
    · cases h

/-- The warnings about two neighbouring rings: one if they are there and differ in their counts. -/
theorem filter_warnings (placed : List (PlacedSection α)) (closeTip : Bool) (t : Tube) (i : Nat) :
    (assemble placed closeTip).2.filter (fun w => w.pair? == some (t, i))
      = if Mismatched (counts placed t) i then
          [t.mismatch i (counts placed t i) (counts placed t (i + 1))] else [] := by
  have hcollapsed : (collapseWarnings placed closeTip).filter (fun w => w.pair? == some (t, i))
      = [] := by
    refine List.filter_eq_nil_iff.mpr fun w hw => ?_
    obtain ⟨entry, -, rfl⟩ := mem_collapseWarnings hw
    exact Bool.false_ne_true
  have hother : ∀ t' j, (t', j) ≠ (t, i) →
      (if Mismatched (ringCount (t'.rings placed)) j then [t'.mismatch j
          (ringCount (t'.rings placed) j) (ringCount (t'.rings placed) (j + 1))] else []).filter
        (fun w => w.pair? == some (t, i)) = [] := by
    intro t' j hne
    refine List.filter_eq_nil_iff.mpr fun w hw => ?_
    split at hw
    · obtain rfl := List.mem_singleton.mp hw
      rw [pair?_mismatch]
      simpa using hne
    · cases hw
  have hkept : (if Mismatched (ringCount (t.rings placed)) i then [t.mismatch i
        (ringCount (t.rings placed) i) (ringCount (t.rings placed) (i + 1))] else []).filter
      (fun w => w.pair? == some (t, i))
      = if Mismatched (counts placed t) i then
          [t.mismatch i (counts placed t i) (counts placed t (i + 1))] else [] := by
    refine List.filter_eq_self.mpr fun w hw => ?_
    split at hw
    · obtain rfl := List.mem_singleton.mp hw
      rw [pair?_mismatch]
      exact beq_self_eq_true _
    · cases hw
  rw [warnings_assemble, List.filter_append, hcollapsed, List.nil_append, List.filter_flatMap]
  simp only [mismatches, List.filter_flatMap]
  refine (flatMap_tubes_eq (t := t) (i := i) (fun hne => ?_) hother).trans hkept
  rw [hkept] at hne
  refine lt_of_mismatched ?_
  by_contra hfits
  exact hne (if_neg hfits)

/-! ## Lofts -/

section Lofts

variable {α : Type} [Circular α] {sections : List (CrossSection α)} {settings : LoftSettings α}
  {placed : List (PlacedSection α)}

/-- A loft comes about if every section can be placed. -/
theorem exists_loft_iff : (∃ lofted, loft sections settings = .ok lofted) ↔
    ∀ s ∈ sections, ∃ p, placeBy settings s = .ok p := by
  rw [← exists_mapM_iff, loft_eq_map]
  cases sections.mapM (placeBy settings) with
  | error fault => exact iff_of_false (fun ⟨_, h⟩ => nomatch h) fun ⟨_, h⟩ => nomatch h
  | ok placed => exact iff_of_true ⟨_, rfl⟩ ⟨placed, rfl⟩

theorem count_eq_counts (h : sections.mapM (placeBy settings) = .ok placed) :
    (fun t : Tube => t.count sections) = counts placed :=
  funext fun t => count_eq_ringCount h t

/-- A tip that has collapsed has vertices. -/
theorem count_ne_zero_of_tip (h : sections.mapM (placeBy settings) = .ok placed) {closeTip : Bool}
    {i : Nat} (htip : tip? placed closeTip = some i) : counts placed .outer i ≠ 0 := by
  obtain ⟨-, -, p, hp, hcollapsed⟩ := tip?_eq_some_iff.mp htip
  obtain ⟨s, -, hplace⟩ := (getElem?_eq_some_iff_of_mapM h).mp hp
  obtain ⟨y, -, hplace⟩ := bind_eq_ok_iff.mp hplace
  obtain ⟨outline, -, hplace⟩ := bind_eq_ok_iff.mp hplace
  obtain ⟨holes, -, hplace⟩ := bind_eq_ok_iff.mp hplace
  obtain ⟨y, -, hplace⟩ := bind_eq_ok_iff.mp hplace
  cases hplace
  intro hzero
  rw [counts, ringCount, Tube.getD_rings, hp] at hzero
  have hnil : outline = [] := List.map_eq_nil_iff.mp (List.length_eq_zero_iff.mp hzero)
  rw [hasCollapsed, hnil] at hcollapsed
  cases hcollapsed

/-- A stack of sections is assembled to what it should contain. -/
theorem exists_contents (h : sections.mapM (placeBy settings) = .ok placed) (closeTip : Bool) :
    ∃ blocks, Contents (fun t => t.count sections) (ringAt placed) (tip? placed closeTip) blocks
      (assemble placed closeTip).1.vertices.toList
      (assemble placed closeTip).1.triangles.toList := by
  obtain ⟨start, hassembled⟩ := exists_assembled placed closeTip
  rw [count_eq_counts h]
  exact ⟨_, hassembled.contents fun i htip => count_ne_zero_of_tip h htip⟩

end Lofts

end Loft

/-- **What a smooth loft contains, and nothing across a gap.** A loft comes about if every section
can be placed. Its vertices are then the rings that are stitched to a neighbour or closed by the
fan, one block each, and the apex of the fan. Apart from the fan, every triangle stands at equal or
neighbouring places of two neighbouring rings of one tube, twice as many as the rings have vertices
where these have one count and none otherwise. Two neighbouring rings that are there and differ in
their counts give one warning, and no others give one. -/
theorem smooth_loft_contents {α : Type} [Circular α] (sections : List (CrossSection α))
    (settings : LoftSettings α) (hsmooth : settings.smooth = true) :
    ((∃ lofted, loft sections settings = .ok lofted) ↔
      ∀ s ∈ sections, ∃ p, placeBy settings s = .ok p) ∧
    ∀ lofted, loft sections settings = .ok lofted → ∃ placed tip? blocks,
      sections.mapM (placeBy settings) = .ok placed ∧
      (∀ i, tip? = some i ↔ ClosedTip sections settings i) ∧
      Contents (fun t => t.count sections) (ringAt placed) tip? blocks
        lofted.mesh.vertices.toList lofted.mesh.triangles.toList ∧
      ∀ t i, lofted.warnings.filter (fun w => w.pair? == some (t, i)) =
        if Mismatched (t.count sections) i then
          [t.mismatch i (t.count sections i) (t.count sections (i + 1))] else [] := by
  refine ⟨exists_loft_iff, fun lofted hloft => ?_⟩
  obtain ⟨placed, hplaced, rfl⟩ := exists_assemble hloft
  obtain ⟨blocks, hcontents⟩ := exists_contents hplaced settings.closeTip
  obtain ⟨hvertices, htriangles⟩ := build_contents hcontents
  refine ⟨placed, tip? placed settings.closeTip, blocks, hplaced,
    fun i => (closedTip_iff hplaced).symm, ?_, fun t i => ?_⟩
  · rw [hsmooth, hvertices, htriangles]
    exact hcontents
  · rw [filter_warnings, count_eq_ringCount hplaced]
    rfl

/-- Two triangles with a hole, a gap, a triangle that does not fit the square above it, and a tip
that has collapsed. -/
def brokenStack : List (CrossSection Float) :=
  let triangle : Polygon Float := [⟨0, 0⟩, ⟨4, 0⟩, ⟨0, 4⟩]
  let square : Polygon Float := [⟨0, 0⟩, ⟨4, 0⟩, ⟨4, 4⟩, ⟨0, 4⟩]
  let hole : Polygon Float := [⟨1, 1⟩, ⟨2, 1⟩, ⟨1, 2⟩]
  [⟨triangle, [hole], 0⟩, ⟨triangle, [hole], 0.2⟩, ⟨[], [], 0.4⟩, ⟨triangle, [], 0.6⟩,
    ⟨square, [hole], 0.8⟩, ⟨[⟨2, 2⟩, ⟨2, 2⟩, ⟨2, 2⟩, ⟨2, 2⟩], [], 1⟩]

theorem broken_stack_contents :
    ∃ (lofted : Lofted Float) (placed : List (PlacedSection Float)) (tip? : Option Nat)
      (blocks : Blocks), cappedSettings.smooth = true ∧
      loft brokenStack cappedSettings = .ok lofted ∧ tip? = some 5 ∧
      Contents (fun t => t.count brokenStack) (ringAt placed) tip? blocks
        lofted.mesh.vertices.toList lofted.mesh.triangles.toList ∧
      lofted.mesh.vertices.size = 21 ∧ lofted.mesh.triangles.size = 24 ∧
      (.outer, 2) ∉ blocks.rings ∧ (.outer, 3) ∉ blocks.rings ∧
      lofted.warnings.filter (fun w => w.pair? == some (.outer, 3)) = [.outerMismatch 3 3 4] := by
  have hloft : ∃ lofted, loft brokenStack cappedSettings = .ok lofted := ⟨_, rfl⟩
  obtain ⟨lofted, hloft⟩ := hloft
  obtain ⟨placed, tip?, blocks, -, htip, hcontents, hwarnings⟩ :=
    (smooth_loft_contents brokenStack cappedSettings rfl).2 lofted hloft
  have hclosed : ClosedTip brokenStack cappedSettings 5 :=
    ⟨rfl, rfl, _, _, rfl, rfl, by decide +kernel⟩
  have hsizes : (loft brokenStack cappedSettings).toOption.map
      (fun l => (l.mesh.vertices.size, l.mesh.triangles.size)) = some (21, 24) := by
    decide +kernel
  rw [hloft] at hsizes
  have htip5 := (htip 5).mpr hclosed
  refine ⟨lofted, placed, tip?, blocks, rfl, hloft, htip5, hcontents,
    congrArg Prod.fst (Option.some.inj hsizes), congrArg Prod.snd (Option.some.inj hsizes),
    (hcontents.gap 2 rfl).1, ?_, ?_⟩
  · rw [hcontents.mem_rings, htip5]
    decide
  · rw [hwarnings]
    rfl

end LoftGraph
