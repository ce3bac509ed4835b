import LoftGraph.Proofs.Geometry.Stitching
import LoftGraph.Proofs.Traversal

/-!
# Lofts are oriented manifolds

* Taper, twist and lift move the vertices of a section and keep their count
  (`CrossSection.length_ring`), so which rings are stitched can be read off the sections themselves
  (`count_eq_ringCount`). Whether the tip is closed depends on the section as it is placed.
* `BoundaryEdge` describes the boundary of a loft by its sections: the first and the last ring of
  each maximal run of stitched sections, in every tube, and what the fan makes of the last outer
  ring.
* A smooth mesh has the triangles of the builder, and these are the triangles of a skeleton
  (`assemble_spec`). `loft_is_oriented_manifold` reads its claims off the skeleton.
-/

namespace LoftGraph

open Loft

namespace CrossSection

variable {α : Type} [Circular α] {height taper twist : α}

theorem length_taperAt {p q : Polygon α} {t : α} (h : taperAt p t taper = .ok q) :
    q.length = p.length := by
  unfold taperAt at h
  split at h
  · cases h
    rfl
  · cases hfactor : Scalar.checked (1 - taper * t) with
    | error fault =>
      rw [hfactor] at h
      cases h
    | ok factor =>
      rw [hfactor] at h
      cases h
      exact p.length_scaleAboutCentroid factor

theorem length_twistAt {p q : Polygon α} {t : α} (h : twistAt p t twist = .ok q) :
    q.length = p.length := by
  unfold twistAt at h
  split at h
  · cases h
    rfl
  · obtain ⟨⟨c, s⟩, -, h⟩ := bind_eq_ok_iff.mp h
    cases h
    exact p.length_turn c s Point.origin

theorem length_transform {p q : Polygon α} {t : α} (h : transform p t taper twist = .ok q) :
    q.length = p.length := by
  unfold transform at h
  split at h
  · cases h
    rfl
  · obtain ⟨tapered, htaper, h⟩ := bind_eq_ok_iff.mp h
    exact (length_twistAt h).trans (length_taperAt htaper)

/-- Placing a section keeps the vertices of its rings apart from where they are. -/
theorem length_ring {s : CrossSection α} {p : PlacedSection α} (t : Tube)
    (h : s.place height taper twist = .ok p) : (t.ring p).length = (t.outline s).length := by
  obtain ⟨y, -, h⟩ := bind_eq_ok_iff.mp h
  obtain ⟨outer, houter, h⟩ := bind_eq_ok_iff.mp h
  obtain ⟨holes, hholes, h⟩ := bind_eq_ok_iff.mp h
  obtain ⟨y, -, h⟩ := bind_eq_ok_iff.mp h
  cases h
  cases t with
  | outer => exact (length_lift _ _).trans (length_transform houter)
  | hole slot =>
    have hcounts : s.holes.map List.length
        = (holes.map (fun q => Loft.lift q y)).map List.length := by
      rw [List.map_map]
      refine map_eq_map_of_mapM hholes fun q q' hq => ?_
      exact (length_transform hq).symm.trans (length_lift q' y).symm
    have hslot := congrArg (fun counts : List Nat => counts[slot]?.getD 0) hcounts
    simp only [List.getElem?_map (f := List.length)] at hslot
    rw [Tube.ring, Tube.outline, ← Option.getD_map List.length, ← Option.getD_map List.length]
    exact hslot.symm

end CrossSection

namespace Loft

variable {α : Type}

/-- How many vertices the ring of a tube has in a section; none where there is no section. -/
def Tube.count (t : Tube) (sections : List (CrossSection α)) (i : Nat) : Nat :=
  (sections[i]?.map (fun s => (t.outline s).length)).getD 0

variable [Circular α] {sections : List (CrossSection α)} {settings : LoftSettings α}
  {placed : List (PlacedSection α)}

/-- A section placed in space, as the settings say. -/
def placeBy (settings : LoftSettings α) (s : CrossSection α) : Except Fault (PlacedSection α) :=
  s.place settings.height settings.taper settings.twist

/-- Is the outer ring of this section closed by a fan? -/
def ClosedTip (sections : List (CrossSection α)) (settings : LoftSettings α) (i : Nat) : Prop :=
  settings.closeTip = true ∧ sections.length = i + 1 ∧
    ∃ s p, sections[i]? = some s ∧ placeBy settings s = .ok p ∧ hasCollapsed p = true

/-- Is the ring stitched to a neighbour or closed by the fan? -/
def Needed (sections : List (CrossSection α)) (settings : LoftSettings α) (t : Tube) (i : Nat) :
    Prop :=
  Stitched (t.count sections) i ∨ StitchedBelow (t.count sections) i ∨
    (t = .outer ∧ ClosedTip sections settings i)

theorem count_eq_ringCount (h : sections.mapM (placeBy settings) = .ok placed) (t : Tube) :
    t.count sections = ringCount (t.rings placed) := by
  have hcounts : sections.map (fun s => (t.outline s).length)
      = (t.rings placed).map List.length := by
    rw [Tube.rings, List.map_map]
    exact map_eq_map_of_mapM h fun s p hplace => (CrossSection.length_ring t hplace).symm
  funext i
  rw [Tube.count, ringCount, ← List.getElem?_map, hcounts, List.getElem?_map,
    List.getD_eq_getElem?_getD]
  exact Option.getD_map List.length [] _

theorem closedTip_iff (h : sections.mapM (placeBy settings) = .ok placed) {i : Nat} :
    ClosedTip sections settings i ↔ tip? placed settings.closeTip = some i := by
  rw [tip?_eq_some_iff, ClosedTip, length_of_mapM h]
  simp only [getElem?_eq_some_iff_of_mapM h]
  refine and_congr_right fun _ => and_congr_right fun _ => ?_
  constructor
  · rintro ⟨s, p, hs, hplace, hcollapsed⟩
    exact ⟨p, ⟨s, hs, hplace⟩, hcollapsed⟩
  · rintro ⟨p, ⟨s, hs, hplace⟩, hcollapsed⟩
    exact ⟨s, p, hs, hplace, hcollapsed⟩

/-- A loft places its sections, if they can be placed, and assembles them. -/
theorem loft_eq_map : loft sections settings
    = (sections.mapM (placeBy settings)).map (fun placed =>
        ⟨(assemble placed settings.closeTip).1.build settings.smooth,
          (assemble placed settings.closeTip).2⟩) := by
  unfold loft
  cases hsections : sections.isEmpty with
  | true =>
    rw [List.isEmpty_iff.mp hsections]
    cases settings.closeTip <;> rfl
  | false =>
    show (sections.mapM (placeBy settings) >>= _) = _
    cases sections.mapM (placeBy settings) <;> rfl

/-- The placed sections of a loft, and the builder of its mesh. -/
theorem exists_assemble {lofted : Lofted α} (h : loft sections settings = .ok lofted) :
    ∃ placed, sections.mapM (placeBy settings) = .ok placed ∧
      lofted = ⟨(assemble placed settings.closeTip).1.build settings.smooth,
        (assemble placed settings.closeTip).2⟩ := by
  rw [loft_eq_map] at h
  obtain ⟨placed, hplaced, rfl⟩ := map_eq_ok_iff.mp h
  exact ⟨placed, hplaced, rfl⟩

/-- The placed sections of a loft. -/
theorem exists_placed {lofted : Lofted α} (h : loft sections settings = .ok lofted) :
    ∃ placed, sections.mapM (placeBy settings) = .ok placed ∧
      lofted.mesh = (assemble placed settings.closeTip).1.build settings.smooth := by
  obtain ⟨placed, hplaced, rfl⟩ := exists_assemble h
  exact ⟨placed, hplaced, rfl⟩

/-! ## The finished mesh -/

/-- An edge from one place of a ring to the next, the ring's block starting there. -/
def RingEdge (start n : Nat) (a b : Int) : Prop :=
  ∃ k < n, a = start + k ∧ b = start + ((k + 1) % n : Nat)

/-- An edge of a ring as the wall below the ring has it; the wall above has it the other way
round. -/
def Tube.Rim (t : Tube) (start n : Nat) (a b : Int) : Prop :=
  match t with
  | .outer => RingEdge start n a b
  | .hole _ => RingEdge start n b a

theorem rim_iff {s : Skeleton} (ν : Numbering s) (t : Tube) (i : Nat) {a b : Int} :
    t.Rim (ν.start t i) (s.count t i) a b ↔
      ∃ k k', Next (s.count t i) k k' ∧
        (ν.number (upperRim t i k k').1, ν.number (upperRim t i k k').2) = (a, b) := by
  have hring : ∀ {a b}, RingEdge (ν.start t i) (s.count t i) a b ↔ ∃ k k',
      Next (s.count t i) k k' ∧ (ν.number (.on t i k), ν.number (.on t i k')) = (a, b) := by
    intro a b
    constructor
    · rintro ⟨k, hk, rfl, rfl⟩
      exact ⟨k, _, next_succ_mod hk, rfl⟩
    · rintro ⟨k, k', hk, h⟩
      obtain ⟨hlt, rfl⟩ := next_iff.mp hk
      cases h
      exact ⟨k, hlt, rfl, rfl⟩
  cases t with
  | outer => exact hring
  | hole slot =>
    refine hring.trans (exists_congr fun k => exists_congr fun k' => and_congr_right fun _ => ?_)
    simp only [Prod.mk.injEq, upperRim, lowerRim, Prod.swap_prod_mk]
    exact and_comm

/-- The directed edges that the boundary of a loft should have, with the rings' blocks starting
there. -/
inductive BoundaryEdge (sections : List (CrossSection α)) (settings : LoftSettings α)
    (start : Tube → Nat → Nat) (a b : Int) : Prop where
  /-- The first ring of a maximal run of stitched sections. -/
  | first {t : Tube} {i : Nat} (hstitched : Stitched (t.count sections) i)
      (hbelow : ¬ StitchedBelow (t.count sections) i)
      (hrim : t.Rim (start t i) (t.count sections i) b a) :
      BoundaryEdge sections settings start a b
  /-- The last ring of a maximal run, unless the fan closes it. -/
  | last {t : Tube} {i : Nat} (hbelow : StitchedBelow (t.count sections) i)
      (hstitched : ¬ Stitched (t.count sections) i)
      (htip : ¬ (t = .outer ∧ ClosedTip sections settings i))
      (hrim : t.Rim (start t i) (t.count sections i) a b) : BoundaryEdge sections settings start a b
  /-- The closed tip, if nothing is stitched to it. -/
  | tip {i : Nat} (htip : ClosedTip sections settings i)
      (hbelow : ¬ StitchedBelow (Tube.outer.count sections) i)
      (hrim : Tube.outer.Rim (start .outer i) (Tube.outer.count sections i) b a) :
      BoundaryEdge sections settings start a b

theorem triangles_build {α : Type} [Scalar α] {b : MeshBuilder α}
    (h : b.vertices = #[] → b.triangles = #[]) :
    (b.build true).triangles = b.triangles := by
  unfold MeshBuilder.build
  split
  · next hempty =>
    rcases Bool.or_eq_true_iff.mp hempty with hempty | hempty
    · exact (h (Array.isEmpty_iff.mp hempty)).symm
    · exact (Array.isEmpty_iff.mp hempty).symm
  · rfl

theorem vertices_build {α : Type} [Scalar α] {b : MeshBuilder α} (h : b.vertices ≠ #[])
    (h' : b.triangles ≠ #[]) :
    (b.build true).vertices = b.vertices := by
  unfold MeshBuilder.build
  rw [if_neg (by simp [h, h'])]
  rfl

theorem boundary_iff_boundaryEdge {s : Skeleton} (ν : Numbering s)
    (hcount : ∀ t, t.count sections = s.count t)
    (htip : ∀ i, ClosedTip sections settings i ↔ s.tip? = some i) {a b : Int} :
    (∃ e, s.Boundary e ∧ (ν.number e.1, ν.number e.2) = (a, b)) ↔
      BoundaryEdge sections settings ν.start a b := by
  have hlower : ∀ {t i k k'}, Next (s.count t i) k k' →
      (ν.number (lowerRim t i k k').1, ν.number (lowerRim t i k k').2) = (a, b) →
        t.Rim (ν.start t i) (t.count sections i) b a := by
    intro t i k k' hk h
    cases h
    rw [hcount]
    exact (rim_iff ν t i).mpr ⟨k, k', hk, rfl⟩
  constructor
  · rintro ⟨e, hboundary, h⟩
    cases hboundary with
    | first hstitched hbelow hk =>
      refine .first ?_ ?_ (hlower hk h) <;> rwa [hcount]
    | @last t i k k' hbelow hstitched hopen hk =>
      refine .last (t := t) (i := i) ?_ ?_ ?_ ?_
      · rwa [hcount]
      · rwa [hcount]
      · rwa [htip]
      · rw [hcount]
        exact (rim_iff ν t i).mpr ⟨k, k', hk, h⟩
    | tip hclosed hbelow hk =>
      refine .tip ((htip _).mpr hclosed) ?_ (hlower hk h)
      rwa [hcount]
  · rintro (⟨hstitched, hbelow, hrim⟩ | ⟨hbelow, hstitched, hopen, hrim⟩ | ⟨hclosed, hbelow, hrim⟩)
    · rw [hcount] at hstitched hbelow hrim
      obtain ⟨k, k', hk, h⟩ := (rim_iff ν _ _).mp hrim
      cases h
      exact ⟨_, .first hstitched hbelow hk, rfl⟩
    · rw [hcount] at hstitched hbelow hrim
      rw [htip] at hopen
      obtain ⟨k, k', hk, h⟩ := (rim_iff ν _ _).mp hrim
      exact ⟨_, .last hbelow hstitched hopen hk, h⟩
    · rw [hcount] at hbelow hrim
      obtain ⟨k, k', hk, h⟩ := (rim_iff ν _ _).mp hrim
      cases h
      exact ⟨_, .tip ((htip _).mp hclosed) hbelow hk, rfl⟩

end Loft

/-- **A smooth loft is an oriented manifold with the boundary it should have.** If every ring that
is stitched or closed by the fan has three vertices, each such ring has one block of vertices of its
own; every directed edge is in one triangle at most; and the directed edges whose reverse is in no
triangle are those of the first and the last ring of each maximal run of stitched sections, for the
outer boundary and for each hole slot, where the fan takes the last ring of the outer boundary away
or leaves it as the only one. -/
theorem loft_is_oriented_manifold {α : Type} [Circular α] {sections : List (CrossSection α)}
    {settings : LoftSettings α} {lofted : Lofted α} (hloft : loft sections settings = .ok lofted)
    (hsmooth : settings.smooth = true)
    (hthree : ∀ t i, Needed sections settings t i → 3 ≤ t.count sections i) :
    let edges := lofted.mesh.triangles.toList.flatMap Triangle.edges
    ∃ start : Tube → Nat → Nat,
      (∀ t i s p, Needed sections settings t i → sections[i]? = some s →
        placeBy settings s = .ok p → ∀ k < t.count sections i,
          lofted.mesh.vertices[start t i + k]? = (t.ring p)[k]?) ∧
      (∀ t i t' i', Needed sections settings t i → Needed sections settings t' i' →
        (t, i) ≠ (t', i') → start t i + t.count sections i ≤ start t' i' ∨
          start t' i' + t'.count sections i' ≤ start t i) ∧
      edges.Nodup ∧
      ∀ a b, ((a, b) ∈ edges ∧ (b, a) ∉ edges) ↔ BoundaryEdge sections settings start a b := by
  intro edges
  obtain ⟨placed, hplaced, hmesh⟩ := exists_placed hloft
  rw [hsmooth] at hmesh
  have hcount := count_eq_ringCount hplaced
  have hwalls : ∀ {t i}, Stitched (ringCount (Tube.rings t placed)) i →
      3 ≤ ringCount (Tube.rings t placed) i := by
    intro t i h
    rw [← hcount] at h ⊢
    exact hthree t i (.inl h)
  have htip : ∀ {i}, tip? placed settings.closeTip = some i →
      3 ≤ ringCount (Tube.outer.rings placed) i := by
    intro i h
    rw [← hcount]
    exact hthree .outer i (.inr (.inr ⟨rfl, (closedTip_iff hplaced).mpr h⟩))
  obtain ⟨ν, htriangles, hblocks⟩ := assemble_spec placed settings.closeTip hwalls htip
  have hneeded : ∀ {t i}, Needed sections settings t i →
      (skeleton placed settings.closeTip hwalls htip).Used t i := by
    intro t i h
    rw [Needed, hcount, closedTip_iff hplaced] at h
    exact h
  have hnone : (assemble placed settings.closeTip).1.triangles = #[] ↔ ν.triangles = [] := by
    rw [← htriangles, Array.toList_eq_nil_iff]
  have hempty : (assemble placed settings.closeTip).1.vertices = #[] →
      (assemble placed settings.closeTip).1.triangles = #[] := by
    intro h
    refine hnone.mpr (Numbering.triangles_eq_nil_iff.mpr fun t i hused => ?_)
    have hle := (hblocks hused).le_vertexCount
    have hcount : 3 ≤ ((t.rings placed).getD i []).length := Skeleton.three_le_of_used hused
    rw [MeshBuilder.vertexCount, h, Array.size_empty] at hle
    omega
  have hedges : edges = ν.triangles.flatMap Triangle.edges := by
    rw [← htriangles, ← triangles_build hempty, ← hmesh]
  refine ⟨ν.start, ?_, ?_, ?_, fun a b => ?_⟩
  · intro t i s p hneed hs hplace k hk
    have hring : (t.rings placed).getD i [] = t.ring p := by
      rw [Tube.getD_rings, (getElem?_eq_some_iff_of_mapM hplaced).mpr ⟨s, hs, hplace⟩]
      rfl
    have htriangles_ne : (assemble placed settings.closeTip).1.triangles ≠ #[] :=
      fun h => Numbering.triangles_eq_nil_iff.mp (hnone.mp h) t i (hneeded hneed)
    have hblock := hblocks (hneeded hneed)
    rw [hmesh, vertices_build (mt hempty htriangles_ne) htriangles_ne,
      hblock.getElem?_eq k (by rwa [hcount, ringCount] at hk), hring]
  · intro t i t' i' hneed hneed' hne
    rw [hcount, hcount]
    exact ν.disjoint (hneeded hneed) (hneeded hneed') hne
  · rw [hedges]
    exact Numbering.nodup_edges
  · rw [hedges, Numbering.boundary_iff]
    exact boundary_iff_boundaryEdge ν hcount fun i => closedTip_iff hplaced

/-- Two triangles with a triangular hole, and above them one that has collapsed. -/
def cappedStack : List (CrossSection Float) :=
  let outer : Polygon Float := [⟨0, 0⟩, ⟨4, 0⟩, ⟨0, 4⟩]
  let hole : Polygon Float := [⟨1, 1⟩, ⟨2, 1⟩, ⟨1, 2⟩]
  [⟨outer, [hole], 0⟩, ⟨outer, [hole], 0.5⟩, ⟨[⟨1, 1⟩, ⟨1, 1⟩, ⟨1, 1⟩], [], 1⟩]

def cappedSettings : LoftSettings Float := ⟨10, 0, 0, true, true⟩

theorem capped_stack_is_oriented_manifold :
    ∃ (lofted : Lofted Float) (start : Tube → Nat → Nat),
      loft cappedStack cappedSettings = .ok lofted ∧
      (∀ t i, Needed cappedStack cappedSettings t i → 3 ≤ t.count cappedStack i) ∧
      Stitched (Tube.outer.count cappedStack) 1 ∧
      Stitched ((Tube.hole 0).count cappedStack) 0 ∧
      ClosedTip cappedStack cappedSettings 2 ∧
      let edges := lofted.mesh.triangles.toList.flatMap Triangle.edges
      edges.length = 63 ∧ edges.Nodup ∧
        ∀ a b, ((a, b) ∈ edges ∧ (b, a) ∉ edges) ↔
          BoundaryEdge cappedStack cappedSettings start a b := by
  have hcount : ∀ (t : Tube) i, t.count cappedStack i = 0 ∨ t.count cappedStack i = 3 := by
    intro t i
    match t, i with
    | .outer, 0 | .outer, 1 | .outer, 2 => exact .inr rfl
    | .hole 0, 0 | .hole 0, 1 => exact .inr rfl
    | .hole (_ + 1), 0 | .hole (_ + 1), 1 => exact .inl rfl
    | .hole 0, 2 | .hole (_ + 1), 2 => exact .inl rfl
    | .outer, _ + 3 | .hole _, _ + 3 => exact .inl rfl
  have hthree : ∀ t i, Needed cappedStack cappedSettings t i → 3 ≤ t.count cappedStack i := by
    intro t i h
    have hne : t.count cappedStack i ≠ 0 := by
      rcases h with h | h | ⟨rfl, -, hlength, -⟩
      · exact h.1
      · cases i with
        | zero => exact h.elim
        | succ i => exact h.2.symm ▸ h.1
      · cases hlength
        exact Nat.succ_ne_zero 2
    have hcases := hcount t i
    omega
  have hclosed : ClosedTip cappedStack cappedSettings 2 :=
    ⟨rfl, rfl, _, _, rfl, rfl, by decide +kernel⟩
  have hloft : ∃ lofted, loft cappedStack cappedSettings = .ok lofted := ⟨_, rfl⟩
  obtain ⟨lofted, hloft⟩ := hloft
  obtain ⟨start, -, -, hnodup, hboundary⟩ := loft_is_oriented_manifold hloft rfl hthree
  have hlength : (lofted.mesh.triangles.toList.flatMap Triangle.edges).length = 63 := by
    have h : (loft cappedStack cappedSettings).toOption.map
        (fun l => (l.mesh.triangles.toList.flatMap Triangle.edges).length) = some 63 := by
      decide +kernel
    rw [hloft] at h
    exact Option.some.inj h
  exact ⟨lofted, start, hloft, hthree, by decide, by decide, hclosed, hlength, hnodup, hboundary⟩

end LoftGraph
