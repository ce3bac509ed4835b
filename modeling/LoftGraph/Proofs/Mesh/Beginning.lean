import LoftGraph.Proofs.Mesh.WellFormed
import Mathlib.Data.List.Basic

/-!
# The beginning of a mesh

A builder that goes on with new vertices and with triangles over these alone disturbs nothing of
what it has (`MeshBuilder.GoesOn`): the mesh so far is the beginning of the mesh in the end
(`MeshBuilder.GoesOn.begins_build`).

* With every triangle by itself, vertices and normals come triangle by triangle.
* The normal of a vertex is a sum over all triangles. Those there were add to the first vertices
  what they added before, and the new ones add to vertices behind them (`begins_addAt`,
  `begins_addAt_of_le`), in each of the three rounds of adding (`begins_scatter`).
-/

namespace LoftGraph

/-- An array has the entries of another first if it has these where the other has them. -/
theorem begins_iff {β : Type} {xs ys : Array β} :
    xs.toList <+: ys.toList ↔ ∀ i < xs.size, ys[i]? = xs[i]? := by
  rw [List.prefix_iff_getElem?]
  refine forall₂_congr fun i hi => ?_
  rw [Array.getElem?_toList, Array.getElem_toList, Array.getElem?_eq_getElem hi]

theorem size_le_of_begins {β : Type} {xs ys : Array β} (h : xs.toList <+: ys.toList) :
    xs.size ≤ ys.size := h.length_le

namespace Mesh

variable {α : Type}

/-- Is the mesh the beginning of another? -/
structure Begins (m n : Mesh α) : Prop where
  vertices : m.vertices.toList <+: n.vertices.toList
  triangles : m.triangles.toList <+: n.triangles.toList
  normals : m.normals.toList <+: n.normals.toList

theorem empty_begins (m : Mesh α) : (empty : Mesh α).Begins m :=
  ⟨List.nil_prefix, List.nil_prefix, List.nil_prefix⟩

/-- Are all corner numbers places among so many vertices? -/
def Within (size : Nat) (t : Triangle) : Prop := ∀ corner ∈ t.corners, 0 ≤ corner ∧ corner < size

/-- Are all corner numbers behind so many vertices? -/
def Behind (size : Nat) (t : Triangle) : Prop := ∀ corner ∈ t.corners, size ≤ corner

/-- One of the three corners of a triangle. -/
def IsCorner (corner : Triangle → Int) : Prop := ∀ t, corner t ∈ t.corners

variable [Scalar α]

section Sums

variable {sums sums' : Array (Point3 α)} {corner : Int} {v : Point3 α}

theorem getElem?_addAt (sums : Array (Point3 α)) (corner : Int) (v : Point3 α) (i : Nat) :
    (addAt sums corner v)[i]?
      = if cornerIndex? sums.size corner = some i then sums[i]?.map (fun s => s.add v)
        else sums[i]? := by
  unfold addAt
  cases cornerIndex? sums.size corner with
  | none => rfl
  | some j =>
    show (sums.modify j _)[i]? = _
    rw [Array.getElem?_modify]
    simp only [Option.some.injEq]

/-- What is added to one of the first entries is added alike. -/
theorem begins_addAt (h : sums.toList <+: sums'.toList) (hpos : 0 ≤ corner)
    (hlt : corner < sums.size) :
    (addAt sums corner v).toList <+: (addAt sums' corner v).toList := by
  have hsize := size_le_of_begins h
  refine begins_iff.mpr fun i hi => ?_
  rw [size_addAt] at hi
  rw [getElem?_addAt, getElem?_addAt, cornerIndex?_of_lt hpos hlt,
    cornerIndex?_of_lt hpos (by omega), begins_iff.mp h i hi]

/-- What is added behind the first entries leaves them as they are. -/
theorem begins_addAt_of_le (h : sums.toList <+: sums'.toList) (hle : sums.size ≤ corner) :
    sums.toList <+: (addAt sums' corner v).toList := by
  refine begins_iff.mpr fun i hi => ?_
  have hother : cornerIndex? sums'.size corner ≠ some i := by
    intro hcorner
    unfold cornerIndex? at hcorner
    rw [if_pos (by omega)] at hcorner
    split at hcorner
    · cases hcorner
      omega
    · cases hcorner
  rw [getElem?_addAt, if_neg hother, begins_iff.mp h i hi]

end Sums

section Positions

variable {vertices vertices' : Array (Point3 α)}

theorem cornerPosition_eq (h : vertices.toList <+: vertices'.toList) {corner : Int}
    (hpos : 0 ≤ corner) (hlt : corner < vertices.size) :
    cornerPosition vertices' corner = cornerPosition vertices corner := by
  have hsize := size_le_of_begins h
  have hplace : corner.toNat < vertices.size := by omega
  rw [cornerPosition, cornerPosition, cornerIndex?_of_lt hpos hlt,
    cornerIndex?_of_lt hpos (by omega)]
  simp only [Array.getD_eq_getD_getElem?, begins_iff.mp h _ hplace]

/-- A triangle over the first vertices has its normal whatever vertices come behind. -/
theorem areaNormal_eq (h : vertices.toList <+: vertices'.toList) {t : Triangle}
    (ht : Within vertices.size t) : areaNormal vertices' t = areaNormal vertices t := by
  have hcorner : ∀ corner ∈ t.corners,
      cornerPosition vertices' corner = cornerPosition vertices corner :=
    fun corner hc => cornerPosition_eq h (ht corner hc).1 (ht corner hc).2
  rw [areaNormal, areaNormal, hcorner t.a (.head _), hcorner t.b (.tail _ (.head _)),
    hcorner t.c (.tail _ (.tail _ (.head _)))]

variable {corner : Triangle → Int} {ts more : Array Triangle} {sums sums' : Array (Point3 α)}

theorem scatter_append (vertices : Array (Point3 α)) (corner : Triangle → Int)
    (ts more : Array Triangle) (sums : Array (Point3 α)) :
    scatter vertices corner (ts ++ more) sums
      = scatter vertices corner more (scatter vertices corner ts sums) := by
  rw [scatter, Array.foldl_append]
  rfl

/-- Triangles over the first vertices add to these what they add without the others. -/
theorem begins_scatter_of_within (h : vertices.toList <+: vertices'.toList)
    (hcorner : IsCorner corner) (hts : ∀ t ∈ ts.toList, Within vertices.size t)
    (hsize : sums.size = vertices.size) (hsums : sums.toList <+: sums'.toList) :
    (scatter vertices corner ts sums).toList <+: (scatter vertices' corner ts sums').toList := by
  rw [scatter, scatter, ← Array.foldl_toList, ← Array.foldl_toList]
  generalize ts.toList = ts at hts
  induction ts generalizing sums sums' with
  | nil => exact hsums
  | cons t rest ih =>
    obtain ⟨ht, hrest⟩ := List.forall_mem_cons.mp hts
    obtain ⟨hpos, hlt⟩ := ht _ (hcorner t)
    rw [List.foldl_cons, List.foldl_cons, areaNormal_eq h ht]
    refine ih ((size_addAt _ _ _).trans hsize) ?_ hrest
    exact begins_addAt hsums hpos (hsize ▸ hlt)

/-- Triangles behind the first vertices add nothing to these. -/
theorem begins_scatter_of_behind (hcorner : IsCorner corner)
    (hmore : ∀ t ∈ more.toList, Behind sums.size t) (hsums : sums.toList <+: sums'.toList) :
    sums.toList <+: (scatter vertices corner more sums').toList := by
  rw [scatter, ← Array.foldl_toList]
  generalize more.toList = more at hmore
  induction more generalizing sums' with
  | nil => exact hsums
  | cons t rest ih =>
    obtain ⟨ht, hrest⟩ := List.forall_mem_cons.mp hmore
    exact ih (begins_addAt_of_le hsums (ht _ (hcorner t))) hrest

/-- One round of adding. -/
theorem begins_scatter (h : vertices.toList <+: vertices'.toList) (hcorner : IsCorner corner)
    (hts : ∀ t ∈ ts.toList, Within vertices.size t)
    (hmore : ∀ t ∈ more.toList, Behind vertices.size t)
    (hsize : sums.size = vertices.size) (hsums : sums.toList <+: sums'.toList) :
    (scatter vertices corner ts sums).toList
      <+: (scatter vertices' corner (ts ++ more) sums').toList := by
  have hround : (scatter vertices corner ts sums).size = vertices.size :=
    (size_scatter _ _ _ _).trans hsize
  rw [scatter_append]
  exact begins_scatter_of_behind hcorner (hround ▸ hmore)
    (begins_scatter_of_within h hcorner hts hsize hsums)

/-- The sums for the first vertices do not change with vertices and triangles behind them. -/
theorem begins_summedNormals (h : vertices.toList <+: vertices'.toList)
    (hts : ∀ t ∈ ts.toList, Within vertices.size t)
    (hmore : ∀ t ∈ more.toList, Behind vertices.size t) :
    (summedNormals vertices ts).toList <+: (summedNormals vertices' (ts ++ more)).toList := by
  have hzeros : (Array.replicate vertices.size (Point3.zero : Point3 α)).toList
      <+: (Array.replicate vertices'.size Point3.zero).toList := by
    refine begins_iff.mpr fun i hi => ?_
    rw [Array.size_replicate] at hi
    rw [Array.getElem?_replicate, Array.getElem?_replicate, if_pos hi,
      if_pos (Nat.lt_of_lt_of_le hi (size_le_of_begins h))]
  have hcorners : IsCorner Triangle.a ∧ IsCorner Triangle.b ∧ IsCorner Triangle.c :=
    ⟨fun _ => .head _, fun _ => .tail _ (.head _), fun _ => .tail _ (.tail _ (.head _))⟩
  refine begins_scatter h hcorners.2.2 hts hmore (by simp) ?_
  refine begins_scatter h hcorners.2.1 hts hmore (by simp) ?_
  exact begins_scatter h hcorners.1 hts hmore (by simp) hzeros

/-- The mesh of shared vertices. -/
theorem begins_ofTriangles (h : vertices.toList <+: vertices'.toList) (hne : ts ≠ #[])
    (hts : ∀ t ∈ ts.toList, Within vertices.size t)
    (hmore : ∀ t ∈ more.toList, Behind vertices.size t) :
    (ofTriangles vertices ts).Begins (ofTriangles vertices' (ts ++ more)) := by
  have htriangles : ts.toList <+: (ts ++ more).toList := by
    rw [Array.toList_append]
    exact List.prefix_append _ _
  refine ⟨h, htriangles, ?_⟩
  show (vertexNormals vertices ts).toList <+: (vertexNormals vertices' (ts ++ more)).toList
  rw [vertexNormals, vertexNormals, if_neg (by simpa using hne), if_neg (by simp [hne]),
    Array.toList_map, Array.toList_map]
  exact (begins_summedNormals h hts hmore).map _

/-- The mesh in which every triangle is by itself. -/
theorem begins_unweld (h : vertices.toList <+: vertices'.toList)
    (hts : ∀ t ∈ ts.toList, Within vertices.size t) :
    (unweld vertices ts).Begins (unweld vertices' (ts ++ more)) := by
  have hvertices : ts.toList.flatMap (fun t => t.corners.map (cornerPosition vertices'))
      = ts.toList.flatMap (fun t => t.corners.map (cornerPosition vertices)) :=
    List.flatMap_congr fun t ht => List.map_congr_left fun corner hc =>
      cornerPosition_eq h (hts t ht corner hc).1 (hts t ht corner hc).2
  have hnormals : ts.toList.map (areaNormal vertices') = ts.toList.map (areaNormal vertices) :=
    List.map_congr_left fun t ht => areaNormal_eq h (hts t ht)
  refine ⟨?_, ?_, ?_⟩
  · simp only [unweld, Array.toList_flatMap, Array.toList_append, List.flatMap_append, hvertices]
    exact List.prefix_append _ _
  · simp only [unweld, Array.toList_map, Array.toList_range, Array.size_append, List.range_add,
      List.map_append]
    exact List.prefix_append _ _
  · simp only [unweld, faceNormals, areaNormals, Array.toList_flatMap, Array.toList_map,
      Array.toList_append, List.map_append, List.flatMap_append, hnormals]
    exact List.prefix_append _ _

end Positions

end Mesh

namespace MeshBuilder

variable {α : Type} {b b' : MeshBuilder α}

/-- Has a builder got vertices and triangles, these over the new vertices alone? -/
structure GoesOn (b b' : MeshBuilder α) : Prop where
  vertices : b.vertices.toList <+: b'.vertices.toList
  triangles : ∃ more : Array Triangle, b'.triangles = b.triangles ++ more ∧
    ∀ t ∈ more.toList, Mesh.Behind b.vertexCount t

/-- What a builder has so far makes the beginning of what it has in the end. -/
theorem GoesOn.begins_build [Scalar α] (h : b.GoesOn b') (hsound : b.Sound True) (smooth : Bool) :
    (b.build smooth).Begins (b'.build smooth) := by
  obtain ⟨more, htriangles, hmore⟩ := h.triangles
  have hwithin : ∀ t ∈ b.triangles.toList, Mesh.Within b.vertices.size t :=
    fun t ht corner hc => (hsound t ht corner hc).imp_right fun hlt => hlt trivial
  rw [build]
  split
  · exact Mesh.empty_begins _
  · next hnonempty =>
    simp only [Bool.or_eq_true, Array.isEmpty_iff, not_or] at hnonempty
    obtain ⟨hvertices, hne⟩ := hnonempty
    have hvertices' : b'.vertices ≠ #[] := Array.size_pos_iff.mp
      (Nat.lt_of_lt_of_le (Array.size_pos_iff.mpr hvertices) (size_le_of_begins h.vertices))
    have hstill : ¬ (b'.vertices.isEmpty || (b.triangles ++ more).isEmpty) = true := by
      simp [hvertices', hne]
    rw [build, htriangles, if_neg hstill]
    split
    · exact Mesh.begins_ofTriangles h.vertices hne hwithin hmore
    · exact Mesh.begins_unweld h.vertices hwithin

end MeshBuilder

end LoftGraph
