import LoftGraph.Proofs.Mesh.Surface
import LoftGraph.Proofs.Number.Neutral

/-!
# Flat and smooth

A builder gives a smooth mesh, in which triangles share vertices, or a flat one, in which every
triangle is by itself. Both show the same triangles at the same places (`Mesh.FlatOf`).

* The flat mesh names its vertices one behind the other, so its triangles find the corner positions
  by threes, and their normals are those of the triangles they were made of
  (`areaNormals_unweld`).
* In the flat mesh one triangle alone adds to the normal of a vertex. Each round of adding reaches
  one corner of every triangle (`getElem?_scatter_consecutive`), so after three rounds each sum has
  one term (`toList_summedNormals_consecutive`), and the direction of a sum of one term is that of
  the term.
-/

namespace LoftGraph

namespace Mesh

variable {α : Type} [Scalar α]

/-! ## Sums in a mesh of triangles by themselves -/

section Sums

variable {vertices sums : Array (Point3 α)} {corner : Triangle → Int} {k n m : Nat}

theorem cornerIndex?_natCast {size i : Nat} (h : i < size) : cornerIndex? size i = some i :=
  cornerIndex?_of_lt (Int.natCast_nonneg i) (Int.ofNat_lt.mpr h)

/-- A round of adding reaches the entries of one corner each, and only once. -/
theorem getElem?_scatter_consecutive (hk : k < 3)
    (hcorner : ∀ j, corner (consecutive j) = (3 * j + k : Nat)) (hsize : sums.size = 3 * n)
    (hm : m ≤ n) (i : Nat) :
    (scatter vertices corner ((Array.range m).map consecutive) sums)[i]?
      = sums[i]?.map (fun s => if i % 3 = k ∧ i / 3 < m then
          s.add (areaNormal vertices (consecutive (i / 3))) else s) := by
  induction m with
  | zero =>
    rw [scatter, ← Array.foldl_toList]
    simp
  | succ m ih =>
    have hlast : (Array.range (m + 1)).map consecutive
        = (Array.range m).map consecutive ++ #[consecutive m] := by
      simp [Array.range_succ]
    have hround : scatter vertices corner ((Array.range (m + 1)).map consecutive) sums
        = addAt (scatter vertices corner ((Array.range m).map consecutive) sums)
          (3 * m + k : Nat) (areaNormal vertices (consecutive m)) := by
      rw [hlast, scatter_append, ← hcorner]
      rfl
    rw [hround, getElem?_addAt, size_scatter, hsize, cornerIndex?_natCast (by omega),
      ih (Nat.le_of_succ_le hm)]
    rcases eq_or_ne i (3 * m + k) with rfl | hother
    · have hrow : (3 * m + k) / 3 = m := by omega
      have hcolumn : (3 * m + k) % 3 = k := by omega
      rw [if_pos rfl, Option.map_map]
      refine congrArg (Option.map · _) (funext fun s => ?_)
      simp [hrow, hcolumn]
    · have hiff : i % 3 = k ∧ i / 3 < m + 1 ↔ i % 3 = k ∧ i / 3 < m := by omega
      rw [if_neg (by rw [Option.some.injEq]; exact hother.symm)]
      simp only [hiff]

/-- After three rounds every sum has one term. -/
theorem toList_summedNormals_consecutive (hsize : vertices.size = 3 * n) :
    (summedNormals vertices ((Array.range n).map consecutive)).toList
      = ((areaNormals vertices ((Array.range n).map consecutive)).toList.map
          (fun v => List.replicate 3 (Point3.zero.add v))).flatten := by
  have hcorners : (∀ j, (consecutive j).a = (3 * j + 0 : Nat)) ∧
      (∀ j, (consecutive j).b = (3 * j + 1 : Nat)) ∧ ∀ j, (consecutive j).c = (3 * j + 2 : Nat) :=
    ⟨fun j => by simp [consecutive], fun j => by simp [consecutive], fun j => by simp [consecutive]⟩
  have hzeros : (Array.replicate vertices.size (Point3.zero : Point3 α)).size = 3 * n := by
    rw [Array.size_replicate, hsize]
  refine List.ext_getElem? fun i => ?_
  rw [getElem?_flatten_of_length 3 (by decide) (by simp), Array.getElem?_toList,
    summedNormals,
    getElem?_scatter_consecutive (by decide) hcorners.2.2 (by simpa using hzeros) le_rfl,
    getElem?_scatter_consecutive (by decide) hcorners.2.1 (by simpa using hzeros) le_rfl,
    getElem?_scatter_consecutive (by decide) hcorners.1 hzeros le_rfl, areaNormals,
    Array.getElem?_replicate, hsize]
  rcases Nat.lt_or_ge i (3 * n) with hlt | hge
  · have hrow : i / 3 < n := by omega
    have hcolumn : i % 3 = 0 ∨ i % 3 = 1 ∨ i % 3 = 2 := by omega
    rcases hcolumn with h | h | h <;>
      simp [hlt, hrow, h]
  · simp [show ¬ i < 3 * n by omega, show ¬ i / 3 < n by omega]

end Sums

/-! ## Unwelding -/

theorem corners_consecutive (n : Nat) :
    ((List.range n).map consecutive).flatMap Triangle.corners
      = (List.range (3 * n)).map Int.ofNat := by
  induction n with
  | zero => rfl
  | succ n ih =>
    rw [List.range_succ, List.map_append, List.flatMap_append, ih, Nat.mul_add, List.range_add,
      List.map_append]
    simp [consecutive, Triangle.corners, List.range_succ]

section Unweld

variable {vertices : Array (Point3 α)} {triangles : Array Triangle}

theorem vertices_unweld : (unweld vertices triangles).vertices
    = (triangles.toList.map
        (fun t => t.corners.map (cornerPosition vertices))).flatten.toArray := by
  apply Array.ext'
  rw [unweld, Array.toList_flatMap, List.flatMap_def]

theorem triangles_unweld (vertices : Array (Point3 α)) (triangles : Array Triangle) :
    (unweld vertices triangles).triangles = (Array.range triangles.size).map consecutive := rfl

theorem toList_normals_unweld : (unweld vertices triangles).normals.toList
    = ((faceNormals vertices triangles).toList.map (List.replicate 3)).flatten := by
  rw [unweld, Array.toList_flatMap, List.flatMap_def]
  rfl

theorem within_unweld (vertices : Array (Point3 α)) (triangles : Array Triangle) :
    ∀ t ∈ (unweld vertices triangles).triangles,
      Within (unweld vertices triangles).vertices.size t :=
  (wellFormed_unweld vertices triangles).corners_lt

/-- The triangles of the flat mesh find the positions that they found before. -/
theorem atCorners?_unweld :
    atCorners? (unweld vertices triangles).vertices (unweld vertices triangles).triangles
      = some (triangles.toList.map (fun t => t.corners.map (cornerPosition vertices))) := by
  have hrows : ∀ row ∈ triangles.toList.map (fun t => t.corners.map (cornerPosition vertices)),
      row.length = 3 := by
    intro row hrow
    obtain ⟨t, -, rfl⟩ := List.mem_map.mp hrow
    rfl
  have h := atCorners?_consecutive hrows
  rwa [List.length_map, Array.length_toList, ← vertices_unweld] at h

/-- The normal of a triangle from the positions of its corners, not normalized. -/
def normalAt (corners : List (Point3 α)) : Point3 α :=
  let position k := corners.getD k Point3.zero
  ((position 1).sub (position 0)).cross ((position 2).sub (position 0))

theorem toList_areaNormals (entries : Array (Point3 α)) (ts : Array Triangle) :
    (areaNormals entries ts).toList
      = (ts.toList.map (fun t => t.corners.map (cornerPosition entries))).map normalAt := by
  rw [areaNormals, Array.toList_map, List.map_map]
  rfl

theorem areaNormals_unweld :
    areaNormals (unweld vertices triangles).vertices (unweld vertices triangles).triangles
      = areaNormals vertices triangles := by
  have hpositions := (atCorners?_vertices (within_unweld vertices triangles)).symm.trans
    atCorners?_unweld
  apply Array.ext'
  rw [toList_areaNormals, toList_areaNormals, Option.some.inj hpositions]

end Unweld

/-! ## One surface -/

/-- Does a mesh show, with every triangle by itself, what another one shows? -/
structure FlatOf (flat smooth : Mesh α) : Prop where
  triangleCount : flat.triangleCount = smooth.triangleCount
  positions : ∃ rows, atCorners? smooth.vertices smooth.triangles = some rows ∧
    atCorners? flat.vertices flat.triangles = some rows
  /-- The corners are the vertices, each of them once and in their order. -/
  corners : flat.triangles.toList.flatMap Triangle.corners
    = (List.range flat.vertexCount).map Int.ofNat
  vertexCount : flat.vertexCount = 3 * flat.triangleCount
  normals : atCorners? flat.normals flat.triangles
    = some ((faceNormals smooth.vertices smooth.triangles).toList.map (List.replicate 3))
  recomputed : List.Forall₂ Point3.Same (vertexNormals flat.vertices flat.triangles).toList
    flat.normals.toList

theorem flatOf_empty : (empty : Mesh α).FlatOf empty where
  triangleCount := rfl
  positions := ⟨[], rfl, rfl⟩
  corners := rfl
  vertexCount := rfl
  normals := by simp [atCorners?, faceNormals, areaNormals, empty]
  recomputed := .nil

section

variable [Scalar.Neutral α] {vertices : Array (Point3 α)} {triangles : Array Triangle}

/-- The normals recomputed from a flat mesh are those that it has. -/
theorem same_normals_unweld (hne : triangles ≠ #[]) :
    List.Forall₂ Point3.Same
      (vertexNormals (unweld vertices triangles).vertices
        (unweld vertices triangles).triangles).toList
      (unweld vertices triangles).normals.toList := by
  have hnonempty : ¬ (unweld vertices triangles).triangles.isEmpty = true := by
    simpa [triangles_unweld] using hne
  have hsums := toList_summedNormals_consecutive (size_vertices_unweld vertices triangles)
  rw [← triangles_unweld vertices, areaNormals_unweld] at hsums
  rw [vertexNormals, if_neg hnonempty, Array.toList_map, hsums, toList_normals_unweld,
    faceNormals, Array.toList_map]
  generalize (areaNormals vertices triangles).toList = vs
  induction vs with
  | nil => exact .nil
  | cons v rest ih =>
    have hsame := Point3.same_normalized v
    exact .cons hsame (.cons hsame (.cons hsame ih))

theorem flatOf_unweld (hwithin : ∀ t ∈ triangles, Within vertices.size t)
    (hne : triangles ≠ #[]) :
    (unweld vertices triangles).FlatOf (ofTriangles vertices triangles) where
  triangleCount := by simp [triangleCount, triangles_unweld, ofTriangles]
  positions := ⟨_, atCorners?_vertices hwithin, atCorners?_unweld⟩
  corners := by
    rw [triangles_unweld, Array.toList_map, Array.toList_range, corners_consecutive, vertexCount,
      size_vertices_unweld]
  vertexCount := by
    rw [vertexCount, size_vertices_unweld, triangleCount, triangles_unweld, Array.size_map,
      Array.size_range]
  normals := by
    have hrows : ∀ row ∈ (faceNormals vertices triangles).toList.map (List.replicate 3),
        row.length = 3 := by
      intro row hrow
      obtain ⟨n, -, rfl⟩ := List.mem_map.mp hrow
      exact List.length_replicate
    have h := atCorners?_consecutive hrows
    rwa [← toList_normals_unweld, Array.toArray_toList, List.length_map, Array.length_toList,
      faceNormals, areaNormals, Array.size_map, Array.size_map,
      ← triangles_unweld vertices] at h
  recomputed := same_normals_unweld hne

end

end Mesh

/-- **Flat and smooth are one surface**. A builder whose triangles name vertices that it has gives
both meshes. They have the triangles of the builder, in its order and with its corner positions; the
flat one uses each of its vertices once, shows at the three corners of every triangle the normal of
the triangle, and has the vertex normals that are recomputed from it (a zero is one under either
sign). Both are empty where there are no triangles. -/
theorem flat_mesh_shows_smooth_surface [Scalar α] [Scalar.Neutral α] (b : MeshBuilder α)
    (h : ∀ t ∈ b.triangles, Mesh.Within b.vertexCount t) :
    ∃ flat smooth : Mesh α, b.build? false = .ok flat ∧ b.build? true = .ok smooth ∧
      flat.FlatOf smooth ∧
      Mesh.atCorners? smooth.vertices smooth.triangles = Mesh.atCorners? b.vertices b.triangles ∧
      (flat = Mesh.empty ↔ b.triangles = #[]) ∧ (smooth = Mesh.empty ↔ b.triangles = #[]) := by
  have hsound : b.Sound True := fun t ht corner hc =>
    (h t (Array.mem_toList_iff.mp ht) corner hc).imp_right fun hlt _ => hlt
  refine ⟨_, _, hsound.build?_eq false, hsound.build?_eq true, ?_⟩
  rcases eq_or_ne b.triangles #[] with hempty | hne
  · have hbuild (smooth : Bool) : b.build smooth = Mesh.empty := by
      rw [MeshBuilder.build, hempty, if_pos (by simp)]
    rw [hbuild, hbuild, hempty]
    exact ⟨Mesh.flatOf_empty, rfl, by simp, by simp⟩
  · have hvertices : b.vertices ≠ #[] := by
      obtain ⟨t, ht⟩ := Array.exists_mem_of_ne_empty _ hne
      have hcorner := h t ht t.a (.head _)
      intro hnone
      simp [MeshBuilder.vertexCount, hnone] at hcorner
      omega
    have hstill : ¬ (b.vertices.isEmpty || b.triangles.isEmpty) = true := by
      simp [hvertices, hne]
    have hflat : b.build false = Mesh.unweld b.vertices b.triangles := by
      rw [MeshBuilder.build, if_neg hstill]
      rfl
    have hsmooth : b.build true = Mesh.ofTriangles b.vertices b.triangles := by
      rw [MeshBuilder.build, if_neg hstill]
      rfl
    rw [hflat, hsmooth]
    refine ⟨Mesh.flatOf_unweld h hne, rfl, ?_, ?_⟩
    · refine iff_of_false (fun hmesh => hne ?_) hne
      have hsize := congrArg Mesh.triangleCount hmesh
      simpa [Mesh.triangleCount, Mesh.triangles_unweld, Mesh.empty] using hsize
    · exact iff_of_false (fun hmesh => hne (congrArg Mesh.triangles hmesh)) hne

/-- Two triangles that share an edge, and one that is folded onto it. -/
def pleated : MeshBuilder Float :=
  ⟨#[⟨0, 0, 0⟩, ⟨1, 0, 0⟩, ⟨1, 1, 0⟩, ⟨0, 1, 1⟩], #[⟨0, 1, 2⟩, ⟨0, 2, 3⟩, ⟨2, 2, 0⟩]⟩

theorem pleated_mesh_shows_smooth_surface :
    (∀ t ∈ pleated.triangles, Mesh.Within pleated.vertexCount t) ∧
    ∃ flat smooth, pleated.build? false = .ok flat ∧ pleated.build? true = .ok smooth ∧
      flat.FlatOf smooth ∧ flat.vertexCount = 9 ∧ smooth.vertexCount = 4 := by
  have hwithin : ∀ t ∈ pleated.triangles, Mesh.Within pleated.vertexCount t := by decide
  obtain ⟨flat, smooth, hflat, hsmooth, hsurface, -⟩ :=
    flat_mesh_shows_smooth_surface pleated hwithin
  have hcount (smooth : Bool) : (pleated.build? smooth).toOption.map Mesh.vertexCount
      = some (if smooth then 4 else 9) := by
    cases smooth <;> decide +kernel
  have hnine := hcount false
  have hfour := hcount true
  rw [hflat] at hnine
  rw [hsmooth] at hfour
  exact ⟨hwithin, flat, smooth, hflat, hsmooth, hsurface, Option.some.inj hnine,
    Option.some.inj hfour⟩

end LoftGraph
