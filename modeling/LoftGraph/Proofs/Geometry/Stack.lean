import LoftGraph.Proofs.Geometry.Produced

/-!
# Rings one above the other

The mesh of a spine has the rings of its points one behind the other, and a wall between every two
rings that follow each other (`Spine.toList_stitch`). An edge of a wall is met by its reverse in the
same wall, or it is on a rim and met in the wall beyond; only the first and the last ring have no
wall beyond (`Spine.exists_reverse`). The mesh comes about unless a ring is too large to be held
(`Spine.mesh_eq_error_iff`).
-/

namespace LoftGraph

open Loft

namespace Spine

/-! ## Stitching -/

section Stitch

variable {α : Type} {n : Nat} {rings : List (List (Point3 α))}

/-- The wall between a ring and the next one. -/
def wallAbove (n i : Nat) : List Triangle :=
  MeshBuilder.wall (i * n : Nat) ((i + 1) * n : Nat) n false

theorem toList_stitchAbove {b : MeshBuilder α} {i : Nat} (hrings : ∀ r ∈ rings, r.length = n)
    (hcount : b.vertexCount = (i + 1) * n) :
    (stitchAbove n (i * n) rings b).vertices.toList = b.vertices.toList ++ rings.flatten ∧
      (stitchAbove n (i * n) rings b).triangles.toList
        = b.triangles.toList ++ (List.range' i rings.length).flatMap (wallAbove n) := by
  induction rings generalizing b i with
  | nil => simp [stitchAbove]
  | cons r rest ih =>
    obtain ⟨hr, hrest⟩ := List.forall_mem_cons.mp hrings
    have hnext : ((b.addVertices r).connectRings (i * n : Nat) ((i + 1) * n : Nat) n
        false).vertexCount = (i + 1 + 1) * n := by
      rw [MeshBuilder.connectRings, MeshBuilder.vertexCount_addTriangles,
        MeshBuilder.vertexCount_addVertices, hcount, hr, ← Nat.succ_mul]
    obtain ⟨hvertices, htriangles⟩ := ih hrest hnext
    rw [stitchAbove, hcount, hvertices, htriangles, MeshBuilder.connectRings,
      MeshBuilder.toList_addTriangles, List.length_cons, List.range'_succ, List.flatMap_cons,
      List.flatten_cons, List.append_assoc]
    refine ⟨?_, rfl⟩
    show (b.addVertices r).vertices.toList ++ rest.flatten = _
    rw [MeshBuilder.toList_addVertices, List.append_assoc]

/-- The vertices are those of the rings, and there is a wall above every ring but the last. -/
theorem toList_stitch (hrings : ∀ r ∈ rings, r.length = n) :
    (stitch n rings).vertices.toList = rings.flatten ∧
      (stitch n rings).triangles.toList
        = (List.range (rings.length - 1)).flatMap (wallAbove n) := by
  cases rings with
  | nil => exact ⟨rfl, rfl⟩
  | cons r rest =>
    obtain ⟨hr, hrest⟩ := List.forall_mem_cons.mp hrings
    have hcount : (MeshBuilder.empty.addVertices r).vertexCount = (0 + 1) * n := by
      rw [MeshBuilder.vertexCount_addVertices, hr]
      simp [MeshBuilder.vertexCount, MeshBuilder.empty]
    obtain ⟨hvertices, htriangles⟩ := toList_stitchAbove hrest hcount
    rw [Nat.zero_mul] at hvertices htriangles
    rw [stitch, hvertices, htriangles, MeshBuilder.toList_addVertices, List.range_eq_range']
    exact ⟨rfl, rfl⟩

end Stitch

/-! ## Walls -/

/-- Is a corner number on a ring of so many vertices? -/
def OnRing (n i : Nat) (corner : Int) : Prop := ∃ k < n, corner = (i * n + k : Nat)

/-- The number of a spot when the rings stand one behind the other. -/
def place (n : Nat) : Spot → Int
  | .on _ i k => (i * n + k : Nat)
  | .apex => 0

section Walls

variable {n i k k' : Nat} {T : Triangle} {e : Int × Int}

theorem edges_quad (n i k k' : Nat) :
    (MeshBuilder.quad (i * n : Nat) ((i + 1) * n : Nat) false k k').flatMap Triangle.edges
      = (quadEdges .outer i k k').map (Prod.map (place n) (place n)) := by
  simp [MeshBuilder.quad, Triangle.edges, quadEdges, place]

/-- The edges of a wall are those of its quads. -/
theorem mem_edges_wallAbove : (∃ T ∈ wallAbove n i, e ∈ T.edges) ↔
    ∃ k k' f, Next n k k' ∧ f ∈ quadEdges .outer i k k' ∧ Prod.map (place n) (place n) f = e := by
  simp only [wallAbove, MeshBuilder.wall, List.mem_flatMap, List.mem_range]
  constructor
  · rintro ⟨T, ⟨k, hk, hT⟩, he⟩
    have hmem := List.mem_flatMap.mpr ⟨T, hT, he⟩
    rw [edges_quad] at hmem
    obtain ⟨f, hf, rfl⟩ := List.mem_map.mp hmem
    exact ⟨k, _, f, next_succ_mod hk, hf, rfl⟩
  · rintro ⟨k, k', f, hnext, hf, rfl⟩
    obtain ⟨hk, rfl⟩ := next_iff.mp hnext
    have hmem := List.mem_map_of_mem (f := Prod.map (place n) (place n)) hf
    rw [← edges_quad] at hmem
    obtain ⟨T, hT, he⟩ := List.mem_flatMap.mp hmem
    exact ⟨T, ⟨k, hk, hT⟩, he⟩

theorem onRing_lowerRim (h : Next n k k') :
    OnRing n i (place n (lowerRim .outer i k k').1) ∧
      OnRing n i (place n (lowerRim .outer i k k').2) :=
  ⟨⟨k', h.right_lt, rfl⟩, k, h.1, rfl⟩

/-- An edge of the walls between so many rings is met by its reverse, unless it is on the first or
on the last ring. -/
theorem exists_reverse {height : Nat} (hi : i < height) (hT : T ∈ wallAbove n i)
    (he : e ∈ T.edges) :
    (∃ j < height, ∃ T' ∈ wallAbove n j, e.swap ∈ T'.edges) ∨
      (OnRing n 0 e.1 ∧ OnRing n 0 e.2) ∨ (OnRing n height e.1 ∧ OnRing n height e.2) := by
  obtain ⟨k, k', f, hnext, hf, rfl⟩ := mem_edges_wallAbove.mp ⟨T, hT, he⟩
  have hswap : (Prod.map (place n) (place n) f).swap = Prod.map (place n) (place n) f.swap := rfl
  rw [hswap]
  rcases rim_or_inner hnext hf with rfl | rfl | ⟨m, m', hm, hreverse⟩
  · cases i with
    | zero => exact .inr (.inl (onRing_lowerRim hnext))
    | succ i =>
      exact .inl ⟨i, by omega, mem_edges_wallAbove.mpr
        ⟨k, k', _, hnext, upperRim_mem_quadEdges, rfl⟩⟩
  · rcases Nat.lt_or_ge (i + 1) height with hlt | hge
    · exact .inl ⟨i + 1, hlt, mem_edges_wallAbove.mpr
        ⟨k, k', _, hnext, lowerRim_mem_quadEdges, rfl⟩⟩
    · obtain rfl : height = i + 1 := by omega
      exact .inr (.inr (onRing_lowerRim hnext).symm)
  · exact .inl ⟨i, hi, mem_edges_wallAbove.mpr ⟨m, m', _, hm, hreverse, rfl⟩⟩

/-- A triangle of a wall joins its two rings. -/
theorem corners_wallAbove (hT : T ∈ wallAbove n i) :
    (∃ corner ∈ T.corners, OnRing n i corner) ∧ (∃ corner ∈ T.corners, OnRing n (i + 1) corner) ∧
      ∀ corner ∈ T.corners, OnRing n i corner ∨ OnRing n (i + 1) corner := by
  obtain ⟨k, hk, hT⟩ := List.mem_flatMap.mp hT
  have hlt := List.mem_range.mp hk
  have hplace : ∀ m, (m = k ∨ m = (k + 1) % n) → m < n := by
    rintro m (rfl | rfl)
    · exact hlt
    · exact Nat.mod_lt _ (Nat.zero_lt_of_lt hlt)
  obtain ⟨⟨m, hm, hlower⟩, ⟨m', hm', hupper⟩, hall⟩ := MeshBuilder.corners_of_mem_quad hT
  refine ⟨⟨_, hlower, m, hplace m hm, rfl⟩, ⟨_, hupper, m', hplace m' hm', rfl⟩, ?_⟩
  intro corner hcorner
  obtain ⟨m, hm, rfl | rfl⟩ := hall corner hcorner
  · exact .inl ⟨m, hplace m hm, rfl⟩
  · exact .inr ⟨m, hplace m hm, rfl⟩

end Walls

/-! ## The mesh of a spine -/

section Mesh

variable {α : Type} [Circular α] {points : List (SpinePoint α)} {n : Nat} {smooth : Bool}

/-- Does a mesh have the rings of the points one behind the other, and a closed wall through all of
them? -/
structure Stacked (points : List (SpinePoint α)) (n : Nat) (mesh : Mesh α) : Prop where
  vertices : ∃ rings, points.mapM (fun p => ring p n) = .ok rings ∧ (∀ r ∈ rings, r.length = n) ∧
    mesh.vertices.toList = rings.flatten
  vertexCount : mesh.vertexCount = n * points.length
  triangleCount : mesh.triangleCount = 2 * n * (points.length - 1)
  triangles : mesh.triangles.toList = (List.range (points.length - 1)).flatMap (wallAbove n)
  /-- Every triangle joins two rings that follow each other. -/
  joins : ∀ T ∈ mesh.triangles, ∃ i, i + 1 < points.length ∧
    (∃ corner ∈ T.corners, OnRing n i corner) ∧ (∃ corner ∈ T.corners, OnRing n (i + 1) corner) ∧
    ∀ corner ∈ T.corners, OnRing n i corner ∨ OnRing n (i + 1) corner
  /-- There is no opening between the first ring and the last. -/
  closed : ∀ T ∈ mesh.triangles, ∀ e ∈ T.edges, (∃ T' ∈ mesh.triangles, e.swap ∈ T'.edges) ∨
    (OnRing n 0 e.1 ∧ OnRing n 0 e.2) ∨
    (OnRing n (points.length - 1) e.1 ∧ OnRing n (points.length - 1) e.2)

/-- A ring of at least one vertex can be had unless it is too large to be held. -/
theorem ring_eq_error_iff (hpos : 1 ≤ n) (p : SpinePoint α) {why : Fault} :
    ring p n = .error why ↔ requireHeld n = .error why := by
  rw [ring, turnAngles, if_neg (by omega), if_neg (by omega)]
  cases requireHeld n with
  | error why' =>
    constructor <;>
    · intro h
      cases h
      rfl
  | ok _ => exact iff_of_false nofun nofun

theorem mesh_eq (hlength : 2 ≤ points.length) : mesh points n smooth =
    points.mapM (fun p => ring p n) >>= fun rings => .ok ((stitch n rings).build smooth) := by
  rw [mesh, if_neg (Nat.not_lt.mpr hlength)]
  rfl

/-- The mesh of a spine with at least two points can be had unless a ring is too large. -/
theorem mesh_eq_error_iff (hpos : 1 ≤ n) (hlength : 2 ≤ points.length) {why : Fault} :
    mesh points n smooth = .error why ↔ requireHeld n = .error why := by
  rw [mesh_eq hlength, bind_eq_error_iff]
  constructor
  · rintro (hrings | ⟨_, -, hmesh⟩)
    · obtain ⟨_, p, _, -, -, hp⟩ := mapM_eq_error_iff.mp hrings
      exact (ring_eq_error_iff hpos p).mp hp
    · cases hmesh
  · intro hheld
    cases points with
    | nil => cases hlength
    | cons p rest =>
      exact .inl (mapM_eq_error_iff.mpr
        ⟨[], p, rest, rfl, nofun, (ring_eq_error_iff hpos p).mpr hheld⟩)

/-- The smooth mesh of a spine. -/
theorem stacked_of_mesh (hpos : 1 ≤ n) (hlength : 2 ≤ points.length) {m : Mesh α}
    (h : mesh points n true = .ok m) : Stacked points n m := by
  rw [mesh_eq hlength] at h
  obtain ⟨rings, hrings, h⟩ := bind_eq_ok_iff.mp h
  have hcount : rings.length = points.length := length_of_mapM hrings
  have hwidth : ∀ r ∈ rings, r.length = n := by
    intro r hr
    obtain ⟨p, -, hp⟩ := exists_of_mem_mapM hrings hr
    exact length_ring hp
  obtain ⟨hvertices, htriangles⟩ := toList_stitch hwidth
  rw [hcount] at htriangles
  have hflat : rings.flatten.length = n * points.length := by
    have hlength := length_flatMap_of_length (k := id) hwidth
    rwa [List.flatMap_id, hcount] at hlength
  have hwalls : ((List.range (points.length - 1)).flatMap (wallAbove n)).length
      = 2 * n * (points.length - 1) := by
    have hlength := length_flatMap_of_length (k := wallAbove n)
      fun i (_ : i ∈ List.range (points.length - 1)) => MeshBuilder.length_wall _ _ n false
    rwa [List.length_range] at hlength
  have hsome :
      ¬ ((stitch n rings).vertices.isEmpty || (stitch n rings).triangles.isEmpty) = true := by
    have hv : 0 < n * points.length := Nat.mul_pos hpos (by omega)
    have ht : 0 < 2 * n * (points.length - 1) := Nat.mul_pos (by omega) (by omega)
    rw [← hflat, ← hvertices, Array.length_toList] at hv
    rw [← hwalls, ← htriangles, Array.length_toList] at ht
    simp [Array.size_pos_iff.mp hv, Array.size_pos_iff.mp ht]
  have hmesh : m = Mesh.ofTriangles (stitch n rings).vertices (stitch n rings).triangles := by
    rw [MeshBuilder.build, if_neg hsome] at h
    exact (Except.ok.inj h).symm
  subst hmesh
  have hmem {T : Triangle} :
      T ∈ (Mesh.ofTriangles (stitch n rings).vertices (stitch n rings).triangles).triangles ↔
        ∃ i < points.length - 1, T ∈ wallAbove n i := by
    rw [← Array.mem_toList_iff]
    show T ∈ (stitch n rings).triangles.toList ↔ _
    rw [htriangles, List.mem_flatMap]
    simp only [List.mem_range]
  refine ⟨⟨rings, hrings, hwidth, hvertices⟩, ?_, ?_, htriangles, ?_, ?_⟩
  · rw [Mesh.vertexCount, ← hflat, ← hvertices, Array.length_toList]
    rfl
  · rw [Mesh.triangleCount, ← hwalls, ← htriangles, Array.length_toList]
    rfl
  · intro T hT
    obtain ⟨i, hi, hT⟩ := hmem.mp hT
    exact ⟨i, by omega, corners_wallAbove hT⟩
  · intro T hT e he
    obtain ⟨i, hi, hT⟩ := hmem.mp hT
    refine (exists_reverse hi hT he).imp_left ?_
    rintro ⟨j, hj, T', hT', hswap⟩
    exact ⟨T', hmem.mpr ⟨j, hj, hT'⟩, hswap⟩

end Mesh

end Spine

end LoftGraph
