import LoftGraph.Proofs.Mesh.Surface

/-!
# Merging meshes

The surface of meshes side by side is the surface of one behind that of the other
(`surface?_beside`), so merging is concatenation of surfaces (`surface?_merge`). A well-formed mesh
without vertices is the empty mesh (`WellFormed.eq_empty`): what merging passes over adds nothing.
Therefore `beside` is associative on well-formed meshes with the empty mesh as unit
(`beside_assoc`), and any meshes that stand together may be merged first (`merge_append`).
-/

namespace LoftGraph

namespace Mesh

variable {α : Type} {m n p : Mesh α}

/-- The triangles of a mesh, each by the positions and the normals of its corners. -/
def surface? (m : Mesh α) : Option (List (List (Point3 α × Point3 α))) :=
  atCorners? (m.vertices.zip m.normals) m.triangles

theorem WellFormed.within_zip (h : m.WellFormed) :
    ∀ t ∈ m.triangles, Within (m.vertices.zip m.normals).size t := by
  rw [Array.size_zip, h.normals_size, Nat.min_self]
  exact h.corners_lt

theorem WellFormed.exists_surface? (h : m.WellFormed) : ∃ surface, m.surface? = some surface :=
  exists_atCorners? h.within_zip

/-- Without vertices there is nothing that a triangle could name. -/
theorem WellFormed.eq_empty (h : m.WellFormed) (hnone : m.vertices = #[]) : m = empty := by
  have htriangles : m.triangles = #[] := by
    by_contra hne
    obtain ⟨t, ht⟩ := Array.exists_mem_of_ne_empty _ hne
    have hcorner := h.corners_lt t ht t.a (.head _)
    rw [hnone, Array.size_empty] at hcorner
    omega
  have hnormals : m.normals = #[] := by
    rw [← Array.size_eq_zero_iff, h.normals_size, hnone, Array.size_empty]
  cases m
  exact congr (congr (congrArg Mesh.mk hnone) htriangles) hnormals

theorem WellFormed.eq_empty_or (h : m.WellFormed) : m = empty ∨ m.vertices ≠ #[] :=
  (eq_or_ne m.vertices #[]).imp_left h.eq_empty

/-! ## Two meshes -/

@[simp] theorem beside_empty (m : Mesh α) : m.beside empty = m := rfl

theorem beside_eq (hn : n.vertices ≠ #[]) : m.beside n =
    { vertices := m.vertices ++ n.vertices
      triangles := m.triangles ++ n.triangles.map (fun t => t.shift m.vertices.size)
      normals := m.normals ++ n.normals } := by
  rw [beside, if_neg (by simpa using hn)]

theorem shift_zero (t : Triangle) : t.shift (0 : Nat) = t := by
  simp [Triangle.shift]

theorem shift_shift (t : Triangle) (k l : Nat) :
    (t.shift k).shift l = t.shift (l + k : Nat) := by
  simp only [Triangle.shift, Triangle.mk.injEq]
  omega

theorem empty_beside (h : m.WellFormed) : empty.beside m = m := by
  rcases h.eq_empty_or with rfl | hne
  · rfl
  · have htriangles : m.triangles.map (fun t => t.shift (0 : Nat)) = m.triangles := by
      simp only [shift_zero, Array.map_id_fun', id_eq]
    rw [beside_eq hne]
    simp only [empty, Array.size_empty, Array.empty_append, htriangles]

theorem beside_assoc (hn : n.WellFormed) (hp : p.WellFormed) :
    (m.beside n).beside p = m.beside (n.beside p) := by
  rcases hp.eq_empty_or with rfl | hpne
  · rfl
  · rcases hn.eq_empty_or with rfl | hnne
    · rw [beside_empty, empty_beside hp]
    · have hboth : (n.beside p).vertices ≠ #[] := by
        simp [beside_eq hpne, hnne]
      rw [beside_eq hpne, beside_eq hboth, beside_eq hnne, beside_eq hpne]
      simp only [Array.append_assoc, Array.map_append, Array.map_map, Array.size_append,
        Function.comp_def, shift_shift]

/-- The triangles of the first mesh find what they found, and those of the second one do so behind
the vertices of the first. -/
theorem surface?_beside (hm : m.WellFormed) (hn : n.WellFormed)
    {surface surface' : List (List (Point3 α × Point3 α))} (h : m.surface? = some surface)
    (h' : n.surface? = some surface') : (m.beside n).surface? = some (surface ++ surface') := by
  rcases hn.eq_empty_or with rfl | hne
  · obtain rfl : [] = surface' := Option.some.inj h'
    rw [beside_empty, List.append_nil, h]
  · have hzip : (m.beside n).vertices.zip (m.beside n).normals
        = m.vertices.zip m.normals ++ n.vertices.zip n.normals := by
      rw [beside_eq hne]
      exact Array.zip_append hm.normals_size.symm
    have hsize : m.vertices.size = (m.vertices.zip m.normals).size := by
      rw [Array.size_zip, hm.normals_size, Nat.min_self]
    rw [surface?, hzip, beside_eq hne]
    refine atCorners?_append ?_ ?_
    · rw [← h]
      exact atCorners?_append_entries hm.within_zip _
    · rw [← h', hsize]
      exact atCorners?_shift hn.within_zip _

/-! ## Many meshes -/

variable {meshes meshes' : List (Mesh α)}

theorem foldl_beside (hm : m.WellFormed) (h : ∀ n ∈ meshes, n.WellFormed) :
    meshes.foldl beside m = m.beside (merge meshes) := by
  induction meshes generalizing m with
  | nil => rfl
  | cons n rest ih =>
    obtain ⟨hn, hrest⟩ := List.forall_mem_cons.mp h
    rw [List.foldl_cons, ih (hm.beside hn) hrest, beside_assoc hn (wellFormed_merge hrest),
      ← ih hn hrest]
    show _ = m.beside (rest.foldl beside (empty.beside n))
    rw [empty_beside hn]

theorem merge_cons (hn : n.WellFormed) (h : ∀ n ∈ meshes, n.WellFormed) :
    merge (n :: meshes) = n.beside (merge meshes) := by
  rw [merge, List.foldl_cons, empty_beside hn, foldl_beside hn h]

theorem merge_append (h : ∀ m ∈ meshes, m.WellFormed) (h' : ∀ m ∈ meshes', m.WellFormed) :
    merge (meshes ++ meshes') = (merge meshes).beside (merge meshes') := by
  rw [merge, List.foldl_append]
  exact foldl_beside (wellFormed_merge h) h'

theorem surface?_merge (h : ∀ m ∈ meshes, m.WellFormed) :
    ∃ surfaces, meshes.mapM surface? = some surfaces ∧
      (merge meshes).surface? = some surfaces.flatten := by
  induction meshes with
  | nil => exact ⟨[], rfl, rfl⟩
  | cons n rest ih =>
    obtain ⟨hn, hrest⟩ := List.forall_mem_cons.mp h
    obtain ⟨surface, hsurface⟩ := hn.exists_surface?
    obtain ⟨surfaces, hsurfaces, hmerged⟩ := ih hrest
    refine ⟨surface :: surfaces, mapM_eq_some_iff.mpr ?_, ?_⟩
    · rw [List.map_cons, List.map_cons, hsurface, mapM_eq_some_iff.mp hsurfaces]
    · rw [merge_cons hn hrest, List.flatten_cons]
      exact surface?_beside hn (wellFormed_merge hrest) hsurface hmerged

/-- Meshes that stand together may be merged first. -/
theorem merge_regroup {front block back : List (Mesh α)} (hfront : ∀ m ∈ front, m.WellFormed)
    (hblock : ∀ m ∈ block, m.WellFormed) (hback : ∀ m ∈ back, m.WellFormed) :
    merge (front ++ merge block :: back) = merge (front ++ block ++ back) := by
  have hmerged := wellFormed_merge hblock
  have hrest : ∀ m ∈ merge block :: back, m.WellFormed :=
    List.forall_mem_cons.mpr ⟨hmerged, hback⟩
  have hbehind : ∀ m ∈ block ++ back, m.WellFormed :=
    List.forall_mem_append.mpr ⟨hblock, hback⟩
  rw [merge_append hfront hrest, merge_cons hmerged hback, List.append_assoc,
    merge_append hfront hbehind, merge_append hblock hback]

end Mesh

/-- **Merging is concatenation of surfaces**. Well-formed meshes, read triangle by triangle with the
positions and the normals of the corners, merge into a well-formed mesh that reads as all of them
one behind the other. Merging any of them first that stand together changes nothing; the empty mesh
may be left out, and one mesh merges into itself. -/
theorem merged_surface_is_concatenation {α : Type} (meshes : List (Mesh α))
    (h : ∀ m ∈ meshes, m.WellFormed) :
    (∃ surfaces, meshes.mapM Mesh.surface? = some surfaces ∧
      (Mesh.merge meshes).surface? = some surfaces.flatten) ∧
    (Mesh.merge meshes).WellFormed ∧
    (∀ front block back, meshes = front ++ block ++ back →
      Mesh.merge (front ++ Mesh.merge block :: back) = Mesh.merge meshes) ∧
    (∀ front back, meshes = front ++ back →
      Mesh.merge (front ++ Mesh.empty :: back) = Mesh.merge meshes) ∧
    ∀ m ∈ meshes, Mesh.merge [m] = m := by
  refine ⟨Mesh.surface?_merge h, Mesh.wellFormed_merge h, ?_, ?_, ?_⟩
  · rintro front block back rfl
    obtain ⟨hbefore, hback⟩ := List.forall_mem_append.mp h
    obtain ⟨hfront, hblock⟩ := List.forall_mem_append.mp hbefore
    exact Mesh.merge_regroup hfront hblock hback
  · rintro front back rfl
    obtain ⟨hfront, hback⟩ := List.forall_mem_append.mp h
    have hnone : ∀ m ∈ ([] : List (Mesh α)), m.WellFormed := nofun
    have hunit := Mesh.merge_regroup hfront hnone hback
    rwa [List.append_nil] at hunit
  · intro m hm
    exact Mesh.empty_beside (h m hm)

/-- A triangle, nothing, a vertex by itself, and a triangle that names its corners backwards. -/
def scattered : List (Mesh Float) :=
  [⟨#[⟨0, 0, 0⟩, ⟨1, 0, 0⟩, ⟨0, 1, 0⟩], #[⟨0, 1, 2⟩], #[⟨0, 0, 1⟩, ⟨0, 0, 1⟩, ⟨0, 0, 1⟩]⟩,
    Mesh.empty, ⟨#[⟨2, 2, 2⟩], #[], #[⟨0, 0, 0⟩]⟩,
    ⟨#[⟨0, 0, 3⟩, ⟨1, 0, 3⟩, ⟨0, 1, 3⟩], #[⟨2, 1, 0⟩], #[⟨0, 0, -1⟩, ⟨0, 0, -1⟩, ⟨0, 0, -1⟩]⟩]

theorem scattered_surface_is_concatenation :
    (∀ m ∈ scattered, m.WellFormed) ∧
    (∃ surfaces, scattered.mapM Mesh.surface? = some surfaces ∧
      (Mesh.merge scattered).surface? = some surfaces.flatten) ∧
    Mesh.merge (scattered.take 1 ++ Mesh.merge ((scattered.drop 1).take 2) :: scattered.drop 3)
      = Mesh.merge scattered ∧
    (Mesh.merge scattered).triangles = #[⟨0, 1, 2⟩, ⟨6, 5, 4⟩] := by
  have hwellFormed : ∀ m ∈ scattered, m.WellFormed := by
    simp only [scattered, List.forall_mem_cons]
    exact ⟨⟨rfl, by decide⟩, Mesh.wellFormed_empty, ⟨rfl, by decide⟩, ⟨rfl, by decide⟩, nofun⟩
  obtain ⟨hsurfaces, -, hregroup, -⟩ := merged_surface_is_concatenation scattered hwellFormed
  exact ⟨hwellFormed, hsurfaces, hregroup _ _ _ rfl, by decide +kernel⟩

end LoftGraph
