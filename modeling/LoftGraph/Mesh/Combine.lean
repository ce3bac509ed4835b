import LoftGraph.Mesh.Normal

/-!
# Unwelding and merging

`Mesh.unweld` gives every triangle its own three vertices and its own normal, for flat shading.
`Mesh.merge` puts meshes side by side into one, raising corner numbers by the vertices before.
-/

namespace LoftGraph.Mesh

variable {α : Type}

def consecutive (i : Nat) : Triangle := ⟨3 * i, 3 * i + 1, 3 * i + 2⟩

/-- The mesh in which no two triangles share a vertex. -/
def unweld [Scalar α] (vertices : Array (Point3 α)) (triangles : Array Triangle) : Mesh α :=
  { vertices := triangles.flatMap (fun t =>
      (t.corners.map (cornerPosition vertices)).toArray)
    triangles := (Array.range triangles.size).map consecutive
    normals := (faceNormals vertices triangles).flatMap (fun n => #[n, n, n]) }

/-- One mesh beside another.  A mesh without vertices adds nothing, whatever its triangles. -/
def beside (m n : Mesh α) : Mesh α :=
  if n.vertices.isEmpty then m
  else
    { vertices := m.vertices ++ n.vertices
      triangles := m.triangles ++ n.triangles.map (fun t => t.shift m.vertices.size)
      normals := m.normals ++ n.normals }

def merge (meshes : List (Mesh α)) : Mesh α := meshes.foldl beside empty

@[simp] theorem merge_nil : merge ([] : List (Mesh α)) = empty := rfl

/-- A mesh beside a well-formed one is well formed if it is well formed itself. -/
theorem WellFormed.beside {m n : Mesh α} (hm : m.WellFormed) (hn : n.WellFormed) :
    (m.beside n).WellFormed := by
  unfold Mesh.beside
  split
  · exact hm
  · refine ⟨by simp [hm.normals_size, hn.normals_size], ?_⟩
    intro t ht i hi
    simp only [Array.mem_append, Array.mem_map] at ht
    rcases ht with ht | ⟨t', ht', rfl⟩
    · have := hm.corners_lt t ht i hi
      simp only [Array.size_append]
      omega
    · simp only [Triangle.corners_shift, List.mem_map] at hi
      obtain ⟨j, hj, rfl⟩ := hi
      have := hn.corners_lt t' ht' j hj
      simp only [Array.size_append]
      omega

end LoftGraph.Mesh
