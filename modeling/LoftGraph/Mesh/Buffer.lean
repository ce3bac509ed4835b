import LoftGraph.Mesh.Basic

/-!
# Flat buffers

What a display takes of a mesh: positions and normals as single precision numbers, three a vertex,
and corner numbers as unsigned words, three a triangle.  `Mesh.buffers_position_length` and its two
companions say that nothing is dropped.
-/

namespace LoftGraph

/-- The three flat sequences of a mesh. -/
structure Mesh.Buffers where
  position : List Float32
  normal : List Float32
  index : List UInt32

/-- Coordinates one after another, in single precision. -/
def flatCoordinates (points : Array (Point3 Float)) : List Float32 :=
  points.toList.flatMap (fun p => p.toList.map Float.toFloat32)

/-- The buffers of a mesh.  A negative corner number wraps around. -/
def Mesh.buffers (m : Mesh Float) : Mesh.Buffers where
  position := flatCoordinates m.vertices
  normal := flatCoordinates m.normals
  index := m.triangles.toList.flatMap (fun t => t.corners.map UInt32.ofInt)

theorem length_flatCoordinates (points : Array (Point3 Float)) :
    (flatCoordinates points).length = 3 * points.size := by
  obtain ⟨ps⟩ := points
  simp only [flatCoordinates, List.size_toArray]
  induction ps with
  | nil => rfl
  | cons p ps ih =>
      rw [List.flatMap_cons, List.length_append, ih]
      simp only [Point3.toList, List.map_cons, List.map_nil, List.length_cons, List.length_nil]
      omega

theorem Mesh.buffers_position_length (m : Mesh Float) :
    m.buffers.position.length = 3 * m.vertices.size := length_flatCoordinates _

theorem Mesh.buffers_normal_length (m : Mesh Float) :
    m.buffers.normal.length = 3 * m.normals.size := length_flatCoordinates _

theorem Mesh.buffers_index_length (m : Mesh Float) :
    m.buffers.index.length = 3 * m.triangles.size := by
  obtain ⟨vertices, ⟨ts⟩, normals⟩ := m
  simp only [Mesh.buffers, List.size_toArray]
  induction ts with
  | nil => rfl
  | cons t ts ih =>
      rw [List.flatMap_cons, List.length_append, ih]
      simp only [Triangle.corners, List.map_cons, List.map_nil, List.length_cons, List.length_nil]
      omega

end LoftGraph
