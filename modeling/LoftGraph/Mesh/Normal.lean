import LoftGraph.Mesh.Basic

/-!
# Normals

The normal of a triangle follows the right-hand rule; its length before normalization is twice the
area.  The normal of a vertex is the sum of the unnormalized normals of the triangles around it,
normalized, so large triangles weigh more.

`scatter` adds a vector to the vertex each triangle names as one of its corners; `vertexNormals`
does so for the three corners in turn.  A corner number that names no vertex adds nothing.
-/

namespace LoftGraph.Mesh

variable {α : Type} [Scalar α]

/-- The vertex a corner number names; the origin if it names none. -/
def cornerPosition (vertices : Array (Point3 α)) (corner : Int) : Point3 α :=
  match cornerIndex? vertices.size corner with
  | some i => vertices.getD i Point3.zero
  | none => Point3.zero

/-- The normal of a triangle, twice its area long. -/
def areaNormal (vertices : Array (Point3 α)) (t : Triangle) : Point3 α :=
  let p := cornerPosition vertices t.a
  ((cornerPosition vertices t.b).sub p).cross ((cornerPosition vertices t.c).sub p)

/-- The normals of the triangles, twice their areas long. -/
def areaNormals (vertices : Array (Point3 α)) (triangles : Array Triangle) : Array (Point3 α) :=
  triangles.map (areaNormal vertices)

def faceNormals (vertices : Array (Point3 α)) (triangles : Array Triangle) : Array (Point3 α) :=
  (areaNormals vertices triangles).map Point3.normalized

/-- Adds a vector to the entry a corner number names. -/
def addAt (sums : Array (Point3 α)) (corner : Int) (v : Point3 α) : Array (Point3 α) :=
  match cornerIndex? sums.size corner with
  | some i => sums.modify i (fun s => s.add v)
  | none => sums

/-- Adds the normal of every triangle to the entry of one of its corners. -/
def scatter (vertices : Array (Point3 α)) (corner : Triangle → Int) (triangles : Array Triangle)
    (sums : Array (Point3 α)) : Array (Point3 α) :=
  triangles.foldl (fun acc t => addAt acc (corner t) (areaNormal vertices t)) sums

/-- For every vertex the sum of the normals of the triangles around it. -/
def summedNormals (vertices : Array (Point3 α)) (triangles : Array Triangle) :
    Array (Point3 α) :=
  let zeros := Array.replicate vertices.size Point3.zero
  scatter vertices Triangle.c triangles
    (scatter vertices Triangle.b triangles (scatter vertices Triangle.a triangles zeros))

def vertexNormals (vertices : Array (Point3 α)) (triangles : Array Triangle) :
    Array (Point3 α) :=
  if triangles.isEmpty then Array.replicate vertices.size Point3.zero
  else (summedNormals vertices triangles).map Point3.normalized

@[simp] theorem size_addAt (sums : Array (Point3 α)) (corner : Int) (v : Point3 α) :
    (addAt sums corner v).size = sums.size := by
  unfold addAt
  split <;> simp

@[simp] theorem size_scatter (vertices : Array (Point3 α)) (corner : Triangle → Int)
    (triangles : Array Triangle) (sums : Array (Point3 α)) :
    (scatter vertices corner triangles sums).size = sums.size := by
  unfold scatter
  rw [← Array.foldl_toList]
  generalize triangles.toList = ts
  induction ts generalizing sums with
  | nil => rfl
  | cons t rest ih => simp [ih]

@[simp] theorem size_vertexNormals (vertices : Array (Point3 α)) (triangles : Array Triangle) :
    (vertexNormals vertices triangles).size = vertices.size := by
  unfold vertexNormals
  split <;> simp [summedNormals]

/-- The mesh of some vertices and triangles with its vertex normals. -/
def ofTriangles (vertices : Array (Point3 α)) (triangles : Array Triangle) : Mesh α :=
  ⟨vertices, triangles, vertexNormals vertices triangles⟩

end LoftGraph.Mesh
