import LoftGraph.Mesh.Combine

/-!
# Building meshes from rings

A `MeshBuilder` collects blocks of vertices and triangles over them.  `connectRings` stitches two
rings index for index, `addFan` closes one with triangles around a new middle vertex, and `build`
derives the normals.

With rings that run counter-clockwise seen from above, a wall faces outward, or inward when it is
reversed.
-/

namespace LoftGraph

structure MeshBuilder (α : Type) where
  vertices : Array (Point3 α)
  triangles : Array Triangle
  deriving Repr

namespace MeshBuilder

variable {α : Type}

def empty : MeshBuilder α := ⟨#[], #[]⟩

def vertexCount (b : MeshBuilder α) : Nat := b.vertices.size

/-- Appends a block of vertices.  The block starts at the number of vertices before. -/
def addVertices (b : MeshBuilder α) (points : List (Point3 α)) : MeshBuilder α :=
  { b with vertices := b.vertices ++ points.toArray }

def addTriangles (b : MeshBuilder α) (triangles : List Triangle) : MeshBuilder α :=
  { b with triangles := b.triangles ++ triangles.toArray }

/-- The two triangles between neighbouring places `i` and `j` of two rings. -/
def quad (lower upper : Int) (reverse : Bool) (i j : Nat) : List Triangle :=
  if reverse then [⟨lower + i, lower + j, upper + i⟩, ⟨upper + i, lower + j, upper + j⟩]
  else [⟨lower + i, upper + i, lower + j⟩, ⟨upper + i, upper + j, lower + j⟩]

/-- The wall between two rings of `count` vertices. -/
def wall (lower upper : Int) (count : Nat) (reverse : Bool) : List Triangle :=
  (List.range count).flatMap (fun i => quad lower upper reverse i ((i + 1) % count))

def connectRings (b : MeshBuilder α) (lower upper : Int) (count : Nat) (reverse : Bool) :
    MeshBuilder α :=
  b.addTriangles (wall lower upper count reverse)

/-- The triangles between a ring and its middle. -/
def fan (apex ring : Int) (count : Nat) (upward : Bool) : List Triangle :=
  (List.range count).map (fun i =>
    let j := (i + 1) % count
    if upward then ⟨apex, ring + j, ring + i⟩ else ⟨apex, ring + i, ring + j⟩)

/-- Closes a ring around a new middle vertex. -/
def addFan (b : MeshBuilder α) (ring : Int) (count : Nat) (center : List (Point3 α))
    (upward : Bool) : MeshBuilder α :=
  (b.addVertices center).addTriangles (fan b.vertexCount ring count upward)

/-- The finished mesh: with vertex normals, or with every triangle by itself.  Without vertices or
without triangles it is empty. -/
def build [Scalar α] (b : MeshBuilder α) (smooth : Bool) : Mesh α :=
  if b.vertices.isEmpty || b.triangles.isEmpty then Mesh.empty
  else if smooth then Mesh.ofTriangles b.vertices b.triangles
  else Mesh.unweld b.vertices b.triangles

/-- The finished mesh, when every corner names a vertex. -/
def build? [Scalar α] (b : MeshBuilder α) (smooth : Bool) : Except Fault (Mesh α) :=
  if b.vertices.isEmpty || b.triangles.isEmpty then .ok Mesh.empty
  else do
    Mesh.checkCorners b.vertices.size b.triangles
    return b.build smooth

@[simp] theorem vertexCount_addVertices (b : MeshBuilder α) (points : List (Point3 α)) :
    (b.addVertices points).vertexCount = b.vertexCount + points.length := by
  simp [addVertices, vertexCount]

@[simp] theorem vertexCount_addTriangles (b : MeshBuilder α) (ts : List Triangle) :
    (b.addTriangles ts).vertexCount = b.vertexCount := rfl

/-- A wall has two triangles for every place of the ring. -/
@[simp] theorem length_wall (lower upper : Int) (count : Nat) (reverse : Bool) :
    (wall lower upper count reverse).length = 2 * count := by
  unfold wall
  generalize hn : count = n
  suffices ∀ k, ((List.range k).flatMap
      (fun i => quad lower upper reverse i ((i + 1) % n))).length = 2 * k from this n
  intro k
  induction k with
  | zero => rfl
  | succ k ih =>
      rw [List.range_succ, List.flatMap_append, List.length_append, ih]
      simp only [List.flatMap_cons, List.flatMap_nil, List.append_nil, quad]
      split <;> simp <;> omega

/-- A fan has one triangle for every place of the ring. -/
@[simp] theorem length_fan (apex ring : Int) (count : Nat) (upward : Bool) :
    (fan apex ring count upward).length = count := by
  simp [fan]

end MeshBuilder

end LoftGraph
