import LoftGraph.Scalar
import LoftGraph.Fault

/-!
# Triangle meshes

A mesh is a list of vertices, a list of triangles that name their corners by number, and one
normal per vertex.

* A corner number below zero counts from the end of the vertices; `cornerIndex?` finds the vertex
  a number names, if there is one.
* `Mesh.WellFormed` says that there is a normal for every vertex and that every corner number is
  the place of a vertex.
* `Mesh.bounds` is the box around the vertices.
-/

namespace LoftGraph

structure Point3 (α : Type) where
  x : α
  y : α
  z : α
  deriving Repr, DecidableEq, Inhabited

namespace Point3

variable {α : Type}

/-- Does the coordinate-wise test hold everywhere? -/
def all (p : Point3 α) (test : α → Bool) : Bool := test p.x && test p.y && test p.z

/-- Two points combined coordinate by coordinate. -/
def zipWith (f : α → α → α) (p q : Point3 α) : Point3 α := ⟨f p.x q.x, f p.y q.y, f p.z q.z⟩

/-- A point changed coordinate by coordinate. -/
def map {β : Type} (f : α → β) (p : Point3 α) : Point3 β := ⟨f p.x, f p.y, f p.z⟩

def toList (p : Point3 α) : List α := [p.x, p.y, p.z]

variable [Scalar α]

def zero : Point3 α := ⟨0, 0, 0⟩

/-- The point moved by a vector. -/
def add (p q : Point3 α) : Point3 α := ⟨p.x + q.x, p.y + q.y, p.z + q.z⟩

/-- The vector from `q` to `p`. -/
def sub (p q : Point3 α) : Point3 α := ⟨p.x - q.x, p.y - q.y, p.z - q.z⟩

def cross (p q : Point3 α) : Point3 α :=
  ⟨p.y * q.z - p.z * q.y, p.z * q.x - p.x * q.z, p.x * q.y - p.y * q.x⟩

def norm (p : Point3 α) : α := Scalar.sqrt (p.x * p.x + p.y * p.y + p.z * p.z)

/-- The vector of length one in the same direction; a vector without positive length stays as it
is. -/
def normalized (p : Point3 α) : Point3 α :=
  let length := p.norm
  let divisor := if Scalar.lt 0 length then length else 1
  ⟨p.x / divisor, p.y / divisor, p.z / divisor⟩

end Point3

/-- A triangle, by the numbers of its corners. -/
structure Triangle where
  a : Int
  b : Int
  c : Int
  deriving Repr, DecidableEq, Inhabited

namespace Triangle

def corners (t : Triangle) : List Int := [t.a, t.b, t.c]

/-- The triangle with every corner number raised. -/
def shift (t : Triangle) (offset : Int) : Triangle := ⟨t.a + offset, t.b + offset, t.c + offset⟩

@[simp] theorem corners_shift (t : Triangle) (offset : Int) :
    (t.shift offset).corners = t.corners.map (· + offset) := rfl

end Triangle

/-- The place of the vertex that a corner number names among so many: a negative number counts
from the end. -/
def cornerIndex? (size : Nat) (corner : Int) : Option Nat :=
  if 0 ≤ corner then if corner < size then some corner.toNat else none
  else if -(size : Int) ≤ corner then some (corner + size).toNat
  else none

/-- The place of a vertex names it. -/
theorem cornerIndex?_of_lt {size : Nat} {corner : Int} (h : 0 ≤ corner) (h' : corner < size) :
    cornerIndex? size corner = some corner.toNat := by
  simp [cornerIndex?, h, h']

/-- A corner number that names a vertex names one that is there. -/
theorem cornerIndex?_lt {size : Nat} {corner : Int} {i : Nat}
    (h : cornerIndex? size corner = some i) : i < size := by
  unfold cornerIndex? at h
  split at h
  · split at h
    · cases h; omega
    · cases h
  · split at h
    · cases h; omega
    · cases h

/-- Triangles over shared vertices, with a normal per vertex. -/
structure Mesh (α : Type) where
  vertices : Array (Point3 α)
  triangles : Array Triangle
  normals : Array (Point3 α)
  deriving Repr, Inhabited

namespace Mesh

variable {α : Type}

def empty : Mesh α := ⟨#[], #[], #[]⟩

/-- Does the mesh have no triangles? -/
def isEmpty (m : Mesh α) : Bool := m.triangles.isEmpty

def vertexCount (m : Mesh α) : Nat := m.vertices.size

def triangleCount (m : Mesh α) : Nat := m.triangles.size

/-- The mesh with all its measures changed in the same way. -/
def map {β : Type} (f : α → β) (m : Mesh α) : Mesh β :=
  ⟨m.vertices.map (Point3.map f), m.triangles, m.normals.map (Point3.map f)⟩

@[simp] theorem vertexCount_map {β : Type} (f : α → β) (m : Mesh α) :
    (m.map f).vertexCount = m.vertexCount := by
  simp [map, vertexCount]

/-- A normal for every vertex, and every corner number is the place of a vertex. -/
structure WellFormed (m : Mesh α) : Prop where
  normals_size : m.normals.size = m.vertices.size
  /-- Corner numbers are places of vertices. -/
  corners_lt : ∀ t ∈ m.triangles, ∀ i ∈ t.corners, 0 ≤ i ∧ i < m.vertices.size

theorem wellFormed_empty : (empty : Mesh α).WellFormed :=
  ⟨rfl, by intro t ht; cases Array.not_mem_empty t ht⟩

/-- The first corner number among the triangles that names no vertex. -/
def strayCorner? (size : Nat) (triangles : Array Triangle) : Option Int :=
  triangles.toList.findSome? (fun t =>
    t.corners.find? (fun i => (cornerIndex? size i).isNone))

/-- The first corner number that names no vertex is a fault. -/
def checkCorners (size : Nat) (triangles : Array Triangle) : Except Fault Unit :=
  match strayCorner? size triangles with
  | some i => .error (.cornerOutOfRange i size)
  | none => .ok ()

variable [Scalar α]

/-- The smaller of two numbers; undefined as soon as one of them is. -/
def lowest (x y : α) : α :=
  if Scalar.undefined x then x else if Scalar.undefined y then y else Scalar.smaller x y

/-- The larger of two numbers; undefined as soon as one of them is. -/
def highest (x y : α) : α :=
  if Scalar.undefined x then x else if Scalar.undefined y then y else Scalar.larger x y

/-- Lower and upper corner of the box around the vertices; the origin twice when there are
none. -/
def bounds (m : Mesh α) : Point3 α × Point3 α :=
  match m.vertices.toList with
  | [] => (Point3.zero, Point3.zero)
  | v :: rest => (rest.foldl (Point3.zipWith lowest) v, rest.foldl (Point3.zipWith highest) v)

end Mesh

end LoftGraph
