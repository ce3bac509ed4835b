import LoftGraph.Decimal.Layout
import LoftGraph.Mesh.Combine
import LoftGraph.Numeral
import LoftGraph.Text.Block
import LoftGraph.Text.Line

/-!
# What mesh files hold

A mesh file holds rows of coordinates and triangles over them; normals are not read but computed
anew.  `MeshContent.mesh` makes a mesh of what was read, and `MeshReadFault` says why it cannot,
or why a text could not be read in the first place.

The numbers of a file are written with the fewest digits that read back, so that coordinates come
back exactly.
-/

namespace LoftGraph

/-- Why no mesh can be read. -/
inductive MeshReadFault where
  /-- A word is not the number it should be. -/
  | number (word : String)
  /-- There are fewer numbers than announced, or one too many for their rows. -/
  | count
  /-- Rows of coordinates differ in their width. -/
  | uneven
  /-- There are attributes for more or fewer vertices than there are. -/
  | attributes
  /-- There are no vertices at all. -/
  | noVertices
  /-- Vertices have too few or too many coordinates for triangles. -/
  | width (width : Nat)
  /-- A triangle names a vertex that is not there. -/
  | corner (fault : Fault)
  /-- The file ends inside the header of its binary form. -/
  | noHeader
  /-- A whole number is out of range. -/
  | tooLarge
  /-- No format has the extension of the file. -/
  | noFormat
  /-- The file is not what its extension says. -/
  | unreadable
  deriving Repr, DecidableEq

structure MeshContent where
  rows : List (List Float)
  /-- The triangles; nothing if the file has no place for any. -/
  triangles : Option (List Triangle)

namespace MeshContent

def numberText (x : Float) : String := NumberLayout.display.write x

/-- The coordinates of a point, separated by blanks. -/
def pointText (p : Point3 Float) : String := String.intercalate " " (p.toList.map numberText)

/-- The corner numbers of a triangle, raised by an offset and separated by blanks. -/
def cornerText (offset : Int) (t : Triangle) : String :=
  String.intercalate " " ((t.shift offset).corners.map toString)

/-- Lines of a file, each with its end. -/
def fileText (lines : List String) : String := String.join (lines.map (· ++ "\n"))

/-- A word that is a floating point number. -/
def float (word : String) : Except MeshReadFault Float :=
  match Numeral.float? word with
  | some x => .ok x
  | none => .error (.number word)

/-- A word that is a whole number. -/
def int (word : String) : Except MeshReadFault Int :=
  match Numeral.int? word with
  | some i => .ok i
  | none => .error (.number word)

/-- So many words, and the words after them. -/
def takeWords (n : Nat) (words : List String) : Except MeshReadFault (List String × List String) :=
  if words.length < n then .error .count else .ok (words.take n, words.drop n)

def triples {α : Type} : List α → List (List α)
  | a :: b :: c :: rest => [a, b, c] :: triples rest
  | _ => []

/-- All numbers in rows of one width; none may be left over. -/
def rowsOf {α : Type} (width : Nat) (numbers : List α) : Except MeshReadFault (List (List α)) :=
  if width = 0 ∨ numbers.length % width ≠ 0 then .error .count
  else .ok (Text.Block.chunks width (numbers.length / width) numbers)

/-- So many rows of three coordinates, and the words after them. -/
def vertexRows (n : Nat) (words : List String) :
    Except MeshReadFault (List (List Float) × List String) := do
  let (mine, rest) ← takeWords (3 * n) words
  let numbers ← mine.mapM float
  return (triples numbers, rest)

def triangleRows : List Int → List Triangle
  | a :: b :: c :: rest => ⟨a, b, c⟩ :: triangleRows rest
  | _ => []

/-- Triangles that come as four numbers, the first of which counts the other three. -/
def countedTriangles : List Int → Except MeshReadFault (List Triangle)
  | [] => .ok []
  | 3 :: a :: b :: c :: rest => do
    let others ← countedTriangles rest
    return ⟨a, b, c⟩ :: others
  | _ => .error .unreadable

/-- So many triangles of four numbers each, and the words after them. -/
def faceRows (n : Nat) (words : List String) :
    Except MeshReadFault (List Triangle × List String) := do
  let (mine, rest) ← takeWords (4 * n) words
  let corners ← mine.mapM int
  let triangles ← countedTriangles corners
  return (triangles, rest)

/-- A row of coordinates as a point of space; a point of the plane lies at height zero. -/
def point? : List Float → Option (Point3 Float)
  | [x, y] => some ⟨x, y, 0⟩
  | [x, y, z] => some ⟨x, y, z⟩
  | _ => none

/-- Do all rows have the width of the first? -/
def isEven : List (List Float) → Bool
  | [] => true
  | first :: rest => rest.all (fun row => row.length == first.length)

/-- The mesh of vertices and triangles. -/
def assemble (rows : List (List Float)) (triangles : List Triangle) :
    Except MeshReadFault (Mesh Float) :=
  match Mesh.checkCorners rows.length triangles.toArray with
  | .error fault => .error (.corner fault)
  | .ok () =>
    match rows.mapM point? with
    | some points => .ok (Mesh.ofTriangles points.toArray triangles.toArray)
    | none => .error (.width ((rows.head?.getD []).length))

/-- The mesh of what a file holds; nothing if it has no place for triangles. -/
def mesh? (c : MeshContent) : Except MeshReadFault (Option (Mesh Float)) :=
  if !isEven c.rows then .error .uneven
  else
    match c.triangles with
    | some triangles => some <$> assemble c.rows triangles
    | none => .ok none

end MeshContent

end LoftGraph
