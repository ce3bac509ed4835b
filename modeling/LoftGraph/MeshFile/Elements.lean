import LoftGraph.MeshFile.Content

/-!
# Files of announced elements

The header announces the elements, how many of each and with which properties, and ends with a
line of its own.  Then come the vertices, and every face with the number of its corners.  Corner
numbers are kept in 32 bits (`Elements.kept`).
-/

namespace LoftGraph.Elements

/-- The last line of the header. -/
def lastHeaderLine : String := "end_header"

/-- A corner number as 32 bits keep it. -/
def keptCorner (corner : Int) : Int := corner.bmod (Nat.pow 2 32)

/-- A triangle as 32 bits for each corner keep it. -/
def kept (t : Triangle) : Triangle := ⟨keptCorner t.a, keptCorner t.b, keptCorner t.c⟩

def write (m : Mesh Float) : String :=
  MeshContent.fileText
    (["ply", "format ascii 1.0", s!"element vertex {m.vertexCount}"] ++
      ["x", "y", "z"].map (fun axis => "property double " ++ axis) ++
      [s!"element face {m.triangleCount}", "property list uchar int vertex_indices",
       lastHeaderLine] ++
      m.vertices.toList.map MeshContent.pointText ++
      m.triangles.toList.map (fun t => "3 " ++ MeshContent.cornerText 0 (kept t)))

/-- How many elements of a name the header announces; none if it does not. -/
def announced (header : List String) (name : String) : Except MeshReadFault Nat :=
  match (header.map Text.words).find? (fun words => words.take 2 = ["element", name]) with
  | some words => Int.toNat <$> MeshContent.int (words.getLast?.getD "")
  | none => .ok 0

def read (text : String) : Except MeshReadFault MeshContent := do
  let lines := Text.lines text
  let header := lines.takeWhile (· ≠ lastHeaderLine)
  if header.head? ≠ some "ply" then .error .unreadable
  else
    let words := (lines.drop (header.length + 1)).flatMap Text.words
    let (rows, words) ← MeshContent.vertexRows (← announced header "vertex") words
    let (triangles, _) ← MeshContent.faceRows (← announced header "face") words
    return ⟨rows, some triangles⟩

end LoftGraph.Elements
