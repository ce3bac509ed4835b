import LoftGraph.MeshFile.Content

/-!
# Files of loose triangles

Every facet is written with its normal and its three corners, so vertices that triangles share
are repeated.  Reading puts them together again: corners at one place become one vertex, and
vertices are numbered in the order in which their places first occur (`Facets.weld`).
-/

namespace LoftGraph.Facets

def facetLines (normal : Point3 Float) (corners : List (Point3 Float)) : List String :=
  ["facet normal " ++ MeshContent.pointText normal, " outer loop"] ++
    corners.map (fun p => "  vertex " ++ MeshContent.pointText p) ++ [" endloop", "endfacet"]

/-- The text of a mesh as loose triangles. -/
def write (m : Mesh Float) : String :=
  let normals := (Mesh.faceNormals m.vertices m.triangles).toList
  let corners := m.triangles.toList.map (fun t => t.corners.map (Mesh.cornerPosition m.vertices))
  MeshContent.fileText
    (["solid"] ++ (normals.zip corners).flatMap (fun facet => facetLines facet.1 facet.2) ++
      ["endsolid"])

/-- Starts of the lines that carry no numbers. -/
def framing : List String := ["solid", "outer loop", "endloop", "endfacet", "endsolid"]

/-- Does a line carry no numbers? -/
def isFraming (line : String) : Bool :=
  framing.any (fun start => start.toList.isPrefixOf (Text.trim line.toList))

/-- The lines of a file; only the newline character ends one. -/
def linesOf (text : String) : List String :=
  let pieces := Text.split (· = '\n') text.toList
  if pieces.getLast? = some "" then pieces.dropLast else pieces

/-- The last three words of a line. -/
def lastThree (line : String) : List String :=
  let words := Text.words line
  words.drop (words.length - 3)

/-- Rows in groups of four: a normal that is dropped, and three corners. -/
def corners : List (List Float) → Except MeshReadFault (List (List Float))
  | [] => .ok []
  | _ :: p :: q :: r :: rest => do
    let others ← corners rest
    return p :: q :: r :: others
  | _ => .error .unreadable

/-- Are two rows of coordinates the same place? -/
def samePlace (p q : List Float) : Bool :=
  p.length == q.length && (p.zip q).all (fun e => e.1 == e.2)

/-- Gives every row the number of its place, places in the order of their first row. -/
def weld : List (List Float) → List (List Float) → List (List Float) × List Int
  | places, [] => (places, [])
  | places, row :: rest =>
    match places.findIdx? (samePlace row) with
    | some i =>
      let (all, numbers) := weld places rest
      (all, (i : Int) :: numbers)
    | none =>
      let (all, numbers) := weld (places ++ [row]) rest
      (all, (places.length : Int) :: numbers)

/-- The size of the title in the binary form. -/
def titleSize : Nat := 80

/-- The size of the title and the count behind it in the binary form. -/
def headerSize : Nat := titleSize + 4

/-- All numbers in rows that are as wide as the last row given. -/
def evened (rows : List (List Float)) : Except MeshReadFault (List (List Float)) :=
  match rows.getLast? with
  | none => .error .noVertices
  | some last => MeshContent.rowsOf last.length rows.flatten

/-- The lines of a file that carry its facets.  A file as long as the header of the binary form has
a title in its first line, whatever that line holds; a shorter one has none. -/
def facetLinesOf (text : String) : List String :=
  let lines := linesOf text
  (if text.utf8ByteSize < headerSize then lines else lines.drop 1).filter
    (fun line => !isFraming line)

/-- The content of a text of loose triangles.  Every line that is no framing gives a row.  A file
that has the title of the binary form, but not its count, is neither. -/
def read (text : String) : Except MeshReadFault MeshContent := do
  if titleSize ≤ text.utf8ByteSize ∧ text.utf8ByteSize < headerSize then .error .noHeader
  else
    let numbered := facetLinesOf text
    let rows ← numbered.mapM (fun line => (lastThree line).mapM MeshContent.float)
    let (places, numbers) := weld [] (← corners (← evened rows))
    return ⟨places, some (MeshContent.triangleRows numbers)⟩

end LoftGraph.Facets
