import LoftGraph.MeshFile.Content

/-!
# Files of unstructured grids

Two formats describe a mesh as a grid of cells: one as a sequence of sections, each opened by a
word, the other as named arrays in a marked-up text.  Both also carry the normals of the vertices,
which are not read back.
-/

namespace LoftGraph.Grid

/-- The number that says that a cell is a triangle. -/
def triangleCell : String := "5"

/-! ## Sections -/

/-- The text of a mesh in sections. -/
def writeSections (m : Mesh Float) : String :=
  MeshContent.fileText
    (["# vtk DataFile Version 3.0", "mesh", "ASCII", "DATASET UNSTRUCTURED_GRID",
      s!"POINTS {m.vertexCount} double"] ++
      m.vertices.toList.map MeshContent.pointText ++
      [s!"CELLS {m.triangleCount} {4 * m.triangleCount}"] ++
      m.triangles.toList.map (fun t => "3 " ++ MeshContent.cornerText 0 t) ++
      [s!"CELL_TYPES {m.triangleCount}"] ++
      List.replicate m.triangleCount triangleCell ++
      [s!"POINT_DATA {m.vertexCount}", "NORMALS normals double"] ++
      m.normals.toList.map MeshContent.pointText)

/-- The words of the section that a word opens. -/
def sectionWords (opening : String) (words : List String) : Except MeshReadFault (List String) :=
  match words.dropWhile (· ≠ opening) with
  | [] => .error .unreadable
  | _ :: rest => .ok rest

/-- The count that opens a section, and the words behind it and another one. -/
def sectionCount (words : List String) : Except MeshReadFault (Nat × List String) := do
  let (mine, rest) ← MeshContent.takeWords 2 words
  let count ← MeshContent.int (mine.headD "")
  return (count.toNat, rest)

/-- The content of a text in sections. -/
def readSections (text : String) : Except MeshReadFault MeshContent := do
  let words := (Text.lines text).flatMap Text.words
  let (vertices, words) ← sectionCount (← sectionWords "POINTS" words)
  let (rows, words) ← MeshContent.vertexRows vertices words
  let (faces, words) ← sectionCount (← sectionWords "CELLS" words)
  let (triangles, _) ← MeshContent.faceRows faces words
  return ⟨rows, some triangles⟩

/-! ## Arrays -/

/-- The lines of a named array. -/
def arrayLines (kind name : String) (components : Nat) (rows : List String) : List String :=
  [s!"<DataArray type=\"{kind}\" Name=\"{name}\" " ++
    s!"NumberOfComponents=\"{components}\" format=\"ascii\">"]
    ++ rows ++ ["</DataArray>"]

/-- The text of a mesh in arrays. -/
def writeArrays (m : Mesh Float) : String :=
  let n := m.triangleCount
  MeshContent.fileText
    (["<?xml version=\"1.0\"?>", "<VTKFile type=\"UnstructuredGrid\" version=\"0.1\">",
      "<UnstructuredGrid>",
      s!"<Piece NumberOfPoints=\"{m.vertexCount}\" NumberOfCells=\"{n}\">", "<Points>"] ++
      arrayLines "Float64" "Points" 3 (m.vertices.toList.map MeshContent.pointText) ++
      ["</Points>", "<Cells>"] ++
      arrayLines "Int64" "connectivity" 1 (m.triangles.toList.map (MeshContent.cornerText 0)) ++
      arrayLines "Int64" "offsets" 1 ((List.range n).map (fun i => toString (3 * (i + 1)))) ++
      arrayLines "Int64" "types" 1 (List.replicate n triangleCell) ++
      ["</Cells>", "<PointData>"] ++
      arrayLines "Float64" "normals" 3 (m.normals.toList.map MeshContent.pointText) ++
      ["</PointData>", "</Piece>", "</UnstructuredGrid>", "</VTKFile>"])

/-- The words of the array of a name. -/
def arrayWords (name : String) (lines : List String) : Except MeshReadFault (List String) :=
  let opens := fun (line : String) => (Text.words line).contains s!"Name=\"{name}\""
  match lines.dropWhile (fun line => !opens line) with
  | [] => .error .unreadable
  | _ :: rest => .ok ((rest.takeWhile (· ≠ "</DataArray>")).flatMap Text.words)

/-- The content of a text in arrays.  An array of no points cannot be read. -/
def readArrays (text : String) : Except MeshReadFault MeshContent := do
  let lines := Text.lines text
  let points ← arrayWords "Points" lines
  if points.isEmpty then throw .count
  let numbers ← points.mapM MeshContent.float
  let connectivity ← arrayWords "connectivity" lines
  let corners ← connectivity.mapM MeshContent.int
  return ⟨MeshContent.triples numbers, some (MeshContent.triangleRows corners)⟩

end LoftGraph.Grid
