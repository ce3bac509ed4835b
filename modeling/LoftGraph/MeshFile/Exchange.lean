import LoftGraph.Log
import LoftGraph.MeshFile.Counted
import LoftGraph.MeshFile.Elements
import LoftGraph.MeshFile.Facets
import LoftGraph.MeshFile.Format
import LoftGraph.MeshFile.Grid
import LoftGraph.MeshFile.Wavefront
import LoftGraph.Text.Quoted

/-!
# Exporting and importing meshes

The extension of a file name selects the format.  Exporting refuses an unknown extension first, a
mesh without triangles second, and then what the format or the name does not allow.  What is
exported can be imported again: coordinates and triangles come back as they were, except that loose
triangles come back with the vertices at one place put together.
-/

namespace LoftGraph

namespace MeshFormat

def write : MeshFormat → Mesh Float → String
  | stl => Facets.write
  | obj => Wavefront.write
  | ply => Elements.write
  | off => Counted.write
  | vtk => Grid.writeSections
  | vtu => Grid.writeArrays

def read : MeshFormat → String → Except MeshReadFault MeshContent
  | stl => Facets.read
  | obj => Wavefront.read
  | ply => Elements.read
  | off => Counted.read
  | vtk => Grid.readSections
  | vtu => Grid.readArrays

end MeshFormat

/-- Why a file is not opened. -/
inductive FileRefusal where
  | noFolder
  /-- What should be a folder is a file. -/
  | notFolder
  /-- The name is that of a folder. -/
  | isFolder
  /-- A part of the name is too long. -/
  | longName
  /-- The name holds the character zero. -/
  | zero
  deriving Repr, DecidableEq

/-- The sentence shown for a file that is not opened. -/
def FileRefusal.message (name : String) : FileRefusal → String
  | noFolder => s!"[Errno 2] No such file or directory: {Text.quoted name}"
  | notFolder => s!"[Errno 20] Not a directory: {Text.quoted name}"
  | isFolder => s!"[Errno 21] Is a directory: {Text.quoted name}"
  | longName => s!"[Errno 36] File name too long: {Text.quoted name}"
  | zero => "embedded null byte"

/-- Why a file of a name could not be written where there are some files and no other folder.  The
first part of the name that is not the folder above decides. -/
def FileName.refusal? (isFile : String → Bool) (name : String) : Option FileRefusal :=
  if name.toList.contains '\x00' then some .zero
  else if pathLimit < name.utf8ByteSize then some .longName
  else
    match (parts name).dropWhile (· = "..") with
    | [] => some .isFolder
    | first :: rest =>
      if partLimit < first.utf8ByteSize then some .longName
      else if rest.isEmpty && !isFolder name then none
      else if isFile first && !isOutside name then some .notFolder
      else if rest.isEmpty && endsInSlash name then some .isFolder
      else some .noFolder

/-- Why a mesh is not exported. -/
inductive ExportFault where
  | unsupported (extension : String)
  /-- There is nothing to write into the file. -/
  | nothing (name : String)
  /-- There are fewer or more normals than vertices. -/
  | normals (expected given : Nat)
  /-- The name is nothing but an extension. -/
  | bare (name : String)
  | refused (name : String) (refusal : FileRefusal)
  /-- A triangle has a corner that is no vertex. -/
  | corner (fault : Fault)
  deriving Repr, DecidableEq

/-- The sentence shown for a refusal. -/
def ExportFault.message : ExportFault → String
  | unsupported extension =>
    let supported := String.intercalate ", " (MeshFormat.all.map MeshFormat.extension)
    s!"Unsupported mesh format '{extension}'. Supported: {supported}"
  | nothing name => s!"Nothing to export to {name}: the mesh has no triangles"
  | normals expected given =>
    s!"len(points) = {expected}, but len(point_data[\"normals\"]) = {given}"
  | bare name => s!"Could not deduce file format from path '{name}'."
  | refused name refusal => refusal.message name
  | corner fault => fault.message

def MeshFormat.keepsNormals : MeshFormat → Bool
  | vtk | vtu => true
  | _ => false

/-- The text of the file a mesh is exported to.  A format that keeps normals needs one for every
vertex, and loose triangles need their corners; the other formats write what they are given. -/
def exportMesh (name : String) (m : Mesh Float) : Except ExportFault String :=
  let ext := FileName.extension name
  match MeshFormat.ofExtension? ext with
  | none => .error (.unsupported ext)
  | some format =>
    if m.isEmpty then .error (.nothing name)
    else if format.keepsNormals && m.vertexCount ≠ 0 && m.normals.size ≠ m.vertexCount then
      .error (.normals m.vertexCount m.normals.size)
    else if FileName.isBare name then .error (.bare name)
    else if format = .stl then do
      (Mesh.checkCorners m.vertices.size m.triangles).mapError .corner
      return format.write m
    else .ok (format.write m)

/-- A mesh that was imported, with what was logged. -/
structure Imported where
  mesh : Mesh Float
  log : List LogLine

def importMesh (name text : String) : Except MeshReadFault Imported :=
  match MeshFormat.ofExtension? (FileName.extension name), FileName.isBare name with
  | none, _ | _, true => .error .noFormat
  | some format, false => do
    let content ← format.read text
    match ← content.mesh? with
    | some m => return ⟨m, []⟩
    | none => return ⟨Mesh.empty, [⟨.warning, s!"No triangle cells in {name}"⟩]⟩

end LoftGraph
