import LoftGraph.Text.Case
import LoftGraph.Text.Line

/-!
# Mesh file formats

The formats a mesh can be exported to, each with the extension that selects it and the name it is
offered under.  The extension of a file name is taken without regard to case, and a name that
only starts with a point has none.
-/

namespace LoftGraph

inductive MeshFormat where
  | stl
  /-- Vertices and faces, one a line. -/
  | obj
  | ply
  | off
  | vtk
  | vtu
  deriving Repr, DecidableEq

namespace MeshFormat

/-- All formats, in the order in which they are offered. -/
def all : List MeshFormat := [stl, obj, ply, off, vtk, vtu]

/-- The extension that selects a format. -/
def extension : MeshFormat → String
  | stl => ".stl"
  | obj => ".obj"
  | ply => ".ply"
  | off => ".off"
  | vtk => ".vtk"
  | vtu => ".vtu"

/-- The name a format is offered under. -/
def title : MeshFormat → String
  | stl => "STL"
  | obj => "Wavefront OBJ"
  | ply => "Stanford PLY"
  | off => "Object File Format"
  | vtk => "VTK Legacy"
  | vtu => "VTK Unstructured"

def ofExtension? (ext : String) : Option MeshFormat := all.find? (fun f => f.extension = ext)

@[simp] theorem ofExtension?_extension (f : MeshFormat) : ofExtension? f.extension = some f := by
  cases f <;> rfl

/-- The choices of a file dialog: all formats together, then each by itself. -/
def filterText : String :=
  let together := String.intercalate " " (all.map (fun f => "*" ++ f.extension))
  String.intercalate ";;"
    (s!"All Mesh Files ({together})" :: all.map (fun f => s!"{f.title} (*{f.extension})"))

end MeshFormat

namespace FileName

/-- The parts of a path, without the empty ones and those that stay where they are. -/
def parts (path : String) : List String :=
  (Text.split (· = '/') path.toList).filter (fun part => part ≠ "" ∧ part ≠ ".")

/-- The path without what does not change where it leads. -/
def plain (path : String) : String := String.intercalate "/" (parts path)

/-- Is there nothing but points before the extension? -/
def isBare (path : String) : Bool :=
  let name := ((parts path).getLast?.getD "").toList
  ((name.reverse.dropWhile (· ≠ '.')).all (· = '.'))

/-- Does a path lead out of the folder it starts from? -/
def isOutside (path : String) : Bool :=
  path.toList.head? = some '/' || (parts path).head? = some ".."

/-- Does a path end in a slash? -/
def endsInSlash (path : String) : Bool := path.toList.getLast? = some '/'

/-- Does a path name what can only be a folder? -/
def isFolder (path : String) : Bool :=
  ["", ".", ".."].contains ((Text.split (· = '/') path.toList).getLastD "")

/-- The plain path of a file in the folder or below it; none if the path leads elsewhere or can only
be a folder's. -/
def inside? (path : String) : Option String :=
  if isFolder path || isOutside path then none else some (plain path)

/-- The most bytes a part of a path may have. -/
def partLimit : Nat := 255

/-- The most bytes a path may have. -/
def pathLimit : Nat := 4095

/-- The extension of a path, in lower case and with its point; empty if there is none. -/
def extension (path : String) : String :=
  let name := ((parts path).getLast?.getD "").toList
  let tail := (name.reverse.takeWhile (· ≠ '.')).reverse
  let stem := name.length - tail.length
  if 1 < stem ∧ tail ≠ [] then String.ofList (Text.lowered ('.' :: tail)) else ""

end FileName

end LoftGraph
