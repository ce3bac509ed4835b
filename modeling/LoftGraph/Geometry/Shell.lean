import LoftGraph.Geometry.Spine

/-!
# Hollow shells

A shell is a pair of tubes around the vertical axis, open at both ends: the outer wall faces out,
the inner one in.  The facets of a shell of few segments stay sharp.
-/

namespace LoftGraph

inductive ShellShape where
  | cylinder
  | hexagon
  deriving Repr, DecidableEq

namespace ShellShape

/-- All shells, in the order in which they are offered. -/
def all : List ShellShape := [cylinder, hexagon]

def name : ShellShape → String
  | cylinder => "cylinder"
  | hexagon => "hexagon"

/-- The shell of a name; a cylinder for any other. -/
def ofName (text : String) : ShellShape := (all.find? (fun s => s.name = text)).getD cylinder

def segments : ShellShape → Int
  | cylinder => 96
  | hexagon => 6

end ShellShape

namespace Shell

variable {α : Type} [Circular α]

/-- No inner wall is narrower. -/
def leastInnerRadius : α := Scalar.ofDecimal 1 1

/-- A ring around the vertical axis at a height. -/
def ring (radius y : α) (segments : Int) : Except Fault (List (Point3 α)) := do
  let angles ← Spine.turnAngles segments (0 : α)
  let radius ← Scalar.settled radius
  return angles.map (fun a => ⟨Circular.cos a * radius, y, Circular.sin a * radius⟩)

def addTube (b : MeshBuilder α) (bottom top : List (Point3 α)) (reverse : Bool) :
    MeshBuilder α :=
  let lower := b.vertexCount
  let b := b.addVertices bottom
  let upper := b.vertexCount
  (b.addVertices top).connectRings lower upper bottom.length reverse

/-- The outer and the inner tube. -/
def openShell (height radius thickness : α) (segments : Count) : Except Fault (Mesh α) := do
  let width ← Scalar.checked (radius - thickness)
  let inner := Scalar.larger leastInnerRadius width
  let half ← Scalar.checked (height / 2)
  let segments ← segments
  let outerBottom ← ring radius (-half) segments
  let outerTop ← ring radius half segments
  let innerBottom ← ring inner (-half) segments
  let innerTop ← ring inner half segments
  let b := addTube MeshBuilder.empty outerBottom outerTop false
  let b := addTube b innerBottom innerTop true
  return b.build (6 < segments)

end Shell

/-- What a shell is made from. -/
structure ShellSettings (α : Type) where
  shape : String
  height : α
  /-- Its outer radius, that of the corners for a hexagon. -/
  radius : α
  thickness : α

namespace ShellSettings

variable {α : Type}

/-- The settings of a panel nobody has touched. -/
def standard [Scalar α] : ShellSettings α := ⟨ShellShape.cylinder.name, 200, 50, 2⟩

def mesh [Circular α] (s : ShellSettings α) : Except Fault (Mesh α) :=
  Shell.openShell s.height s.radius s.thickness (.ok (ShellShape.ofName s.shape).segments)

end ShellSettings

end LoftGraph
