import LoftGraph.Numeral
import LoftGraph.Value.Basic
import LoftGraph.Text.Block
import LoftGraph.Text.Quoted

/-!
# How a value is shown

`Value.display` is the text that stands for a value inside a message: texts are quoted, containers
list what they hold, and a value with parts shows them by name.  `Value.plain` differs for a text,
which stands for itself.

A whole number is shown only up to so many digits, and a value that holds a longer one is not shown
at all (`Value.display?`).
-/

namespace LoftGraph.Value

/-- The text of a floating point number. -/
def showFloat (x : Float) : String := NumberLayout.display.write x

/-- The text of a truth value. -/
def showBool (b : Bool) : String := if b then "True" else "False"

def bracketed (opening closing : String) (parts : List String) : String :=
  opening ++ String.intercalate ", " parts ++ closing

/-- A tuple of one item has a comma after it. -/
def showTuple : List String → String
  | [part] => "(" ++ part ++ ",)"
  | parts => bracketed "(" ")" parts

def showRecord (name : String) (parts : List (String × String)) : String :=
  name ++ bracketed "(" ")" (parts.map (fun part => part.1 ++ "=" ++ part.2))

def showShape (k : ShapeKind) : String :=
  s!"<ShapeKind.{k.name.map Char.toUpper}: {Text.quoted k.name}>"

/-- A value in a storage format.  A number of extended precision is quoted. -/
def showFixed : FixedValue → String
  | .truth b => "np." ++ showBool b ++ "_"
  | .whole format i => s!"np.{format.widthName}({i})"
  | .real format x =>
    let number := format.layout.writeIn format.precision x
    s!"np.{format.name}" ++
      bracketed "(" ")" [if format = .extended then Text.quoted number else number]
  | .text s => "np.str_" ++ bracketed "(" ")" [Text.quoted s]

/-- A quantity: a whole number has no point. -/
def showQuantity : Quantity → String
  | .whole i => toString i
  | .real x => showFloat x

def showPoint (p : Point Quantity) : String :=
  showRecord "Point2D" [("x", showQuantity p.x), ("y", showQuantity p.y)]

/-- A polygon, as the block of its vertices. -/
def showPolygon (p : Polygon Quantity) : String :=
  Text.Block.numbers [p.length, 2] (coordinates (p.map (Point.map Quantity.toFloat)))

/-- A measure that may be open. -/
def showMeasure (q : Option Quantity) : String := (q.map showQuantity).getD "None"

def showPlacement (p : Placement Quantity) : String :=
  showRecord "ShapeInstance"
    [("center", showPoint p.center), ("rotation", showQuantity p.rotation),
     ("scale", showQuantity p.scale), ("shape", showShape p.shape), ("size", showMeasure p.size),
     ("star_points", toString p.starPoints), ("cross_thickness", showMeasure p.crossThickness)]

def showSection (s : CrossSection Quantity) : String :=
  showRecord "CrossSection"
    [("outer", showPolygon s.outer), ("holes", showTuple (s.holes.map showPolygon)),
     ("t", showQuantity s.t)]

/-- Points of space, as a block. -/
def showPoints (ps : Array (Point3 Float)) : String :=
  Text.Block.numbers [ps.size, 3] (ps.toList.flatMap Point3.toList)

def showMesh (m : Mesh Float) : String :=
  let corners := m.triangles.toList.flatMap Triangle.corners
  showRecord "Mesh"
    [("vertices", showPoints m.vertices),
     ("indices", Text.Block.wholes [m.triangles.size, 3] corners),
     ("normals", showPoints m.normals)]

mutual

/-- The text that stands for a value inside a message. -/
def display : Value → String
  | null => "None"
  | bool b => showBool b
  | int i => toString i
  | float x => showFloat x
  | fixed v => showFixed v
  | text s => Text.quoted s
  | shape k => showShape k
  | list items => bracketed "[" "]" (displayItems items)
  | tuple items => showTuple (displayItems items)
  | object entries => bracketed "\x7b" "\x7d" (displayEntries entries)
  | point p => showPoint p
  | block dims numbers => Text.Block.numbers dims numbers
  | placement p => showPlacement p
  | crossSection s => showSection s
  | mesh m => showMesh m

def displayItems : List Value → List String
  | [] => []
  | item :: rest => display item :: displayItems rest

def displayEntries : List (String × Value) → List String
  | [] => []
  | (name, value) :: rest => (Text.quoted name ++ ": " ++ display value) :: displayEntries rest

end

/-! ## Numbers too long to be shown -/

/-- Has a whole number more digits than are shown? -/
def isLong (i : Int) : Bool := Nat.pow 10 Numeral.digitLimit ≤ i.natAbs

def longQuantity : Quantity → Bool
  | .whole i => isLong i
  | .real _ => false

def longPoint (p : Point Quantity) : Bool := longQuantity p.x || longQuantity p.y

def longPlacement (p : Placement Quantity) : Bool :=
  longPoint p.center || longQuantity p.rotation || longQuantity p.scale ||
    p.size.any longQuantity || isLong p.starPoints || p.crossThickness.any longQuantity

mutual

/-- Does the text of a value hold a whole number that is too long to be shown?  In blocks and in
storage formats there is none. -/
def holdsLong : Value → Bool
  | int i => isLong i
  | list items => holdLong items
  | tuple items => holdLong items
  | object entries => entriesHoldLong entries
  | point p => longPoint p
  | placement p => longPlacement p
  | crossSection s => longQuantity s.t
  | null | bool _ | float _ | fixed _ | text _ | shape _ | block _ _ | mesh _ => false

def holdLong : List Value → Bool
  | [] => false
  | item :: rest => holdsLong item || holdLong rest

def entriesHoldLong : List (String × Value) → Bool
  | [] => false
  | (_, value) :: rest => holdsLong value || entriesHoldLong rest

end

/-- The text that stands for a value inside a message, if there is one. -/
def display? (value : Value) : Option String :=
  if value.holdsLong then none else some value.display

/-- The text of a value on its own: a text is itself. -/
def plain : Value → String
  | text s => s
  | value => display value

end LoftGraph.Value
