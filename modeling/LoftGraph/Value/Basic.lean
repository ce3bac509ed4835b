import LoftGraph.Json.Basic
import LoftGraph.Geometry.CrossSection
import LoftGraph.Mesh.Basic
import LoftGraph.Quantity
import LoftGraph.Value.Fixed

/-!
# Values

What crosses a connection between two nodes, or overrides an input of one.  Values come from three
places: documents (`Value.ofJson`), hosts that set an input to something a document cannot hold,
and the nodes themselves.

* Points, placed shapes and cross-sections hold quantities, because a host may give whole numbers.
  Those a node makes are floating point throughout (`Value.ofPoint`, `Value.ofPlacement`,
  `Value.ofSection`).
* A block is a rectangular arrangement of numbers; a polygon is the block of its vertices
  (`Value.ofPolygon`).
-/

namespace LoftGraph

inductive Value where
  | null
  | bool (b : Bool)
  /-- A whole number of any size. -/
  | int (i : Int)
  | float (x : Float)
  /-- A value in a storage format. -/
  | fixed (v : FixedValue)
  | text (s : String)
  | shape (k : ShapeKind)
  | list (items : List Value)
  /-- Values in order that nobody may change. -/
  | tuple (items : List Value)
  | object (entries : List (String × Value))
  | point (p : Point Quantity)
  /-- Numbers in a rectangular arrangement of the given dimensions, row by row. -/
  | block (dims : List Nat) (numbers : List Float)
  | placement (p : Placement Quantity)
  | crossSection (s : CrossSection Quantity)
  | mesh (m : Mesh Float)

namespace Value

instance : Inhabited Value := ⟨null⟩

def isNull : Value → Bool
  | null => true
  | _ => false

@[simp] theorem isNull_null : isNull null = true := rfl

/-- A value is absent exactly when it is the absent value. -/
theorem isNull_iff (v : Value) : v.isNull = true ↔ v = null := by
  cases v <;> simp [isNull]

/-- Is the value one that stands for nothing: absent, false, zero or empty? -/
def isVoid : Value → Bool
  | null => true
  | bool b => !b
  | int i => i == 0
  | float x => x == 0.0
  | text s => s.isEmpty
  | list items => items.isEmpty
  | tuple items => items.isEmpty
  | object entries => entries.isEmpty
  | _ => false

def ofQuantity : Quantity → Value
  | .whole i => int i
  | .real x => float x

def ofPoint (p : Point Float) : Value := point (p.map .real)

/-- The value of a placed shape. -/
def ofPlacement (p : Placement Float) : Value := placement (p.map .real)

def ofSection (s : CrossSection Float) : Value := crossSection (s.map .real)

mutual

def ofJson : Json → Value
  | .null => null
  | .bool b => bool b
  | .int i => int i
  | .float x => float x
  | .string s => text s
  | .array items => list (ofItems items)
  | .object entries => object (ofEntries entries)

def ofItems : List Json → List Value
  | [] => []
  | item :: rest => ofJson item :: ofItems rest

def ofEntries : List (String × Json) → List (String × Value)
  | [] => []
  | (name, value) :: rest => (name, ofJson value) :: ofEntries rest

end

/-- The coordinates of vertices in order. -/
def coordinates (p : Polygon Float) : List Float := p.flatMap (fun v => [v.x, v.y])

/-- The block of the vertices of a polygon. -/
def ofPolygon (p : Polygon Float) : Value := block [p.length, 2] (coordinates p)

/-- An outline, or the absent value for a removed one. -/
def ofOutline : Option (Polygon Float) → Value
  | some p => ofPolygon p
  | none => null

/-- The name of the kind of a value. -/
def typeName : Value → String
  | null => "NoneType"
  | bool _ => "bool"
  | int _ => "int"
  | float _ => "float"
  | fixed v => v.formatName
  | text _ => "str"
  | shape _ => "ShapeKind"
  | list _ => "list"
  | tuple _ => "tuple"
  | object _ => "dict"
  | point _ => "Point2D"
  | block _ _ => "ndarray"
  | placement _ => "ShapeInstance"
  | crossSection _ => "CrossSection"
  | mesh _ => "Mesh"

end Value

end LoftGraph
