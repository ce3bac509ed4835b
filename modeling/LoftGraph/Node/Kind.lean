import LoftGraph.Value.Number
import LoftGraph.Value.Display

/-!
# Kinds of values and coercion

Every port has a kind, and a value that reaches an input is brought into the kind of the port
first (`DataKind.coerce`), so a node can rely on what it gets.  The absent value is of every kind
and passes.

Coercion is strict about what it does not understand: it refuses with a `CoercionFault` that names
what was expected and shows what came.  A whole number beyond the range of floating point is a
fault of its own, and so is a value that cannot be shown.

A text or a truth value in a storage format is one already.  A number in a storage format gives a
truth value in such a format.
-/

namespace LoftGraph

/-- The kinds of values that cross connections. -/
inductive DataKind where
  | number
  | boolean
  | string
  | shapeKind
  | pattern
  | geometry
  | crossSectionSet
  | point2D
  /-- Polygons in order, some of them removed. -/
  | point2DList
  deriving Repr, DecidableEq

/-- Why a value cannot be brought into a kind. -/
inductive CoercionFault where
  | expected (what got : String)
  /-- No primitive shape is called so. -/
  | unknownShape (got : String)
  /-- A whole number is out of the range of floating point. -/
  | outOfRange
  /-- What came holds a whole number that is too long to be shown. -/
  | unshown
  deriving Repr, DecidableEq

/-- The sentence shown for a fault. -/
def CoercionFault.message : CoercionFault → String
  | expected what got => s!"Expected {what}, got {got}"
  | unknownShape got => s!"Unknown shape kind {got}"
  | outOfRange => ReadFault.tooLarge.message
  | unshown =>
    s!"Exceeds the limit ({Numeral.digitLimit} digits) for integer string conversion; " ++
      "use sys.set_int_max_str_digits() to increase the limit"

namespace DataKind

def all : List DataKind :=
  [number, boolean, string, shapeKind, pattern, geometry, crossSectionSet, point2D, point2DList]

def name : DataKind → String
  | number => "number"
  | boolean => "boolean"
  | string => "string"
  | shapeKind => "shapeKind"
  | pattern => "pattern"
  | geometry => "geometry"
  | crossSectionSet => "crossSectionSet"
  | point2D => "point2D"
  | point2DList => "point2DList"

def ofName? (text : String) : Option DataKind := all.find? (fun k => k.name = text)

@[simp] theorem ofName?_name (k : DataKind) : ofName? k.name = some k := by
  cases k <;> rfl

/-- Does the kind carry geometry, and not a parameter? -/
def isData : DataKind → Bool
  | pattern | point2DList | crossSectionSet | geometry => true
  | _ => false

end DataKind

namespace Coercion

/-- A fault that shows a value, or that it cannot be shown. -/
def showing {α : Type} (fault : String → CoercionFault) (value : Value) : Except CoercionFault α :=
  .error ((value.display?.map fault).getD .unshown)

/-- Something else was expected; the value is shown. -/
def refuse {α : Type} (what : String) (value : Value) : Except CoercionFault α :=
  showing (.expected what) value

/-- Something else was expected; the kind of the value is named. -/
def refuseKind {α : Type} (what : String) (value : Value) : Except CoercionFault α :=
  .error (.expected what value.typeName)

/-- A reading with its faults of form told as one refusal. -/
def reading {α : Type} (read : Except ReadFault α) (what : String) (value : Value) :
    Except CoercionFault α :=
  match read with
  | .ok x => .ok x
  | .error fault => if fault.isRange then .error .outOfRange else refuse what value

/-- Does a number differ from zero?  What is not a number does. -/
def nonzero (x : Float) : Bool := !(x == 0.0)

/-- The truth value a text spells, blanks and case aside. -/
def spelledTruth? (s : String) : Option Bool :=
  let word := Text.lower (Text.trim s.toList)
  if word = "true".toList then some true
  else if word = "false".toList then some false
  else none

def toNumber (value : Value) : Except CoercionFault Float :=
  match value with
  | .bool _ | .int _ | .float _ | .text _ | .fixed (.whole _ _) | .fixed (.real _ _)
  | .fixed (.text _) =>
    reading value.number "a number" value
  | _ => refuse "a number" value

def toBoolean (value : Value) : Except CoercionFault Value :=
  match value with
  | .bool b | .fixed (.truth b) => .ok (.bool b)
  | .int i => .ok (.bool (i != 0))
  | .float x => .ok (.bool (nonzero x))
  | .fixed (.whole _ i) => .ok (.fixed (.truth (i != 0)))
  | .fixed (.real _ x) => .ok (.fixed (.truth (nonzero x)))
  | .text s | .fixed (.text s) =>
    match spelledTruth? s with
    | some b => .ok (.bool b)
    | none => refuse "a boolean" value
  | _ => refuse "a boolean" value

def toText (value : Value) : Except CoercionFault Value :=
  match value with
  | .text _ | .fixed (.text _) => .ok value
  | .shape k => .ok (.text k.name)
  | _ => refuse "a string" value

def toShape (value : Value) : Except CoercionFault ShapeKind :=
  match value with
  | .shape k => .ok k
  | .text s | .fixed (.text s) =>
    match ShapeKind.ofName? s with
    | some k => .ok k
    | none => showing .unknownShape value
  | _ => showing .unknownShape value

/-- The items of a list or tuple, each read in the same way; nothing when one cannot be. -/
def listed? {α : Type} (read : Value → Option α) : Value → Option (List α)
  | .list items => items.mapM read
  | .tuple items => items.mapM read
  | _ => none

def placement? : Value → Option (Placement Quantity)
  | .placement p => some p
  | _ => none

def crossSection? : Value → Option (CrossSection Quantity)
  | .crossSection s => some s
  | _ => none

def toPattern (value : Value) : Except CoercionFault (List (Placement Quantity)) :=
  match listed? placement? value with
  | some placements => .ok placements
  | none => refuseKind "a list of ShapeInstance" value

def toMesh (value : Value) : Except CoercionFault (Mesh Float) :=
  match value with
  | .mesh m => .ok m
  | _ => refuseKind "a Mesh" value

def toSections (value : Value) : Except CoercionFault (List (CrossSection Quantity)) :=
  match listed? crossSection? value with
  | some sections => .ok sections
  | none => refuseKind "a list of CrossSection" value

/-- A point of the plane: two items that are numbers. -/
def toPoint (value : Value) : Except CoercionFault (Point Float) :=
  match value.items? with
  | some [x, y] => reading (do return ⟨← x.number, ← y.number⟩) "a 2D point" value
  | _ => refuse "a 2D point" value

/-- A polygon, or nothing for a removed one. -/
def toOutline (value : Value) : Except CoercionFault (Option (Polygon Float)) :=
  match value with
  | .null => .ok none
  | _ => do
    let polygon ← reading value.polygon "a polygon" value
    return some polygon

/-- Polygons in order, some of them removed. -/
def toOutlines (value : Value) : Except CoercionFault (Outlines Float) :=
  match value with
  | .list items | .tuple items => items.mapM toOutline
  | .point p => [Value.ofQuantity p.x, Value.ofQuantity p.y].mapM toOutline
  | _ => refuseKind "a list of polygons" value

end Coercion

namespace DataKind

/-- A value of this kind that stands for a given one. -/
def coerceValue (kind : DataKind) (value : Value) : Except CoercionFault Value :=
  match kind with
  | number => do return .float (← Coercion.toNumber value)
  | boolean => Coercion.toBoolean value
  | string => Coercion.toText value
  | shapeKind => do return .shape (← Coercion.toShape value)
  | pattern => do return .list ((← Coercion.toPattern value).map Value.placement)
  | geometry => do return .mesh (← Coercion.toMesh value)
  | crossSectionSet => do return .list ((← Coercion.toSections value).map Value.crossSection)
  | point2D => do return .ofPoint (← Coercion.toPoint value)
  | point2DList => do return .list ((← Coercion.toOutlines value).map Value.ofOutline)

/-- A value of this kind, or the absent value for the absent one. -/
def coerce (kind : DataKind) (value : Value) : Except CoercionFault Value :=
  if value.isNull then .ok .null else kind.coerceValue value

@[simp] theorem coerce_null (kind : DataKind) : kind.coerce .null = .ok .null := rfl

end DataKind

end LoftGraph
