import LoftGraph.Numeral
import LoftGraph.Text.Quoted
import LoftGraph.Value.Display

/-!
# Numbers and polygons read off values

A value is a number when it is one, when it is a truth value, or when it is a text that spells one
(`Value.number`); the whole number it starts with is read apart (`Value.wholePart`).

A polygon is read off any nested arrangement of numbers: the arrangement has to be rectangular, the
absent value stands for an undefined number, and the numbers are then taken in pairs, whatever the
width of the rows (`Value.polygon`).  Triangles are read in the same way, in threes
(`Value.triangles`).

A `ReadFault` says why a value is not what it is read as.
-/

namespace LoftGraph

/-- Why a value is not a number or not a polygon. -/
inductive ReadFault where
  /-- A value of this kind never is a number. -/
  | notNumeric (kind : String)
  /-- The text does not spell a number. -/
  | malformed (text : String)
  /-- The whole number is out of the range of floating point. -/
  | tooLarge
  /-- A value of this kind has no items. -/
  | noItems (kind : String)
  | ragged
  /-- Rows lie too deep inside each other. -/
  | tooDeep
  /-- The numbers cannot be taken in groups of this size. -/
  | unpaired (size : Nat)
  /-- The number has no whole part. -/
  | notWhole (fault : Fault)
  deriving Repr, DecidableEq

namespace ReadFault

/-- The sentence shown for a fault. -/
def message : ReadFault → String
  | notNumeric kind => s!"float() argument must be a string or a real number, not '{kind}'"
  | malformed text => s!"could not convert string to float: {Text.quoted text}"
  | tooLarge => "int too large to convert to float"
  | noItems kind => s!"'{kind}' object is not iterable"
  | ragged | tooDeep => "setting an array element with a sequence."
  | unpaired size => s!"cannot reshape array into shape ({size})"
  | notWhole fault => fault.message

/-- Is the fault one of range, and not of form? -/
def isRange : ReadFault → Bool
  | tooLarge => true
  | _ => false

end ReadFault

namespace Value

def ofTruth (b : Bool) : Float := if b then 1.0 else 0.0

/-- The number nearest to a whole number. -/
def wholeNumber (i : Int) : Except ReadFault Float :=
  match floatOfInt? i with
  | some x => .ok x
  | none => .error .tooLarge

def spelledNumber (s : String) : Except ReadFault Float :=
  match Numeral.float? s with
  | some x => .ok x
  | none => .error (.malformed s)

/-- The number of a value.  A block is one if it has no dimensions; a one-dimensional block of one
number is refused, as numpy does from version 2.4 on. -/
def number : Value → Except ReadFault Float
  | bool b => .ok (ofTruth b)
  | int i => wholeNumber i
  | float x => .ok x
  | fixed (.truth b) => .ok (ofTruth b)
  | fixed (.whole _ i) => wholeNumber i
  | fixed (.real _ x) => .ok x
  | text s | fixed (.text s) => spelledNumber s
  | shape k => spelledNumber k.name
  | block [] [x] => .ok x
  | value => .error (.notNumeric value.typeName)

/-- Consecutive numbers in groups of this size. -/
def rows (width : Nat) : Nat → List Float → List (List Float)
  | 0, _ => []
  | n + 1, numbers => numbers.take width :: rows width n (numbers.drop width)

def blockRows : List Nat → List Float → List Value
  | [], _ => []
  | [_], numbers => numbers.map float
  | count :: dims, numbers => (rows (dims.foldl (· * ·) 1) count numbers).map (block dims)

/-- The characters of a text, each a text. -/
def characters (s : String) : List Value := s.toList.map (fun c => text c.toString)

/-- The values one gets by going through a value; nothing for one that has no items. -/
def items? : Value → Option (List Value)
  | text s | fixed (.text s) => some (characters s)
  | shape k => some (characters k.name)
  | list items => some items
  | tuple items => some items
  | object entries => some (entries.map (fun entry => text entry.1))
  | point p => some [ofQuantity p.x, ofQuantity p.y]
  | block [] _ => none
  | block dims numbers => some (blockRows dims numbers)
  | _ => none

/-- A rectangular arrangement of values that are not arranged any further. -/
structure Arrangement where
  /-- The dimensions, the outermost first. -/
  dims : List Nat
  leaves : List Value

/-- Arrangements of the same dimensions as one, if they have the same dimensions. -/
def Arrangement.stack (parts : List Arrangement) : Except ReadFault Arrangement :=
  match parts with
  | [] => .ok ⟨[0], []⟩
  | first :: rest =>
    if rest.all (fun part => part.dims == first.dims) then
      .ok ⟨parts.length :: first.dims, parts.flatMap Arrangement.leaves⟩
    else .error .ragged

mutual

/-- How the values inside a value are arranged, however deep they lie. -/
def nesting : Value → Except ReadFault Arrangement
  | list items => do Arrangement.stack (← nestings items)
  | tuple items => do Arrangement.stack (← nestings items)
  | point p => .ok ⟨[2], [ofQuantity p.x, ofQuantity p.y]⟩
  | block dims numbers => .ok ⟨dims, numbers.map float⟩
  | null => .ok ⟨[], [null]⟩
  | bool b => .ok ⟨[], [bool b]⟩
  | int i => .ok ⟨[], [int i]⟩
  | float x => .ok ⟨[], [float x]⟩
  | fixed v => .ok ⟨[], [fixed v]⟩
  | text s => .ok ⟨[], [text s]⟩
  | shape k => .ok ⟨[], [shape k]⟩
  | object entries => .ok ⟨[], [object entries]⟩
  | placement p => .ok ⟨[], [placement p]⟩
  | crossSection s => .ok ⟨[], [crossSection s]⟩
  | mesh m => .ok ⟨[], [mesh m]⟩

/-- How the values inside each item are arranged. -/
def nestings : List Value → Except ReadFault (List Arrangement)
  | [] => .ok []
  | item :: rest => do
    let first ← nesting item
    let others ← nestings rest
    return first :: others

end

/-- The most dimensions an arrangement has. -/
def dimensionLimit : Nat := 64

/-- How the values inside a value are arranged. -/
def arrangement (value : Value) : Except ReadFault Arrangement := do
  let arranged ← nesting value
  if dimensionLimit < arranged.dims.length then .error .tooDeep else return arranged

/-- The number of an arranged value: the absent value stands for an undefined one. -/
def arrangedNumber : Value → Except ReadFault Float
  | null => .ok (0.0 / 0.0)
  | value => number value

/-- All numbers of a nested arrangement, row by row. -/
def numbers (value : Value) : Except ReadFault (List Float) := do
  let arranged ← arrangement value
  arranged.leaves.mapM arrangedNumber

/-- The whole number a value starts with, toward zero. -/
def wholePart : Value → Except ReadFault Int
  | bool b => .ok (if b then 1 else 0)
  | int i => .ok i
  | fixed (.truth b) => .ok (if b then 1 else 0)
  | fixed (.whole _ i) => .ok i
  | float x | fixed (.real _ x) => (countOfFloat x).mapError .notWhole
  | text s | fixed (.text s) =>
    match Numeral.int? s with
    | some i => .ok i
    | none => .error (.malformed s)
  | value => .error (.notNumeric value.typeName)

/-- The whole number a value starts with, if it is within the bounds of a format. -/
def wholeWithin (format : WholeFormat) (value : Value) : Except ReadFault Int := do
  let i ← value.wholePart
  if format.holds i then return i else .error .tooLarge

/-- A value kept in a storage format. -/
def stored (format : StorageFormat) (value : Value) : Except ReadFault FixedValue :=
  match format with
  | .truth => .ok (.truth (!value.isVoid))
  | .whole format => .whole format <$> value.wholeWithin format
  | .real format => (fun x => .real format (format.keep x)) <$> value.arrangedNumber
  | .text => .ok (.text value.plain)

/-- The quantity a value is: a whole number stays one. -/
def quantity : Value → Except ReadFault Quantity
  | int i => .ok (.whole i)
  | value => .real <$> number value

def triangleGroups : List Int → Except ReadFault (List Triangle)
  | [] => .ok []
  | a :: b :: c :: rest => do
    let others ← triangleGroups rest
    return ⟨a, b, c⟩ :: others
  | _ => .error (.unpaired 3)

/-- The triangles a value lists, whatever the width of its rows.  Corners are kept in 64 bits. -/
def triangles (value : Value) : Except ReadFault (List Triangle) := do
  let arranged ← value.arrangement
  let corners ← arranged.leaves.mapM (wholeWithin (.ofWidth 64 true))
  triangleGroups corners

/-- Consecutive numbers as points of the plane. -/
def pairs : List Float → Except ReadFault (Polygon Float)
  | [] => .ok []
  | [_] => .error (.unpaired 2)
  | x :: y :: rest => do
    let others ← pairs rest
    return ⟨x, y⟩ :: others

/-- Consecutive numbers as points of space. -/
def triples : List Float → Except ReadFault (List (Point3 Float))
  | [] => .ok []
  | x :: y :: z :: rest => do
    let others ← triples rest
    return ⟨x, y, z⟩ :: others
  | _ => .error (.unpaired 3)

def polygon (value : Value) : Except ReadFault (Polygon Float) := do
  match value with
  | block _ numbers => pairs numbers
  | _ =>
    match value.items? with
    | none => .error (.noItems value.typeName)
    | some items => pairs (← numbers (list items))

@[simp] theorem pairs_coordinates (p : Polygon Float) : pairs (coordinates p) = .ok p := by
  induction p with
  | nil => rfl
  | cons v rest ih =>
      have h : coordinates (v :: rest) = v.x :: v.y :: coordinates rest := rfl
      rw [h, pairs, ih]
      rfl

/-- The block of the vertices of a polygon is that polygon. -/
@[simp] theorem polygon_ofPolygon (p : Polygon Float) : polygon (ofPolygon p) = .ok p := by
  simp [polygon, ofPolygon]

end Value

end LoftGraph
