import LoftGraph.Value.Number

/-!
# Values in documents

`Value.toJson?` is the form of a value in a document.  Shapes are stored by name, values lose
their storage format, blocks become nested lists; meshes, placed shapes and cross-sections have no
form.  A value that came from a document goes back to what it came from (`toJson?_ofJson`).
-/

namespace LoftGraph.Value

/-- Numbers as items of a document. -/
def jsonNumbers (numbers : List Float) : List Json := numbers.map Json.float

/-- A rectangular arrangement of numbers as nested lists. -/
def jsonRows : List Nat → List Float → Json
  | [], [x] => .float x
  | [], numbers => .array (jsonNumbers numbers)
  | [_], numbers => .array (jsonNumbers numbers)
  | count :: dims, numbers =>
    .array ((rows (dims.foldl (· * ·) 1) count numbers).map (jsonRows dims))

def jsonQuantity : Quantity → Json
  | .whole i => .int i
  | .real x => .float x

/-- A value without its storage format. -/
def jsonFixed : FixedValue → Json
  | .truth b => .bool b
  | .whole _ i => .int i
  | .real _ x => .float x
  | .text s => .string s

mutual

/-- The form of a value in a document, if it has one. -/
def toJson? : Value → Option Json
  | null => some .null
  | bool b => some (.bool b)
  | int i => some (.int i)
  | float x => some (.float x)
  | fixed v => some (jsonFixed v)
  | text s => some (.string s)
  | shape k => some (.string k.name)
  | list items => (jsonItems? items).map Json.array
  | tuple items => (jsonItems? items).map Json.array
  | object entries => (jsonEntries? entries).map Json.object
  | point p => some (.array [jsonQuantity p.x, jsonQuantity p.y])
  | block dims numbers => some (jsonRows dims numbers)
  | placement _ => none
  | crossSection _ => none
  | mesh _ => none

def jsonItems? : List Value → Option (List Json)
  | [] => some []
  | item :: rest => do
    let first ← toJson? item
    let others ← jsonItems? rest
    some (first :: others)

def jsonEntries? : List (String × Value) → Option (List (String × Json))
  | [] => some []
  | (name, value) :: rest => do
    let first ← toJson? value
    let others ← jsonEntries? rest
    some ((name, first) :: others)

end

mutual

/-- A value from a document goes back to the document it came from. -/
@[simp] theorem toJson?_ofJson : (j : Json) → toJson? (ofJson j) = some j
  | .null => rfl
  | .bool _ => rfl
  | .int _ => rfl
  | .float _ => rfl
  | .string _ => rfl
  | .array items => by simp [ofJson, toJson?, jsonItems?_ofItems items]
  | .object entries => by simp [ofJson, toJson?, jsonEntries?_ofEntries entries]

/-- Items from a document go back to the items they came from. -/
theorem jsonItems?_ofItems : (items : List Json) → jsonItems? (ofItems items) = some items
  | [] => rfl
  | item :: rest => by simp [ofItems, jsonItems?, toJson?_ofJson item, jsonItems?_ofItems rest]

/-- Entries from a document go back to the entries they came from. -/
theorem jsonEntries?_ofEntries :
    (entries : List (String × Json)) → jsonEntries? (ofEntries entries) = some entries
  | [] => rfl
  | (name, value) :: rest => by
    simp [ofEntries, jsonEntries?, toJson?_ofJson value, jsonEntries?_ofEntries rest]

end

end LoftGraph.Value
