import LoftGraph.Fields

/-!
# Document values

The values a document can hold.  Integers and floating point numbers are kept apart, because a
document that is written again spells them differently, and an object keeps the order of its
entries.
-/

namespace LoftGraph

inductive Json where
  | null
  | bool (b : Bool)
  /-- A number without fraction and exponent. -/
  | int (i : Int)
  | float (x : Float)
  | string (s : String)
  | array (items : List Json)
  | object (entries : List (String × Json))
  deriving Repr, Inhabited

namespace Json

/-- The entry of an object; nothing for a value that is no object. -/
def field? : Json → String → Option Json
  | object entries, key => Fields.value? entries key
  | _, _ => none

/-- The entries of an object; none for a value that is no object. -/
def entries : Json → Fields Json
  | object es => es
  | _ => []

/-- The items of an array; none for a value that is no array. -/
def items : Json → List Json
  | array xs => xs
  | _ => []

@[simp] theorem field?_object (es : List (String × Json)) (key : String) :
    field? (object es) key = Fields.value? es key := rfl

end Json

end LoftGraph
