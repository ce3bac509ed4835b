import LoftGraph.Node.Definition

/-!
# Reading resolved inputs

A resolved input holds a value of the kind of its port, or the absent value.  The readers of this
module take it as what it is; a reader that cannot do with an absent input says how it was to be
used.
-/

namespace LoftGraph

/-- A computation on numbers as a step of a node. -/
def NodeFault.lift {α : Type} : Except Fault α → Except NodeFault α
  | .ok x => .ok x
  | .error fault => .error (.geometry fault)

/-- A number that must not be absent where it is used so. -/
def OpenUse.need (use : OpenUse) : Option Float → Except NodeFault Float
  | some x => .ok x
  | none => .error (.openInput use)

namespace Inputs

/-- The value of an input; the absent value if there is none. -/
def value (inputs : Inputs) (id : String) : Value := (inputs.ports.value? id).getD .null

def number? (inputs : Inputs) (id : String) : Option Float :=
  match inputs.value id with
  | .float x => some x
  | _ => none

/-- A number that is used so. -/
def need (inputs : Inputs) (use : OpenUse) (id : String) : Except NodeFault Float :=
  use.need (inputs.number? id)

/-- The whole number a number starts with. -/
def count (inputs : Inputs) (id : String) : Except NodeFault Int := do
  let x ← inputs.need .count id
  NodeFault.lift (countOfFloat x)

/-- A truth value; an absent one is false. -/
def flag (inputs : Inputs) (id : String) : Bool :=
  match inputs.value id with
  | .bool b | .fixed (.truth b) => b
  | _ => false

/-- A text; an absent one is empty. -/
def text (inputs : Inputs) (id : String) : String :=
  match inputs.value id with
  | .text s | .fixed (.text s) => s
  | _ => ""

/-- A primitive shape; an absent one is a circle. -/
def shape (inputs : Inputs) (id : String) : ShapeKind :=
  match inputs.value id with
  | .shape k => k
  | _ => .circle

def pattern? (inputs : Inputs) (id : String) : Option (List (Placement Measure)) :=
  (Coercion.listed? Coercion.placement? (inputs.value id)).map
    (fun placements => placements.map (Placement.map Measure.ofQuantity))

def sections? (inputs : Inputs) (id : String) : Option (List (CrossSection Quantity)) :=
  Coercion.listed? Coercion.crossSection? (inputs.value id)

/-- Polygons in order, some of them removed. -/
def outlines? (inputs : Inputs) (id : String) : Option (Outlines Float) :=
  (Coercion.toOutlines (inputs.value id)).toOption

end Inputs

end LoftGraph
