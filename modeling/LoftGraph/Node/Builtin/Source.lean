import LoftGraph.Node.Inputs

/-!
# Nodes that hold a value

Each of these nodes passes its one input on, or a plain value in place of an absent one.
-/

namespace LoftGraph.Builtin

/-- The color of the nodes that hold a value. -/
def sourceColor : String := "#4CAF50"

/-- A node that passes its one input on. -/
def source (type name id portName : String) (kind : DataKind) (fallback : Value)
    (description : String) : NodeDefinition where
  type := type
  name := name
  category := "Input"
  inputs := [⟨id, portName, kind, fallback⟩]
  outputs := [⟨id, portName, kind, fallback⟩]
  action := fun _ inputs =>
    let value := inputs.value id
    .yields [(id, if value.isNull then fallback else value)]
  description := description
  color := some sourceColor

def number : NodeDefinition :=
  source "number" "Number" "value" "Value" .number (.float 0.0) "A numeric value"

def boolean : NodeDefinition :=
  source "boolean" "Boolean" "value" "Value" .boolean (.bool false) "True or false value"

def shapeSelector : NodeDefinition :=
  source "shapeSelector" "Shape" "shape" "Shape" .shapeKind (.shape .circle)
    "Select a 2D shape type"

def string : NodeDefinition :=
  source "string" "Text" "value" "Value" .string (.text "") "A text value, e.g. an easing name"

/-- The nodes that hold a value. -/
def sources : List NodeDefinition := [number, boolean, shapeSelector, string]

end LoftGraph.Builtin
