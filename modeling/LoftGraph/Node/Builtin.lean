import LoftGraph.Node.Builtin.Source
import LoftGraph.Node.Builtin.Stack
import LoftGraph.Node.Registry

/-!
# The built-in node types

Ten node types in four groups: inputs, patterns, transforms and geometry.  `Registry.builtin`
registers them in this order.
-/

namespace LoftGraph

/-- The built-in node types, in order. -/
def Builtin.definitions : List NodeDefinition :=
  Builtin.sources ++ Builtin.growers ++ Builtin.stackers

/-- The registry of the built-in node types. -/
def Registry.builtin : Registry := Registry.ofDefinitions Builtin.definitions

end LoftGraph
