/-!
# Diagnostics

What evaluation finds wrong is recorded and not thrown.  A node reports each kind of condition
once in a pass; only warnings about geometry count as different when their words differ
(`Diagnostic.key`).
-/

namespace LoftGraph

inductive DiagnosticKind where
  /-- The type of a node is not registered. -/
  | unknownNodeType
  | nodeExecutionError
  | circularDependency
  | missingNode
  /-- A node warns about its geometry. -/
  | geometryWarning
  deriving Repr, DecidableEq

def DiagnosticKind.name : DiagnosticKind → String
  | unknownNodeType => "unknownNodeType"
  | nodeExecutionError => "nodeExecutionError"
  | circularDependency => "circularDependency"
  | missingNode => "missingNode"
  | geometryWarning => "geometryWarning"

structure Diagnostic where
  node : String
  /-- What kind of condition it is. -/
  kind : DiagnosticKind
  message : String
  deriving Repr, DecidableEq

namespace Diagnostic

/-- Node, kind of condition and, for warnings, their words. -/
abbrev Key := String × DiagnosticKind × String

/-- What makes two diagnostics the same report. -/
def key (d : Diagnostic) : Key :=
  (d.node, d.kind, if d.kind = .geometryWarning then d.message else "")

/-- The type of a node is not registered. -/
def unknownNodeType (node type : String) : Diagnostic :=
  ⟨node, .unknownNodeType, s!"Unknown node type: {type}"⟩

def nodeExecutionError (node message : String) : Diagnostic :=
  ⟨node, .nodeExecutionError, message⟩

/-- A node lies on a circle. -/
def circularDependency (node : String) : Diagnostic :=
  ⟨node, .circularDependency, s!"Circular dependency detected involving node '{node}'"⟩

/-- A running node wants itself evaluated. -/
def requestedItself (node : String) : Diagnostic :=
  ⟨node, .circularDependency, s!"Node '{node}' requested its own evaluation while executing"⟩

def missingNode (node : String) : Diagnostic :=
  ⟨node, .missingNode, s!"No node with id '{node}'"⟩

/-- A connection into a node comes from nowhere. -/
def missingSource (node connection source : String) : Diagnostic :=
  ⟨node, .missingNode, s!"Connection '{connection}' comes from unknown node '{source}'"⟩

/-- A node warns about its geometry. -/
def geometryWarning (node message : String) : Diagnostic := ⟨node, .geometryWarning, message⟩

end Diagnostic

end LoftGraph
