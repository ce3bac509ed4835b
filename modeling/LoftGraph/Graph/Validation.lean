import LoftGraph.Graph.Dependency
import LoftGraph.Node.Registry

/-!
# Validation

`Graph.validate` looks for what evaluation would stumble over, without running anything.  Errors
are repeated identifiers, unknown types, connections that do not fit and circles; warnings are
inputs with several connections and inputs for geometry that nothing reaches.

Where an identifier is repeated, a connection is judged by the last node that carries it.
-/

namespace LoftGraph

/-- What is wrong with a graph. -/
inductive GraphError where
  | repeatedId (id : String) (count : Nat)
  /-- The type of a node is not registered. -/
  | unknownType (id type : String)
  /-- A connection starts at no node. -/
  | unknownSource (connection source : String)
  /-- A connection starts at a port the node does not have. -/
  | unknownOutput (connection port node : String)
  /-- A connection ends at no node. -/
  | unknownTarget (connection target : String)
  /-- A connection ends at a port the node does not have. -/
  | unknownInput (connection port node : String)
  | circle (nodes : List String)
  deriving Repr, DecidableEq

/-- The sentence shown for an error. -/
def GraphError.message : GraphError → String
  | repeatedId id count => s!"Node id '{id}' is used {count} times"
  | unknownType id type => s!"Node '{id}' has unknown type '{type}'"
  | unknownSource connection source =>
    s!"Connection '{connection}' starts at unknown node '{source}'"
  | unknownOutput connection port node =>
    s!"Connection '{connection}' uses unknown output '{port}' of node '{node}'"
  | unknownTarget connection target =>
    s!"Connection '{connection}' ends at unknown node '{target}'"
  | unknownInput connection port node =>
    s!"Connection '{connection}' uses unknown input '{port}' of node '{node}'"
  | circle nodes =>
    "Circular dependency: " ++ String.intercalate " -> " (nodes ++ nodes.take 1)

/-- What is questionable about a graph. -/
inductive GraphWarning where
  | severalConnections (node port : String) (count : Nat)
  | openInput (node type port : String)
  deriving Repr, DecidableEq

/-- The sentence shown for a warning. -/
def GraphWarning.message : GraphWarning → String
  | severalConnections node port count =>
    s!"Input '{port}' of node '{node}' has {count} connections; the last one wins"
  | openInput node type port =>
    s!"Node '{node}' ({type}) has no '{port}' input; it will produce empty output"

structure Report where
  errors : List GraphError
  warnings : List GraphWarning
  deriving Repr

/-- Entries that occur more than once, with how often, in order of their first occurrence. -/
def repeated {α : Type} [BEq α] (xs : List α) : List (α × Nat) :=
  (xs.eraseDups.map (fun x => (x, xs.count x))).filter (fun entry => 1 < entry.2)

namespace Graph

variable (g : Graph) (r : Registry)

/-- The last node of an identifier. -/
def lastNode? (id : String) : Option GraphNode := g.nodes.reverse.find? (fun n => n.id = id)

def idErrors : List GraphError :=
  (repeated g.ids).map (fun entry => .repeatedId entry.1 entry.2)

def typeErrors : List GraphError :=
  (g.nodes.filter (fun n => !r.contains n.type)).map (fun n => .unknownType n.id n.type)

/-- Does the type of a node, if it is registered, lack a port? -/
def lacksPort (n : GraphNode) (port? : NodeDefinition → Option Port) : Bool :=
  match r.get? n.type with
  | some d => (port? d).isNone
  | none => false

/-- What is wrong at the start of a connection. -/
def sourceErrors (c : Connection) : List GraphError :=
  match g.lastNode? c.fromNode with
  | none => [.unknownSource c.id c.fromNode]
  | some n =>
    if lacksPort r n (fun d => d.output? c.fromPort) then [.unknownOutput c.id c.fromPort n.id]
    else []

/-- What is wrong at the end of a connection. -/
def targetErrors (c : Connection) : List GraphError :=
  match g.lastNode? c.toNode with
  | none => [.unknownTarget c.id c.toNode]
  | some n =>
    if lacksPort r n (fun d => d.input? c.toPort) then [.unknownInput c.id c.toPort n.id] else []

def connectionErrors : List GraphError :=
  g.connections.flatMap (fun c => g.sourceErrors r c ++ g.targetErrors r c)

/-- The circles, in the order of their sentences. -/
def circleErrors : List GraphError :=
  (g.dependencies.cycles.map GraphError.circle).mergeSort (fun a b => !(b.message < a.message))

def connectionWarnings : List GraphWarning :=
  (repeated (g.connections.map (fun c => (c.toNode, c.toPort)))).map
    (fun entry => .severalConnections entry.1.1 entry.1.2 entry.2)

/-- Does geometry reach an input of a node, over a connection or set on it? -/
def isSupplied (n : GraphNode) (port : Port) : Bool :=
  g.connections.any (fun c => c.toNode = n.id && c.toPort = port.id) ||
    n.overrides.toPorts.has port.id

/-- The inputs of a node for geometry that nothing reaches. -/
def openPorts (n : GraphNode) (d : NodeDefinition) : List Port :=
  d.inputs.filter (fun port =>
    port.kind.isData && port.default.isNull && !g.isSupplied n port)

/-- Inputs for geometry that nothing reaches. -/
def inputWarnings : List GraphWarning :=
  g.nodes.flatMap (fun n =>
    match r.get? n.type with
    | some d => (g.openPorts n d).map (fun port => .openInput n.id d.name port.name)
    | none => [])

def validate : Report where
  errors := g.idErrors ++ g.typeErrors r ++ g.connectionErrors r ++ g.circleErrors
  warnings := g.connectionWarnings ++ g.inputWarnings r

end Graph

end LoftGraph
