import LoftGraph.Graph.Basic

/-!
# Editing a graph

Every edit either changes the graph and its revision or refuses for one of the causes of
`EditFault`; a refusal leaves nothing behind, because the edit is then no graph at all.

New identifiers are drawn by the caller: an edit that adds something is given the identifier to
use.  Whether a second connection into an input port is refused is up to the caller as well.
-/

namespace LoftGraph

inductive EditFault where
  /-- There is a node of this identifier. -/
  | nodeExists (id : String)
  /-- There is no node of this identifier. -/
  | unknownNode (id : String)
  /-- There is a connection of this identifier. -/
  | connectionExists (id : String)
  /-- There is no connection of this identifier. -/
  | unknownConnection (id : String)
  /-- The input port has a connection. -/
  | inputConnected (node port connection : String)
  deriving Repr, DecidableEq

/-- The sentence shown for a refusal. -/
def EditFault.message : EditFault → String
  | nodeExists id => s!"Node id '{id}' already exists"
  | unknownNode id => s!"Unknown node '{id}'"
  | connectionExists id => s!"Connection id '{id}' already exists"
  | unknownConnection id => s!"Unknown connection '{id}'"
  | inputConnected node port connection =>
    s!"Input '{port}' of node '{node}' is already connected (connection '{connection}')"

namespace Graph

def requireNode (g : Graph) (id : String) : Except EditFault Unit :=
  if g.hasNode id then .ok () else .error (.unknownNode id)

/-- The graph after one more edit. -/
def touched (g : Graph) : Graph := { g with revision := g.revision + 1 }

/-- Changes the first node of an identifier. -/
def modifyFirst (id : String) (change : GraphNode → GraphNode) : List GraphNode → List GraphNode
  | [] => []
  | n :: rest => if n.id = id then change n :: rest else n :: modifyFirst id change rest

/-- Changes a node, without counting that as an edit. -/
def modifyNode (g : Graph) (id : String) (change : GraphNode → GraphNode) : Graph :=
  { g with nodes := modifyFirst id change g.nodes }

/-- Adds a node at the end. -/
def addNode (g : Graph) (n : GraphNode) : Except EditFault Graph :=
  if g.hasNode n.id then .error (.nodeExists n.id)
  else .ok { g with nodes := g.nodes ++ [n] }.touched

def moveNode (g : Graph) (id : String) (x y : Float) : Except EditFault Graph := do
  g.requireNode id
  return (g.modifyNode id (fun n => { n with position := some (.point x y) })).touched

/-- Removes a node and every connection that touches it. -/
def removeNode (g : Graph) (id : String) : Except EditFault Graph := do
  g.requireNode id
  return { g with
    nodes := g.nodes.eraseP (fun n => n.id = id)
    connections := g.connections.filter (fun c => c.fromNode ≠ id ∧ c.toNode ≠ id) }.touched

/-- Sets a value on an input of a node. -/
def setInput (g : Graph) (id port : String) (value : Value) : Except EditFault Graph := do
  g.requireNode id
  return (g.modifyNode id fun n =>
    { n with overrides := n.overrides.set (.ofPort port) value }).touched

/-- Takes the value on an input of a node away, if there is one. -/
def clearInput (g : Graph) (id port : String) : Except EditFault Graph := do
  g.requireNode id
  return (g.modifyNode id (fun n => { n with overrides := n.overrides.without port })).touched

/-- Both ends of a new connection must be there. -/
def requireEnds (g : Graph) (c : Connection) : Except EditFault Unit := do
  g.requireNode c.fromNode
  g.requireNode c.toNode

/-- The connection that already reaches the input port of another, if any. -/
def rival? (g : Graph) (c : Connection) : Option Connection :=
  (g.incoming c.toNode).find? (fun other => other.toPort = c.toPort)

/-- Adds a connection at the end.  With `exclusive` an input port takes only one. -/
def addConnection (g : Graph) (c : Connection) (exclusive : Bool) : Except EditFault Graph := do
  g.requireEnds c
  if (g.connection? c.id).isSome then .error (.connectionExists c.id)
  else
    match if exclusive then g.rival? c else none with
    | some other => .error (.inputConnected c.toNode c.toPort other.id)
    | none => .ok { g with connections := g.connections ++ [c] }.touched

def removeConnection (g : Graph) (id : String) : Except EditFault Graph :=
  if (g.connection? id).isSome then
    .ok { g with connections := g.connections.eraseP (fun c => c.id = id) }.touched
  else .error (.unknownConnection id)

end Graph

/-- An edit of a graph. New identifiers are part of it. -/
inductive Edit where
  | addNode (n : GraphNode)
  | moveNode (id : String) (x y : Float)
  | removeNode (id : String)
  | setInput (id port : String) (value : Value)
  | clearInput (id port : String)
  | addConnection (c : Connection) (exclusive : Bool)
  | removeConnection (id : String)

/-- The graph after an edit, if it is not refused. -/
def Edit.apply : Edit → Graph → Except EditFault Graph
  | .addNode n, g => g.addNode n
  | .moveNode id x y, g => g.moveNode id x y
  | .removeNode id, g => g.removeNode id
  | .setInput id port value, g => g.setInput id port value
  | .clearInput id port, g => g.clearInput id port
  | .addConnection c exclusive, g => g.addConnection c exclusive
  | .removeConnection id, g => g.removeConnection id

end LoftGraph
