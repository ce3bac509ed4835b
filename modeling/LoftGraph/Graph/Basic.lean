import LoftGraph.Fields
import LoftGraph.Graph.Override

/-!
# Node graphs

A graph holds nodes and the connections between their ports, both in the order of their
declaration, and counts its edits in a revision.

Nothing here asks that a graph makes sense: identifiers may be repeated, connections may dangle
and run in circles.  A node is found by its identifier, the first one if there are several
(`Graph.node?`).  `Graph.WellFormed` says what editing maintains.
-/

namespace LoftGraph

/-- The place a node is drawn at. -/
inductive Position where
  | point (x y : Float)
  /-- What a host gave in place of a point; it is looked at only when the graph is written. -/
  | given (place : Value)

structure GraphNode where
  id : String
  type : String
  overrides : Overrides := []
  /-- Where it is drawn, if that is known. -/
  position : Option Position := none

/-- A connection from an output port to an input port. -/
structure Connection where
  id : String
  fromNode : String
  fromPort : String
  toNode : String
  toPort : String
  deriving Repr, DecidableEq

/-- Nodes and connections in order of declaration. -/
structure Graph where
  nodes : List GraphNode
  connections : List Connection
  /-- How many edits there have been. -/
  revision : Nat := 0

namespace Graph

def empty : Graph := ⟨[], [], 0⟩

/-- The node of an identifier: the first one. -/
def node? (g : Graph) (id : String) : Option GraphNode := g.nodes.find? (fun n => n.id = id)

/-- Is there a node of this identifier? -/
def hasNode (g : Graph) (id : String) : Bool := (g.node? id).isSome

/-- The connection of an identifier: the first one. -/
def connection? (g : Graph) (id : String) : Option Connection :=
  g.connections.find? (fun c => c.id = id)

/-- The identifiers of the nodes, in order. -/
def ids (g : Graph) : List String := g.nodes.map GraphNode.id

/-- The identifiers of the nodes, each once, in order of their first node. -/
def distinctIds (g : Graph) : List String := g.ids.eraseDups

/-- Connections into a node, in order of declaration. -/
def incoming (g : Graph) (id : String) : List Connection :=
  g.connections.filter (fun c => c.toNode = id)

/-- Connections out of a node, in order of declaration. -/
def outgoing (g : Graph) (id : String) : List Connection :=
  g.connections.filter (fun c => c.fromNode = id)

/-- The text that stands for a graph in a message. -/
def summary (g : Graph) : String :=
  s!"NodeGraph(nodes={g.nodes.length}, connections={g.connections.length}, revision={g.revision})"

structure WellFormed (g : Graph) : Prop where
  /-- No two nodes share an identifier. -/
  nodup_nodes : g.ids.Nodup
  /-- No two connections share an identifier. -/
  nodup_connections : (g.connections.map Connection.id).Nodup
  /-- Every connection starts at a node. -/
  starts : ∀ c ∈ g.connections, c.fromNode ∈ g.ids
  /-- Every connection ends at a node. -/
  ends : ∀ c ∈ g.connections, c.toNode ∈ g.ids
  /-- No input port has two connections. -/
  nodup_targets : (g.connections.map (fun c => (c.toNode, c.toPort))).Nodup

theorem hasNode_iff (g : Graph) (id : String) : g.hasNode id = true ↔ id ∈ g.ids := by
  simp [hasNode, node?, ids, List.find?_isSome]

theorem mem_incoming {g : Graph} {id : String} {c : Connection} :
    c ∈ g.incoming id ↔ c ∈ g.connections ∧ c.toNode = id := by
  simp [incoming]

theorem wellFormed_empty : empty.WellFormed where
  nodup_nodes := List.nodup_nil
  nodup_connections := List.nodup_nil
  starts := by intro c hc; cases hc
  ends := by intro c hc; cases hc
  nodup_targets := List.nodup_nil

end Graph

end LoftGraph
