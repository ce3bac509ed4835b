import LoftGraph.Graph.Basic

/-!
# Dependencies between nodes

`Graph.dependencies` keeps of a graph what matters to the order of its nodes: their identifiers
and, between nodes that are there, an edge from producer to consumer for every pair that is
connected.

* `Dependencies.order?` lists the nodes generation by generation, each generation in the order in
  which its nodes lost their last producer; there is no such order when edges run in a circle.
* `Dependencies.cycles` lists the circles that pass no node twice, each once, from its smallest
  node on.
-/

namespace LoftGraph

/-- Identifiers and edges from producers to consumers, each once. -/
structure Dependencies where
  /-- The identifiers, in order of their first node. -/
  nodes : List String
  /-- The edges, in order of their first connection. -/
  edges : List (String × String)
  deriving Repr

def Graph.dependencies (g : Graph) : Dependencies where
  nodes := g.distinctIds
  edges := ((g.connections.filter (fun c => g.hasNode c.fromNode && g.hasNode c.toNode)).map
    (fun c => (c.fromNode, c.toNode))).eraseDups

namespace Dependencies

def successors (d : Dependencies) (id : String) : List String :=
  (d.edges.filter (fun e => e.1 = id)).map Prod.snd

def predecessors (d : Dependencies) (id : String) : List String :=
  (d.edges.filter (fun e => e.2 = id)).map Prod.fst

/-! ## Order -/

/-- Edges still in the way of their consumers, and the nodes freed so far. -/
structure Release where
  pending : List (String × String)
  freed : List String

namespace Release

def along (r : Release) (edge : String × String) : Release :=
  let pending := r.pending.erase edge
  if pending.any (fun e => e.2 = edge.2) then { r with pending }
  else ⟨pending, r.freed ++ [edge.2]⟩

/-- Takes the edges out of a node away. -/
def node (r : Release) (id : String) : Release :=
  (r.pending.filter (fun e => e.1 = id)).foldl along r

/-- Takes the edges out of the nodes of a generation away. -/
def generation (pending : List (String × String)) (ids : List String) : Release :=
  ids.foldl node ⟨pending, []⟩

end Release

/-- The nodes that nothing is in the way of. -/
def roots (d : Dependencies) : List String :=
  d.nodes.filter (fun id => d.edges.all (fun e => e.2 ≠ id))

/-- Generations from one on, at most so many. -/
def generations : Nat → List (String × String) → List String → List (List String)
  | 0, _, _ => []
  | _ + 1, _, [] => []
  | n + 1, pending, ids =>
    let r := Release.generation pending ids
    ids :: generations n r.pending r.freed

/-- The nodes generation by generation, as far as edges in a circle let them come. -/
def orderedNodes (d : Dependencies) : List String :=
  (generations d.nodes.length d.edges d.roots).flatten

/-- All nodes, producers first; nothing when edges run in a circle. -/
def order? (d : Dependencies) : Option (List String) :=
  let order := d.orderedNodes
  if order.length = d.nodes.length then some order else none

/-! ## Circles -/

/-- The nodes from which some nodes can be reached in so many steps. -/
def ancestors (d : Dependencies) : Nat → List String → List String
  | 0, ids => ids
  | n + 1, ids =>
    let more := (ids.flatMap d.predecessors).eraseDups.filter (fun id => id ∉ ids)
    if more.isEmpty then ids else ancestors d n (ids ++ more)

/-- The circles that go on from a path, which is given backwards, through nodes that are allowed,
back to where it starts. -/
def closures (d : Dependencies) (allowed : List String) (start : String) :
    Nat → List String → List (List String)
  | 0, _ => []
  | n + 1, path =>
    (d.successors (path.headD start)).flatMap (fun next =>
      if next = start then [path.reverse]
      else if next ∈ allowed ∧ next ∉ path then closures d allowed start n (next :: path)
      else [])

/-- The circles whose smallest node is the given one. -/
def cyclesFrom (d : Dependencies) (start : String) : List (List String) :=
  -- only what leads back to the start is worth walking into
  let allowed := (d.ancestors d.nodes.length [start]).filter (fun id => start < id)
  d.closures allowed start d.nodes.length [start]

/-- All circles, each from its smallest node on. -/
def cycles (d : Dependencies) : List (List String) := d.nodes.flatMap d.cyclesFrom

end Dependencies

end LoftGraph
