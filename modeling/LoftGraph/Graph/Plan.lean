import LoftGraph.Graph.Basic

/-!
# Plans

Before a node runs, everything it needs has to have run.  `Graph.plan` walks from a node against
its connections, depth first, and lists the nodes to run, producers first and the node itself
last.

* What is cached already is not walked into, and neither is what is not there.
* A connection from a node that the walk is still in the middle of, or that is busy running,
  closes a circle.  It is cut, and its source is noted.
* The depth of the walk is bounded by the number of nodes, because the nodes on its path differ.
-/

namespace LoftGraph

/-- A depth-first walk against the connections. -/
structure Walk where
  /-- The nodes the walk is in the middle of, the latest first. -/
  path : List String
  /-- The nodes the walk is done with, in that order. -/
  order : List String
  /-- The connections that close a circle. -/
  cut : List Connection
  /-- The sources of these connections, in the order in which they were met. -/
  circular : List String
  deriving Repr

/-- What to run, and what to leave out of account meanwhile. -/
structure Plan where
  /-- The nodes to run, producers first. -/
  order : List String
  cut : List Connection
  /-- The sources of the cut connections, in the order in which they were met. -/
  circular : List String
  deriving Repr

namespace Walk

/-- The walk before its first step. -/
def start : Walk := ⟨[], [], [], []⟩

def enter (w : Walk) (id : String) : Walk := { w with path := id :: w.path }

/-- Leaves a node for the path that led to it. -/
def leave (w : Walk) (id : String) (path : List String) : Walk :=
  { w with path, order := w.order ++ [id] }

/-- The plan that a walk has found. -/
def plan (w : Walk) : Plan := ⟨w.order, w.cut, w.circular⟩

def cutAt (w : Walk) (c : Connection) : Walk :=
  { w with cut := w.cut ++ [c], circular := w.circular ++ [c.fromNode] }

@[simp] theorem enter_path (w : Walk) (id : String) : (w.enter id).path = id :: w.path := rfl

@[simp] theorem enter_order (w : Walk) (id : String) : (w.enter id).order = w.order := rfl

@[simp] theorem leave_path (w : Walk) (id : String) (path : List String) :
    (w.leave id path).path = path := rfl

@[simp] theorem leave_order (w : Walk) (id : String) (path : List String) :
    (w.leave id path).order = w.order ++ [id] := rfl

@[simp] theorem cutAt_cut (w : Walk) (c : Connection) : (w.cutAt c).cut = w.cut ++ [c] := rfl

@[simp] theorem plan_order (w : Walk) : w.plan.order = w.order := rfl

/-- Goes on along a connection: nowhere, if its source needs no running or is on the way. -/
def follow (g : Graph) (cached : String → Bool) (busy : List String) (visit : String → Walk → Walk)
    (w : Walk) (c : Connection) : Walk :=
  if !g.hasNode c.fromNode || cached c.fromNode then w
  else if c.fromNode ∈ w.path ∨ c.fromNode ∈ busy then w.cutAt c
  else if c.fromNode ∈ w.order then w
  else visit c.fromNode w

/-- Enters a node, goes on along its connections and leaves it. -/
def visit (g : Graph) (cached : String → Bool) (busy : List String) : Nat → String → Walk → Walk
  | 0, _, w => w
  | depth + 1, id, w =>
    let inside :=
      (g.incoming id).foldl (follow g cached busy (visit g cached busy depth)) (w.enter id)
    inside.leave id w.path

end Walk

/-- The plan for a node, given what is cached and what is busy running. -/
def Graph.plan (g : Graph) (cached : String → Bool) (busy : List String) (root : String) : Plan :=
  (Walk.visit g cached busy g.nodes.length root Walk.start).plan

end LoftGraph
