import LoftGraph.Graph.Diagnostic
import LoftGraph.Graph.Plan
import LoftGraph.Log
import LoftGraph.Node.Registry

/-!
# Evaluation sessions

A session evaluates a graph and remembers the outputs of the nodes it has run.  It keeps them
until the graph has been edited, or until a full pass starts.

* A node runs on its resolved inputs: defaults, then what arrives over connections, the last one
  in declaration order winning, then the values set on the node itself.  Every input is brought
  into its kind.
* A node that fails yields no outputs, and the failure is a diagnostic.  Every failure is taken for
  one that can be told; `Evaluator` also lets those escape that cannot, and is the same evaluation
  where there are none.
* A running node may ask for other nodes.  A node that is running is never entered again, so the
  nesting is bounded by the number of nodes, and `evaluateNode` recurses on that bound.
* The `trace` lists what was planned, what ran and which actions were entered and left, in order.
-/

namespace LoftGraph

/-- Something that happened in a session. -/
inductive SessionEvent where
  /-- A plan was made; these nodes are to run. -/
  | plan (order : List String)
  /-- A node was run, with these connections cut. -/
  | run (node : String) (cut : List Connection)
  /-- The action of a node was entered. -/
  | enter (node : String)
  /-- The action of a node was left. -/
  | leave (node : String)
  deriving Repr, DecidableEq

/-- What a graph is evaluated with. -/
structure Evaluation where
  graph : Graph
  registry : Registry

structure Session where
  /-- The outputs of the nodes that have run. -/
  cache : Fields Outputs
  /-- What was found wrong, in order. -/
  diagnostics : List Diagnostic
  /-- The keys of what has been reported. -/
  reported : List Diagnostic.Key
  /-- The nodes that are running, the innermost first. -/
  executing : List String
  /-- The revision of the graph that the cache belongs to. -/
  revision : Nat
  trace : List SessionEvent
  log : List LogLine

namespace Session

/-- A session that has not evaluated anything. -/
def ofGraph (g : Graph) : Session := ⟨[], [], [], [], g.revision, [], []⟩

def record (s : Session) (event : SessionEvent) : Session := { s with trace := s.trace ++ [event] }

def logged (s : Session) (level : LogLevel) (message : String) : Session :=
  { s with log := s.log ++ [⟨level, message⟩] }

def hasReported (s : Session) (d : Diagnostic) : Bool := decide (d.key ∈ s.reported)

/-- Reports a condition, unless it has been. -/
def report (s : Session) (d : Diagnostic) : Session :=
  if s.hasReported d then s
  else { s with diagnostics := s.diagnostics ++ [d], reported := d.key :: s.reported }

/-- Reports a condition and logs the report, unless it has been reported. -/
def reportAloud (s : Session) (d : Diagnostic) : Session :=
  if s.hasReported d then s
  else (s.report d).logged .warning s!"[{d.node}] {d.kind.name}: {d.message}"

/-- Remembers the outputs of a node. -/
def store (s : Session) (id : String) (outputs : Outputs) : Session :=
  { s with cache := s.cache.set id outputs }

def started (s : Session) (id : String) : Session := { s with executing := id :: s.executing }

def finished (s : Session) (id : String) : Session :=
  { s with executing := s.executing.erase id }

/-- Forgets outputs and reports, for the graph as it is. -/
def clear (s : Session) (g : Graph) : Session :=
  { s with cache := [], diagnostics := [], reported := [], revision := g.revision }

/-- Forgets them if the graph has been edited. -/
def sync (s : Session) (g : Graph) : Session := if s.revision = g.revision then s else s.clear g

/-- An output that is remembered; the absent value if there is none. -/
def cached (s : Session) (id port : String) : Value :=
  (((s.cache.value? id).bind (fun outputs => outputs.value? port)).getD .null)

/-! ## Resolving inputs -/

/-- What arrives over a connection, on top of the inputs before. -/
def arrive (s : Session) (inputs : Fields Value) (c : Connection) : Fields Value :=
  let value := s.cached c.fromNode c.fromPort
  if value.isNull then inputs else inputs.set c.toPort value

/-- The connections that bring values to a node. -/
def supply (g : Graph) (cut : List Connection) (id : String) : List Connection :=
  (g.incoming id).filter (fun c => c ∉ cut)

/-- The connections into a node that come from nowhere. -/
def dangling (s : Session) (g : Graph) (cut : List Connection) (id : String) : List Connection :=
  (supply g cut id).filter (fun c => !s.cache.has c.fromNode && !g.hasNode c.fromNode)

/-- Reports the connections into a node that come from nowhere. -/
def noteDangling (s : Session) (g : Graph) (cut : List Connection) (id : String) : Session :=
  (s.dangling g cut id).foldl
    (fun s c => s.reportAloud (Diagnostic.missingSource id c.id c.fromNode)) s

/-- The inputs of a node before they are brought into their kinds. -/
def rawInputs (s : Session) (g : Graph) (cut : List Connection) (d : NodeDefinition)
    (n : GraphNode) : Fields Value :=
  ((supply g cut n.id).foldl s.arrive d.defaults).setAll n.overrides.toPorts

/-- Brings one input into the kind of its port. -/
def coerceInput (inputs : Fields Value) (port : Port) :
    Except CoercionFault (Fields Value) := do
  let value ← port.kind.coerce ((inputs.value? port.id).getD .null)
  return inputs.set port.id value

/-- Brings the inputs into the kinds of their ports. -/
def coerceInputs (ports : List Port) (inputs : Fields Value) :
    Except CoercionFault (Fields Value) :=
  ports.foldlM coerceInput inputs

/-- The resolved inputs of a node. -/
def resolve (s : Session) (g : Graph) (cut : List Connection) (d : NodeDefinition)
    (n : GraphNode) : Except NodeFault Inputs :=
  match coerceInputs d.inputs (s.rawInputs g cut d n) with
  | .ok inputs => .ok ⟨inputs, n.overrides.strays⟩
  | .error fault => .error (.input fault)

/-! ## Running nodes -/

/-- The outputs of a node, if all that it declares are there. -/
def complete (d : NodeDefinition) (type : String) (outputs : Option Outputs) :
    Except NodeFault Outputs :=
  match d.missing outputs with
  | [] => .ok (outputs.getD [])
  | ports => .error (.missingOutputs type ports)

/-- Does what a running node asks for; `evaluate` has another node evaluated. -/
def perform (evaluate : String → Session → Session) (id : String) :
    Request → Session → Session × Except NodeFault (Option Outputs)
  | .finish outputs, s => (s, .ok outputs)
  | .fail fault, s => (s, .error fault)
  | .output node port next, s =>
    -- a node that is running already stores nothing now, and its outputs read as absent
    let s := if s.cache.has node then s else evaluate node s
    perform evaluate id (next (s.cached node port)) s
  | .evaluate node next, s => perform evaluate id next (evaluate node s)
  | .warn message next, s =>
    perform evaluate id next (s.report (Diagnostic.geometryWarning id message))
  | .note message next, s => perform evaluate id next (s.logged .warning message)

/-- Enters the action of a node on its resolved inputs. -/
def act (evaluate : String → Session → Session) (d : NodeDefinition) (n : GraphNode)
    (inputs : Inputs) (s : Session) : Session × Except NodeFault Outputs :=
  let (s, result) := perform evaluate n.id (d.action n.id inputs) (s.record (.enter n.id))
  (s.record (.leave n.id), result.bind (complete d n.type))

/-- The outputs of a node of a known type, or why there are none. -/
def execute (e : Evaluation) (evaluate : String → Session → Session) (cut : List Connection)
    (d : NodeDefinition) (n : GraphNode) (s : Session) : Session × Except NodeFault Outputs :=
  let s := s.noteDangling e.graph cut n.id
  match s.resolve e.graph cut d n with
  | .error fault => (s, .error fault)
  | .ok inputs => act evaluate d n inputs s

/-- Remembers the outputs of a node, or none and why. -/
def settle (id : String) : Except NodeFault Outputs → Session → Session
  | .ok outputs, s => s.store id outputs
  | .error fault, s =>
    ((s.logged .error s!"Error evaluating node {id}").report
      (Diagnostic.nodeExecutionError id fault.message)).store id []

def runNode (e : Evaluation) (evaluate : String → Session → Session) (cut : List Connection)
    (n : GraphNode) (s : Session) : Session :=
  let s := s.record (.run n.id cut)
  match e.registry.get? n.type with
  | none => (s.reportAloud (Diagnostic.unknownNodeType n.id n.type)).store n.id []
  | some d =>
    let (s, result) := execute e evaluate cut d n (s.started n.id)
    settle n.id result (s.finished n.id)

/-- Runs the node of an identifier, if there is one. -/
def run (e : Evaluation) (evaluate : String → Session → Session) (cut : List Connection)
    (s : Session) (id : String) : Session :=
  match e.graph.node? id with
  | some n => runNode e evaluate cut n s
  | none => s

/-- Takes notice of a plan: what it cuts is reported. -/
def announce (s : Session) (p : Plan) : Session :=
  (p.circular.foldl (fun s id => s.reportAloud (Diagnostic.circularDependency id)) s).record
    (.plan p.order)

/-- Runs a node after everything it needs. -/
def evaluateFrom (e : Evaluation) (evaluate : String → Session → Session) (root : String)
    (s : Session) : Session :=
  let plan := e.graph.plan s.cache.has s.executing root
  plan.order.foldl (run e evaluate plan.cut) (s.announce plan)

/-- Evaluates a node, unless it is running or not there.  The bound is on the nesting of running
nodes. -/
def evaluateWithin (e : Evaluation) : Nat → String → Session → Session
  | 0, _, s => s
  | depth + 1, id, s =>
    if !e.graph.hasNode id then s.reportAloud (Diagnostic.missingNode id)
    else if id ∈ s.executing then s.reportAloud (Diagnostic.requestedItself id)
    else evaluateFrom e (evaluateWithin e depth) id s

/-- A bound on the nesting that is never reached. -/
def nesting (e : Evaluation) : Nat := e.graph.nodes.length + 1

/-! ## What a caller asks for -/

/-- Runs a node again, after everything it needs that has not run yet. -/
def evaluateNode (e : Evaluation) (id : String) (s : Session) : Session :=
  evaluateWithin e (nesting e) id (s.sync e.graph)

/-- An output of a node, which is evaluated if it has not been. -/
def output (e : Evaluation) (id port : String) (s : Session) : Session × Value :=
  let s := s.sync e.graph
  let s := if s.cache.has id then s else evaluateNode e id s
  (s, s.cached id port)

/-- Evaluates a node of a full pass, unless it has been. -/
def evaluateFresh (e : Evaluation) (s : Session) (n : GraphNode) : Session :=
  -- an earlier node of the pass may have asked for this one
  if s.cache.has n.id then s else evaluateFrom e (evaluateWithin e (nesting e)) n.id s

/-- A full pass over the graph. -/
def evaluateGraph (e : Evaluation) (s : Session) : Session :=
  e.graph.nodes.foldl (evaluateFresh e) (s.clear e.graph)

/-- The mesh of an output port, if it carries one. -/
def portMesh? (s : Session) (id : String) (port : Port) : Option (Mesh Float) :=
  match port.kind, s.cached id port.id with
  | .geometry, .mesh m => some m
  | _, _ => none

/-- The meshes a node puts out, in the order of its ports. -/
def nodeMeshes (s : Session) (r : Registry) (n : GraphNode) : List (Mesh Float) :=
  match r.get? n.type with
  | some d => d.outputs.filterMap (s.portMesh? n.id)
  | none => []

/-- A full pass, and the meshes of all nodes in order. -/
def meshOutputs (e : Evaluation) (s : Session) : Session × List (Mesh Float) :=
  let s := evaluateGraph e s
  (s, e.graph.nodes.flatMap (s.nodeMeshes e.registry))

end Session

end LoftGraph
