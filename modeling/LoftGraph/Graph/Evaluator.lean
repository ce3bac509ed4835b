import LoftGraph.Graph.Session

/-!
# Evaluation that faults may escape from

The functions of `Session` once more, as steps on a session that a fault may end.  They find the
same, and do the same in the same order, as long as the failures of nodes can be told.

* A failure that can be told is contained: `settle` reports it, and the evaluation goes on.
* One that cannot be told escapes: `settle` leaves the node without outputs that could be
  remembered, no matter what else was to run, and so does every evaluation around it.
* In between, an action that had the other node evaluated ends, and the fault becomes its own.
* Whichever way an action ends, its node is no longer running afterwards.
-/

namespace LoftGraph

/-- Steps of an evaluation, which a fault may end. -/
abbrev Steps := EStateM NodeFault Session

namespace Evaluator

/-! ## Running nodes -/

/-- Remembers the outputs of a node, or none and why, unless that escapes. -/
def settle (id : String) : Except NodeFault Outputs → Steps Unit
  | .ok outputs => modify (·.store id outputs)
  | .error fault => do
    modify (fun s =>
      if fault.isExit then s else s.logged .error s!"Error evaluating node {id}")
    match fault.escape? with
    | some escaped => throw escaped
    | none =>
      modify (·.report (Diagnostic.nodeExecutionError id fault.message))
      modify (·.store id [])

/-- Does what a running node asks for; `evaluate` has another node evaluated. -/
def perform (evaluate : String → Steps Unit) (id : String) : Request → Steps (Option Outputs)
  | .finish outputs => return outputs
  | .fail fault => throw fault
  | .output node port next => do
    if !(← get).cache.has node then evaluate node
    perform evaluate id (next ((← get).cached node port))
  | .evaluate node next => do
    evaluate node
    perform evaluate id next
  | .warn message next => do
    modify (·.report (Diagnostic.geometryWarning id message))
    perform evaluate id next
  | .note message next => do
    modify (·.logged .warning message)
    perform evaluate id next

/-- Enters the action of a node on its resolved inputs. -/
def act (evaluate : String → Steps Unit) (d : NodeDefinition) (n : GraphNode) (inputs : Inputs) :
    Steps Outputs := do
  modify (·.record (.enter n.id))
  let result ← observing (perform evaluate n.id (d.action n.id inputs))
  modify (·.record (.leave n.id))
  ofExcept (result.bind (Session.complete d n.type))

/-- The outputs of a node of a known type. -/
def execute (e : Evaluation) (evaluate : String → Steps Unit) (cut : List Connection)
    (d : NodeDefinition) (n : GraphNode) : Steps Outputs := do
  modify (·.noteDangling e.graph cut n.id)
  let inputs ← ofExcept ((← get).resolve e.graph cut d n)
  act evaluate d n inputs

def runNode (e : Evaluation) (evaluate : String → Steps Unit) (cut : List Connection)
    (n : GraphNode) : Steps Unit := do
  modify (·.record (.run n.id cut))
  match e.registry.get? n.type with
  | none =>
    modify (·.reportAloud (Diagnostic.unknownNodeType n.id n.type))
    modify (·.store n.id [])
  | some d =>
    modify (·.started n.id)
    let result ← observing (execute e evaluate cut d n)
    modify (·.finished n.id)
    settle n.id result

/-- Runs the node of an identifier, if there is one. -/
def run (e : Evaluation) (evaluate : String → Steps Unit) (cut : List Connection) (id : String) :
    Steps Unit :=
  match e.graph.node? id with
  | some n => runNode e evaluate cut n
  | none => return ()

/-- Runs a node after everything it needs. -/
def evaluateFrom (e : Evaluation) (evaluate : String → Steps Unit) (root : String) :
    Steps Unit := do
  let s ← get
  let plan := e.graph.plan s.cache.has s.executing root
  modify (·.announce plan)
  plan.order.forM (run e evaluate plan.cut)

/-- Evaluates a node, unless it is running or not there.  The bound is on the nesting of running
nodes. -/
def evaluateWithin (e : Evaluation) : Nat → String → Steps Unit
  | 0, _ => return ()
  | depth + 1, id => do
    let s ← get
    if !e.graph.hasNode id then modify (·.reportAloud (Diagnostic.missingNode id))
    else if id ∈ s.executing then modify (·.reportAloud (Diagnostic.requestedItself id))
    else evaluateFrom e (evaluateWithin e depth) id

/-! ## What a caller asks for -/

/-- Runs a node again, after everything it needs that has not run yet. -/
def evaluateNode (e : Evaluation) (id : String) : Steps Unit := do
  modify (·.sync e.graph)
  evaluateWithin e (Session.nesting e) id

/-- An output of a node, which is evaluated if it has not been. -/
def output (e : Evaluation) (id port : String) : Steps Value := do
  modify (·.sync e.graph)
  if !(← get).cache.has id then evaluateNode e id
  return (← get).cached id port

/-- Evaluates a node of a full pass, unless it has been. -/
def evaluateFresh (e : Evaluation) (n : GraphNode) : Steps Unit := do
  if !(← get).cache.has n.id then evaluateFrom e (evaluateWithin e (Session.nesting e)) n.id

/-- A full pass over the graph. -/
def evaluateGraph (e : Evaluation) : Steps Unit := do
  modify (·.clear e.graph)
  e.graph.nodes.forM (evaluateFresh e)

/-- A full pass, and the meshes of all nodes in order. -/
def meshOutputs (e : Evaluation) : Steps (List (Mesh Float)) := do
  evaluateGraph e
  return e.graph.nodes.flatMap ((← get).nodeMeshes e.registry)

end Evaluator

end LoftGraph
