import LoftGraph.Graph.Document
import LoftGraph.Graph.Editing

/-!
# Requests of a host

A host asks for an edit with arguments of its own: a place may be any value, the values of a new
node any value that can hold them, and an empty identifier asks for a new one.

`EditRequest.perform` carries a request out on an `Editor`, check by check and change by change.
Nothing is taken back: what has been changed when a check fails stays changed.  `EditRequest.edit?`
is the edit that a request comes to once its arguments are read.
-/

namespace LoftGraph

/-- A graph that is edited in place, and how many identifiers have been drawn for it. -/
structure Editor where
  graph : Graph
  drawn : Nat := 0

/-- Why a request is refused. -/
inductive EditRefusal where
  | edit (fault : EditFault)
  /-- An argument is not what it has to be. -/
  | argument (fault : DocumentFault)

/-- The sentence shown for a refusal. -/
def EditRefusal.message : EditRefusal → String
  | edit fault => fault.message
  | argument fault => fault.message

/-- Steps on an editor, which may be refused in between. -/
abbrev Editing := EStateM EditRefusal Editor

namespace Editing

def argument {α : Type} : Except DocumentFault α → Editing α
  | .ok a => pure a
  | .error fault => throw (.argument fault)

/-- The identifier that is asked for, or a new one with this stem. -/
def identify (mint : String → Nat → String) (stem asked : String) : Editing String := do
  if asked ≠ "" then return asked
  let ed ← get
  set { ed with drawn := ed.drawn + 1 }
  return mint stem ed.drawn

def require (holds : Graph → Bool) (fault : EditFault) : Editing Unit := do
  let ed ← get
  if holds ed.graph then return () else throw (.edit fault)

def requireNode (id : String) : Editing Unit := require (·.hasNode id) (.unknownNode id)

/-- No other connection may reach the input port of this one. -/
def requireFree (c : Connection) : Editing Unit := do
  let ed ← get
  match ed.graph.rival? c with
  | some other => throw (.edit (.inputConnected c.toNode c.toPort other.id))
  | none => return ()

def change (f : Graph → Graph) : Editing Unit :=
  modify (fun ed => { ed with graph := f ed.graph })

/-- Counts the edit. -/
def touch : Editing Unit := change Graph.touched

end Editing

/-- A place as a host gives it; the absent value gives none. -/
def Position.ofGiven (place : Value) : Option Position :=
  if place.isNull then none else some (.given place)

/-- What a host asks of a graph. -/
inductive EditRequest where
  | addNode (type id : String) (place inputs : Value)
  | moveNode (id : String) (place : Value)
  | removeNode (id : String)
  | setInput (id port : String) (value : Value)
  | clearInput (id port : String)
  | addConnection (c : Connection)
  | removeConnection (id : String)

namespace EditRequest

open Editing

/-- The edit that a request comes to, with the identifier of what it is about. -/
def edit? (exclusive : Bool) (id : String) : EditRequest → Except DocumentFault Edit
  | addNode type _ place inputs => do
    let overrides ← Document.overrides inputs
    return .addNode { id, type, overrides, position := Position.ofGiven place }
  | moveNode _ place => do
    let (x, y) ← Document.coordinates place
    return .moveNode id x y
  | removeNode _ => .ok (.removeNode id)
  | setInput _ port value => .ok (.setInput id port value)
  | clearInput _ port => .ok (.clearInput id port)
  | addConnection c => .ok (.addConnection { c with id } exclusive)
  | removeConnection _ => .ok (.removeConnection id)

/-- The identifier of what a request is about, with the new one it gets if it asks for one. -/
def identifier (mint : String → Nat → String) (drawn : Nat) : EditRequest → String
  | addNode type id _ _ => if id ≠ "" then id else mint type drawn
  | addConnection c => if c.id ≠ "" then c.id else mint "conn" drawn
  | moveNode id _ | removeNode id | setInput id _ _ | clearInput id _ | removeConnection id => id

/-- Carries a request out.  The result is the identifier of the node or connection it is about. -/
def perform (mint : String → Nat → String) (exclusive : Bool) : EditRequest → Editing String
  | addNode type id place inputs => do
    let id ← identify mint type id
    require (!·.hasNode id) (.nodeExists id)
    let overrides ← argument (Document.overrides inputs)
    let n : GraphNode := { id, type, overrides, position := Position.ofGiven place }
    change (fun g => { g with nodes := g.nodes ++ [n] })
    touch
    return id
  | moveNode id place => do
    let (x, y) ← argument (Document.coordinates place)
    requireNode id
    change (·.modifyNode id (fun n => { n with position := some (.point x y) }))
    touch
    return id
  | removeNode id => do
    requireNode id
    change (fun g => { g with nodes := g.nodes.eraseP (fun n => n.id = id) })
    change (fun g => { g with
      connections := g.connections.filter (fun c => c.fromNode ≠ id ∧ c.toNode ≠ id) })
    touch
    return id
  | setInput id port value => do
    requireNode id
    change (·.modifyNode id (fun n => { n with overrides := n.overrides.set (.ofPort port) value }))
    touch
    return id
  | clearInput id port => do
    requireNode id
    change (·.modifyNode id (fun n => { n with overrides := n.overrides.without port }))
    touch
    return id
  | addConnection c => do
    requireNode c.fromNode
    requireNode c.toNode
    let id ← identify mint "conn" c.id
    let c := { c with id }
    require (fun g => (g.connection? id).isNone) (.connectionExists id)
    if exclusive then requireFree c
    change (fun g => { g with connections := g.connections ++ [c] })
    touch
    return id
  | removeConnection id => do
    require (fun g => (g.connection? id).isSome) (.unknownConnection id)
    change (fun g => { g with connections := g.connections.eraseP (fun c => c.id = id) })
    touch
    return id

end EditRequest

namespace Editor

/-- An editor after a request, whether that was carried out or refused. -/
def act (mint : String → Nat → String) (exclusive : Bool) (ed : Editor) (r : EditRequest) :
    Editor :=
  match r.perform mint exclusive ed with
  | .ok _ after => after
  | .error _ after => after

/-- An editor after requests. -/
def after (mint : String → Nat → String) (exclusive : Bool) (ed : Editor)
    (requests : List EditRequest) : Editor :=
  requests.foldl (act mint exclusive) ed

end Editor

end LoftGraph
