import LoftGraph.Fields
import LoftGraph.Node.Fault

/-!
# Node definitions

A node type declares its input and output ports and an action on resolved inputs.  The action is
not a plain function: while it runs, a node may read the outputs of other nodes, have other nodes
evaluated, and warn.  `Request` is the tree of what it does, one step at a time; whoever runs the
node answers its questions.  Every branch of the tree is finite, so a node asks finitely often.

* `Request.Quiet` holds of a tree that asks nothing of other nodes, `Request.Told` of one that fails
  only for causes that can be told.
* `NodeDefinition.defaults` are the values of inputs that nothing reaches.
-/

namespace LoftGraph

/-- A place where values enter or leave a node. -/
structure Port where
  id : String
  name : String
  kind : DataKind
  /-- The value when nothing reaches it. -/
  default : Value := .null

/-- The inputs of a running node. -/
structure Inputs where
  /-- What its inputs hold, and what was set under names that it has no input of. -/
  ports : Fields Value
  /-- What was set under names that no input can have. -/
  strays : Fields Value := []

/-- The outputs of a node, by port. -/
abbrev Outputs := Fields Value

/-- What a running node does next. -/
inductive Request where
  /-- It ends, with a mapping of outputs or with something else. -/
  | finish (outputs : Option Outputs)
  | fail (fault : NodeFault)
  /-- It reads an output of a node. -/
  | output (node port : String) (next : Value → Request)
  | evaluate (node : String) (next : Request)
  | warn (message : String) (next : Request)
  /-- It leaves a line in the log. -/
  | note (message : String) (next : Request)

namespace Request

/-- A node that ends with these outputs. -/
def yields (outputs : Outputs) : Request := finish (some outputs)

/-- A node whose outputs are computed without asking anything. -/
def ofResult : Except NodeFault Outputs → Request
  | .ok outputs => yields outputs
  | .error fault => fail fault

/-- Leaves lines in the log first. -/
def notes (messages : List String) (next : Request) : Request :=
  messages.foldr note next

/-- Warns first, each warning also being a line in the log. -/
def warnings (messages : List String) (next : Request) : Request :=
  messages.foldr (fun message next => note message (warn message next)) next

inductive Quiet : Request → Prop where
  | finish (outputs : Option Outputs) : Quiet (.finish outputs)
  | fail (fault : NodeFault) : Quiet (.fail fault)
  | warn (message : String) {next : Request} (h : Quiet next) : Quiet (.warn message next)
  /-- It leaves a line in the log first. -/
  | note (message : String) {next : Request} (h : Quiet next) : Quiet (.note message next)

/-- May read outputs of other nodes, but has none evaluated. -/
inductive ReadOnly : Request → Prop where
  | finish (outputs : Option Outputs) : ReadOnly (.finish outputs)
  | fail (fault : NodeFault) : ReadOnly (.fail fault)
  | output (node port : String) {next : Value → Request} (h : ∀ v, ReadOnly (next v)) :
      ReadOnly (.output node port next)
  | warn (message : String) {next : Request} (h : ReadOnly next) : ReadOnly (.warn message next)
  /-- It leaves a line in the log first. -/
  | note (message : String) {next : Request} (h : ReadOnly next) : ReadOnly (.note message next)

/-- Fails only for causes that can be told. -/
inductive Told : Request → Prop where
  | finish (outputs : Option Outputs) : Told (.finish outputs)
  | fail {fault : NodeFault} (h : fault.escape? = none) : Told (.fail fault)
  | output (node port : String) {next : Value → Request} (h : ∀ v, Told (next v)) :
      Told (.output node port next)
  | evaluate (node : String) {next : Request} (h : Told next) : Told (.evaluate node next)
  | warn (message : String) {next : Request} (h : Told next) : Told (.warn message next)
  /-- It leaves a line in the log first. -/
  | note (message : String) {next : Request} (h : Told next) : Told (.note message next)

theorem Quiet.ofResult (result : Except NodeFault Outputs) : Quiet (ofResult result) := by
  cases result with
  | ok outputs => exact .finish _
  | error fault => exact .fail _

theorem Quiet.notes {next : Request} (h : Quiet next) (messages : List String) :
    Quiet (Request.notes messages next) := by
  induction messages with
  | nil => exact h
  | cons message rest ih => exact .note message ih

theorem Quiet.warnings {next : Request} (h : Quiet next) (messages : List String) :
    Quiet (Request.warnings messages next) := by
  induction messages with
  | nil => exact h
  | cons message rest ih => exact .note message (.warn message ih)

end Request

structure NodeDefinition where
  type : String
  name : String
  /-- The group it is listed in. -/
  category : String
  inputs : List Port
  outputs : List Port
  /-- What a node of this type does with its identifier and its resolved inputs. -/
  action : String → Inputs → Request
  description : String := ""
  /-- The color it is drawn in. -/
  color : Option String := none

namespace NodeDefinition

/-- The port of a name; the last one if there are several. -/
def portIn? (ports : List Port) (id : String) : Option Port :=
  ports.reverse.find? (fun port => port.id = id)

/-- The input port of a name. -/
def input? (d : NodeDefinition) (id : String) : Option Port := portIn? d.inputs id

/-- The output port of a name. -/
def output? (d : NodeDefinition) (id : String) : Option Port := portIn? d.outputs id

/-- The values of inputs that nothing reaches. -/
def defaults (d : NodeDefinition) : Fields Value :=
  Fields.ofEntries (d.inputs.map (fun port => (port.id, port.default)))

/-- Is there an output that carries a mesh? -/
def hasGeometry (d : NodeDefinition) : Bool :=
  d.outputs.any (fun port => port.kind == .geometry)

/-- The declared outputs that a mapping lacks. -/
def missing (d : NodeDefinition) (outputs : Option Outputs) : List String :=
  (d.outputs.map Port.id).filter (fun id =>
    match outputs with
    | some fields => !fields.has id
    | none => true)

end NodeDefinition

end LoftGraph
