import LoftGraph.Graph.Basic
import LoftGraph.Value.Display
import LoftGraph.Value.Number

/-!
# Graphs as documents

`Graph.toValue` is the document form of a graph, `Graph.ofValue` reads one.  The form of a node
lists its identifier, its type, the values set on its inputs and, if it has one, its place.  There
is no form while a host has given a node a place that is no pair.

A value spells the names of overrides.  Before that a form holds the names themselves, which a
number or a truth value may be (`GraphForm`), and `Graph.reread` reads it as it is.

Reading is generous in what it takes: identifiers may be any values and are then shown, a place
may be an object or a pair, overrides may also be given as pairs or under their former name.  What
it cannot take is a `DocumentFault`.  It looks at a node's place first, then at its identifier,
its type and its overrides.
-/

namespace LoftGraph

/-- Why a value is not the document form of a graph. -/
inductive DocumentFault where
  | missingEntry (name : String)
  /-- Something of this kind stands where an object is expected. -/
  | notObject (kind : String)
  /-- Something of this kind stands where entries are looked up. -/
  | noEntries (kind : String)
  /-- Something of this kind stands where items are expected. -/
  | noItems (kind : String)
  /-- Something of this kind stands where a pair is expected. -/
  | noLength (kind : String)
  /-- A place that is no pair. -/
  | place (shown : String)
  /-- A coordinate that is no number. -/
  | coordinate (fault : ReadFault)
  /-- An override that is no sequence. -/
  | overrideForm (index : Nat)
  /-- An override that is no pair. -/
  | overrideLength (index length : Nat)
  /-- An override whose name is of a kind that can be no name. -/
  | overrideName (kind : String)
  /-- A place that ends before this coordinate. -/
  | noCoordinate (index : Nat)
  /-- Entries and items lie too deep inside each other. -/
  | tooDeep
  deriving Repr, DecidableEq

/-- The sentence shown for a fault. -/
def DocumentFault.message : DocumentFault → String
  | missingEntry name => Text.quoted name
  | notObject kind => s!"'{kind}' object has no attribute 'get'"
  | noEntries "list" => "list indices must be integers or slices, not str"
  | noEntries "str" => "string indices must be integers, not 'str'"
  | noEntries kind => s!"'{kind}' object is not subscriptable"
  | noItems kind => (ReadFault.noItems kind).message
  | noLength kind => s!"object of type '{kind}' has no len()"
  | place shown => s!"Node position must be [x, y], got {shown}"
  | coordinate fault => fault.message
  | overrideForm index =>
    s!"cannot convert dictionary update sequence element #{index} to a sequence"
  | overrideLength index length =>
    s!"dictionary update sequence element #{index} has length {length}; 2 is required"
  | overrideName kind => s!"unhashable type: '{kind}'"
  | noCoordinate _ => "index out of range"
  | tooDeep => "maximum recursion depth exceeded"

/-! ## The document form -/

/-- What stands at an index of a place. -/
def Document.item (place : Value) (index : Nat) : Except DocumentFault Value :=
  match place, place.items? with
  | .object _, _ => .error (.missingEntry (toString index))
  | _, none => .error (.noEntries place.typeName)
  | _, some items =>
    match items[index]? with
    | some value => .ok value
    | none => .error (.noCoordinate index)

/-- The form of a place: its first two items by name. -/
def Position.toValue : Position → Except DocumentFault Value
  | point x y => .ok (.object [("x", .float x), ("y", .float y)])
  | given place => do
    let x ← Document.item place 0
    let y ← Document.item place 1
    return .object [("x", x), ("y", y)]

/-- The entry for a place; none for a node that has no place. -/
def Position.entry? : Option Position → Except DocumentFault (Fields Value)
  | none => .ok []
  | some position => do return [("position", ← position.toValue)]

/-- The form of a node, its overrides by the names they have. -/
structure NodeForm where
  id : String
  type : String
  overrides : Overrides
  /-- The entry for its place, if it has one. -/
  place : Fields Value

/-- The form of a graph, the overrides by the names they have. -/
structure GraphForm where
  nodes : List NodeForm
  connections : List Value

def GraphNode.form (n : GraphNode) : Except DocumentFault NodeForm := do
  let place ← Position.entry? n.position
  return ⟨n.id, n.type, n.overrides, place⟩

/-- The entries of the form of a node other than its overrides. -/
def NodeForm.fields (f : NodeForm) : Fields Value :=
  [("id", .text f.id), ("type", .text f.type)] ++ f.place

def NodeForm.toValue (f : NodeForm) : Value :=
  .object
    ([("id", .text f.id), ("type", .text f.type), ("inputOverrides", .object f.overrides.spelled)]
      ++ f.place)

def GraphNode.toValue (n : GraphNode) : Except DocumentFault Value := NodeForm.toValue <$> n.form

def Connection.toValue (c : Connection) : Value :=
  .object
    [("id", .text c.id), ("fromNodeId", .text c.fromNode), ("fromPortId", .text c.fromPort),
     ("toNodeId", .text c.toNode), ("toPortId", .text c.toPort)]

def Graph.form (g : Graph) : Except DocumentFault GraphForm := do
  let nodes ← g.nodes.mapM GraphNode.form
  return ⟨nodes, g.connections.map Connection.toValue⟩

def GraphForm.entries (f : GraphForm) : Fields Value :=
  [("nodes", .list (f.nodes.map NodeForm.toValue)), ("connections", .list f.connections)]

/-- The entries of the form of a graph. -/
def Graph.entries (g : Graph) : Except DocumentFault (Fields Value) := GraphForm.entries <$> g.form

def Graph.toValue (g : Graph) : Except DocumentFault Value := Value.object <$> g.entries

/-! ## Reading it -/

namespace Document

def entries : Value → Except DocumentFault (Fields Value)
  | .object entries => .ok entries
  | value => .error (.notObject value.typeName)

/-- An entry that must be there, shown as a text. -/
def shownEntry (fields : Fields Value) (name : String) : Except DocumentFault String :=
  match fields.value? name with
  | some value => .ok value.plain
  | none => .error (.missingEntry name)

def coordinate (value : Value) : Except DocumentFault Float :=
  match value.number with
  | .ok x => .ok x
  | .error fault => .error (.coordinate fault)

/-- A coordinate of an object; zero if it is not given. -/
def namedCoordinate (fields : Fields Value) (name : String) : Except DocumentFault Float :=
  coordinate ((fields.value? name).getD (.float 0.0))

/-- The coordinates that a place starts with. -/
def coordinates (place : Value) : Except DocumentFault (Float × Float) := do
  let x ← coordinate (← item place 0)
  let y ← coordinate (← item place 1)
  return (x, y)

/-- The items of a value that has a length. -/
def sized (value : Value) : Except DocumentFault (List Value) :=
  match value with
  | .text _ | .list _ | .tuple _ =>
    match value.items? with
    | some items => .ok items
    | none => .error (.noLength value.typeName)
  | _ => .error (.noLength value.typeName)

/-- A place: an object of coordinates, or a pair. -/
def position (value : Value) : Except DocumentFault (Option Position) :=
  match value with
  | .null => .ok none
  | .object fields => do
    let x ← namedCoordinate fields "x"
    let y ← namedCoordinate fields "y"
    return some (.point x y)
  | _ => do
    match ← sized value with
    | [x, y] =>
      let x ← coordinate x
      let y ← coordinate y
      return some (.point x y)
    | _ => .error (.place value.display)

/-- Overrides given as pairs, from an index on, added to those before. -/
def overridePairs (done : Overrides) : Nat → List Value → Except DocumentFault Overrides
  | _, [] => .ok done
  | index, item :: rest =>
    match item.items? with
    | none => .error (.overrideForm index)
    | some [name, value] =>
      match OverrideName.ofValue? name with
      | some name => overridePairs (done.set name value) (index + 1) rest
      | none => .error (.overrideName name.typeName)
    | some items => .error (.overrideLength index items.length)

def overrides (value : Value) : Except DocumentFault Overrides :=
  if value.isVoid then .ok []
  else
    match value with
    | .object fields => .ok (.ofPorts fields)
    | _ =>
      match value.items? with
      | some items => overridePairs [] 0 items
      | none => .error (.noItems value.typeName)

/-- The node of these entries, with the overrides that are read apart from them. -/
def nodeOf (fields : Fields Value) (overrides : Except DocumentFault Overrides) :
    Except DocumentFault GraphNode := do
  let position ← position ((fields.value? "position").getD .null)
  let id ← shownEntry fields "id"
  let type ← shownEntry fields "type"
  let overrides ← overrides
  return { id, type, overrides, position }

def node (value : Value) : Except DocumentFault GraphNode := do
  let fields ← entries value
  let given := (fields.value? "inputOverrides").getD ((fields.value? "inputValues").getD .null)
  nodeOf fields (overrides given)

def connection (value : Value) : Except DocumentFault Connection :=
  match value with
  | .object fields => do
    let id ← shownEntry fields "id"
    let fromNode ← shownEntry fields "fromNodeId"
    let fromPort ← shownEntry fields "fromPortId"
    let toNode ← shownEntry fields "toNodeId"
    let toPort ← shownEntry fields "toPortId"
    return { id, fromNode, fromPort, toNode, toPort }
  | _ => .error (.noEntries value.typeName)

/-- The items under a name, each read in the same way; none if the name is not there. -/
def listed {α : Type} (read : Value → Except DocumentFault α) (fields : Fields Value)
    (name : String) : Except DocumentFault (List α) :=
  match fields.value? name with
  | none => .ok []
  | some value =>
    match value.items? with
    | some items => items.mapM read
    | none => .error (.noItems value.typeName)

end Document

/-- The graph of a document form. -/
def Graph.ofValue (value : Value) : Except DocumentFault Graph := do
  let fields ← Document.entries value
  let nodes ← Document.listed Document.node fields "nodes"
  let connections ← Document.listed Document.connection fields "connections"
  return { nodes, connections }

/-- The node of a form.  Its overrides are taken by their names. -/
def NodeForm.read (f : NodeForm) : Except DocumentFault GraphNode :=
  Document.nodeOf f.fields (.ok f.overrides)

def GraphForm.read (f : GraphForm) : Except DocumentFault Graph := do
  let nodes ← f.nodes.mapM NodeForm.read
  let connections ← f.connections.mapM Document.connection
  return { nodes, connections }

/-- The graph that the form of a graph is read as. -/
def Graph.reread (g : Graph) : Except DocumentFault Graph := g.form >>= GraphForm.read

end LoftGraph
