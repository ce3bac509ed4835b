import LoftGraph.Graph.Storage
import LoftGraph.Proofs.Traversal

/-!
# Graphs and their documents

* `Position.settled` is a place by its two numbers, the only thing a document says of it, and
  `Graph.settled` the graph with its places like that. `Graph.respelled` is the graph that its own
  document describes.
* `GraphNode.Placed.form_spec`: the form of a node is read as the node, as it is, from its value and
  from what a document holds of it. `Graph.form_spec` is the same of a graph.
* `Graph.settled_of_ofValue`: reading never gives a place without numbers, whatever the document.
  A graph that was read therefore has a form, and `Graph.reread_eq_self` is about every document
  that is accepted and not only about those that were written.
* Overrides are read by name. A name that is no text is only spelled in a value, so such a graph is
  not read back from the value as it was, but it has the same one.
-/

namespace LoftGraph

/-- The numbers of a place, if it has any. -/
def Position.numbers : Position → Except DocumentFault (Float × Float)
  | point x y => .ok (x, y)
  | given place => Document.coordinates place

/-- A place by its numbers alone. -/
def Position.settled (p : Position) : Option Position :=
  match p.numbers with
  | .ok (x, y) => some (.point x y)
  | .error _ => none

/-- Has the place of a node numbers, if it has a place? -/
def GraphNode.Placed (n : GraphNode) : Prop :=
  ∀ p, n.position = some p → ∃ x y, p.numbers = .ok (x, y)

/-- A node with its place by its numbers. -/
def GraphNode.settled (n : GraphNode) : GraphNode :=
  { n with position := n.position.bind Position.settled }

/-- A node with its place by its numbers and its overrides by the spelling of their names. -/
def GraphNode.respelled (n : GraphNode) : GraphNode :=
  { n.settled with overrides := .ofPorts n.overrides.spelled }

/-- A form with its overrides by the spelling of their names. -/
def NodeForm.respelled (f : NodeForm) : NodeForm :=
  { f with overrides := .ofPorts f.overrides.spelled }

@[simp] theorem Overrides.spelled_ofPorts (entries : Fields Value) :
    Overrides.spelled (.ofPorts entries) = entries := by
  induction entries with
  | nil => rfl
  | cons entry rest ih => exact congrArg (entry :: ·) ih

namespace Value

/-- A number stays that number in a document. -/
theorem number_toJson? {v : Value} {x : Float} (h : v.number = .ok x) :
    ∃ j, v.toJson? = some j ∧ (ofJson j).number = .ok x := by
  cases v with
  | bool b => exact ⟨_, rfl, h⟩
  | int i => exact ⟨_, rfl, h⟩
  | float y => exact ⟨_, rfl, h⟩
  | text s => exact ⟨_, rfl, h⟩
  | shape k => exact ⟨_, rfl, h⟩
  | fixed v => cases v <;> exact ⟨_, rfl, h⟩
  | block dims numbers =>
    match dims, numbers, h with
    | [], [_], h => exact ⟨_, rfl, h⟩
  | _ => cases h

theorem jsonItems?_cons {v : Value} {rest : List Value} {j : Json} {js : List Json}
    (hv : v.toJson? = some j) (hrest : jsonItems? rest = some js) :
    jsonItems? (v :: rest) = some (j :: js) := by
  simp [jsonItems?, hv, hrest]

theorem jsonEntries?_cons {name : String} {v : Value} {rest : List (String × Value)} {j : Json}
    {js : List (String × Json)} (hv : v.toJson? = some j) (hrest : jsonEntries? rest = some js) :
    jsonEntries? ((name, v) :: rest) = some ((name, j) :: js) := by
  simp [jsonEntries?, hv, hrest]

theorem toJson?_object {entries : List (String × Value)} {js : List (String × Json)}
    (h : jsonEntries? entries = some js) : (object entries).toJson? = some (.object js) := by
  simp [toJson?, h]

end Value

namespace Document

theorem overrides_object (fields : Fields Value) :
    overrides (.object fields) = .ok (.ofPorts fields) := by
  rw [overrides]
  cases fields <;> rfl

theorem coordinate_eq_ok_iff {v : Value} {x : Float} : coordinate v = .ok x ↔ v.number = .ok x := by
  unfold coordinate
  split <;> simp_all

theorem position_object {first second : Value} {x y : Float} (hx : first.number = .ok x)
    (hy : second.number = .ok y) :
    position (.object [("x", first), ("y", second)]) = .ok (some (.point x y)) :=
  bind_eq_ok_iff.mpr ⟨x, coordinate_eq_ok_iff.mpr hx,
    bind_eq_ok_iff.mpr ⟨y, coordinate_eq_ok_iff.mpr hy, rfl⟩⟩

/-- The form of a place that has numbers holds values of these numbers. -/
theorem position_toValue {p : Position} {x y : Float} (h : p.numbers = .ok (x, y)) :
    ∃ first second, p.toValue = .ok (.object [("x", first), ("y", second)]) ∧
      first.number = .ok x ∧ second.number = .ok y := by
  cases p with
  | point x' y' =>
    cases h
    exact ⟨_, _, rfl, rfl, rfl⟩
  | given place =>
    obtain ⟨first, hfirst, h⟩ := bind_eq_ok_iff.mp h
    obtain ⟨x', hx, h⟩ := bind_eq_ok_iff.mp h
    obtain ⟨second, hsecond, h⟩ := bind_eq_ok_iff.mp h
    obtain ⟨y', hy, h⟩ := bind_eq_ok_iff.mp h
    cases h
    exact ⟨first, second,
      bind_eq_ok_iff.mpr ⟨first, hfirst, bind_eq_ok_iff.mpr ⟨second, hsecond, rfl⟩⟩,
      coordinate_eq_ok_iff.mp hx, coordinate_eq_ok_iff.mp hy⟩

/-- The entries of the form of a node, with or without a place. -/
def nodeEntries (id type : String) (inputs : Fields Value) (place : Option Value) : Fields Value :=
  [("id", .text id), ("type", .text type), ("inputOverrides", .object inputs)] ++
    (place.map (fun form => ("position", form))).toList

/-- Entries are read as a node if there is an identifier and a type and the place can be read. -/
theorem nodeOf_eq_ok {fields : Fields Value} {id type : String} {p : Option Position}
    (os : Overrides) (hplace : position ((fields.value? "position").getD .null) = .ok p)
    (hid : fields.value? "id" = some (.text id))
    (htype : fields.value? "type" = some (.text type)) :
    nodeOf fields (.ok os) = .ok ⟨id, type, os, p⟩ := by
  have hshown : ∀ {name text : String}, fields.value? name = some (.text text) →
      shownEntry fields name = .ok text := by
    intro name text h
    rw [shownEntry, h]
    rfl
  refine bind_eq_ok_iff.mpr ⟨p, hplace, bind_eq_ok_iff.mpr ⟨id, hshown hid, ?_⟩⟩
  exact bind_eq_ok_iff.mpr ⟨type, hshown htype, rfl⟩

theorem node_object {id type : String} {inputs : Fields Value} {place : Option Value}
    {p : Option Position} (h : position (place.getD .null) = .ok p) :
    node (.object (nodeEntries id type inputs place)) = .ok ⟨id, type, .ofPorts inputs, p⟩ := by
  have hplace : position (((nodeEntries id type inputs place).value? "position").getD .null)
      = .ok p := by
    cases place <;> exact h
  refine bind_eq_ok_iff.mpr ⟨_, rfl, ?_⟩
  show nodeOf _ (overrides (.object inputs)) = _
  rw [overrides_object]
  exact nodeOf_eq_ok _ hplace rfl rfl

/-- A form that holds a node's place is read as that node, with the overrides as they are. -/
theorem read_form {id type : String} {os : Overrides} {place : Option Value} {p : Option Position}
    (h : position (place.getD .null) = .ok p) :
    NodeForm.read ⟨id, type, os, (place.map (fun form => ("position", form))).toList⟩
      = .ok ⟨id, type, os, p⟩ := by
  refine nodeOf_eq_ok os ?_ rfl rfl
  cases place <;> exact h

theorem connection_toValue (c : Connection) : connection c.toValue = .ok c := rfl

/-- A place that is read off a document has its numbers. -/
theorem settled_of_position {value : Value} {place : Option Position}
    (h : position value = .ok place) : place.bind Position.settled = place := by
  have hpoint : ∀ {x y : Except DocumentFault Float},
      (do let x ← x; let y ← y; return some (.point x y)) = Except.ok place →
        place.bind Position.settled = place := by
    intro x y h
    obtain ⟨x, -, h⟩ := bind_eq_ok_iff.mp h
    obtain ⟨y, -, h⟩ := bind_eq_ok_iff.mp h
    cases h
    rfl
  unfold position at h
  split at h
  · cases h
    rfl
  · exact hpoint h
  · obtain ⟨items, -, h⟩ := bind_eq_ok_iff.mp h
    split at h
    · exact hpoint h
    · cases h

theorem settled_of_node {value : Value} {n : GraphNode} (h : node value = .ok n) :
    n.position.bind Position.settled = n.position := by
  obtain ⟨fields, -, h⟩ := bind_eq_ok_iff.mp h
  obtain ⟨place, hplace, h⟩ := bind_eq_ok_iff.mp h
  obtain ⟨id, -, h⟩ := bind_eq_ok_iff.mp h
  obtain ⟨type, -, h⟩ := bind_eq_ok_iff.mp h
  obtain ⟨overrides, -, h⟩ := bind_eq_ok_iff.mp h
  cases h
  exact settled_of_position hplace

end Document

namespace GraphNode

variable {n : GraphNode}

theorem placed_of_settled (h : n.position.bind Position.settled = n.position) : n.Placed := by
  intro p hp
  rw [hp, Option.bind_some, Position.settled] at h
  split at h
  · next x y hnumbers => exact ⟨x, y, hnumbers⟩
  · cases h

theorem settled_eq_self (h : n.position.bind Position.settled = n.position) : n.settled = n := by
  rw [settled, h]

theorem form_respelled (h : n.position.bind Position.settled = n.position) :
    n.respelled.form = NodeForm.respelled <$> n.form := by
  rw [form, form, respelled, settled_eq_self h]
  cases Position.entry? n.position <;> rfl

/-- The value of a form shows its overrides by their spelling alone. -/
theorem toValue_respelled (f : NodeForm) : f.respelled.toValue = f.toValue := by
  simp only [NodeForm.toValue, NodeForm.respelled, Overrides.spelled_ofPorts]

/-- The entry for the place of a node, in the form and in a document. -/
theorem entry?_spec (h : n.Placed) :
    ∃ (place : Option Value) (stored : Option Json),
      Position.entry? n.position = .ok (place.map (fun form => ("position", form))).toList ∧
      place.bind Value.toJson? = stored ∧ place.isSome = stored.isSome ∧
      Document.position (place.getD .null) = .ok (n.position.bind Position.settled) ∧
      Document.position ((stored.map Value.ofJson).getD .null)
        = .ok (n.position.bind Position.settled) := by
  cases hposition : n.position with
  | none => exact ⟨none, none, rfl, rfl, rfl, rfl, rfl⟩
  | some p =>
    obtain ⟨x, y, hp⟩ := h p hposition
    obtain ⟨first, second, hform, hx, hy⟩ := Document.position_toValue hp
    obtain ⟨j, hj, hjx⟩ := Value.number_toJson? hx
    obtain ⟨k, hk, hky⟩ := Value.number_toJson? hy
    have hsettled : p.settled = some (.point x y) := by simp [Position.settled, hp]
    rw [Option.bind_some, hsettled]
    exact ⟨some _, some (.object [("x", j), ("y", k)]), bind_eq_ok_iff.mpr ⟨_, hform, rfl⟩,
      Value.toJson?_object (Value.jsonEntries?_cons hj (Value.jsonEntries?_cons hk rfl)), rfl,
      Document.position_object hx hy, Document.position_object hjx hky⟩

/-- The form of a node is read as the node; so is its value, and so is what a document holds of it,
if it can hold the overrides. -/
theorem Placed.form_spec (h : n.Placed) :
    ∃ form, n.form = .ok form ∧ form.read = .ok n.settled ∧
      Document.node form.toValue = .ok n.respelled ∧
      ∀ inputs, n.overrides = .ofPorts (Value.ofEntries inputs) →
        ∃ j, form.toValue.toJson? = some j ∧ Document.node (Value.ofJson j) = .ok n.respelled := by
  obtain ⟨place, stored, hentry, hstored, hsome, hread, hback⟩ := entry?_spec h
  refine ⟨_, bind_eq_ok_iff.mpr ⟨_, hentry, rfl⟩, Document.read_form hread,
    Document.node_object hread, ?_⟩
  intro inputs hinputs
  have hplace : Value.jsonEntries? (place.map (fun form => ("position", form))).toList
      = some (stored.map (fun form => ("position", form))).toList := by
    cases place with
    | none =>
      cases hstored
      rfl
    | some form =>
      obtain ⟨j, rfl⟩ := Option.isSome_iff_exists.mp hsome.symm
      exact Value.jsonEntries?_cons hstored rfl
  have hspelled : n.overrides.spelled = Value.ofEntries inputs := by
    rw [hinputs, Overrides.spelled_ofPorts]
  have hobject : (Value.object n.overrides.spelled).toJson? = some (.object inputs) :=
    hspelled ▸ Value.toJson?_object (Value.jsonEntries?_ofEntries inputs)
  refine ⟨_, Value.toJson?_object (Value.jsonEntries?_cons rfl (Value.jsonEntries?_cons rfl
    (Value.jsonEntries?_cons hobject hplace))), ?_⟩
  rw [respelled, settled, hspelled, ← Document.node_object hback]
  cases stored <;> rfl

end GraphNode

namespace Graph

/-- A graph with its places by their numbers. -/
def settled (g : Graph) : Graph :=
  { nodes := g.nodes.map GraphNode.settled, connections := g.connections }

/-- A graph with its nodes as the document form shows them. -/
def respelled (g : Graph) : Graph :=
  { nodes := g.nodes.map GraphNode.respelled, connections := g.connections }

theorem nodes_form {nodes : List GraphNode} (h : ∀ n ∈ nodes, n.Placed) :
    ∃ forms, nodes.mapM GraphNode.form = .ok forms ∧
      forms.mapM NodeForm.read = .ok (nodes.map GraphNode.settled) ∧
      (forms.map NodeForm.toValue).mapM Document.node = .ok (nodes.map GraphNode.respelled) ∧
      ((∀ n ∈ nodes, ∃ inputs, n.overrides = .ofPorts (Value.ofEntries inputs)) →
        ∃ stored, Value.jsonItems? (forms.map NodeForm.toValue) = some stored ∧
          (Value.ofItems stored).mapM Document.node = .ok (nodes.map GraphNode.respelled)) := by
  induction nodes with
  | nil => exact ⟨[], rfl, rfl, rfl, fun _ => ⟨[], rfl, rfl⟩⟩
  | cons n rest ih =>
    obtain ⟨form, hform, hself, hread, hstored⟩ := (h n (.head _)).form_spec
    obtain ⟨forms, hforms, hselves, hreads, hstoreds⟩ := ih fun n hn => h n (.tail _ hn)
    refine ⟨form :: forms, ?_, ?_, ?_, fun hjson => ?_⟩
    · exact mapM_cons_eq_ok_iff.mpr ⟨form, forms, hform, hforms, rfl⟩
    · exact mapM_cons_eq_ok_iff.mpr ⟨_, _, hself, hselves, rfl⟩
    · exact mapM_cons_eq_ok_iff.mpr ⟨_, _, hread, hreads, rfl⟩
    · obtain ⟨inputs, hinputs⟩ := hjson n (.head _)
      obtain ⟨j, hj, hback⟩ := hstored inputs hinputs
      obtain ⟨js, hjs, hbacks⟩ := hstoreds fun n hn => hjson n (.tail _ hn)
      refine ⟨j :: js, Value.jsonItems?_cons hj hjs, ?_⟩
      rw [Value.ofItems]
      exact mapM_cons_eq_ok_iff.mpr ⟨_, _, hback, hbacks, rfl⟩

/-- The document form of a graph is read as the graph. -/
theorem ofValue_entries {nodes connections : List Value} {entries : Fields Value} {g : Graph}
    (hnodes : Fields.value? entries "nodes" = some (.list nodes))
    (hconnections : Fields.value? entries "connections" = some (.list connections))
    (hreads : nodes.mapM Document.node = .ok g.nodes)
    (hreads' : connections.mapM Document.connection = .ok g.connections) (hg : g.revision = 0) :
    ofValue (.object entries) = .ok g := by
  refine bind_eq_ok_iff.mpr ⟨entries, rfl, bind_eq_ok_iff.mpr ⟨g.nodes, ?_,
    bind_eq_ok_iff.mpr ⟨g.connections, ?_, ?_⟩⟩⟩
  · rw [Document.listed, hnodes]
    exact hreads
  · rw [Document.listed, hconnections]
    exact hreads'
  · rw [← hg]
    rfl

/-- The nodes of a graph that is read have their numbers as places. -/
theorem settled_of_ofValue {value : Value} {g : Graph} (h : ofValue value = .ok g) :
    g.revision = 0 ∧ ∀ n ∈ g.nodes, n.position.bind Position.settled = n.position := by
  obtain ⟨fields, -, h⟩ := bind_eq_ok_iff.mp h
  obtain ⟨nodes, hnodes, h⟩ := bind_eq_ok_iff.mp h
  obtain ⟨connections, -, h⟩ := bind_eq_ok_iff.mp h
  cases h
  refine ⟨rfl, fun n hn => ?_⟩
  unfold Document.listed at hnodes
  split at hnodes
  · cases hnodes
    cases hn
  · split at hnodes
    · obtain ⟨value, -, hread⟩ := exists_of_mem_mapM hnodes hn
      exact Document.settled_of_node hread
    · cases hnodes

/-- The entries of a form show the overrides by their spelling alone. -/
theorem entries_respelled {g : Graph} {form : GraphForm}
    (h : ∀ n ∈ g.nodes, n.position.bind Position.settled = n.position) (hform : g.form = .ok form) :
    g.respelled.entries = .ok form.entries := by
  obtain ⟨forms, hforms, hform⟩ := bind_eq_ok_iff.mp hform
  cases hform
  have hrespelled : g.respelled.nodes.mapM GraphNode.form = .ok (forms.map NodeForm.respelled) := by
    have hnodes : g.respelled.nodes.map GraphNode.form
        = (g.nodes.map GraphNode.form).map (NodeForm.respelled <$> ·) := by
      rw [respelled, List.map_map, List.map_map]
      exact List.map_congr_left fun n hn => GraphNode.form_respelled (h n hn)
    rw [mapM_eq_ok_iff, hnodes, mapM_eq_ok_iff.mp hforms, List.map_map, List.map_map]
    rfl
  refine map_eq_ok_iff.mpr ⟨_, bind_eq_ok_iff.mpr ⟨_, hrespelled, rfl⟩, ?_⟩
  simp only [GraphForm.entries, List.map_map, Function.comp_def, GraphNode.toValue_respelled,
    respelled]

/-- What a document holds of a connection. -/
def storedConnection (c : Connection) : Json :=
  .object
    [("id", .string c.id), ("fromNodeId", .string c.fromNode), ("fromPortId", .string c.fromPort),
     ("toNodeId", .string c.toNode), ("toPortId", .string c.toPort)]

theorem ofItems_storedConnection (connections : List Connection) :
    Value.ofItems (connections.map storedConnection) = connections.map Connection.toValue := by
  induction connections with
  | nil => rfl
  | cons c rest ih => exact congrArg (c.toValue :: ·) ih

variable {g : Graph}

theorem entries_eq_ok {form : GraphForm} (h : g.form = .ok form) :
    g.entries = .ok form.entries :=
  map_eq_ok_iff.mpr ⟨form, h, rfl⟩

theorem toValue_eq_ok {entries : Fields Value} (h : g.entries = .ok entries) :
    g.toValue = .ok (.object entries) :=
  map_eq_ok_iff.mpr ⟨entries, h, rfl⟩

/-- The form of a graph is read as the graph. So is its value, and so is the document of its file,
if the overrides are values of documents. -/
theorem form_spec (h : ∀ n ∈ g.nodes, n.Placed) :
    ∃ form, g.form = .ok form ∧ form.read = .ok g.settled ∧
      ofValue (.object form.entries) = .ok g.respelled ∧
      ((∀ n ∈ g.nodes, ∃ inputs, n.overrides = .ofPorts (Value.ofEntries inputs)) →
        ∃ document, g.document = .ok document ∧
          ∀ name, loadDocument name document = ⟨[], .ok g.respelled⟩) := by
  obtain ⟨forms, hforms, hselves, hnodes, hstored⟩ := nodes_form h
  have hconnections : (g.connections.map Connection.toValue).mapM Document.connection
      = .ok g.connections := by
    rw [mapM_eq_ok_iff, List.map_map]
    exact List.map_congr_left fun c _ => Document.connection_toValue c
  let form : GraphForm := ⟨forms, g.connections.map Connection.toValue⟩
  have hform : g.form = .ok form := bind_eq_ok_iff.mpr ⟨forms, hforms, rfl⟩
  have hread : form.read = .ok g.settled :=
    bind_eq_ok_iff.mpr ⟨_, hselves, bind_eq_ok_iff.mpr ⟨_, hconnections, rfl⟩⟩
  refine ⟨form, hform, hread, ofValue_entries rfl rfl hnodes hconnections rfl, fun hjson => ?_⟩
  obtain ⟨stored, hitems, hreads⟩ := hstored hjson
  let stores : Json := .object [("version", .string documentVersion), ("nodes", .array stored),
    ("connections", .array (g.connections.map storedConnection))]
  have hstores : (Value.object (("version", .text documentVersion) :: form.entries)).toJson?
      = some stores := by
    refine Value.toJson?_object (Value.jsonEntries?_cons rfl (Value.jsonEntries?_cons ?_
      (Value.jsonEntries?_cons ?_ rfl)))
    · rw [Value.toJson?, hitems]
      rfl
    · show (Value.list (g.connections.map Connection.toValue)).toJson? = _
      rw [← ofItems_storedConnection, Value.toJson?, Value.jsonItems?_ofItems]
      rfl
  refine ⟨stores, ?_, fun name => ?_⟩
  · rw [document, entries_eq_ok hform]
    refine bind_eq_ok_iff.mpr ⟨_, rfl, ?_⟩
    rw [hstores]
    rfl
  · rw [← ofItems_storedConnection] at hconnections
    have hread : ofValue (Value.ofJson stores) = .ok g.respelled :=
      ofValue_entries rfl rfl hreads hconnections rfl
    simp only [Value.ofJson, stores] at hread
    simp only [loadDocument, stores, hread]
    rfl

/-- A graph that was read is read again as it is, with the names of its overrides. -/
theorem reread_eq_self (hrevision : g.revision = 0)
    (h : ∀ n ∈ g.nodes, n.position.bind Position.settled = n.position) : g.reread = .ok g := by
  obtain ⟨form, hform, hread, -⟩ := form_spec fun n hn => GraphNode.placed_of_settled (h n hn)
  have hnodes : g.nodes.map GraphNode.settled = g.nodes :=
    (List.map_congr_left fun n hn => GraphNode.settled_eq_self (h n hn)).trans
      (List.map_id' g.nodes)
  rw [settled, hnodes, ← hrevision] at hread
  exact bind_eq_ok_iff.mpr ⟨form, hform, hread⟩

end Graph

/-- **Documents round-trip.** The form of a graph whose overrides are named by inputs and whose
places have numbers is read as that graph, with its places as numbers. If the overrides are values
of documents, a file that holds the graph is loaded as the same, provided that its text reads as
the document it was written from. And whatever form a graph is read from, the form of the graph is
read as the graph again and is its own form. -/
theorem graph_documents_round_trip :
    (∀ g : Graph, (∀ n ∈ g.nodes, n.Placed ∧ ∃ inputs, n.overrides = .ofPorts inputs) →
      let settled : Graph :=
        { nodes := g.nodes.map (fun n => { n with position := n.position.bind Position.settled })
          connections := g.connections }
      (∃ form, g.toValue = .ok form ∧ Graph.ofValue form = .ok settled) ∧
      ((∀ n ∈ g.nodes, ∃ inputs, n.overrides = .ofPorts (Value.ofEntries inputs)) →
        ∃ document, g.document = .ok document ∧ g.fileText = .ok document.write ∧
          (Json.read (String.ofList (Text.plainLineEnds document.write.toList)) = .ok document →
            ∀ name, Graph.load name (some document.write) = ⟨[], .ok settled⟩))) ∧
    ∀ (form : Value) (g : Graph), Graph.ofValue form = .ok g →
      g.reread = .ok g ∧
        ∃ canonical, g.toValue = .ok canonical ∧
          (Graph.ofValue canonical >>= Graph.toValue) = .ok canonical := by
  refine ⟨fun g hg => ?_, fun form g hread => ?_⟩
  · intro settled
    obtain ⟨form, hform, -, hread, hstored⟩ := Graph.form_spec fun n hn => (hg n hn).1
    have hsettled : g.respelled = settled := by
      have hnodes : g.nodes.map GraphNode.respelled = settled.nodes := by
        refine List.map_congr_left fun n hn => ?_
        obtain ⟨-, inputs, hinputs⟩ := hg n hn
        rw [GraphNode.respelled, GraphNode.settled, hinputs, Overrides.spelled_ofPorts]
      rw [Graph.respelled, hnodes]
    rw [hsettled] at hread hstored
    refine ⟨⟨_, Graph.toValue_eq_ok (Graph.entries_eq_ok hform), hread⟩, fun hjson => ?_⟩
    obtain ⟨document, hdocument, hload⟩ := hstored hjson
    have hfile : g.fileText = .ok document.write := by
      rw [Graph.fileText, hdocument]
      rfl
    refine ⟨document, hdocument, hfile, fun hreads name => ?_⟩
    simp only [Graph.load, hreads]
    exact hload name
  · obtain ⟨hrevision, hsettled⟩ := Graph.settled_of_ofValue hread
    obtain ⟨form, hform, -, hback, -⟩ :=
      Graph.form_spec fun n hn => GraphNode.placed_of_settled (hsettled n hn)
    have hsame : g.respelled.toValue = .ok (.object form.entries) :=
      Graph.toValue_eq_ok (Graph.entries_respelled hsettled hform)
    exact ⟨Graph.reread_eq_self hrevision hsettled, _,
      Graph.toValue_eq_ok (Graph.entries_eq_ok hform), bind_eq_ok_iff.mpr ⟨_, hback, hsame⟩⟩

/-- A node that a host gave a pair as its place, in a graph that has been edited. -/
def pairedGraph : Graph where
  nodes := [⟨"a", "number", .ofPorts (Value.ofEntries [("value", .int 3)]),
    some (.given (.tuple [.int 1, .text "2.5"]))⟩]
  connections := []
  revision := 4

/-- What a file of it holds. -/
def pairedDocument : Json :=
  .object
    [("version", .string "1.0"),
     ("nodes", .array
       [.object
         [("id", .string "a"), ("type", .string "number"),
          ("inputOverrides", .object [("value", .int 3)]),
          ("position", .object [("x", .int 1), ("y", .string "2.5")])]]),
     ("connections", .array [])]

/-- A node in former spelling: a whole number as its identifier, overrides as pairs under their
former name, one of them named by a truth value and then by a number that is the same name. -/
def formerForm : Value :=
  .object
    [("nodes", .list
       [.object
         [("id", .int 7), ("type", .text "number"), ("position", .list [.text "1e3", .int 2]),
          ("inputValues", .list [.list [.bool true, .null], .list [.text "value", .int 3],
            .list [.int 1, .text "odd"]])]])]

theorem paired_graph_round_trips :
    (∀ name, Graph.load name (some pairedDocument.write)
      = ⟨[], .ok ⟨[⟨"a", "number", .ofPorts [("value", .int 3)], some (.point 1.0 2.5)⟩], [], 0⟩⟩) ∧
    ∃ g, Graph.ofValue formerForm = .ok g ∧ g.ids = ["7"] ∧ g.reread = .ok g ∧
      ∃ canonical, g.toValue = .ok canonical ∧
        (Graph.ofValue canonical >>= Graph.toValue) = .ok canonical := by
  have hnodes : ∀ n ∈ pairedGraph.nodes, n.Placed ∧ ∃ inputs, n.overrides = .ofPorts inputs := by
    intro n hn
    obtain rfl := List.mem_singleton.mp hn
    refine ⟨fun p hp => ?_, _, rfl⟩
    cases hp
    exact ⟨1.0, 2.5, rfl⟩
  have hstored : ∀ n ∈ pairedGraph.nodes,
      ∃ inputs, n.overrides = .ofPorts (Value.ofEntries inputs) := by
    intro n hn
    obtain rfl := List.mem_singleton.mp hn
    exact ⟨_, rfl⟩
  have hdocument : pairedGraph.document = .ok pairedDocument := rfl
  have hreads : Json.read (String.ofList (Text.plainLineEnds pairedDocument.write.toList))
      = .ok pairedDocument := by
    -- the text as a list of characters first: joining texts is slow to evaluate
    simp only [Json.read, String.toList_ofList, pairedDocument, Json.write, Json.writeAt,
      Json.writeItems, Json.writeEntries, Json.quote, Json.lineBreak, Json.atomText,
      String.toList_append]
    set_option maxRecDepth 20000 in
    rfl
  obtain ⟨hround, hforms⟩ := graph_documents_round_trip
  refine ⟨fun name => ?_, ?_⟩
  · obtain ⟨document, hwritten, -, hload⟩ := (hround pairedGraph hnodes).2 hstored
    obtain rfl : pairedDocument = document := Except.ok.inj (hdocument.symm.trans hwritten)
    exact hload hreads name
  · have hread : Graph.ofValue formerForm = .ok ⟨[⟨"7", "number",
        [(⟨.whole 1, "true"⟩, .text "odd"), (.ofPort "value", .int 3)], some (.point 1000.0 2.0)⟩],
        [], 0⟩ := rfl
    exact ⟨_, hread, rfl, hforms _ _ hread⟩

end LoftGraph
