import LoftGraph.Proofs.Evaluation.Dataflow
import LoftGraph.Proofs.Evaluation.Reports

/-!
# The order of declaration does not matter

A full pass follows the order of declaration in everything: which node it plans for next, which
source a plan walks to first, in which order values are written over the inputs of a node. In a
graph that leaves nothing to that order (`Graph.Unambiguous`) the result is the same in every order,
if actions see their inputs as a mapping (`Registry.Extensional`).

* Nothing is cut, and different connections enter different inputs. So what is given under a name
  does not depend on the order (`given?_perm`), and neither does what the node puts out and finds
  (`does_perm`).
* So all nodes match (`matching_of_rearranged`), and the diagnostics of each are the same.
-/

namespace LoftGraph

/-! ## Orders of declaration -/

namespace Graph

variable {g g' : Graph}

/-- Two graphs that declare the same, each in its order. -/
structure Rearranged (g g' : Graph) : Prop where
  nodes : g.nodes.Perm g'.nodes
  connections : g.connections.Perm g'.connections

/-- Nothing about a graph is left to the order of declaration. -/
structure Unambiguous (g : Graph) : Prop where
  /-- No two nodes share an identifier. -/
  nodup_nodes : g.ids.Nodup
  /-- Every connection starts at a node. -/
  starts : ∀ c ∈ g.connections, g.hasNode c.fromNode = true
  /-- No input port has two connections. -/
  nodup_targets : (g.connections.map (fun c => (c.toNode, c.toPort))).Nodup
  acyclic : g.Acyclic

/-- What editing maintains leaves nothing to the order but cycles. -/
theorem WellFormed.unambiguous (h : g.WellFormed) (hacyclic : g.Acyclic) : g.Unambiguous where
  nodup_nodes := h.nodup_nodes
  starts := fun c hc => (hasNode_iff g c.fromNode).mpr (h.starts c hc)
  nodup_targets := h.nodup_targets
  acyclic := hacyclic

theorem Rearranged.hasNode_eq (h : g.Rearranged g') : g.hasNode = g'.hasNode := by
  funext id
  refine Bool.eq_iff_iff.mpr ?_
  rw [hasNode_iff, hasNode_iff]
  exact (h.nodes.map GraphNode.id).mem_iff

theorem Rearranged.node?_eq (h : g.Rearranged g') (hd : g.ids.Nodup) (id : String) :
    g.node? id = g'.node? id := by
  have hnodes := h.nodes
  unfold ids at hd
  unfold node?
  generalize g.nodes = ns, g'.nodes = ns' at hnodes hd ⊢
  induction hnodes with
  | nil => rfl
  | cons n _ ih =>
    rw [List.find?_cons, List.find?_cons, ih (List.nodup_cons.mp hd).2]
  | swap n n' rest =>
    have hne : n'.id ≠ n.id := fun heq => (List.nodup_cons.mp hd).1 (heq ▸ .head _)
    by_cases hid : n.id = id
    · simp [hid, hid ▸ hne]
    · simp [List.find?_cons, hid]
  | trans hfirst _ ih ih' =>
    rw [ih hd, ih' ((hfirst.map GraphNode.id).nodup_iff.mp hd)]

theorem Rearranged.feeds_eq (h : g.Rearranged g') : g.Feeds = g'.Feeds := by
  funext producer consumer
  simp only [Feeds, Joins, h.hasNode_eq, h.connections.mem_iff]

theorem Rearranged.unambiguous (h : g.Rearranged g') (hg : g.Unambiguous) : g'.Unambiguous where
  nodup_nodes := (h.nodes.map GraphNode.id).nodup_iff.mp hg.nodup_nodes
  starts := fun c hc => h.hasNode_eq ▸ hg.starts c (h.connections.mem_iff.mpr hc)
  nodup_targets := (h.connections.map _).nodup_iff.mp hg.nodup_targets
  acyclic := by
    unfold Acyclic
    exact h.feeds_eq ▸ hg.acyclic

/-- Different connections into a node enter different inputs. -/
theorem Unambiguous.nodup_supply (hg : g.Unambiguous) (cut : List Connection) (id : String) :
    ((Session.supply g cut id).map Connection.toPort).Nodup := by
  have hsub : (Session.supply g cut id).Sublist g.connections :=
    List.filter_sublist.trans List.filter_sublist
  have htargets := hg.nodup_targets.sublist (hsub.map _)
  have hpairs : ((Session.supply g cut id).map fun c => (c.toNode, c.toPort))
      = ((Session.supply g cut id).map Connection.toPort).map fun port => (id, port) := by
    rw [List.map_map]
    refine List.map_congr_left fun c hc => ?_
    rw [Function.comp_apply, (mem_incoming.mp (List.mem_filter.mp hc).1).2]
  rw [hpairs] at htargets
  exact htargets.of_map _

theorem Rearranged.supply_perm (h : g.Rearranged g') (cut : List Connection) (id : String) :
    (Session.supply g cut id).Perm (Session.supply g' cut id) :=
  (h.connections.filter _).filter _

end Graph

/-! ## Actions that see mappings -/

/-- Inputs that are the same as mappings. -/
structure Inputs.Alike (inputs inputs' : Inputs) : Prop where
  ports : ∀ name, inputs.ports.value? name = inputs'.ports.value? name
  strays : inputs.strays = inputs'.strays

/-- Actions see their inputs as a mapping: on inputs that are alike they do the same. -/
def Registry.Extensional (r : Registry) : Prop :=
  ∀ d ∈ r.definitions, ∀ id inputs inputs', inputs.Alike inputs' →
    d.action id inputs = d.action id inputs'

namespace Session

variable {r : Registry} {g g' : Graph} {s t : Session} {cut : List Connection}
variable {d : NodeDefinition} {n : GraphNode}

/-- Inputs that agree under every name come into their kinds alike. -/
theorem coerceInputs_alike (ports : List Port) {fields fields' : Fields Value}
    (h : ∀ name, fields.value? name = fields'.value? name) :
    (∃ fault, coerceInputs ports fields = .error fault ∧
        coerceInputs ports fields' = .error fault) ∨
      ∃ out out', coerceInputs ports fields = .ok out ∧ coerceInputs ports fields' = .ok out' ∧
        ∀ name, out.value? name = out'.value? name := by
  induction ports generalizing fields fields' with
  | nil => exact .inr ⟨fields, fields', rfl, rfl, h⟩
  | cons port ports ih =>
    rw [coerceInputs_cons, coerceInputs_cons, h port.id]
    cases hv : port.kind.coerce ((fields'.value? port.id).getD .null) with
    | error fault => exact .inl ⟨fault, rfl, rfl⟩
    | ok v =>
      refine ih fun name => ?_
      by_cases hname : port.id = name
      · rw [hname, Fields.value?_set_self, Fields.value?_set_self]
      · rw [Fields.value?_set_of_ne hname, Fields.value?_set_of_ne hname, h name]

/-! ## What a node gets, puts out and finds -/

theorem arriving_congr (hnodes : g.hasNode = g'.hasNode) {cs : List Connection}
    (h : s.AlikeOver t cs) : s.arriving g cs = t.arriving g' cs := by
  unfold arriving
  rw [hnodes]
  congr 1
  refine List.map_congr_left fun c hc => ?_
  rw [(h c (List.mem_filter.mp hc).1).2]

/-- What is given under a name is the same in every order. -/
theorem given?_perm (hr : g.Rearranged g') (hg : g.Unambiguous)
    (h : s.AlikeOver t (supply g cut n.id)) (name : String) :
    s.given? g cut n name = t.given? g' cut n name := by
  have hperm : (s.arriving g (supply g cut n.id)).Perm (t.arriving g' (supply g' cut n.id)) := by
    rw [arriving_congr hr.hasNode_eq h]
    exact (((hr.supply_perm cut n.id).filter _).map _).filter _
  have hsub : (s.arriving g (supply g cut n.id)).names.Sublist
      ((supply g cut n.id).map Connection.toPort) := by
    have hports : ((supply g cut n.id).map Connection.toPort)
        = ((supply g cut n.id).map fun c => (c.toPort, s.cached c.fromNode c.fromPort)).map
          Prod.fst := by
      simp
    rw [hports]
    exact (List.filter_sublist.trans (List.filter_sublist.map _)).map _
  rw [given?, given?, Fields.last?_perm hperm ((hg.nodup_supply cut n.id).sublist hsub)]

/-- Inputs resolve alike in every order. -/
theorem resolve_perm (hr : g.Rearranged g') (hg : g.Unambiguous)
    (hs : ∀ x, s.cache.has x = true → g.hasNode x = true)
    (ht : ∀ x, t.cache.has x = true → g'.hasNode x = true)
    (h : s.AlikeOver t (supply g cut n.id)) :
    (∃ fault, s.resolve g cut d n = .error fault ∧ t.resolve g' cut d n = .error fault) ∨
      ∃ inputs inputs', s.resolve g cut d n = .ok inputs ∧ t.resolve g' cut d n = .ok inputs' ∧
        inputs.Alike inputs' := by
  have hraw : ∀ name, (s.rawInputs g cut d n).value? name
      = (t.rawInputs g' cut d n).value? name := by
    intro name
    rw [value?_rawInputs hs, value?_rawInputs ht, given?_perm hr hg h]
  unfold resolve
  rcases coerceInputs_alike d.inputs hraw with
    ⟨fault, hleft, hright⟩ | ⟨out, out', hleft, hright, hports⟩
  · exact .inl ⟨.input fault, by rw [hleft], by rw [hright]⟩
  · exact .inr ⟨⟨out, n.overrides.strays⟩, ⟨out', n.overrides.strays⟩, by rw [hleft],
      by rw [hright], hports, rfl⟩

theorem dangling_eq_nil (hg : g.Unambiguous) (s : Session) (cut : List Connection) (id : String) :
    s.dangling g cut id = [] := by
  refine List.filter_eq_nil_iff.mpr fun c hc => ?_
  simp [hg.starts c (Graph.mem_incoming.mp (List.mem_filter.mp hc).1).1]

/-- A node puts out and finds the same in every order. -/
theorem does_perm (he : r.Extensional) (hr : g.Rearranged g') (hg : g.Unambiguous)
    (hs : ∀ x, s.cache.has x = true → g.hasNode x = true)
    (ht : ∀ x, t.cache.has x = true → g'.hasNode x = true)
    (h : s.AlikeOver t (supply g cut n.id)) :
    s.outcome ⟨g, r⟩ cut n = t.outcome ⟨g', r⟩ cut n ∧
      s.findings ⟨g, r⟩ cut n = t.findings ⟨g', r⟩ cut n := by
  unfold outcome findings
  cases hd : r.get? n.type with
  | none => exact ⟨rfl, rfl⟩
  | some d =>
    simp only [dangling_eq_nil hg, dangling_eq_nil (hr.unambiguous hg)]
    rcases resolve_perm (d := d) hr hg hs ht h with
      ⟨fault, hleft, hright⟩ | ⟨inputs, inputs', hleft, hright, halike⟩
    · simp only [hleft, hright, and_self]
    · have haction := he d (List.mem_of_find?_eq_some hd) n.id inputs inputs' halike
      simp only [hleft, hright, haction, and_self]

/-! ## Passes -/

theorem passCuts_eq_nil (hq : r.Quiet) (hg : g.Unambiguous) (hs : s.Idle) :
    s.passCuts ⟨g, r⟩ = [] := by
  refine List.eq_nil_iff_forall_not_mem.mpr fun c hc => ?_
  exact hg.acyclic.not_onCycle c ((fullPass_solved (e := ⟨g, r⟩) hq hs).onCycle c hc)

/-- All nodes of graphs in different orders of declaration match. -/
theorem matching_of_rearranged (hq : r.Quiet) (he : r.Extensional) (hr : g.Rearranged g')
    (hg : g.Unambiguous) (hs : s.Idle) (ht : t.Idle) :
    Matching ⟨g, r⟩ ⟨g', r⟩ (s.passCuts ⟨g, r⟩) (t.passCuts ⟨g', r⟩) fun _ => True where
  hasNode := hr.hasNode_eq
  node? := fun x _ => hr.node?_eq hg.nodup_nodes x
  sources := fun _ _ _ _ _ _ => trivial
  does := by
    intro u v n _ hu hv halike
    rw [passCuts_eq_nil hq hg hs] at halike ⊢
    rw [passCuts_eq_nil hq (hr.unambiguous hg) ht]
    exact does_perm he hr hg hu hv halike

/-- **Diagnostics of a node agree** after full passes in different orders of declaration. -/
theorem diagnostics_of_rearranged (hq : r.Quiet) (he : r.Extensional) (hr : g.Rearranged g')
    (hg : g.Unambiguous) (hs : s.Idle) (ht : t.Idle) (id : String) :
    (s.evaluateGraph ⟨g, r⟩).diagnostics.filter (fun d => d.node = id)
      = (t.evaluateGraph ⟨g', r⟩).diagnostics.filter (fun d => d.node = id) := by
  have hkey : ∀ key : Diagnostic.Key, decide (key.1 = id) = true → key.1 = id := by simp
  have hleft := filter_diagnostics_of_node (e := ⟨g, r⟩) hq hs hkey
    fun x hx => absurd hx (hg.acyclic x)
  have hright := filter_diagnostics_of_node (e := ⟨g', r⟩) hq ht hkey
    fun x hx => absurd hx ((hr.unambiguous hg).acyclic x)
  have hreports := (matching_of_rearranged hq he hr hg hs ht).nodeReports_eq hq hq hs ht id
    trivial
  rw [← hreports] at hright
  exact hleft.trans hright.symm

theorem nodeMeshes_congr (h : ∀ id, s.cache.value? id = t.cache.value? id) :
    s.nodeMeshes r = t.nodeMeshes r := by
  have hcached : ∀ id port, s.cached id port = t.cached id port := by
    intro id port
    rw [cached, cached, h id]
  have hport : s.portMesh? = t.portMesh? := by
    funext id port
    rw [portMesh?, portMesh?, hcached]
  funext n
  rw [nodeMeshes, nodeMeshes, hport]

end Session

/-- Reports that are the same for each node are the same in some order. -/
theorem Diagnostic.perm_of_filter {ds ds' : List Diagnostic}
    (h : ∀ id, ds.filter (fun d => d.node = id) = ds'.filter (fun d => d.node = id)) :
    ds.Perm ds' := by
  refine List.perm_iff_count.mpr fun d => ?_
  rw [← List.count_filter (p := fun x => x.node = d.node) (by simp), h,
    List.count_filter (by simp)]

/-- **The order of declaration does not matter.** Take two graphs that declare the same nodes and
connections, each in its order and in any state that a history leads to. The graphs are acyclic,
have distinct identifiers, connections that start at nodes and one connection at most into each
input. After a full pass on each over quiet nodes whose actions see mappings, every node has the
same outputs and the same diagnostics in the same order, the diagnostics are the same but for their
order, and the meshes are those of the same nodes, in the order of the nodes. -/
theorem full_pass_ignores_order (r : Registry) (hq : r.Quiet) (he : r.Extensional) (g g' : Graph)
    (actions actions' : List Action) (hg : (Host.after r g actions).graph.Unambiguous)
    (hr : (Host.after r g actions).graph.Rearranged (Host.after r g' actions').graph) :
    let h := Host.after r g actions
    let h' := Host.after r g' actions'
    let s := h.session.evaluateGraph ⟨h.graph, r⟩
    let s' := h'.session.evaluateGraph ⟨h'.graph, r⟩
    (∀ id, s.cache.value? id = s'.cache.value? id) ∧ s.diagnostics.Perm s'.diagnostics ∧
      (∀ id, s.diagnostics.filter (fun d => d.node = id)
        = s'.diagnostics.filter (fun d => d.node = id)) ∧
      (h.session.meshOutputs ⟨h.graph, r⟩).2 = h.graph.nodes.flatMap (s.nodeMeshes r) ∧
      (h'.session.meshOutputs ⟨h'.graph, r⟩).2 = h'.graph.nodes.flatMap (s.nodeMeshes r) := by
  intro h h' s s'
  have hs : h.session.Idle := Host.idle_after r g actions
  have ht : h'.session.Idle := Host.idle_after r g' actions'
  have hvalues : ∀ id, s.cache.value? id = s'.cache.value? id :=
    fun id => (Session.matching_of_rearranged hq he hr hg hs ht).value?_eq hq hq hs ht id trivial
  have hdiagnostics : ∀ id, s.diagnostics.filter (fun d => d.node = id)
      = s'.diagnostics.filter (fun d => d.node = id) :=
    Session.diagnostics_of_rearranged hq he hr hg hs ht
  refine ⟨hvalues, Diagnostic.perm_of_filter hdiagnostics, hdiagnostics, rfl, ?_⟩
  rw [Session.nodeMeshes_congr hvalues]
  rfl

theorem relays_extensional : relays.Extensional := by
  intro d hd id inputs inputs' h
  obtain rfl : d = relay := by simpa [relays] using hd
  simp only [relay, h.ports]

/-- The same graph declared backwards. -/
def Graph.backwards (g : Graph) : Graph :=
  { g with nodes := g.nodes.reverse, connections := g.connections.reverse }

theorem Graph.rearranged_backwards (g : Graph) : g.Rearranged g.backwards where
  nodes := (List.reverse_perm g.nodes).symm
  connections := (List.reverse_perm g.connections).symm

/-- A node that feeds two others, one of an unknown type, and a node whose input does not fit. -/
def misfits : Graph where
  nodes := [⟨"a", "relay", .ofPorts [("in", .bool true)], none⟩,
    ⟨"b", "relay", .ofPorts [("in", .text "maybe")], none⟩, ⟨"c", "lost", [], none⟩,
    ⟨"d", "relay", [], none⟩]
  connections := [⟨"k", "a", "out", "d", "in"⟩, ⟨"m", "a", "out", "c", "in"⟩]

theorem misfits_pass_ignores_order :
    let s := (Session.ofGraph misfits).evaluateGraph ⟨misfits, relays⟩
    let s' := (Session.ofGraph misfits.backwards).evaluateGraph ⟨misfits.backwards, relays⟩
    relays.Quiet ∧ relays.Extensional ∧ misfits.Unambiguous ∧
      misfits.Rearranged misfits.backwards ∧
      s.cache.value? "d" = some [("out", .bool true)] ∧ s'.cache.value? "d" = s.cache.value? "d" ∧
      s.diagnostics.map Diagnostic.node = ["b", "c"] ∧
      s'.diagnostics.map Diagnostic.node = ["c", "b"] ∧ s.diagnostics.Perm s'.diagnostics := by
  have hwell : misfits.WellFormed := ⟨by decide, by decide, by decide, by decide, by decide⟩
  have hg : misfits.Unambiguous := hwell.unambiguous
    (Graph.acyclic_of_rank (fun id => if id = "a" then 0 else 1) (by decide))
  have hr : misfits.Rearranged misfits.backwards := misfits.rearranged_backwards
  obtain ⟨hvalues, hperm, -⟩ := full_pass_ignores_order relays relays_quiet relays_extensional
    misfits misfits.backwards [] [] hg hr
  exact ⟨relays_quiet, relays_extensional, hg, hr, rfl, (hvalues "d").symm, by decide +kernel,
    by decide +kernel, hperm⟩

end LoftGraph
