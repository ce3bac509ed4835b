import LoftGraph.Node.Inputs
import LoftGraph.Proofs.Evaluation.Dataflow
import LoftGraph.Proofs.Evaluation.Reports

/-!
# Passes in which every node works

A node whose inputs all come into their kinds, and whose action then ends with its outputs, has
these outputs after a full pass and reports what it warns of and nothing else (`Works`,
`Works.outcome_eq`, `Works.findings_eq`). An input holds what is set on it
(`rawValue_of_override`), or what arrives over the one connection there is (`rawValue_of_arriving`).

In a graph without circles in which one node alone has something to report, the diagnostics of a
pass are the reports of this node (`diagnostics_of_reporter`).
-/

namespace LoftGraph

namespace Diagnostic

/-- Reports of different keys are all noted. -/
theorem noteAll_of_nodup {ds more : List Diagnostic} (h : ((ds ++ more).map key).Nodup) :
    noteAll ds more = ds ++ more := by
  induction more generalizing ds with
  | nil => exact (List.append_nil ds).symm
  | cons d more ih =>
    have hnew : ¬ Noted ds d := by
      rintro ⟨other, hother, hkey⟩
      rw [List.map_append] at h
      exact (List.nodup_append.mp h).2.2 _ (List.mem_map_of_mem hother) _ (.head _) hkey
    rw [List.append_cons] at h ⊢
    rw [noteAll_cons, note_of_new hnew]
    exact ih h

end Diagnostic

namespace Request

theorem result_notes (messages : List String) (next : Request) :
    (notes messages next).result = next.result := by
  induction messages with
  | nil => rfl
  | cons message rest ih => exact ih

theorem warned_notes (messages : List String) (next : Request) :
    (notes messages next).warned = next.warned := by
  induction messages with
  | nil => rfl
  | cons message rest ih => exact ih

theorem result_warnings (messages : List String) (next : Request) :
    (warnings messages next).result = next.result := by
  induction messages with
  | nil => rfl
  | cons message rest ih => exact ih

theorem warned_warnings (messages : List String) (next : Request) :
    (warnings messages next).warned = messages ++ next.warned := by
  induction messages with
  | nil => rfl
  | cons message rest ih => exact congrArg (message :: ·) ih

end Request

namespace Session

open Diagnostic (noteAll)

variable {e : Evaluation} {s : Session} {g : Graph} {cut : List Connection} {n : GraphNode}
  {d : NodeDefinition} {port : Port}

/-! ## Inputs -/

theorem rawValue_of_override {v : Value} (h : n.override? port.id = some v) :
    s.rawValue g cut n port = v := by
  rw [rawValue, given?, h]
  rfl

/-- An input with nothing set on it holds what arrives over the one connection of the node. -/
theorem rawValue_of_arriving {c : Connection} (hnone : n.override? port.id = none)
    (hsupply : supply g cut n.id = [c]) (hport : c.toPort = port.id)
    (hnode : g.hasNode c.fromNode = true)
    (hvalue : (s.cached c.fromNode c.fromPort).isNull = false) :
    s.rawValue g cut n port = s.cached c.fromNode c.fromPort := by
  have harriving : s.arriving g [c] = [(port.id, s.cached c.fromNode c.fromPort)] := by
    simp [arriving, hnode, hvalue, hport]
  have hlast : Fields.last? [(port.id, s.cached c.fromNode c.fromPort)] port.id
      = some (s.cached c.fromNode c.fromPort) := by
    simp [Fields.last?, Fields.value?_cons]
  rw [rawValue, given?, hnone, hsupply, harriving, hlast]
  rfl

/-! ## Nodes that work -/

/-- What a node does when its inputs hold these values: it ends with these outputs and warns of
this. -/
def Answers (d : NodeDefinition) (id : String) (values : String → Value) (outputs : Outputs)
    (warnings : List String) : Prop :=
  ∀ inputs : Inputs, (∀ name ∈ d.inputs.map Port.id, inputs.value name = values name) →
    (d.action id inputs).result = .ok (some outputs) ∧ (d.action id inputs).warned = warnings

/-- The inputs of a node come into their kinds, and it does its work on them. -/
structure Works (e : Evaluation) (cut : List Connection) (s : Session) (n : GraphNode)
    (outputs : Outputs) (warnings : List String) (d : NodeDefinition) (values : String → Value) :
    Prop where
  typed : e.registry.get? n.type = some d
  /-- The inputs hold these values. -/
  fits : ∀ port ∈ d.inputs,
    port.kind.coerce (s.rawValue e.graph cut n port) = .ok (values port.id)
  answers : Answers d n.id values outputs warnings
  produces : ∀ port ∈ d.outputs, outputs.has port.id = true
  /-- What reaches the node comes from nodes that are there. -/
  sources : ∀ c ∈ supply e.graph cut n.id, e.graph.hasNode c.fromNode = true

section Works

variable {outputs : Outputs} {warnings : List String} {values : String → Value}

theorem Works.exists_inputs (h : s.Works e cut n outputs warnings d values)
    (hb : e.registry.Built) (hknown : ∀ x, s.cache.has x = true → e.graph.hasNode x = true) :
    ∃ inputs, s.resolve e.graph cut d n = .ok inputs ∧
      (d.action n.id inputs).result = .ok (some outputs) ∧
      (d.action n.id inputs).warned = warnings := by
  have hnodup := (hb.get? h.typed).nodup_inputs
  cases hr : s.resolve e.graph cut d n with
  | error fault =>
    obtain ⟨port, hport, fault', hfault⟩ := unfit_of_resolve hknown hnodup hr
    cases hfault.symm.trans (h.fits port hport)
  | ok inputs =>
    refine ⟨inputs, rfl, h.answers inputs fun name hname => ?_⟩
    obtain ⟨port, hport, rfl⟩ := List.mem_map.mp hname
    obtain ⟨v, hv, hvalue⟩ := (supplied_of_resolve hknown hnodup hr).declared port hport
    rw [Inputs.value, hvalue]
    exact Except.ok.inj (hv.symm.trans (h.fits port hport))

/-- **A node that works** has its outputs, … -/
theorem Works.outcome_eq (h : s.Works e cut n outputs warnings d values) (hb : e.registry.Built)
    (hknown : ∀ x, s.cache.has x = true → e.graph.hasNode x = true) :
    s.outcome e cut n = outputs := by
  obtain ⟨inputs, hr, hresult, -⟩ := h.exists_inputs hb hknown
  rw [outcome_of_resolve h.typed hr, hresult]
  exact kept_complete_of_all n.type h.produces

/-- … and it reports what it warns of and nothing else. -/
theorem Works.findings_eq (h : s.Works e cut n outputs warnings d values) (hb : e.registry.Built)
    (hknown : ∀ x, s.cache.has x = true → e.graph.hasNode x = true) :
    s.findings e cut n = warnings.map (.geometryWarning n.id) := by
  obtain ⟨inputs, hr, hresult, hwarned⟩ := h.exists_inputs hb hknown
  have hdangling : s.dangling e.graph cut n.id = [] := by
    refine List.filter_eq_nil_iff.mpr fun c hc => ?_
    simp [h.sources c hc]
  have hcomplete : complete d n.type (some outputs) = .ok outputs := by
    rw [complete, missing_eq_nil_iff.mpr h.produces]
    rfl
  rw [findings]
  simp only [h.typed, hdangling, hr, hresult, hwarned, Except.bind, hcomplete]
  rw [faults, List.map_nil, List.nil_append, List.append_nil]

end Works

/-! ## Passes -/

/-- **Where one node alone has something to report**, the diagnostics of a pass are its reports. -/
theorem diagnostics_of_reporter (hq : e.registry.Quiet) (hs : s.Idle) (hg : e.graph.Acyclic)
    (hn : e.graph.node? n.id = some n)
    (hother : ∀ x m, e.graph.node? x = some m → x ≠ n.id →
      (s.evaluateGraph e).findings e (s.passCuts e) m = []) :
    (s.evaluateGraph e).diagnostics
      = noteAll [] ((s.evaluateGraph e).findings e (s.passCuts e) n) := by
  have hsolved := fullPass_solved hq hs
  have hkey : ∀ key : Diagnostic.Key, decide (key.1 = n.id) = true → key.1 = n.id :=
    fun _ => of_decide_eq_true
  have hall : ∀ d ∈ (s.evaluateGraph e).diagnostics, d.node = n.id := by
    intro d hd
    rcases hsolved.origin d hd with ⟨c, hc, -⟩ | ⟨x, m, hm, hfound⟩
    · exact absurd (hsolved.onCycle c hc) (hg.not_onCycle c)
    · by_cases hx : x = n.id
      · rw [node_of_mem_findings hfound, Graph.node?_id hm, hx]
      · rw [hother x m hm hx] at hfound
        cases hfound
  have hchosen := filter_diagnostics_of_node hq hs hkey fun x hx => absurd hx (hg x)
  rw [nodeReports_of_node? hn] at hchosen
  have hleft : (s.evaluateGraph e).diagnostics.filter (fun d => decide (d.key.1 = n.id))
      = (s.evaluateGraph e).diagnostics :=
    List.filter_eq_self.mpr fun d hd => decide_eq_true (hall d hd)
  have hright : ((s.evaluateGraph e).findings e (s.passCuts e) n).filter
      (fun d => decide (d.key.1 = n.id)) = (s.evaluateGraph e).findings e (s.passCuts e) n :=
    List.filter_eq_self.mpr fun d hd => decide_eq_true (node_of_mem_findings hd)
  rw [hleft, hright] at hchosen
  exact hchosen

/-- Where one node alone puts out meshes, the meshes of a graph are those. -/
theorem meshes_of_producer (r : Registry) (hd : g.ids.Nodup) (hn : n ∈ g.nodes)
    (hother : ∀ m ∈ g.nodes, m ≠ n → s.nodeMeshes r m = []) :
    g.nodes.flatMap (s.nodeMeshes r) = s.nodeMeshes r n :=
  flatMap_eq_of_mem (List.Nodup.of_map GraphNode.id hd) hn hother

end Session

end LoftGraph
