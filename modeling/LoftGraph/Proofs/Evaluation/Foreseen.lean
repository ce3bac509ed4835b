import LoftGraph.Proofs.Evaluation.Settled
import LoftGraph.Proofs.Graph.Validation
import Mathlib.Tactic.TFAE

/-!
# Evaluation reports what validation foresees

`Diagnostic.Explained` gives for each kind of diagnostic what about the graph is behind it. Every
diagnostic of a full pass over quiet nodes is explained (`Solved.explained`), and what explains it
is what validation looks for (`full_pass_diagnostics_foreseen`).

For cycles the converse holds too: a pass that reports none has cut nothing, so it has run producers
before consumers. `full_pass_reports_cycles_iff` puts together the pass, the validation and the
order of the dependencies, which find cycles in three ways.
-/

namespace LoftGraph

/-- What is behind a diagnostic. -/
inductive Diagnostic.Explained (g : Graph) (r : Registry) : Diagnostic → Prop
  /-- The type of a node is not registered. -/
  | unknownType {n : GraphNode} : n ∈ g.nodes → r.get? n.type = none →
      Explained g r (.unknownNodeType n.id n.type)
  /-- A connection starts at no node. -/
  | unknownSource {c : Connection} : c ∈ g.connections → ¬ g.hasNode c.fromNode = true →
      Explained g r (.missingSource c.toNode c.id c.fromNode)
  /-- A node leads back to itself. -/
  | circle {id : String} : Relation.TransGen g.Feeds id id →
      Explained g r (.circularDependency id)
  /-- A node failed, whatever the graph is like. -/
  | fault (id message : String) : Explained g r (.nodeExecutionError id message)
  /-- A node gave a warning, whatever the graph is like. -/
  | warning (id message : String) : Explained g r (.geometryWarning id message)

namespace Session

variable {e : Evaluation} {s : Session} {cut : List Connection} {n : GraphNode} {d : Diagnostic}

theorem explained_of_mem_faults {g : Graph} {r : Registry} {id : String}
    {result : Except NodeFault Outputs} (h : d ∈ faults id result) : d.Explained g r := by
  cases result with
  | ok outputs => cases h
  | error fault =>
    obtain rfl : d = .nodeExecutionError id fault.message := by simpa [faults] using h
    exact .fault _ _

/-- The findings of a node are explained. -/
theorem explained_of_mem_findings (hn : n ∈ e.graph.nodes) (h : d ∈ s.findings e cut n) :
    d.Explained e.graph e.registry := by
  unfold findings at h
  split at h
  case h_1 hd =>
    obtain rfl := List.mem_singleton.mp h
    exact .unknownType hn hd
  case h_2 =>
    rcases List.mem_append.mp h with h | h
    · obtain ⟨c, hc, rfl⟩ := List.mem_map.mp h
      obtain ⟨hsupply, hnone⟩ := List.mem_filter.mp hc
      obtain ⟨hc, hto⟩ := Graph.mem_incoming.mp (List.mem_filter.mp hsupply).1
      simp only [Bool.and_eq_true, Bool.not_eq_true'] at hnone
      exact hto ▸ .unknownSource hc (by simp [hnone.2])
    · split at h
      · exact explained_of_mem_faults h
      · rcases List.mem_append.mp h with h | h
        · obtain ⟨message, -, rfl⟩ := List.mem_map.mp h
          exact .warning _ _
        · exact explained_of_mem_faults h

/-- Every diagnostic of a solved session is explained. -/
theorem Solved.explained {cuts : List Connection} (h : s.Solved e cuts) (hd : d ∈ s.diagnostics) :
    d.Explained e.graph e.registry := by
  rcases h.origin d hd with ⟨c, hc, rfl⟩ | ⟨id, n, hn, hfound⟩
  · obtain ⟨hmem, hjoins, hback⟩ := h.onCycle c hc
    exact .circle (.head' ⟨c, hmem, hjoins, rfl, rfl⟩ hback)
  · exact explained_of_mem_findings (List.mem_of_find?_eq_some hn) hfound

/-- A solved session that reports no cycle has cut nothing. -/
theorem Solved.cuts_eq_nil {cuts : List Connection} (h : s.Solved e cuts)
    (hnone : ∀ d ∈ s.diagnostics, d.kind ≠ .circularDependency) : cuts = [] := by
  refine List.eq_nil_iff_forall_not_mem.mpr fun c hc => ?_
  obtain ⟨d, hd, hkey⟩ := h.circles c hc
  exact hnone d hd (congrArg (fun key => key.2.1) hkey)

end Session

/-- **Cycles are found alike.** From every state that a history leads to, a full pass over quiet
nodes reports a cycle exactly when validation finds a circle, exactly when the dependencies have no
order, exactly when some node leads back to itself. A node that is reported leads back to itself,
and where none is reported the order lists every node once, producers first. -/
theorem full_pass_reports_cycles_iff (r : Registry) (hq : r.Quiet) (g : Graph)
    (actions : List Action) :
    let h := Host.after r g actions
    let s := h.session.evaluateGraph ⟨h.graph, r⟩
    List.TFAE [∃ d ∈ s.diagnostics, d.kind = .circularDependency,
        ∃ nodes, .circle nodes ∈ (h.graph.validate r).errors,
        h.graph.dependencies.order? = none,
        ∃ id, Relation.TransGen h.graph.Feeds id id] ∧
      (∀ d ∈ s.diagnostics, d.kind = .circularDependency →
        Relation.TransGen h.graph.Feeds d.node d.node) ∧
      ((∀ d ∈ s.diagnostics, d.kind ≠ .circularDependency) →
        ∃ order, h.graph.dependencies.order? = some order ∧ order.Nodup ∧
          (∀ id, id ∈ order ↔ h.graph.hasNode id = true) ∧
          ∀ c ∈ h.graph.connections, h.graph.Joins c → [c.fromNode, c.toNode].Sublist order) := by
  intro h s
  have hidle : h.session.Idle := Host.idle_after r g actions
  have hsolved := Session.fullPass_solved (e := ⟨h.graph, r⟩) hq hidle
  have hreported : ∀ d ∈ s.diagnostics, d.kind = .circularDependency →
      Relation.TransGen h.graph.Feeds d.node d.node := by
    intro d hd hkind
    cases hsolved.explained hd with
    | circle hback => exact hback
    | unknownType => cases hkind
    | unknownSource => cases hkind
    | fault => cases hkind
    | warning => cases hkind
  have hacyclic : (∀ d ∈ s.diagnostics, d.kind ≠ .circularDependency) → h.graph.Acyclic := by
    intro hnone
    have hcuts := hsolved.cuts_eq_nil hnone
    exact Session.acyclic_of_passCuts (e := ⟨h.graph, r⟩) hq hidle hcuts
  refine ⟨?_, hreported, fun hnone => ?_⟩
  · tfae_have 1 → 4 := fun ⟨d, hd, hkind⟩ => ⟨d.node, hreported d hd hkind⟩
    tfae_have 4 → 1 := by
      rintro ⟨id, hback⟩
      by_contra hnone
      exact hacyclic (fun d hd hkind => hnone ⟨d, hd, hkind⟩) id hback
    tfae_have 2 ↔ 4 := Graph.circle_error_iff
    tfae_have 3 ↔ 4 := Graph.order?_eq_none_iff_exists
    tfae_finish
  · obtain ⟨order, horder⟩ : ∃ order, h.graph.dependencies.order? = some order := by
      refine Option.ne_none_iff_exists'.mp fun hno => ?_
      exact (h.graph.order?_eq_none_iff.mp hno) (hacyclic hnone)
    have hsorted := Dependencies.sorted_of_order? h.graph.wellFormed_dependencies horder
    refine ⟨order, horder, hsorted.nodup, fun id => ?_, fun c hc hjoins => ?_⟩
    · rw [hsorted.mem_iff, Graph.mem_nodes_dependencies]
    · refine hsorted.ordered _ _ ?_
      rw [Graph.edge_dependencies]
      exact ⟨c, hc, hjoins, rfl, rfl⟩

/-- A node with a value set on it that does not fit, and a node that it feeds. -/
def faulty : Graph where
  nodes := [⟨"a", "relay", .ofPorts [("in", .text "maybe")], none⟩, ⟨"b", "relay", [], none⟩]
  connections := [⟨"k", "a", "out", "b", "in"⟩]

theorem looped_pass_reports_cycle :
    let s := (Session.ofGraph looped).evaluateGraph ⟨looped, relays⟩
    let t := (Session.ofGraph faulty).evaluateGraph ⟨faulty, relays⟩
    relays.Quiet ∧ looped.dependencies.order? = none ∧
      (∃ d ∈ s.diagnostics, d.kind = .circularDependency) ∧
      (∃ nodes, .circle nodes ∈ (looped.validate relays).errors) ∧
      .circularDependency "a" ∈ s.diagnostics ∧ Relation.TransGen looped.Feeds "a" "a" ∧
      (∀ d ∈ t.diagnostics, d.kind ≠ .circularDependency) ∧
      ∃ order, faulty.dependencies.order? = some order ∧ order.Nodup ∧
        (∀ id, id ∈ order ↔ faulty.hasNode id = true) ∧
        ∀ c ∈ faulty.connections, faulty.Joins c → [c.fromNode, c.toNode].Sublist order := by
  obtain ⟨halike, hback, -⟩ := full_pass_reports_cycles_iff relays relays_quiet looped []
  obtain ⟨-, -, horder⟩ := full_pass_reports_cycles_iff relays relays_quiet faulty []
  have hnone : looped.dependencies.order? = none := by decide +kernel
  have hcircle : .circularDependency "a" ∈
      ((Session.ofGraph looped).evaluateGraph ⟨looped, relays⟩).diagnostics := by decide +kernel
  have hclean : ∀ d ∈ ((Session.ofGraph faulty).evaluateGraph ⟨faulty, relays⟩).diagnostics,
      d.kind ≠ .circularDependency := by decide +kernel
  exact ⟨relays_quiet, hnone, (halike.out 2 0).mp hnone, (halike.out 2 1).mp hnone, hcircle,
    hback _ hcircle rfl, hclean, horder hclean⟩

/-- **Validation foresees diagnostics.** From every state that a history leads to, whatever a full
pass over quiet nodes reports, other than faults and warnings of the nodes themselves, validation
lists an error about the same node. -/
theorem full_pass_diagnostics_foreseen (r : Registry) (hq : r.Quiet) (g : Graph)
    (actions : List Action) :
    let h := Host.after r g actions
    let s := h.session.evaluateGraph ⟨h.graph, r⟩
    let errors := (h.graph.validate r).errors
    (∀ d ∈ s.diagnostics,
      (d.kind = .unknownNodeType → ∃ type, d = .unknownNodeType d.node type ∧
        .unknownType d.node type ∈ errors) ∧
      (d.kind = .missingNode → ∃ c ∈ h.graph.incoming d.node,
        d = .missingSource d.node c.id c.fromNode ∧ .unknownSource c.id c.fromNode ∈ errors) ∧
      (d.kind = .circularDependency → ∃ nodes, .circle nodes ∈ errors ∧ d.node ∈ nodes)) ∧
    (errors = [] →
      ∀ d ∈ s.diagnostics, d.kind = .nodeExecutionError ∨ d.kind = .geometryWarning) := by
  intro h s errors
  have hsolved := Session.fullPass_solved (e := ⟨h.graph, r⟩) hq (Host.idle_after r g actions)
  have htype : ∀ {n : GraphNode}, n ∈ h.graph.nodes → r.get? n.type = none →
      .unknownType n.id n.type ∈ errors :=
    fun hn hd => Graph.unknownType_mem_errors.mpr ⟨_, hn, hd, rfl, rfl⟩
  have hsource : ∀ {c : Connection}, c ∈ h.graph.connections → ¬ h.graph.hasNode c.fromNode = true →
      .unknownSource c.id c.fromNode ∈ errors :=
    fun hc hk => Graph.unknownSource_mem_errors.mpr ⟨_, hc, hk, rfl, rfl⟩
  have hcircle : ∀ {id : String}, Relation.TransGen h.graph.Feeds id id →
      ∃ nodes, .circle nodes ∈ errors ∧ id ∈ nodes :=
    Graph.exists_circle_error_iff.mpr
  refine ⟨fun d hd => ?_, fun hnone d hd => ?_⟩
  · cases hsolved.explained hd with
    | unknownType hn hnew => exact ⟨fun _ => ⟨_, rfl, htype hn hnew⟩, nofun, nofun⟩
    | unknownSource hc hk =>
      exact ⟨nofun, fun _ => ⟨_, Graph.mem_incoming.mpr ⟨hc, rfl⟩, rfl, hsource hc hk⟩, nofun⟩
    | circle hback => exact ⟨nofun, nofun, fun _ => hcircle hback⟩
    | fault => exact ⟨nofun, nofun, nofun⟩
    | warning => exact ⟨nofun, nofun, nofun⟩
  · cases hsolved.explained hd with
    | unknownType hn hnew => exact absurd (htype hn hnew) (hnone ▸ List.not_mem_nil)
    | unknownSource hc hk => exact absurd (hsource hc hk) (hnone ▸ List.not_mem_nil)
    | circle hback =>
      obtain ⟨nodes, hnodes, -⟩ := hcircle hback
      exact absurd hnodes (hnone ▸ List.not_mem_nil)
    | fault => exact .inl rfl
    | warning => exact .inr rfl

theorem looped_pass_diagnostics_foreseen :
    let s := (Session.ofGraph looped).evaluateGraph ⟨looped, relays⟩
    let errors := (looped.validate relays).errors
    let t := (Session.ofGraph faulty).evaluateGraph ⟨faulty, relays⟩
    relays.Quiet ∧
      .missingSource "b" "m" "ghost" ∈ s.diagnostics ∧
      (∃ c ∈ looped.incoming "b",
        Diagnostic.missingSource "b" "m" "ghost" = .missingSource "b" c.id c.fromNode ∧
          .unknownSource c.id c.fromNode ∈ errors) ∧
      .circularDependency "a" ∈ s.diagnostics ∧
      (∃ nodes, .circle nodes ∈ errors ∧ "a" ∈ nodes) ∧
      (faulty.validate relays).errors = [] ∧ t.diagnostics.map Diagnostic.node = ["a"] ∧
      ∀ d ∈ t.diagnostics, d.kind = .nodeExecutionError ∨ d.kind = .geometryWarning := by
  obtain ⟨hall, -⟩ := full_pass_diagnostics_foreseen relays relays_quiet looped []
  obtain ⟨-, hclean⟩ := full_pass_diagnostics_foreseen relays relays_quiet faulty []
  have hmissing : .missingSource "b" "m" "ghost" ∈
      ((Session.ofGraph looped).evaluateGraph ⟨looped, relays⟩).diagnostics := by decide +kernel
  have hcircle : .circularDependency "a" ∈
      ((Session.ofGraph looped).evaluateGraph ⟨looped, relays⟩).diagnostics := by decide +kernel
  have hnone : (faulty.validate relays).errors = [] := by decide +kernel
  exact ⟨relays_quiet, hmissing, (hall _ hmissing).2.1 rfl, hcircle, (hall _ hcircle).2.2 rfl,
    hnone, by decide +kernel, hclean hnone⟩

end LoftGraph
