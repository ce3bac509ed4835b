import LoftGraph.Proofs.Evaluation.Reports

/-!
# What a node cannot reach it cannot touch

Two graphs that differ in the nodes of one identifier alone (`Graph.AgreeBut`) have the same
structure. Plans look at nothing else (`Graph.plan_congr`), and what a full pass cuts and in which
order it runs the nodes is the same in both, whatever the nodes do.

Where the identifier does not lead, the sources of a node lie where it does not lead either. So the
nodes there match (`Session.matching_of_agreeBut`): they put out and report the same in both passes,
and the reports of the two passes come in the same order (`full_pass_noninterference`).
-/

namespace LoftGraph

namespace Graph

variable {g g' : Graph} {id m : String}

/-! ## Plans depend on the structure alone -/

theorem hasNode_congr (hids : g.ids = g'.ids) : g.hasNode = g'.hasNode := by
  funext id
  exact Bool.eq_iff_iff.mpr (by rw [hasNode_iff, hasNode_iff, hids])

theorem incoming_congr (hcs : g.connections = g'.connections) : g.incoming = g'.incoming := by
  funext id
  rw [incoming, incoming, hcs]

theorem visit_congr (hids : g.ids = g'.ids) (hcs : g.connections = g'.connections)
    (cached : String → Bool) (busy : List String) (depth : Nat) :
    Walk.visit g cached busy depth = Walk.visit g' cached busy depth := by
  induction depth with
  | zero => rfl
  | succ depth ih =>
    have hfollow : Walk.follow g cached busy (Walk.visit g cached busy depth)
        = Walk.follow g' cached busy (Walk.visit g' cached busy depth) := by
      funext w c
      rw [ih, Walk.follow, Walk.follow, hasNode_congr hids]
    funext id w
    rw [Walk.visit, Walk.visit, hfollow, incoming_congr hcs]

theorem plan_congr (hids : g.ids = g'.ids) (hcs : g.connections = g'.connections) :
    g.plan = g'.plan := by
  have hlength : g.nodes.length = g'.nodes.length := by
    simpa [ids] using congrArg List.length hids
  funext cached busy root
  rw [plan, plan, hlength, visit_congr hids hcs]

theorem schedule_congr (hids : g.ids = g'.ids) (hcs : g.connections = g'.connections) :
    g.schedule = g'.schedule := by
  have hnext : g.planNext = g'.planNext := by
    funext plans id
    simp only [planNext, planAfter, plan_congr hids hcs]
  rw [schedule, schedule, hids, hnext]

/-! ## Graphs that differ in the nodes of one identifier -/

/-- Two graphs of the same identifiers and connections, with the same nodes but for those of one
identifier. -/
structure AgreeBut (g g' : Graph) (id : String) : Prop where
  nodes : List.Forall₂ (fun n n' => n.id = n'.id ∧ (n.id ≠ id → n = n')) g.nodes g'.nodes
  connections : g.connections = g'.connections

theorem AgreeBut.ids_eq (h : g.AgreeBut g' id) : g.ids = g'.ids := by
  have hnodes := h.nodes
  unfold ids
  generalize g.nodes = ns, g'.nodes = ns' at hnodes ⊢
  induction hnodes with
  | nil => rfl
  | cons hn _ ih => rw [List.map_cons, List.map_cons, hn.1, ih]

theorem AgreeBut.node?_eq (h : g.AgreeBut g' id) (hm : m ≠ id) : g.node? m = g'.node? m := by
  have hnodes := h.nodes
  unfold node?
  generalize g.nodes = ns, g'.nodes = ns' at hnodes ⊢
  induction hnodes with
  | nil => rfl
  | @cons n n' _ _ hn _ ih =>
    obtain ⟨hid, hsame⟩ := hn
    by_cases hfirst : n.id = m
    · rw [List.find?_cons_of_pos (by simpa using hfirst),
        List.find?_cons_of_pos (by simpa [← hid] using hfirst), hsame (hfirst ▸ hm)]
    · rw [List.find?_cons_of_neg (by simpa using hfirst),
        List.find?_cons_of_neg (by simpa [← hid] using hfirst), ih]

/-- What feeds a node where an identifier does not lead lies where it does not lead. -/
theorem not_leads_of_incoming {c : Connection} (hm : ¬ Relation.ReflTransGen g.Feeds id m)
    (hk : g.hasNode m = true) (hc : c ∈ g.incoming m) (hs : g.hasNode c.fromNode = true) :
    ¬ Relation.ReflTransGen g.Feeds id c.fromNode :=
  fun h => hm (h.tail (feeds_of_incoming hc hs hk))

end Graph

namespace Session

variable {r : Registry} {g g' : Graph} {id m : String} {s t : Session} {n : GraphNode}

theorem supply_congr (hcs : g.connections = g'.connections) : supply g = supply g' := by
  funext cut id
  rw [supply, supply, Graph.incoming_congr hcs]

theorem outcome_graph_congr (hcs : g.connections = g'.connections) (s : Session)
    (cut : List Connection) (n : GraphNode) : s.outcome ⟨g, r⟩ cut n = s.outcome ⟨g', r⟩ cut n := by
  simp only [outcome, resolve, rawInputs, supply_congr hcs]

theorem findings_graph_congr (hids : g.ids = g'.ids) (hcs : g.connections = g'.connections)
    (s : Session) (cut : List Connection) (n : GraphNode) :
    s.findings ⟨g, r⟩ cut n = s.findings ⟨g', r⟩ cut n := by
  simp only [findings, dangling, resolve, rawInputs, supply_congr hcs, Graph.hasNode_congr hids]

/-- Passes over graphs of the same structure cut the same. -/
theorem passCuts_congr (hids : g.ids = g'.ids) (hcs : g.connections = g'.connections)
    (hq : r.Quiet) (hs : s.Idle) (ht : t.Idle) :
    s.passCuts ⟨g, r⟩ = t.passCuts ⟨g', r⟩ := by
  rw [passCuts, passCuts, passRuns_eq hq hs, passRuns_eq hq ht, Graph.schedule_congr hids hcs]

/-- Where the identifier does not lead, the nodes of the two graphs match. -/
theorem matching_of_agreeBut (h : g.AgreeBut g' id) (hq : r.Quiet) (hs : s.Idle) (ht : t.Idle) :
    Matching ⟨g, r⟩ ⟨g', r⟩ (s.passCuts ⟨g, r⟩) (t.passCuts ⟨g', r⟩)
      fun m => ¬ Relation.ReflTransGen g.Feeds id m where
  hasNode := Graph.hasNode_congr h.ids_eq
  node? := fun m hm => h.node?_eq fun heq => hm (heq ▸ .refl)
  sources := fun m hm hk c hc hk' =>
    Graph.not_leads_of_incoming hm hk (List.mem_filter.mp hc).1 hk'
  does := by
    intro u v n _ _ _ halike
    rw [← passCuts_congr h.ids_eq h.connections hq hs ht, halike.outcome_eq, halike.findings_eq,
      outcome_graph_congr h.connections, findings_graph_congr h.ids_eq h.connections]
    exact ⟨rfl, rfl⟩

/-- **Diagnostics agree** after full passes where the identifier does not lead. -/
theorem diagnostics_of_agreeBut (h : g.AgreeBut g' id) (hq : r.Quiet) (hs : s.Idle) (ht : t.Idle)
    (hm : ¬ Relation.ReflTransGen g.Feeds id m) :
    (s.evaluateGraph ⟨g, r⟩).diagnostics.filter (fun d => d.node = m)
      = (t.evaluateGraph ⟨g', r⟩).diagnostics.filter (fun d => d.node = m) := by
  have hkey : ∀ key : Diagnostic.Key, decide (key.1 = m) = true → key.1 = m := by simp
  have hleft := filter_evaluateGraph_diagnostics (e := ⟨g, r⟩) hq hs fun key => key.1 = m
  have hright := filter_evaluateGraph_diagnostics (e := ⟨g', r⟩) hq ht fun key => key.1 = m
  refine hleft.trans (Eq.trans ?_ hright.symm)
  rw [Graph.schedule_congr h.ids_eq h.connections]
  congr 1
  -- the circles of a plan are the same, and so is what this node reports
  refine List.flatMap_congr fun plan _ => congrArg _ (List.flatMap_congr fun x _ => ?_)
  by_cases hx : x = m
  · subst hx
    rw [(matching_of_agreeBut h hq hs ht).nodeReports_eq hq hq hs ht x hm]
  · rw [filter_nodeReports_of_ne hkey hx, filter_nodeReports_of_ne hkey hx]

end Session

/-- **Faults do not interfere.** Take two graphs that agree but for the types and values of the
nodes of one identifier, each in any state that a history leads to. After a full pass on each, a
node of another identifier to which this one does not lead has the same outputs and the same
diagnostics in the same order. -/
theorem full_pass_noninterference (r : Registry) (hq : r.Quiet) (g g' : Graph)
    (actions actions' : List Action) (id : String)
    (hagree : (Host.after r g actions).graph.AgreeBut (Host.after r g' actions').graph id) :
    let h := Host.after r g actions
    let h' := Host.after r g' actions'
    let s := h.session.evaluateGraph ⟨h.graph, r⟩
    let s' := h'.session.evaluateGraph ⟨h'.graph, r⟩
    ∀ m, m ≠ id → ¬ Relation.TransGen h.graph.Feeds id m →
      s.cache.value? m = s'.cache.value? m ∧
        s.diagnostics.filter (fun d => d.node = m)
          = s'.diagnostics.filter (fun d => d.node = m) := by
  intro h h' s s' m hne hfar
  have hs : h.session.Idle := Host.idle_after r g actions
  have ht : h'.session.Idle := Host.idle_after r g' actions'
  have hm : ¬ Relation.ReflTransGen h.graph.Feeds id m := by
    rw [Relation.reflTransGen_iff_eq_or_transGen, not_or]
    exact ⟨hne, hfar⟩
  exact ⟨(Session.matching_of_agreeBut hagree hq hs ht).value?_eq hq hq hs ht m hm,
    Session.diagnostics_of_agreeBut hagree hq hs ht hm⟩

/-- Two nodes that feed each other, one of which also feeds a node of some type. -/
def tapped (type : String) : Graph where
  nodes := [⟨"a", "relay", [], none⟩, ⟨"t", type, [], none⟩, ⟨"b", "relay", [], none⟩]
  connections := [⟨"k", "b", "out", "a", "in"⟩, closing, ⟨"m", "a", "out", "t", "in"⟩]

theorem tapped_pass_noninterference :
    let s := (Session.ofGraph (tapped "relay")).evaluateGraph ⟨tapped "relay", relays⟩
    let s' := (Session.ofGraph (tapped "lost")).evaluateGraph ⟨tapped "lost", relays⟩
    relays.Quiet ∧ (tapped "relay").AgreeBut (tapped "lost") "t" ∧
      ¬ Relation.TransGen (tapped "relay").Feeds "t" "a" ∧
      s.cache.value? "a" = s'.cache.value? "a" ∧
      s.diagnostics.filter (fun d => d.node = "a") = s'.diagnostics.filter (fun d => d.node = "a") ∧
      s.diagnostics.map Diagnostic.node = ["a"] ∧
      s'.diagnostics.map Diagnostic.node = ["a", "t"] := by
  have hagree : (tapped "relay").AgreeBut (tapped "lost") "t" := by
    refine ⟨?_, rfl⟩
    simp [tapped]
  have hfar : ¬ Relation.TransGen (tapped "relay").Feeds "t" "a" := by
    intro h
    obtain ⟨x, ⟨c, hc, -, hfrom, -⟩, -⟩ := Relation.TransGen.head'_iff.mp h
    have hnone : ∀ c ∈ (tapped "relay").connections, c.fromNode ≠ "t" := by decide
    exact hnone c hc hfrom
  obtain ⟨hvalue, hdiagnostics⟩ := full_pass_noninterference relays relays_quiet (tapped "relay")
    (tapped "lost") [] [] "t" hagree "a" (by decide) hfar
  exact ⟨relays_quiet, hagree, hfar, hvalue, hdiagnostics, by decide +kernel, by decide +kernel⟩

end LoftGraph
