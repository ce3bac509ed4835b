import LoftGraph.Proofs.Evaluation.Findings
import LoftGraph.Proofs.Evaluation.FullPass

/-!
# What a full pass settles

A pass runs each node on what the nodes before it have put out. Later runs do not reach back to it,
so at any time its entry is what it would put out now, and what it would report now has been
reported (`Session.Ran`). `Session.Settled` says this of the runs so far. A run keeps it
(`Settled.run`), since it only extends the session, hence a plan (`Settled.evaluateFrom`), hence
the pass as far as it has got (`settled_pass`).

`Session.Solved` is what is left of it when the pass has ended and every node has run: nodes and
cuts, without the order of the runs. Facts about the results of passes follow from
`fullPass_solved`, and facts that two passes share from `fullPass_induction` besides.
-/

namespace LoftGraph

namespace Session

open Diagnostic (noteAll Noted)

variable {e : Evaluation} {base s t : Session} {runs : List (String × List Connection)}
variable {cut cuts : List Connection} {id : String} {n : GraphNode} {d : Diagnostic}

/-! ## One run -/

/-- What holds, now, of a node that ran with these connections cut. -/
structure Ran (e : Evaluation) (s : Session) (run : String × List Connection) : Prop where
  known : e.graph.hasNode run.1 = true
  /-- Its sources are cached, unless they were cut off. -/
  sources : ∀ c ∈ supply e.graph run.2 run.1, e.graph.hasNode c.fromNode = true →
    s.cache.has c.fromNode = true
  /-- It has the outputs that it would have now. -/
  entry : ∀ n, e.graph.node? run.1 = some n → s.cache.value? run.1 = some (s.outcome e run.2 n)
  /-- What it would report now has been reported. -/
  found : ∀ n, e.graph.node? run.1 = some n →
    ∀ d ∈ s.findings e run.2 n, Noted s.diagnostics d

/-- A session has more entries and reports than another, and what that one has is as it was. -/
structure Extends (e : Evaluation) (s t : Session) : Prop where
  known : ∀ x, t.cache.has x = true → e.graph.hasNode x = true
  kept : ∀ x, s.cache.has x = true → s.cache.value? x = t.cache.value? x
  reported : s.diagnostics ⊆ t.diagnostics

theorem Extends.has (h : s.Extends e t) {x : String} (hx : s.cache.has x = true) :
    t.cache.has x = true := by
  rwa [Fields.has, ← h.kept x hx]

theorem Extends.trans {u : Session} (h : s.Extends e t) (h' : t.Extends e u) : s.Extends e u where
  known := h'.known
  kept := fun x hx => (h.kept x hx).trans (h'.kept x (h.has hx))
  reported := List.Subset.trans h.reported h'.reported

/-- Over connections from cached nodes, nothing looks different. -/
theorem Extends.alikeOver (h : s.Extends e t) {cs : List Connection}
    (hcs : ∀ c ∈ cs, e.graph.hasNode c.fromNode = true → s.cache.has c.fromNode = true) :
    s.AlikeOver t cs :=
  alikeOver_of_sources (fun x hx => h.known x (h.has hx)) h.known
    fun c hc hk => h.kept _ (hcs c hc hk)

theorem Ran.alikeOver {run : String × List Connection} (h : s.Ran e run) (ht : s.Extends e t)
    (hn : e.graph.node? run.1 = some n) : s.AlikeOver t (supply e.graph run.2 n.id) :=
  Graph.node?_id hn ▸ ht.alikeOver h.sources

/-- Nothing that comes later changes what holds of a run. -/
theorem Ran.extend {run : String × List Connection} (h : s.Ran e run) (ht : s.Extends e t) :
    t.Ran e run where
  known := h.known
  sources := fun c hc hk => ht.has (h.sources c hc hk)
  entry := by
    intro n hn
    have hentry := h.entry n hn
    have hx : s.cache.has run.1 = true := by simp [Fields.has, hentry]
    rw [← ht.kept _ hx, hentry, (h.alikeOver ht hn).outcome_eq]
  found := by
    intro n hn d hd
    rw [← (h.alikeOver ht hn).findings_eq] at hd
    exact (h.found n hn d hd).mono ht.reported

/-- The announcement of a plan extends the session. -/
theorem extends_announce (hs : s.Accounted)
    (hknown : ∀ x, s.cache.has x = true → e.graph.hasNode x = true) (p : Plan) :
    s.Extends e (s.announce p) where
  known := by rwa [(announce_fields s p).1]
  kept := fun x _ => by rw [(announce_fields s p).1]
  reported := by
    rw [hs.announce_diagnostics]
    exact (Diagnostic.prefix_noteAll _ _).subset

/-- A node that runs now, its sources being cached, extends the session. -/
theorem extends_run (hq : e.registry.Quiet) (hs : s.Accounted) (hn : e.graph.node? id = some n)
    (hknown : ∀ x, s.cache.has x = true → e.graph.hasNode x = true)
    (hnew : ¬ s.cache.has id = true) (evaluate : String → Session → Session) :
    s.Extends e (run e evaluate cut s id) where
  known := by
    intro x hx
    rcases (has_run hq hn evaluate cut s x).mp hx with rfl | hx
    · exact Graph.hasNode_of_node? hn
    · exact hknown x hx
  kept := by
    intro x hx
    have hne : id ≠ x := fun heq => hnew (heq ▸ hx)
    rw [(run_quiet hq hn evaluate cut s).1, Fields.value?_set_of_ne hne]
  reported := by
    rw [(run_diagnostics hq hn _ _ _ hs).1]
    exact (Diagnostic.prefix_noteAll _ _).subset

theorem ran_run (hq : e.registry.Quiet) (hs : s.Accounted) (hn : e.graph.node? id = some n)
    (hknown : ∀ x, s.cache.has x = true → e.graph.hasNode x = true)
    (hnew : ¬ s.cache.has id = true)
    (hsources : ∀ c ∈ supply e.graph cut id, e.graph.hasNode c.fromNode = true →
      s.cache.has c.fromNode = true) (evaluate : String → Session → Session) :
    (run e evaluate cut s id).Ran e (id, cut) := by
  have hext : s.Extends e (run e evaluate cut s id) := extends_run hq hs hn hknown hnew evaluate
  have halike : s.AlikeOver (run e evaluate cut s id) (supply e.graph cut n.id) :=
    Graph.node?_id hn ▸ hext.alikeOver hsources
  constructor
  case known => exact Graph.hasNode_of_node? hn
  case sources => exact fun c hc hk => hext.has (hsources c hc hk)
  case entry =>
    intro m hm
    obtain rfl := Option.some.inj (hn.symm.trans hm)
    rw [← halike.outcome_eq, (run_quiet hq hn evaluate cut s).1, Fields.value?_set_self]
  case found =>
    intro m hm d hd
    obtain rfl := Option.some.inj (hn.symm.trans hm)
    rw [← halike.findings_eq] at hd
    rw [(run_diagnostics hq hn _ _ _ hs).1]
    exact Diagnostic.noted_noteAll hd

/-! ## Runs so far -/

/-- What holds of a session after some runs, when these connections have been cut. -/
structure Settled (e : Evaluation) (cuts : List Connection)
    (runs : List (String × List Connection)) (s : Session) : Prop where
  accounted : s.Accounted
  cached : ∀ id, s.cache.has id = true ↔ id ∈ runs.map Prod.fst
  ran : ∀ run ∈ runs, s.Ran e run
  /-- What was cut has been reported. -/
  circles : ∀ c ∈ cuts, Noted s.diagnostics (.circularDependency c.fromNode)
  /-- Every diagnostic reports a cut or was found in a run. -/
  origin : ∀ d ∈ s.diagnostics, (∃ c ∈ cuts, d = .circularDependency c.fromNode) ∨
    ∃ run ∈ runs, ∃ n, e.graph.node? run.1 = some n ∧ d ∈ s.findings e run.2 n

theorem settled_nil (hs : s.Accounted) (hcache : s.cache = [])
    (hdiagnostics : s.diagnostics = []) : s.Settled e [] [] := by
  refine ⟨hs, ?_, ?_, ?_, ?_⟩ <;> simp [hcache, hdiagnostics, Fields.has]

theorem Settled.congr_cuts {cuts' : List Connection} (h : s.Settled e cuts runs)
    (heq : ∀ c, c ∈ cuts ↔ c ∈ cuts') : s.Settled e cuts' runs where
  accounted := h.accounted
  cached := h.cached
  ran := h.ran
  circles := fun c hc => h.circles c ((heq c).mpr hc)
  origin := fun d hd => (h.origin d hd).imp_left fun ⟨c, hc, hcd⟩ => ⟨c, (heq c).mp hc, hcd⟩

theorem Settled.known (h : s.Settled e cuts runs) (x : String) (hx : s.cache.has x = true) :
    e.graph.hasNode x = true := by
  obtain ⟨run, hrun, rfl⟩ := List.mem_map.mp ((h.cached x).mp hx)
  exact (h.ran run hrun).known

/-- The diagnostics that there were have their origin in the runs and cuts that there were. -/
theorem Settled.origin_of_extends (h : s.Settled e cuts runs) (ht : s.Extends e t)
    (hd : d ∈ s.diagnostics) : (∃ c ∈ cuts, d = .circularDependency c.fromNode) ∨
      ∃ run ∈ runs, ∃ n, e.graph.node? run.1 = some n ∧ d ∈ t.findings e run.2 n := by
  refine (h.origin d hd).imp_right ?_
  rintro ⟨run, hrun, n, hn, hfound⟩
  exact ⟨run, hrun, n, hn, ((h.ran run hrun).alikeOver ht hn).findings_eq ▸ hfound⟩

/-- Announcing a plan reports what it cuts. -/
theorem Settled.announce (h : s.Settled e cuts runs) {p : Plan}
    (hp : p.circular = p.cut.map Connection.fromNode) :
    (s.announce p).Settled e (cuts ++ p.cut) runs := by
  have hcache : (s.announce p).cache = s.cache := (announce_fields s p).1
  have hdiagnostics : (s.announce p).diagnostics
      = noteAll s.diagnostics (p.cut.map fun c => .circularDependency c.fromNode) := by
    rw [h.accounted.announce_diagnostics, hp, List.map_map]
    rfl
  have hext : s.Extends e (s.announce p) := extends_announce h.accounted h.known p
  constructor
  case accounted => exact accounted_respected.announce s p h.accounted
  case cached => exact hcache ▸ h.cached
  case ran => exact fun run hrun => (h.ran run hrun).extend hext
  case circles =>
    intro c hc
    rcases List.mem_append.mp hc with hc | hc
    · exact (h.circles c hc).mono hext.reported
    · rw [hdiagnostics]
      exact Diagnostic.noted_noteAll (List.mem_map.mpr ⟨c, hc, rfl⟩)
  case origin =>
    intro d hd
    rw [hdiagnostics] at hd
    rcases Diagnostic.mem_of_mem_noteAll hd with hd | hd
    · refine (h.origin_of_extends hext hd).imp_left ?_
      exact fun ⟨c, hc, hcd⟩ => ⟨c, List.mem_append_left _ hc, hcd⟩
    · obtain ⟨c, hc, rfl⟩ := List.mem_map.mp hd
      exact .inl ⟨c, List.mem_append_right _ hc, rfl⟩

/-- Running a node that has not run, but whose sources have, settles it too. -/
theorem Settled.run (h : s.Settled e cuts runs) (hq : e.registry.Quiet)
    (hn : e.graph.node? id = some n) (hnew : id ∉ runs.map Prod.fst)
    (hsources : ∀ c ∈ supply e.graph cut id, e.graph.hasNode c.fromNode = true →
      s.cache.has c.fromNode = true) (evaluate : String → Session → Session) :
    (Session.run e evaluate cut s id).Settled e cuts (runs ++ [(id, cut)]) := by
  have hfresh : ¬ s.cache.has id = true := fun hx => hnew ((h.cached id).mp hx)
  have hhas := has_run hq hn evaluate cut s
  obtain ⟨hdiagnostics, haccounted⟩ := run_diagnostics hq hn evaluate cut s h.accounted
  have hext : s.Extends e (Session.run e evaluate cut s id) :=
    extends_run hq h.accounted hn h.known hfresh evaluate
  have hran := ran_run hq h.accounted hn h.known hfresh hsources evaluate
  have halike : s.AlikeOver (Session.run e evaluate cut s id) (supply e.graph cut n.id) :=
    Graph.node?_id hn ▸ hext.alikeOver hsources
  constructor
  case accounted => exact haccounted
  case cached =>
    intro x
    rw [hhas, h.cached, List.map_append, List.mem_append, eq_comm, or_comm]
    simp
  case ran =>
    intro run hrun
    rcases List.mem_append.mp hrun with hrun | hrun
    · exact (h.ran run hrun).extend hext
    · exact List.mem_singleton.mp hrun ▸ hran
  case circles => exact fun c hc => (h.circles c hc).mono hext.reported
  case origin =>
    intro d hd
    rw [hdiagnostics] at hd
    rcases Diagnostic.mem_of_mem_noteAll hd with hd | hd
    · refine (h.origin_of_extends hext hd).imp_right ?_
      exact fun ⟨run, hrun, hfound⟩ => ⟨run, List.mem_append_left _ hrun, hfound⟩
    · exact .inr ⟨(id, cut), by simp, n, hn, halike.findings_eq ▸ hd⟩

/-- **Induction over a plan of a pass.** One more plan settles its nodes. What its announcement
establishes, and every run keeps of a node that is settled by it, holds when it has been carried
out. -/
theorem Settled.evaluateFrom_induction (h : s.Settled e cuts runs)
    (hpass : Passing e.graph base s runs) (hq : e.registry.Quiet) {root : String}
    (hroot : e.graph.hasNode root = true) (hnew : root ∉ runs.map Prod.fst) {p : Plan}
    (hp : e.graph.planAfter runs root = p) {evaluate : String → Session → Session}
    {P : Session → List String → Prop} (hstart : P (s.announce p) [])
    (hrun : ∀ t done id n, t.Settled e (cuts ++ p.cut) (runs ++ done.map fun id => (id, p.cut)) →
      e.graph.node? id = some n → ¬ t.cache.has id = true →
      (∀ c ∈ supply e.graph p.cut id, e.graph.hasNode c.fromNode = true →
        t.cache.has c.fromNode = true) →
      P t done → P (Session.run e evaluate p.cut t id) (done ++ [id])) :
    (Session.evaluateFrom e evaluate root s).Settled e (cuts ++ p.cut) (runs ++ p.runs) ∧
      P (Session.evaluateFrom e evaluate root s) p.order := by
  subst hp
  have hcuts := (Graph.plans_plan hroot (fun id => decide (id ∈ runs.map Prod.fst)) []).cuts
  refine Session.evaluateFrom_induction hq hpass.idle hroot (hpass.plan_eq root)
    (P := fun t done => t.Settled e (cuts ++ (e.graph.planAfter runs root).cut)
      (runs ++ done.map fun id => (id, (e.graph.planAfter runs root).cut)) ∧ P t done) ?_ ?_
  · refine ⟨?_, hstart⟩
    rw [List.map_nil, List.append_nil]
    exact h.announce hcuts.1
  · rintro t done id n hid hdone hn hsources ⟨ht, hPt⟩
    have hfresh : id ∉ (runs ++ done.map fun id => (id, (e.graph.planAfter runs root).cut)).map
        Prod.fst := by
      rw [List.map_append, List.mem_append, not_or]
      exact ⟨Graph.not_mem_of_planAfter hroot hnew hid, by simpa [Function.comp_def] using hdone⟩
    refine ⟨?_, hrun t done id n ht hn (fun hx => hfresh ((ht.cached id).mp hx)) hsources hPt⟩
    rw [List.map_append, ← List.append_assoc]
    exact ht.run hq hn hfresh hsources evaluate

/-- One more plan of a pass settles its nodes. -/
theorem Settled.evaluateFrom (h : s.Settled e cuts runs) (hpass : Passing e.graph base s runs)
    (hq : e.registry.Quiet) {root : String} (hroot : e.graph.hasNode root = true)
    (hnew : root ∉ runs.map Prod.fst) (evaluate : String → Session → Session) :
    (Session.evaluateFrom e evaluate root s).Settled e (cuts ++ (e.graph.planAfter runs root).cut)
      (runs ++ (e.graph.planAfter runs root).runs) :=
  (h.evaluateFrom_induction hpass hq hroot hnew rfl (P := fun _ _ => True) trivial
    fun _ _ _ _ _ _ _ _ _ => trivial).1

/-- The connections that some plans cut, as their runs have them. -/
theorem Settled.congr_runs {plans : List Plan} {root : String}
    (hroot : e.graph.hasNode root = true)
    (h : s.Settled e ((plans.flatMap Plan.runs).flatMap Prod.snd ++
        (e.graph.planAfter (plans.flatMap Plan.runs) root).cut)
      (plans.flatMap Plan.runs ++ (e.graph.planAfter (plans.flatMap Plan.runs) root).runs)) :
    s.Settled e (((plans ++ [e.graph.planAfter (plans.flatMap Plan.runs) root]).flatMap
        Plan.runs).flatMap Prod.snd)
      ((plans ++ [e.graph.planAfter (plans.flatMap Plan.runs) root]).flatMap Plan.runs) := by
  rw [Graph.flatMap_runs_concat]
  refine h.congr_cuts fun c => ?_
  rw [List.flatMap_append, List.mem_append, List.mem_append,
    Graph.mem_flatMap_runs (Graph.sound_planAfter _ hroot).root_mem]

/-! ## The pass -/

/-- The nodes of a pass that has got as far as some of them are settled. -/
theorem settled_pass (hq : e.registry.Quiet) (hs : s.Idle) {ns : List GraphNode}
    (hns : ∀ n ∈ ns, e.graph.hasNode n.id = true) :
    let plans := (ns.map GraphNode.id).foldl e.graph.planNext []
    let t := ns.foldl (evaluateFresh e) (s.clear e.graph)
    Passing e.graph s t (plans.flatMap Plan.runs) ∧
      t.Settled e ((plans.flatMap Plan.runs).flatMap Prod.snd) (plans.flatMap Plan.runs) := by
  obtain ⟨hpass, hsettled, -⟩ := Passing.foldl hq
    (P := fun t plans => t.Settled e ((plans.flatMap Plan.runs).flatMap Prod.snd)
      (plans.flatMap Plan.runs))
    (fun t plans root hpass h hroot hnew => (h.evaluateFrom hpass hq hroot hnew _).congr_runs hroot)
    hns (s.clear e.graph) [] (passing_nil hs) (settled_nil (s.accounted_clear e.graph) rfl rfl)
  exact ⟨hpass, hsettled⟩

/-- The runs of a full pass. -/
def passRuns (e : Evaluation) (s : Session) : List (String × List Connection) :=
  runsOf (Call.evaluateGraph.events e s)

/-- The connections that the plans of a full pass cut. -/
def passCuts (e : Evaluation) (s : Session) : List Connection :=
  (s.passRuns e).flatMap Prod.snd

/-- The runs of a full pass are those of the schedule. -/
theorem passRuns_eq (hq : e.registry.Quiet) (hs : s.Idle) :
    s.passRuns e = e.graph.schedule.flatMap Plan.runs := by
  obtain ⟨hpass, -, -⟩ := evaluateGraph_induction (P := fun _ _ => True) hq hs trivial
    fun _ _ _ _ _ _ _ => trivial
  have hevents := congrArg runsOf (Call.trace_exec (e := e) hs .evaluateGraph)
  rw [runsOf_append] at hevents
  exact List.append_cancel_left (hevents.symm.trans hpass.trace)

theorem evaluateGraph_settled (hq : e.registry.Quiet) (hs : s.Idle) :
    e.graph.Scheduled (s.passRuns e) ∧
      (∀ id, e.graph.hasNode id = true → id ∈ (s.passRuns e).map Prod.fst) ∧
      (s.evaluateGraph e).Settled e (s.passCuts e) (s.passRuns e) := by
  obtain ⟨hpass, hsettled⟩ :=
    settled_pass hq hs fun n (hn : n ∈ e.graph.nodes) => Graph.hasNode_of_mem hn
  obtain ⟨-, -, hall⟩ := evaluateGraph_induction (P := fun _ _ => True) hq hs trivial
    fun _ _ _ _ _ _ _ => trivial
  rw [passCuts, passRuns_eq hq hs]
  exact ⟨hpass.scheduled, Graph.map_fst_flatMap_runs _ ▸ hall, hsettled⟩

/-- What holds of a session whose nodes have all run, when these connections were cut. -/
structure Solved (e : Evaluation) (cuts : List Connection) (s : Session) : Prop where
  cached : ∀ id, s.cache.has id = true ↔ e.graph.hasNode id = true
  /-- Every node has the outputs that it would have now. -/
  entry : ∀ id n, e.graph.node? id = some n → s.cache.value? id = some (s.outcome e cuts n)
  /-- What a node would report now has been reported. -/
  found : ∀ id n, e.graph.node? id = some n → ∀ d ∈ s.findings e cuts n, Noted s.diagnostics d
  /-- What was cut has been reported. -/
  circles : ∀ c ∈ cuts, Noted s.diagnostics (.circularDependency c.fromNode)
  /-- Every diagnostic reports a cut or is found in a node. -/
  origin : ∀ d ∈ s.diagnostics, (∃ c ∈ cuts, d = .circularDependency c.fromNode) ∨
    ∃ id n, e.graph.node? id = some n ∧ d ∈ s.findings e cuts n
  /-- Only connections on cycles were cut. -/
  onCycle : ∀ c ∈ cuts, e.graph.OnCycle c

/-- What is cut for a node is what any plan of the pass cuts of its connections. -/
theorem supply_flatMap_cuts {g : Graph} (hs : g.Scheduled runs) (hrun : (id, cut) ∈ runs) :
    supply g cut id = supply g (runs.flatMap Prod.snd) id := by
  have hfirst := hs.producersFirst
  refine List.filter_congr fun c hc => ?_
  have hiff : c ∈ cut ↔ c ∈ runs.flatMap Prod.snd := by
    refine ⟨fun hcut => List.mem_flatMap.mpr ⟨_, hrun, hcut⟩, fun hcut => ?_⟩
    obtain ⟨run, hmem, hcut⟩ := List.mem_flatMap.mp hcut
    have hrun' : (id, run.2) ∈ runs := (Graph.mem_incoming.mp hc).2 ▸ hs.cut_enters run hmem c hcut
    -- the node runs once, so it runs in the plan that cuts the connection
    have heq := List.inj_on_of_nodup_map hfirst.nodup hrun hrun' rfl
    rw [(Prod.mk.inj heq).2]
    exact hcut
  simp only [hiff]

/-- **Induction along a pass.** What holds of a node when it holds of the sources that the pass does
not cut off holds of every node that is there. -/
theorem fullPass_induction (hq : e.registry.Quiet) (hs : s.Idle) {P : String → Prop}
    (hstep : ∀ id n, e.graph.node? id = some n →
      (∀ c ∈ supply e.graph (s.passCuts e) id, e.graph.hasNode c.fromNode = true → P c.fromNode) →
      P id) : ∀ id, e.graph.hasNode id = true → P id := by
  obtain ⟨hsched, hall, -⟩ := evaluateGraph_settled (e := e) hq hs
  have hfirst := hsched.producersFirst
  intro id hid
  obtain ⟨run, hrun, rfl⟩ := List.mem_map.mp (hall id hid)
  refine hfirst.induction (fun x hx hsources => ?_) run hrun
  obtain ⟨n, hn⟩ := Graph.exists_node?_of_hasNode (hfirst.known _ (List.mem_map_of_mem hx))
  rw [supply_flatMap_cuts hsched hx] at hsources
  exact hstep x.1 n hn hsources

/-- **A full pass solves the graph.** -/
theorem fullPass_solved (hq : e.registry.Quiet) (hs : s.Idle) :
    (s.evaluateGraph e).Solved e (s.passCuts e) := by
  obtain ⟨hsched, hall, h⟩ := evaluateGraph_settled (e := e) hq hs
  have hran : ∀ id n, e.graph.node? id = some n → ∃ cut, (id, cut) ∈ s.passRuns e ∧
      supply e.graph cut n.id = supply e.graph (s.passCuts e) n.id := by
    intro id n hn
    obtain ⟨run, hrun, rfl⟩ := List.mem_map.mp (hall id (Graph.hasNode_of_node? hn))
    exact ⟨run.2, hrun, Graph.node?_id hn ▸ supply_flatMap_cuts hsched hrun⟩
  constructor
  case cached => exact fun id => ⟨h.known id, fun hid => (h.cached id).mpr (hall id hid)⟩
  case entry =>
    intro id n hn
    obtain ⟨cut, hrun, hsupply⟩ := hran id n hn
    rw [← outcome_cut_congr hsupply]
    exact (h.ran _ hrun).entry n hn
  case found =>
    intro id n hn
    obtain ⟨cut, hrun, hsupply⟩ := hran id n hn
    rw [← findings_cut_congr hsupply]
    exact (h.ran _ hrun).found n hn
  case circles => exact h.circles
  case origin =>
    intro d hd
    refine (h.origin d hd).imp_right ?_
    rintro ⟨run, hrun, n, hn, hfound⟩
    refine ⟨run.1, n, hn, ?_⟩
    rwa [← findings_cut_congr (Graph.node?_id hn ▸ supply_flatMap_cuts hsched hrun)]
  case onCycle =>
    intro c hc
    obtain ⟨run, hrun, hc⟩ := List.mem_flatMap.mp hc
    exact hsched.producersFirst.circular run hrun c hc

/-- A pass that cuts nothing has run producers before consumers, so there are no cycles. -/
theorem acyclic_of_passCuts (hq : e.registry.Quiet) (hs : s.Idle) (h : s.passCuts e = []) :
    e.graph.Acyclic := by
  obtain ⟨hsched, hall, -⟩ := evaluateGraph_settled (e := e) hq hs
  have hfirst := hsched.producersFirst
  refine Graph.acyclic_of_order hfirst.nodup ?_
  rintro a b ⟨c, hc, hjoins, rfl, rfl⟩
  obtain ⟨run, hrun, hto⟩ := List.mem_map.mp (hall c.toNode hjoins.2)
  rw [← hto]
  have hin : c ∈ e.graph.incoming run.1 := Graph.mem_incoming.mpr ⟨hc, hto.symm⟩
  refine (hfirst.settled run hrun c hin hjoins.1).resolve_left ?_
  intro hcut
  have hmem : c ∈ s.passCuts e := List.mem_flatMap.mpr ⟨run, hrun, hcut⟩
  simp [h] at hmem

end Session

end LoftGraph
