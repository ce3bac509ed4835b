import LoftGraph.Proofs.Evaluation.Quiet

/-!
# Full passes

A full pass over quiet nodes makes one plan after the other, and which plans these are depends on
the graph alone: `Graph.schedule` lists them without running anything. `Graph.Scheduled` says that
some runs are the runs of such plans, each made when all runs before it are cached and nothing is
running, and `Graph.ProducersFirst` is what such runs keep:

* each node runs once, and only nodes that are there run;
* a connection into a node that ran was cut for it, or its source ran earlier;
* only connections that lie on cycles are cut.

`ProducersFirst.plan` is the step of one plan, `Scheduled.producersFirst` the induction over plans,
and `full_pass_runs_producers_first` puts the full pass on top. Runs in such an order carry an
induction from sources to consumers, on cycles too (`ProducersFirst.induction`). What a pass keeps
from plan to plan holds after the plans of the schedule (`evaluateGraph_induction`).
-/

namespace LoftGraph

/-- The runs of a plan. -/
def Plan.runs (p : Plan) : List (String × List Connection) := p.order.map (fun id => (id, p.cut))

namespace Graph

variable {g : Graph} {runs : List (String × List Connection)} {root : String}

/-- The plan for a node after some runs, when nothing is running. -/
def planAfter (g : Graph) (runs : List (String × List Connection)) (root : String) : Plan :=
  g.plan (fun id => decide (id ∈ runs.map Prod.fst)) [] root

/-- The plans of a pass that comes to one more node: it plans the node unless that has run. -/
def planNext (g : Graph) (plans : List Plan) (id : String) : List Plan :=
  if id ∈ plans.flatMap Plan.order then plans
  else plans ++ [g.planAfter (plans.flatMap Plan.runs) id]

/-- The plans of a full pass, in order. -/
def schedule (g : Graph) : List Plan := g.ids.foldl g.planNext []

/-- Some runs are those of plans for nodes that had not run, one plan after the other. -/
inductive Scheduled (g : Graph) : List (String × List Connection) → Prop
  | nil : Scheduled g []
  | plan {runs : List (String × List Connection)} {root : String} :
      Scheduled g runs → g.hasNode root = true → root ∉ runs.map Prod.fst →
      Scheduled g (runs ++ (g.planAfter runs root).runs)

/-- What a pass keeps about its runs so far. -/
structure ProducersFirst (g : Graph) (runs : List (String × List Connection)) : Prop where
  /-- No node runs twice. -/
  nodup : (runs.map Prod.fst).Nodup
  /-- Only nodes that are there run. -/
  known : ∀ id ∈ runs.map Prod.fst, g.hasNode id = true
  /-- A connection is cut for its consumer, or its source runs earlier. -/
  settled : ∀ run ∈ runs, ∀ c ∈ g.incoming run.1, g.hasNode c.fromNode = true →
    c ∈ run.2 ∨ [c.fromNode, run.1].Sublist (runs.map Prod.fst)
  /-- Only connections on cycles are cut. -/
  circular : ∀ run ∈ runs, ∀ c ∈ run.2, g.OnCycle c
  /-- Each run is one of a plan made after the runs before that plan. -/
  planned : ∀ run ∈ runs, ∃ before root,
    before ++ (g.planAfter before root).runs <+: runs ∧ run ∈ (g.planAfter before root).runs

/-! ## One plan -/

theorem map_fst_runs (p : Plan) : p.runs.map Prod.fst = p.order := by
  simp [Plan.runs, Function.comp_def]

theorem map_fst_flatMap_runs (plans : List Plan) :
    (plans.flatMap Plan.runs).map Prod.fst = plans.flatMap Plan.order := by
  simp only [List.map_flatMap, map_fst_runs]

theorem flatMap_runs_concat (plans : List Plan) (p : Plan) :
    (plans ++ [p]).flatMap Plan.runs = plans.flatMap Plan.runs ++ p.runs := by
  simp

/-- A plan that runs a node cuts what its runs cut. -/
theorem mem_flatMap_runs {p : Plan} {id : String} (h : id ∈ p.order) {c : Connection} :
    c ∈ p.runs.flatMap Prod.snd ↔ c ∈ p.cut := by
  constructor
  · intro hc
    obtain ⟨run, hrun, hc⟩ := List.mem_flatMap.mp hc
    obtain ⟨_, -, rfl⟩ := List.mem_map.mp hrun
    exact hc
  · exact fun hc => List.mem_flatMap.mpr ⟨_, List.mem_map.mpr ⟨id, h, rfl⟩, hc⟩

theorem sound_planAfter (runs : List (String × List Connection)) (hroot : g.hasNode root = true) :
    (g.planAfter runs root).Sound g (fun id => decide (id ∈ runs.map Prod.fst)) [] root :=
  (plans_plan hroot _ _).sound hroot (by simp)

/-- What a plan lists has not run before. -/
theorem not_mem_of_planAfter (hroot : g.hasNode root = true) (hnew : root ∉ runs.map Prod.fst)
    {id : String} (hid : id ∈ (g.planAfter runs root).order) : id ∉ runs.map Prod.fst := by
  rcases (sound_planAfter runs hroot).fresh id hid with rfl | hfresh
  · exact hnew
  · simpa only [decide_eq_false_iff_not] using hfresh

theorem producersFirst_nil : g.ProducersFirst [] where
  nodup := List.nodup_nil
  known := by simp
  settled := by simp
  circular := by simp
  planned := by simp

/-- The runs of one more plan keep producers first. -/
theorem ProducersFirst.plan (h : g.ProducersFirst runs) (hroot : g.hasNode root = true)
    (hnew : root ∉ runs.map Prod.fst) :
    g.ProducersFirst (runs ++ (g.planAfter runs root).runs) := by
  have hsound := sound_planAfter runs hroot
  have hfst : (runs ++ (g.planAfter runs root).runs).map Prod.fst
      = runs.map Prod.fst ++ (g.planAfter runs root).order := by
    rw [List.map_append, map_fst_runs]
  constructor
  case nodup =>
    rw [hfst]
    -- what has run is cached, and a plan lists nothing that is cached but its root
    refine List.nodup_append.mpr ⟨h.nodup, hsound.nodup, ?_⟩
    rintro id hold _ hplanned rfl
    exact not_mem_of_planAfter hroot hnew hplanned hold
  case known =>
    intro id hid
    rw [hfst] at hid
    rcases List.mem_append.mp hid with hid | hid
    · exact h.known id hid
    · exact hsound.known id hid
  case settled =>
    intro run hrun c hc hs
    rw [hfst]
    rcases List.mem_append.mp hrun with hrun | hrun
    · rcases h.settled run hrun c hc hs with hcut | hsub
      · exact .inl hcut
      · exact .inr (hsub.trans (List.sublist_append_left _ _))
    · obtain ⟨id, hid, rfl⟩ := List.mem_map.mp hrun
      rcases hsound.settled id hid c hc hs with hcached | hcut | hsub
      · -- the source ran in an earlier plan
        have hsource : c.fromNode ∈ runs.map Prod.fst := by simpa using hcached
        have hpair := (List.singleton_sublist.mpr hsource).append (List.singleton_sublist.mpr hid)
        exact .inr hpair
      · exact .inl hcut
      · exact .inr (hsub.trans (List.sublist_append_right _ _))
  case circular =>
    intro run hrun c hc
    rcases List.mem_append.mp hrun with hrun | hrun
    · exact h.circular run hrun c hc
    · obtain ⟨id, -, rfl⟩ := List.mem_map.mp hrun
      -- nothing is busy, so what is cut runs in a circle
      exact (hsound.circular c hc).resolve_left (by simp)
  case planned =>
    intro run hrun
    rcases List.mem_append.mp hrun with hrun | hrun
    · obtain ⟨before, start, hbefore, hmem⟩ := h.planned run hrun
      exact ⟨before, start, hbefore.trans (List.prefix_append _ _), hmem⟩
    · exact ⟨runs, root, List.prefix_refl _, hrun⟩

/-- **Induction along the runs.** What holds of a node when it holds of the sources that it has not
been cut off from holds of every node that has run. -/
theorem ProducersFirst.induction (h : g.ProducersFirst runs) {P : String → Prop}
    (hstep : ∀ run ∈ runs, (∀ c ∈ Session.supply g run.2 run.1, g.hasNode c.fromNode = true →
      P c.fromNode) → P run.1) : ∀ run ∈ runs, P run.1 := by
  suffices hprefix : ∀ before after, runs = before ++ after → ∀ run ∈ before, P run.1 from
    hprefix runs [] (List.append_nil _).symm
  intro before
  induction before using List.reverseRecOn with
  | nil => simp
  | append_singleton before run ih =>
    intro after hruns x hx
    rw [List.append_assoc, List.singleton_append] at hruns
    have hearlier : ∀ run ∈ before, P run.1 := ih (run :: after) hruns
    rcases List.mem_append.mp hx with hx | hx
    · exact hearlier x hx
    · obtain rfl := List.mem_singleton.mp hx
      refine hstep x (by simp [hruns]) fun c hc hk => ?_
      obtain ⟨hin, hcut⟩ := List.mem_filter.mp hc
      have hsub := (h.settled x (by simp [hruns]) c hin hk).resolve_left (by simpa using hcut)
      have hnodup := h.nodup
      rw [hruns, List.map_append, List.map_cons] at hsub hnodup
      obtain ⟨run, hrun, heq⟩ := List.mem_map.mp (mem_of_pair_sublist hsub hnodup)
      exact heq ▸ hearlier run hrun

theorem Scheduled.producersFirst (h : g.Scheduled runs) : g.ProducersFirst runs := by
  induction h with
  | nil => exact producersFirst_nil
  | plan _ hroot hnew ih => exact ih.plan hroot hnew

/-- What a plan cuts leads into a node that the plan runs. -/
theorem Scheduled.cut_enters (h : g.Scheduled runs) :
    ∀ run ∈ runs, ∀ c ∈ run.2, (c.toNode, run.2) ∈ runs := by
  induction h with
  | nil => simp
  | plan _ hroot _ ih =>
    intro run hrun c hc
    rcases List.mem_append.mp hrun with hrun | hrun
    · exact List.mem_append_left _ (ih run hrun c hc)
    · obtain ⟨id, -, rfl⟩ := List.mem_map.mp hrun
      have hto := (plans_plan hroot _ _).cuts.2 c hc
      exact List.mem_append_right _ (List.mem_map.mpr ⟨c.toNode, hto, rfl⟩)

end Graph

/-! ## The pass -/

namespace Session

variable {e : Evaluation} {base s : Session} {runs : List (String × List Connection)}

/-- A pass that started from `base` has got as far as these runs. -/
structure Passing (g : Graph) (base s : Session) (runs : List (String × List Connection)) :
    Prop where
  idle : s.Idle
  scheduled : g.Scheduled runs
  trace : runsOf s.trace = runsOf base.trace ++ runs
  cached : ∀ id, s.cache.has id = true ↔ id ∈ runs.map Prod.fst

/-- The plan that a pass makes next. -/
theorem Passing.plan_eq (h : Passing e.graph base s runs) (root : String) :
    e.graph.plan s.cache.has s.executing root = e.graph.planAfter runs root := by
  have hcached : s.cache.has = fun id => decide (id ∈ runs.map Prod.fst) := by
    funext id
    exact Bool.eq_iff_iff.mpr (by simpa using h.cached id)
  rw [Graph.planAfter, hcached, h.idle.out]

/-- One more plan of a pass. -/
theorem Passing.evaluateFrom (h : Passing e.graph base s runs) (hq : e.registry.Quiet)
    {root : String} (hroot : e.graph.hasNode root = true) (hnew : root ∉ runs.map Prod.fst) :
    Passing e.graph base (evaluateFrom e (evaluateWithin e (nesting e)) root s)
      (runs ++ (e.graph.planAfter runs root).runs) := by
  obtain ⟨hhas, hexec, hruns⟩ :=
    runs_quiet hq (Graph.sound_planAfter runs hroot).known (evaluateWithin e (nesting e))
      (e.graph.planAfter runs root).cut (s.announce (e.graph.planAfter runs root))
  rw [Session.evaluateFrom, h.plan_eq]
  refine ⟨?_, h.scheduled.plan hroot hnew, ?_, ?_⟩
  · exact hexec.trans (by simpa using h.idle.out)
  · rw [hruns, (announce_fields _ _).2.2.2, runsOf_append, h.trace]
    simp [runsOf, Plan.runs]
  · intro id
    rw [hhas, List.map_append, Graph.map_fst_runs, List.mem_append, (announce_fields _ _).1,
      h.cached id, or_comm]

/-- **Induction over a pass.** What holds before the nodes of a pass and is kept by every plan that
the pass makes holds after them, and then all of them have run. -/
theorem Passing.foldl (hq : e.registry.Quiet) {P : Session → List Plan → Prop}
    (hplan : ∀ s plans root, Passing e.graph base s (plans.flatMap Plan.runs) → P s plans →
      e.graph.hasNode root = true → root ∉ (plans.flatMap Plan.runs).map Prod.fst →
      P (Session.evaluateFrom e (evaluateWithin e (nesting e)) root s)
        (plans ++ [e.graph.planAfter (plans.flatMap Plan.runs) root]))
    {ns : List GraphNode} (hns : ∀ n ∈ ns, e.graph.hasNode n.id = true) (s : Session)
    (plans : List Plan) (h : Passing e.graph base s (plans.flatMap Plan.runs)) (hP : P s plans) :
    let all := (ns.map GraphNode.id).foldl e.graph.planNext plans
    Passing e.graph base (ns.foldl (Session.evaluateFresh e) s) (all.flatMap Plan.runs) ∧
      P (ns.foldl (Session.evaluateFresh e) s) all ∧ plans <+: all ∧
      ∀ n ∈ ns, n.id ∈ all.flatMap Plan.order := by
  induction ns generalizing s plans with
  | nil => exact ⟨h, hP, List.prefix_refl _, by simp⟩
  | cons n ns ih =>
    have hn := hns n (.head _)
    have hcached : s.cache.has n.id = true ↔ n.id ∈ plans.flatMap Plan.order := by
      rw [h.cached, Graph.map_fst_flatMap_runs]
    -- after the first node, whether it runs now or has run before
    obtain ⟨hfirst, hPfirst, hgrown, hmem⟩ :
        Passing e.graph base (evaluateFresh e s n)
            ((e.graph.planNext plans n.id).flatMap Plan.runs) ∧
          P (evaluateFresh e s n) (e.graph.planNext plans n.id) ∧
          plans <+: e.graph.planNext plans n.id ∧
          n.id ∈ (e.graph.planNext plans n.id).flatMap Plan.order := by
      unfold evaluateFresh Graph.planNext
      by_cases hc : s.cache.has n.id = true
      · rw [if_pos hc, if_pos (hcached.mp hc)]
        exact ⟨h, hP, List.prefix_refl _, hcached.mp hc⟩
      · rw [if_neg hc, if_neg (hcached.not.mp hc)]
        have hnew : n.id ∉ (plans.flatMap Plan.runs).map Prod.fst :=
          fun hid => hc ((h.cached n.id).mpr hid)
        refine ⟨?_, hplan s plans n.id h hP hn hnew, List.prefix_append _ _, ?_⟩
        · rw [Graph.flatMap_runs_concat]
          exact h.evaluateFrom hq hn hnew
        · rw [List.flatMap_append, List.flatMap_singleton]
          exact List.mem_append_right _ (Graph.sound_planAfter _ hn).root_mem
    obtain ⟨hpass, hP', hrest, hall⟩ := ih (fun m hm => hns m (.tail _ hm)) _ _ hfirst hPfirst
    refine ⟨hpass, hP', hgrown.trans hrest, ?_⟩
    intro m hm
    rcases List.mem_cons.mp hm with rfl | hm
    · obtain ⟨p, hp, hid⟩ := List.mem_flatMap.mp hmem
      exact List.mem_flatMap.mpr ⟨p, hrest.subset hp, hid⟩
    · exact hall m hm

/-- A pass that has just started. -/
theorem passing_nil (hs : s.Idle) : Passing e.graph s (s.clear e.graph) [] :=
  ⟨hs, .nil, by simp [clear], by simp [clear, Fields.has]⟩

/-- What holds of an empty session and is kept by every plan of a full pass holds after the pass,
and the plans are those of the schedule. -/
theorem evaluateGraph_induction (hq : e.registry.Quiet) (hs : s.Idle)
    {P : Session → List Plan → Prop} (hstart : P (s.clear e.graph) [])
    (hplan : ∀ t plans root, Passing e.graph s t (plans.flatMap Plan.runs) → P t plans →
      e.graph.hasNode root = true → root ∉ (plans.flatMap Plan.runs).map Prod.fst →
      P (Session.evaluateFrom e (evaluateWithin e (nesting e)) root t)
        (plans ++ [e.graph.planAfter (plans.flatMap Plan.runs) root])) :
    Passing e.graph s (s.evaluateGraph e) (e.graph.schedule.flatMap Plan.runs) ∧
      P (s.evaluateGraph e) e.graph.schedule ∧
      ∀ id, e.graph.hasNode id = true → id ∈ e.graph.schedule.flatMap Plan.order := by
  obtain ⟨hpass, hP, -, hall⟩ :=
    Passing.foldl hq hplan (fun n hn => Graph.hasNode_of_mem hn) _ [] (passing_nil hs) hstart
  refine ⟨hpass, hP, fun id hid => ?_⟩
  obtain ⟨n, hn⟩ := Graph.exists_node?_of_hasNode hid
  obtain rfl := Graph.node?_id hn
  exact hall n (List.mem_of_find?_eq_some hn)

/-- A full pass runs plans one after the other until every node has run. -/
theorem evaluateGraph_quiet (hq : e.registry.Quiet) (hs : s.Idle) :
    ∃ runs, runsOf (s.evaluateGraph e).trace = runsOf s.trace ++ runs ∧ e.graph.Scheduled runs ∧
      ∀ id, e.graph.hasNode id = true → id ∈ runs.map Prod.fst := by
  obtain ⟨hpass, -, hall⟩ :=
    evaluateGraph_induction (P := fun _ _ => True) hq hs trivial (fun _ _ _ _ _ _ _ => trivial)
  rw [← Graph.map_fst_flatMap_runs] at hall
  exact ⟨_, hpass.trace, hpass.scheduled, hall⟩

end Session

/-- **Producers run first, on cycles too.** From every state that a history leads to, a full pass
over quiet nodes runs each node that is there once. A connection between two nodes has its source
run first, unless it lies on a cycle and the plan that runs its consumer cuts it; then nothing
arrives over it. What lies on no cycle is never left out. -/
theorem full_pass_runs_producers_first (r : Registry) (hr : r.Quiet) (g : Graph)
    (actions : List Action) :
    let h := Host.after r g actions
    let runs := Session.runsOf (Call.evaluateGraph.events ⟨h.graph, r⟩ h.session)
    (runs.map Prod.fst).Nodup ∧
      (∀ id, id ∈ runs.map Prod.fst ↔ h.graph.hasNode id = true) ∧
      (∀ c ∈ h.graph.connections, h.graph.Joins c →
        [c.fromNode, c.toNode].Sublist (runs.map Prod.fst) ∨
          ∃ before root,
            let p := h.graph.planAfter before root
            before ++ p.runs <+: runs ∧ c.toNode ∈ p.order ∧ c ∈ p.cut ∧
              c ∉ Session.supply h.graph p.cut c.toNode ∧ h.graph.OnCycle c) ∧
      ∀ run ∈ runs, ∀ c ∈ h.graph.incoming run.1, ¬ h.graph.OnCycle c →
        c ∈ Session.supply h.graph run.2 run.1 := by
  intro h runs
  have hs : h.session.Idle := Host.idle_after r g actions
  obtain ⟨made, htrace, hsched, hall⟩ := Session.evaluateGraph_quiet (e := ⟨h.graph, r⟩) hr hs
  -- the events of the call are what the pass added to the trace
  have hruns : runs = made := by
    have hevents := congrArg Session.runsOf (Call.trace_exec (e := ⟨h.graph, r⟩) hs .evaluateGraph)
    rw [Session.runsOf_append] at hevents
    exact List.append_cancel_left (hevents.symm.trans htrace)
  have hfirst : h.graph.ProducersFirst runs := hruns ▸ hsched.producersFirst
  refine ⟨hfirst.nodup, fun id => ⟨hfirst.known id, fun hid => hruns ▸ hall id hid⟩, ?_, ?_⟩
  · intro c hc hjoins
    obtain ⟨run, hrun, hto⟩ := List.mem_map.mp (hruns ▸ hall c.toNode hjoins.2)
    obtain ⟨before, root, hbefore, hmem⟩ := hfirst.planned run hrun
    have hin : c ∈ h.graph.incoming run.1 := Graph.mem_incoming.mpr ⟨hc, hto.symm⟩
    rcases hfirst.settled run hrun c hin hjoins.1 with hcut | hsub
    · have hcycle : h.graph.OnCycle c := hfirst.circular run hrun c hcut
      obtain ⟨id, hid, rfl⟩ := List.mem_map.mp hmem
      refine .inr ⟨before, root, hbefore, ?_, hcut, ?_, hcycle⟩
      · exact hto ▸ hid
      · simp only [Session.supply, List.mem_filter, decide_not, not_and]
        simp [hcut]
    · exact .inl (hto ▸ hsub)
  · intro run hrun c hin hcycle
    refine List.mem_filter.mpr ⟨hin, ?_⟩
    simpa using fun hcut => hcycle (hfirst.circular run hrun c hcut)

/-- The connection that closes the circle of `looped`. -/
def closing : Connection := ⟨"l", "a", "out", "b", "in"⟩

/-- Two nodes that feed each other, one that comes from nowhere besides, and a second node of the
first identifier. -/
def looped : Graph where
  nodes := [⟨"a", "relay", [], none⟩, ⟨"b", "relay", [], none⟩, ⟨"a", "lost", [], none⟩]
  connections := [⟨"k", "b", "out", "a", "in"⟩, closing, ⟨"m", "ghost", "out", "b", "in"⟩]

theorem looped_pass_cuts_closing :
    relays.Quiet ∧ closing ∈ looped.connections ∧ looped.Joins closing ∧
      let runs := Session.runsOf (Call.evaluateGraph.events ⟨looped, relays⟩ (.ofGraph looped))
      runs = [("b", [closing]), ("a", [closing])] ∧
        ∃ before root,
          let p := looped.planAfter before root
          before ++ p.runs <+: runs ∧ "b" ∈ p.order ∧ closing ∈ p.cut ∧
            closing ∉ Session.supply looped p.cut "b" ∧ looped.OnCycle closing := by
  have hmem : closing ∈ looped.connections := by decide
  have hjoins : looped.Joins closing := by unfold Graph.Joins; decide
  obtain ⟨-, -, hall, -⟩ := full_pass_runs_producers_first relays relays_quiet looped []
  refine ⟨relays_quiet, hmem, hjoins, rfl, ?_⟩
  exact (hall closing hmem hjoins).resolve_left (by decide +kernel)

end LoftGraph
