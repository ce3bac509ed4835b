import LoftGraph.Proofs.Evaluation.Settled
import LoftGraph.Proofs.Traversal

/-!
# The diagnostics of a full pass

A plan is announced, which reports its circles, and then its nodes run, which report what they find
(`Session.planReports`). Later runs do not change what a node finds, so the diagnostics of a full
pass are what the plans of the schedule report, read off the cache that the pass leaves
(`evaluateGraph_diagnostics`).

Diagnostics are told apart by their keys, and a key names its node. So what keys choose of the
diagnostics of a pass is what they choose of these reports (`filter_evaluateGraph_diagnostics`),
and where one node can be meant and no circle, the reports of this node are left of the whole pass
(`filter_diagnostics_of_node`).

Two passes are compared on nodes that have the same sources and do the same on them: those have the
same outputs and reports, by induction along one of the passes (`Matching.value?_eq`,
`Matching.nodeReports_eq`).
-/

namespace LoftGraph

namespace Session

open Diagnostic (Key noteAll)

variable {e e' : Evaluation} {s t : Session} {runs : List (String × List Connection)}
variable {cut cut' : List Connection} {id : String} {ids : List String} {n : GraphNode}

/-- What a node reports when it runs. -/
def nodeReports (s : Session) (e : Evaluation) (cut : List Connection) (id : String) :
    List Diagnostic :=
  match e.graph.node? id with
  | none => []
  | some n => s.findings e cut n

/-- What a plan reports: its circles, and then what its nodes find. -/
def planReports (s : Session) (e : Evaluation) (cut : List Connection) (p : Plan) :
    List Diagnostic :=
  p.circular.map .circularDependency ++ p.order.flatMap (s.nodeReports e cut)

theorem nodeReports_absent (hn : e.graph.node? id = none) : s.nodeReports e cut id = [] := by
  simp only [nodeReports, hn]

theorem nodeReports_of_node? (hn : e.graph.node? id = some n) :
    s.nodeReports e cut id = s.findings e cut n := by
  simp only [nodeReports, hn]

theorem node_of_mem_nodeReports {d : Diagnostic} (hd : d ∈ s.nodeReports e cut id) :
    d.node = id := by
  unfold nodeReports at hd
  split at hd
  case h_1 => cases hd
  case h_2 hn => rw [node_of_mem_findings hd, Graph.node?_id hn]

/-- What a node reports depends on the cut through what it leaves of the connections. -/
theorem nodeReports_cut_congr (h : supply e.graph cut id = supply e.graph cut' id) :
    s.nodeReports e cut id = s.nodeReports e cut' id := by
  cases hn : e.graph.node? id with
  | none => rw [nodeReports_absent hn, nodeReports_absent hn]
  | some n =>
    rw [nodeReports_of_node? hn, nodeReports_of_node? hn]
    exact findings_cut_congr (Graph.node?_id hn ▸ h)

/-- Nothing that comes later changes what a node reports. -/
theorem Ran.nodeReports_eq (h : s.Ran e (id, cut)) (ht : s.Extends e t) :
    s.nodeReports e cut id = t.nodeReports e cut id := by
  cases hn : e.graph.node? id with
  | none => rw [nodeReports_absent hn, nodeReports_absent hn]
  | some n => rw [nodeReports_of_node? hn, nodeReports_of_node? hn, (h.alikeOver ht hn).findings_eq]

theorem flatMap_nodeReports_congr (h : ∀ id ∈ ids, s.Ran e (id, cut)) (ht : s.Extends e t) :
    ids.flatMap (s.nodeReports e cut) = ids.flatMap (t.nodeReports e cut) :=
  List.flatMap_congr fun id hid => (h id hid).nodeReports_eq ht

/-! ## The pass -/

/-- What one more plan of a pass adds to the session and its diagnostics. -/
theorem Settled.evaluateFrom_reports {cuts : List Connection} {base : Session}
    (h : s.Settled e cuts runs) (hpass : Passing e.graph base s runs) (hq : e.registry.Quiet)
    {root : String} (hroot : e.graph.hasNode root = true) (hnew : root ∉ runs.map Prod.fst)
    {p : Plan} (hp : e.graph.planAfter runs root = p) (evaluate : String → Session → Session) :
    let t := Session.evaluateFrom e evaluate root s
    s.Extends e t ∧ t.diagnostics = noteAll s.diagnostics (t.planReports e p.cut p) := by
  refine (h.evaluateFrom_induction hpass hq hroot hnew hp
    (P := fun t done => s.Extends e t ∧ t.diagnostics = noteAll s.diagnostics
      (p.circular.map .circularDependency ++ done.flatMap (t.nodeReports e p.cut))) ?_ ?_).2
  · refine ⟨extends_announce h.accounted h.known p, ?_⟩
    rw [h.accounted.announce_diagnostics]
    simp
  · rintro t done id n ht hn hfresh hsources ⟨hext, hdiagnostics⟩
    have hrun : t.Extends e (Session.run e evaluate p.cut t id) :=
      extends_run hq ht.accounted hn ht.known hfresh evaluate
    have hran : ∀ x ∈ done, t.Ran e (x, p.cut) :=
      fun x hx => ht.ran _ (List.mem_append_right _ (List.mem_map_of_mem hx))
    have halike : t.AlikeOver (Session.run e evaluate p.cut t id) (supply e.graph p.cut n.id) :=
      Graph.node?_id hn ▸ hrun.alikeOver hsources
    refine ⟨hext.trans hrun, ?_⟩
    rw [(run_diagnostics hq hn evaluate p.cut t ht.accounted).1, hdiagnostics,
      flatMap_nodeReports_congr hran hrun, halike.findings_eq, ← Diagnostic.noteAll_append,
      ← nodeReports_of_node? hn]
    simp

/-- **The diagnostics of a full pass** are what its plans report. -/
theorem evaluateGraph_diagnostics (hq : e.registry.Quiet) (hs : s.Idle) :
    (s.evaluateGraph e).diagnostics
      = noteAll [] (e.graph.schedule.flatMap
          ((s.evaluateGraph e).planReports e (s.passCuts e))) := by
  obtain ⟨-, ⟨-, hdiagnostics⟩, -⟩ := evaluateGraph_induction hq hs
    (P := fun t plans =>
      t.Settled e ((plans.flatMap Plan.runs).flatMap Prod.snd) (plans.flatMap Plan.runs) ∧
        t.diagnostics = noteAll [] (plans.flatMap fun p => t.planReports e p.cut p))
    ⟨settled_nil (s.accounted_clear e.graph) rfl rfl, rfl⟩ (by
      rintro t plans root hpass ⟨h, hdiagnostics⟩ hroot hnew
      obtain ⟨hext, hmore⟩ := h.evaluateFrom_reports hpass hq hroot hnew rfl
        (evaluateWithin e (nesting e))
      have hearlier : (plans.flatMap fun p => t.planReports e p.cut p) = plans.flatMap fun p =>
          (Session.evaluateFrom e (evaluateWithin e (nesting e)) root t).planReports e p.cut p := by
        refine List.flatMap_congr fun p hp => ?_
        have hran : ∀ id ∈ p.order, t.Ran e (id, p.cut) := fun id hid =>
          h.ran _ (List.mem_flatMap.mpr ⟨p, hp, List.mem_map_of_mem hid⟩)
        rw [planReports, planReports, flatMap_nodeReports_congr hran hext]
      refine ⟨(h.evaluateFrom hpass hq hroot hnew _).congr_runs hroot, ?_⟩
      rw [hmore, hdiagnostics, hearlier, ← Diagnostic.noteAll_append]
      simp)
  obtain ⟨hsched, -, -⟩ := evaluateGraph_settled (e := e) hq hs
  rw [hdiagnostics]
  congr 1
  refine List.flatMap_congr fun p hp => ?_
  rw [planReports, planReports]
  congr 1
  refine List.flatMap_congr fun id hid => nodeReports_cut_congr ?_
  have hrun : (id, p.cut) ∈ s.passRuns e := by
    rw [passRuns_eq hq hs]
    exact List.mem_flatMap.mpr ⟨p, hp, List.mem_map_of_mem hid⟩
  exact supply_flatMap_cuts hsched hrun

/-- What keys choose of the diagnostics is what they choose of the reports of the plans. -/
theorem filter_evaluateGraph_diagnostics (hq : e.registry.Quiet) (hs : s.Idle) (p : Key → Bool) :
    (s.evaluateGraph e).diagnostics.filter (fun d => p d.key)
      = noteAll [] (e.graph.schedule.flatMap fun plan =>
          (plan.circular.map .circularDependency).filter (fun d => p d.key) ++
            plan.order.flatMap fun id =>
              ((s.evaluateGraph e).nodeReports e (s.passCuts e) id).filter fun d => p d.key) := by
  rw [evaluateGraph_diagnostics hq hs, Diagnostic.filter_noteAll, List.filter_nil,
    List.filter_flatMap]
  simp only [planReports, List.filter_append, List.filter_flatMap]

/-! ## The reports of one node -/

/-- The circles that a plan of the schedule reports are circles. -/
theorem transGen_of_mem_circular (hq : e.registry.Quiet) (hs : s.Idle) :
    ∀ plan ∈ e.graph.schedule, ∀ id ∈ plan.circular, Relation.TransGen e.graph.Feeds id id := by
  refine (evaluateGraph_induction hq hs (P := fun _ plans => ∀ plan ∈ plans,
    ∀ id ∈ plan.circular, Relation.TransGen e.graph.Feeds id id) (by simp) ?_).2.1
  intro t plans root _ h hroot _ plan hplan id hid
  rcases List.mem_append.mp hplan with hplan | hplan
  · exact h plan hplan id hid
  · obtain rfl := List.mem_singleton.mp hplan
    have hcuts := (Graph.plans_plan hroot
      (fun id => decide (id ∈ (plans.flatMap Plan.runs).map Prod.fst)) []).cuts.1
    rw [Graph.planAfter, hcuts] at hid
    obtain ⟨c, hc, rfl⟩ := List.mem_map.mp hid
    -- nothing is busy, so what is cut runs in a circle
    obtain ⟨hmem, hjoins, hback⟩ :=
      ((Graph.sound_planAfter _ hroot).circular c hc).resolve_left (by simp)
    exact .head' ⟨c, hmem, hjoins, rfl, rfl⟩ hback

/-- What is chosen of the reports of a node by keys of another is nothing. -/
theorem filter_nodeReports_of_ne {p : Key → Bool} (hp : ∀ key, p key = true → key.1 = id)
    {x : String} (hx : x ≠ id) : (s.nodeReports e cut x).filter (fun d => p d.key) = [] := by
  refine List.filter_eq_nil_iff.mpr fun d hd hpd => hx ?_
  rw [← node_of_mem_nodeReports hd]
  exact hp d.key hpd

/-- **The diagnostics of one node**, circles apart, are what it reports when it runs. -/
theorem filter_diagnostics_of_node (hq : e.registry.Quiet) (hs : s.Idle) {p : Key → Bool}
    (hp : ∀ key, p key = true → key.1 = id)
    (hcircle : ∀ x, Relation.TransGen e.graph.Feeds x x →
      p (Diagnostic.circularDependency x).key = false) :
    (s.evaluateGraph e).diagnostics.filter (fun d => p d.key)
      = noteAll [] (((s.evaluateGraph e).nodeReports e (s.passCuts e) id).filter
          fun d => p d.key) := by
  obtain ⟨hsched, hall, -⟩ := evaluateGraph_settled (e := e) hq hs
  have horder : (s.passRuns e).map Prod.fst = e.graph.schedule.flatMap Plan.order := by
    rw [passRuns_eq hq hs, Graph.map_fst_flatMap_runs]
  rw [filter_evaluateGraph_diagnostics hq hs]
  congr 1
  calc (e.graph.schedule.flatMap fun plan =>
        (plan.circular.map Diagnostic.circularDependency).filter (fun d => p d.key) ++
          plan.order.flatMap fun x =>
            ((s.evaluateGraph e).nodeReports e (s.passCuts e) x).filter fun d => p d.key)
      = e.graph.schedule.flatMap fun plan => plan.order.flatMap fun x =>
            ((s.evaluateGraph e).nodeReports e (s.passCuts e) x).filter fun d => p d.key := by
        refine List.flatMap_congr fun plan hplan => List.append_left_eq_self.mpr ?_
        refine List.filter_eq_nil_iff.mpr fun d hd => ?_
        obtain ⟨x, hx, rfl⟩ := List.mem_map.mp hd
        simp [hcircle x (transGen_of_mem_circular hq hs plan hplan x hx)]
    _ = (e.graph.schedule.flatMap Plan.order).flatMap fun x =>
            ((s.evaluateGraph e).nodeReports e (s.passCuts e) x).filter fun d => p d.key :=
        List.flatMap_assoc.symm
    _ = ((s.evaluateGraph e).nodeReports e (s.passCuts e) id).filter fun d => p d.key := by
        rw [← horder]
        by_cases hid : e.graph.hasNode id = true
        · exact flatMap_eq_of_mem hsched.producersFirst.nodup (hall id hid)
            fun x _ hx => filter_nodeReports_of_ne hp hx
        · -- no node of the identifier is there, and only nodes that are there run
          have hnone : e.graph.node? id = none := by simpa [Graph.hasNode] using hid
          rw [nodeReports_absent hnone, List.filter_nil, List.flatMap_eq_nil_iff]
          refine fun x hx => filter_nodeReports_of_ne hp ?_
          rintro rfl
          exact hid (hsched.producersFirst.known x hx)

/-! ## Two passes -/

/-- Nodes on which two passes that cut these connections can be compared: their sources are among
them, and where the sources look alike, so do they. -/
structure Matching (e e' : Evaluation) (cut cut' : List Connection) (P : String → Prop) : Prop where
  hasNode : e.graph.hasNode = e'.graph.hasNode
  node? : ∀ x, P x → e.graph.node? x = e'.graph.node? x
  /-- What reaches a node comes from nodes that can be compared. -/
  sources : ∀ x, P x → e.graph.hasNode x = true → ∀ c ∈ supply e.graph cut x,
    e.graph.hasNode c.fromNode = true → P c.fromNode
  /-- Where its sources look alike, a node puts out and finds the same. -/
  does : ∀ (s t : Session) (n : GraphNode), P n.id →
    (∀ x, s.cache.has x = true → e.graph.hasNode x = true) →
    (∀ x, t.cache.has x = true → e'.graph.hasNode x = true) →
    s.AlikeOver t (supply e.graph cut n.id) →
    s.outcome e cut n = t.outcome e' cut' n ∧ s.findings e cut n = t.findings e' cut' n

/-- **Matching nodes have the same outputs** after two full passes. -/
theorem Matching.value?_eq {P : String → Prop} (h : Matching e e' (s.passCuts e) (t.passCuts e') P)
    (hq : e.registry.Quiet) (hq' : e'.registry.Quiet) (hs : s.Idle) (ht : t.Idle) (id : String)
    (hid : P id) :
    (s.evaluateGraph e).cache.value? id = (t.evaluateGraph e').cache.value? id := by
  have hsolved := fullPass_solved hq hs
  have hsolved' := fullPass_solved hq' ht
  have hknown := fun x => (hsolved.cached x).mp
  have hknown' := fun x => (hsolved'.cached x).mp
  by_cases hk : e.graph.hasNode id = true
  · refine fullPass_induction hq hs (P := fun x => P x →
      (s.evaluateGraph e).cache.value? x = (t.evaluateGraph e').cache.value? x) ?_ id hk hid
    intro x n hn hsources hx
    obtain rfl := Graph.node?_id hn
    have halike : (s.evaluateGraph e).AlikeOver (t.evaluateGraph e')
        (supply e.graph (s.passCuts e) n.id) := by
      refine alikeOver_of_sources hknown (h.hasNode ▸ hknown') fun c hc hc' => ?_
      exact hsources c hc hc' (h.sources n.id hx (Graph.hasNode_of_node? hn) c hc hc')
    rw [hsolved.entry _ n hn, hsolved'.entry _ n (h.node? _ hx ▸ hn),
      (h.does _ _ n hx hknown hknown' halike).1]
  · have hk' : ¬ e'.graph.hasNode id = true := h.hasNode ▸ hk
    rw [Fields.value?_eq_none fun hx => hk (hknown id hx),
      Fields.value?_eq_none fun hx => hk' (hknown' id hx)]

/-- **Matching nodes report the same** in two full passes. -/
theorem Matching.nodeReports_eq {P : String → Prop}
    (h : Matching e e' (s.passCuts e) (t.passCuts e') P) (hq : e.registry.Quiet)
    (hq' : e'.registry.Quiet) (hs : s.Idle) (ht : t.Idle) (id : String) (hid : P id) :
    (s.evaluateGraph e).nodeReports e (s.passCuts e) id
      = (t.evaluateGraph e').nodeReports e' (t.passCuts e') id := by
  have hnode := h.node? id hid
  cases hn : e.graph.node? id with
  | none => rw [nodeReports_absent hn, nodeReports_absent (hnode ▸ hn)]
  | some n =>
    obtain rfl := Graph.node?_id hn
    have hknown := fun x => ((fullPass_solved hq hs).cached x).mp
    have hknown' := fun x => ((fullPass_solved hq' ht).cached x).mp
    have halike : (s.evaluateGraph e).AlikeOver (t.evaluateGraph e')
        (supply e.graph (s.passCuts e) n.id) := by
      refine alikeOver_of_sources hknown (h.hasNode ▸ hknown') fun c hc hc' => ?_
      exact h.value?_eq hq hq' hs ht _ (h.sources n.id hid (Graph.hasNode_of_node? hn) c hc hc')
    rw [nodeReports_of_node? hn, nodeReports_of_node? (hnode ▸ hn),
      (h.does _ _ n hid hknown hknown' halike).2]

end Session

end LoftGraph
