import LoftGraph.Proofs.Evaluation.Evaluates

/-!
# Evaluation ends

`Session.evaluateWithin` recurses on a bound on the nesting of running nodes. Here that bound is
shown never to be reached: what the functions compute, `Evaluates` derives, and `Evaluates` knows no
bound.

The measure is what is left of the graph. The running nodes are all different and all in the graph,
each plan leaves them out, and a node that starts running is one more of them
(`evaluates_evaluateWithin`).
-/

namespace LoftGraph

namespace Session

variable {e : Evaluation} {evaluate : String → Session → Session} {cut : List Connection}
variable {id : String} {n : GraphNode} {d : NodeDefinition} {s : Session}

/-! ## One run of a node, case by case -/

theorem run_absent (hn : e.graph.node? id = none) : run e evaluate cut s id = s := by
  simp [run, hn]

theorem run_untyped (hn : e.graph.node? id = some n) (hd : e.registry.get? n.type = none) :
    run e evaluate cut s id
      = ((s.record (.run n.id cut)).reportAloud (.unknownNodeType n.id n.type)).store n.id [] := by
  simp [run, runNode, hn, hd]

theorem run_unresolved {fault : NodeFault} (hn : e.graph.node? id = some n)
    (hd : e.registry.get? n.type = some d)
    (hi : (s.prepare e.graph cut n.id).resolve e.graph cut d n = .error fault) :
    run e evaluate cut s id = (s.prepare e.graph cut n.id).conclude n.id (.error fault) := by
  have hexec : execute e evaluate cut d n ((s.record (.run n.id cut)).started n.id)
      = (s.prepare e.graph cut n.id, .error fault) := by
    unfold execute
    rw [prepare] at hi
    simp only [hi]
    rfl
  simp only [run, runNode, hn, hd, hexec]
  rfl

theorem run_acted {inputs : Inputs} (hn : e.graph.node? id = some n)
    (hd : e.registry.get? n.type = some d)
    (hi : (s.prepare e.graph cut n.id).resolve e.graph cut d n = .ok inputs) :
    run e evaluate cut s id =
      let after := perform evaluate n.id (d.action n.id inputs)
        ((s.prepare e.graph cut n.id).record (.enter n.id))
      (after.1.record (.leave n.id)).conclude n.id (after.2.bind (complete d n.type)) := by
  have hexec : execute e evaluate cut d n ((s.record (.run n.id cut)).started n.id)
      = act evaluate d n inputs (s.prepare e.graph cut n.id) := by
    unfold execute
    rw [prepare] at hi
    simp only [hi]
    rfl
  simp only [run, runNode, hn, hd, hexec]
  rfl

/-! ## Every function derives its task -/

theorem evaluates_perform {busy : List String}
    (hev : ∀ node t, t.executing = busy → Evaluates e (.ask node) t (evaluate node t)) :
    ∀ (request : Request) (s : Session), s.executing = busy →
      Evaluates e (.answer id request (perform evaluate id request s).2) s
        (perform evaluate id request s).1 := by
  intro request
  induction request with
  | finish outputs => intro s _; exact .finished
  | fail fault => intro s _; exact .failed
  | output node port next ih =>
    intro s hs
    by_cases hc : s.cache.has node = true
    · have hrest := ih (s.cached node port) s hs
      simpa [perform, hc] using Evaluates.held hc hrest
    · have hc' : s.cache.has node = false := by simpa using hc
      have hask := hev node s hs
      have hrest := ih ((evaluate node s).cached node port) _ (hask.executing.trans hs)
      simpa [perform, hc'] using Evaluates.fetched hc' hask hrest
  | evaluate node next ih =>
    intro s hs
    have hask := hev node s hs
    exact .evaluated hask (ih _ (hask.executing.trans hs))
  | warn message next ih => intro s hs; exact .warned (ih _ (by simpa using hs))
  | note message next ih => intro s hs; exact .noted (ih _ (by simpa using hs))

theorem evaluates_run
    (hev : ∀ node t, t.executing = id :: s.executing →
      Evaluates e (.ask node) t (evaluate node t)) :
    Evaluates e (.run cut id) s (run e evaluate cut s id) := by
  cases hn : e.graph.node? id with
  | none => rw [run_absent hn]; exact .absent hn
  | some n =>
    obtain rfl := Graph.node?_id hn
    cases hd : e.registry.get? n.type with
    | none => rw [run_untyped hn hd]; exact .untyped hn hd
    | some d =>
      cases hi : (s.prepare e.graph cut n.id).resolve e.graph cut d n with
      | error fault => rw [run_unresolved hn hd hi]; exact .unresolved hn hd hi
      | ok inputs =>
        rw [run_acted hn hd hi]
        exact .acted hn hd hi (evaluates_perform hev _ _ (by simp))

theorem evaluates_runs {busy : List String} {ids : List String}
    (hev : ∀ id ∈ ids, ∀ node t, t.executing = id :: busy →
      Evaluates e (.ask node) t (evaluate node t)) :
    ∀ s : Session, s.executing = busy →
      Evaluates e (.runs cut ids) s (ids.foldl (run e evaluate cut) s) := by
  induction ids with
  | nil => intro s _; exact .ranAll
  | cons id ids ih =>
    intro s hs
    have hrun : Evaluates e (.run cut id) s (run e evaluate cut s id) :=
      evaluates_run (hs ▸ hev id (.head _))
    exact .ranNext hrun (ih (fun x hx => hev x (.tail _ hx)) _ (hrun.executing.trans hs))

theorem evaluates_evaluateFrom {root : String} (hroot : e.graph.hasNode root = true)
    (hfree : root ∉ s.executing)
    (hev : ∀ id, e.graph.hasNode id = true → id ∉ s.executing →
      ∀ node t, t.executing = id :: s.executing → Evaluates e (.ask node) t (evaluate node t)) :
    Evaluates e (.plan root) s (evaluateFrom e evaluate root s) := by
  have hplan := Graph.plans_plan hroot s.cache.has s.executing
  have hsound := hplan.sound hroot hfree
  refine .planned hplan (evaluates_runs ?_ _ (announce_fields s _).2.1)
  exact fun id hid => hev id (hsound.known id hid) (hsound.idle id hid)

/-- **The bound is never reached**: a bound that together with the running nodes exceeds the graph
is enough, because a node that is running is not entered again. -/
theorem evaluates_evaluateWithin : ∀ (depth : Nat) (id : String) (s : Session),
    s.executing.Nodup → (∀ x ∈ s.executing, e.graph.hasNode x = true) →
    e.graph.nodes.length < depth + s.executing.length →
    Evaluates e (.ask id) s (evaluateWithin e depth id s) := by
  intro depth
  induction depth with
  | zero =>
    intro id s hd hk hroom
    have hle := Walk.length_path_le hd hk
    omega
  | succ depth ih =>
    intro id s hd hk hroom
    unfold evaluateWithin
    by_cases hid : e.graph.hasNode id = true
    · by_cases hb : id ∈ s.executing
      · simpa [hid, hb] using Evaluates.busy hid hb
      · have hplan : Evaluates e (.plan id) s (evaluateFrom e (evaluateWithin e depth) id s) := by
          -- one more node is running inside, so a smaller bound is enough there
          refine evaluates_evaluateFrom hid hb ?_
          intro x hx hfree node t ht
          refine ih node t ?_ ?_ ?_
          · rw [ht]; exact List.nodup_cons.mpr ⟨hfree, hd⟩
          · rw [ht]; simpa [hx] using hk
          · rw [ht, List.length_cons]; omega
        simpa [hid, hb] using Evaluates.granted hid hb hplan
    · have hid' : e.graph.hasNode id = false := by simpa using hid
      simpa [hid'] using Evaluates.missing hid'

/-- A session none of whose nodes is running, as it is between calls. -/
def Idle (s : Session) : Prop := s.executing = []

theorem Idle.out (h : s.Idle) : s.executing = [] := h

theorem Evaluates.idle {task : Task} {s' : Session} (h : Evaluates e task s s') (hs : s.Idle) :
    s'.Idle :=
  h.executing.trans hs

/-- Between calls the bound that sessions use is enough for any node. -/
theorem evaluates_ask (hs : s.Idle) (id : String) :
    Evaluates e (.ask id) s (evaluateWithin e (nesting e) id s) := by
  refine evaluates_evaluateWithin (nesting e) id s ?_ ?_ ?_
  · rw [hs]; exact List.nodup_nil
  · rw [hs]; simp
  · rw [hs, nesting, List.length_nil]; omega

theorem evaluates_plan (hs : s.Idle) {root : String} (hroot : e.graph.hasNode root = true) :
    Evaluates e (.plan root) s (evaluateFrom e (evaluateWithin e (nesting e)) root s) := by
  refine evaluates_evaluateFrom hroot (by simp [hs.out]) ?_
  intro id hid _ node t ht
  have htid : t.executing = [id] := by rw [ht, hs]
  refine evaluates_evaluateWithin (nesting e) node t ?_ ?_ ?_
  · rw [htid]; exact List.nodup_singleton id
  · rw [htid]; simpa using hid
  · rw [htid, nesting, List.length_singleton]; omega

theorem evaluates_pass {ns : List GraphNode} (hns : ∀ n ∈ ns, e.graph.hasNode n.id = true) :
    ∀ s : Session, s.Idle → Evaluates e (.pass ns) s (ns.foldl (evaluateFresh e) s) := by
  induction ns with
  | nil => intro s _; exact .passedAll
  | cons n ns ih =>
    intro s hs
    have hrest := ih (fun m hm => hns m (.tail _ hm))
    rw [List.foldl_cons]
    by_cases hc : s.cache.has n.id = true
    · rw [evaluateFresh, if_pos hc]
      exact .passedOver hc (hrest s hs)
    · have hplan := evaluates_plan (e := e) hs (hns n (.head _))
      rw [evaluateFresh, if_neg hc]
      exact .passedNext (by simpa using hc) hplan (hrest _ (hplan.idle hs))

end Session

end LoftGraph
