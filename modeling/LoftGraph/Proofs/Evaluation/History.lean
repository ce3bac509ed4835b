import LoftGraph.Graph.Editing
import LoftGraph.Proofs.Evaluation.Termination

/-!
# Histories of a graph and its session

A host holds a graph and one session on it, and acts on them in any order: it edits the graph,
calls the session and reports conditions to it. `Host.after` is what a host holds after any list of
actions, from any graph to begin with, so what holds of every `Host.after` holds of every reachable
state.

* `Call.Completes` is a call without bounds, by the relation `Session.Evaluates`; `completes_iff`
  says that a call completes in exactly one way, the computed one.
* `idle_after`: between calls no node is running.
-/

namespace LoftGraph

/-- A call of a session. -/
inductive Call where
  | clear
  | evaluateGraph
  | evaluateNode (id : String)
  | output (id port : String)
  | meshOutputs

namespace Call

/-- The session after a call. -/
def exec (e : Evaluation) : Call → Session → Session
  | .clear, s => s.clear e.graph
  | .evaluateGraph, s => s.evaluateGraph e
  | .evaluateNode id, s => s.evaluateNode e id
  | .output id port, s => (s.output e id port).1
  | .meshOutputs, s => (s.meshOutputs e).1

/-- What happens during a call. -/
def events (e : Evaluation) (c : Call) (s : Session) : List SessionEvent :=
  (c.exec e s).trace.drop s.trace.length

/-- A call completes with a session. -/
inductive Completes (e : Evaluation) : Call → Session → Session → Prop
  | clear {s : Session} : Completes e .clear s (s.clear e.graph)
  | evaluateGraph {s s' : Session} :
      Session.Evaluates e (.pass e.graph.nodes) (s.clear e.graph) s' →
      Completes e .evaluateGraph s s'
  | evaluateNode {id : String} {s s' : Session} :
      Session.Evaluates e (.ask id) (s.sync e.graph) s' → Completes e (.evaluateNode id) s s'
  | heldOutput {id port : String} {s : Session} :
      (s.sync e.graph).cache.has id = true → Completes e (.output id port) s (s.sync e.graph)
  | newOutput {id port : String} {s s' : Session} :
      (s.sync e.graph).cache.has id = false →
      Session.Evaluates e (.ask id) (s.sync e.graph) s' → Completes e (.output id port) s s'
  | meshOutputs {s s' : Session} :
      Session.Evaluates e (.pass e.graph.nodes) (s.clear e.graph) s' →
      Completes e .meshOutputs s s'

end Call

/-- What a host does next. -/
inductive Action where
  | edit (edit : Edit)
  | call (call : Call)
  /-- It reports a condition itself, which is logged or not. -/
  | report (d : Diagnostic) (aloud : Bool)

namespace Session

/-- A session that was told of a condition. -/
def told (s : Session) (d : Diagnostic) (aloud : Bool) : Session :=
  if aloud then s.reportAloud d else s.report d

@[simp] theorem told_fields (s : Session) (d : Diagnostic) (aloud : Bool) :
    (s.told d aloud).cache = s.cache ∧ (s.told d aloud).executing = s.executing ∧
      (s.told d aloud).revision = s.revision ∧ (s.told d aloud).trace = s.trace := by
  cases aloud
  · exact report_fields s d
  · exact reportAloud_fields s d

theorem Respected.told {R : Session → Session → Prop} (hR : Respected R) (s : Session)
    (d : Diagnostic) (aloud : Bool) : R s (s.told d aloud) := by
  cases aloud
  · exact hR.report s d
  · exact hR.reportAloud s d

end Session

/-- A graph and a session on it. -/
structure Host where
  graph : Graph
  session : Session

namespace Host

/-- A graph with a session that has not evaluated anything. -/
def start (g : Graph) : Host := ⟨g, Session.ofGraph g⟩

/-- Does one thing. An edit that is refused changes nothing. -/
def act (r : Registry) (h : Host) : Action → Host
  | .edit edit =>
    match edit.apply h.graph with
    | .ok g => { h with graph := g }
    | .error _ => h
  | .call c => { h with session := c.exec ⟨h.graph, r⟩ h.session }
  | .report d aloud => { h with session := h.session.told d aloud }

/-- What a host holds after some actions. -/
def after (r : Registry) (g : Graph) (actions : List Action) : Host :=
  actions.foldl (act r) (start g)

theorem session_act_edit (r : Registry) (h : Host) (edit : Edit) :
    (h.act r (.edit edit)).session = h.session := by
  simp only [act]
  split <;> rfl

theorem after_concat (r : Registry) (g : Graph) (actions : List Action) (a : Action) :
    after r g (actions ++ [a]) = (after r g actions).act r a := by
  rw [after, List.foldl_concat, after]

/-- What holds at the start and is kept by every action holds after any history. -/
theorem after_induction {r : Registry} {P : Host → Prop} {g : Graph} (hstart : P (start g))
    (hact : ∀ h a, P h → P (h.act r a)) (actions : List Action) : P (after r g actions) := by
  induction actions using List.reverseRecOn with
  | nil => exact hstart
  | append_singleton actions a ih =>
    rw [after_concat]
    exact hact _ a ih

end Host

/-! ## Calls complete -/

namespace Session

variable {e : Evaluation} {s : Session} {g : Graph}

theorem idle_sync (hs : s.Idle) : (s.sync g).Idle := by
  unfold sync
  split
  · exact hs
  · exact hs

theorem idle_clear (hs : s.Idle) : (s.clear g).Idle := hs

@[simp] theorem sync_sync (s : Session) (g : Graph) : (s.sync g).sync g = s.sync g := by
  unfold sync
  split
  · rfl
  · simp [clear]

theorem evaluates_evaluateGraph (hs : s.Idle) :
    Evaluates e (.pass e.graph.nodes) (s.clear e.graph) (s.evaluateGraph e) :=
  evaluates_pass (fun _ hn => Graph.hasNode_of_mem hn) _ (idle_clear hs)

theorem evaluates_evaluateNode (hs : s.Idle) (id : String) :
    Evaluates e (.ask id) (s.sync e.graph) (s.evaluateNode e id) :=
  evaluates_ask (idle_sync hs) id

theorem Evaluates.eq_of_only {task : Task} {s' t : Session} (h : Evaluates e task s s')
    (ht : Evaluates e task s t) : t = s' := by
  cases task with
  | answer id request result => exact (h.only ht).2
  | _ => exact h.only ht

end Session

/-- Between calls, a call completes with the session that is computed and with no other. -/
theorem Call.completes_iff {e : Evaluation} {s : Session} (hs : s.Idle) (c : Call)
    (s' : Session) : c.Completes e s s' ↔ s' = c.exec e s := by
  have hpass := Session.evaluates_evaluateGraph (e := e) hs
  have hask := Session.evaluates_evaluateNode (e := e) hs
  constructor
  · intro h
    cases h with
    | clear => rfl
    | evaluateGraph h => exact hpass.eq_of_only h
    | evaluateNode h => exact (hask _).eq_of_only h
    | heldOutput hc => simp [exec, Session.output, hc]
    | newOutput hc h =>
      simpa [exec, Session.output, hc, Session.evaluateNode] using (hask _).eq_of_only h
    | meshOutputs h => exact hpass.eq_of_only h
  · rintro rfl
    cases c with
    | clear => exact .clear
    | evaluateGraph => exact .evaluateGraph hpass
    | evaluateNode id => exact .evaluateNode (hask id)
    | output id port =>
      by_cases hc : (s.sync e.graph).cache.has id = true
      · have hheld : Completes e (.output id port) s (s.sync e.graph) := .heldOutput hc
        simpa [exec, Session.output, hc] using hheld
      · have hc' : (s.sync e.graph).cache.has id = false := by simpa using hc
        have hnew : Completes e (.output id port) s (s.evaluateNode e id) :=
          .newOutput hc' (hask id)
        simpa [exec, Session.output, hc', Session.evaluateNode] using hnew
    | meshOutputs => exact .meshOutputs hpass

theorem Call.Completes.idle {e : Evaluation} {c : Call} {s s' : Session} (h : c.Completes e s s')
    (hs : s.Idle) : s'.Idle := by
  cases h with
  | clear => exact hs
  | evaluateGraph h => exact h.idle (Session.idle_clear hs)
  | evaluateNode h => exact h.idle (Session.idle_sync hs)
  | heldOutput _ => exact Session.idle_sync hs
  | newOutput _ h => exact h.idle (Session.idle_sync hs)
  | meshOutputs h => exact h.idle (Session.idle_clear hs)

/-- Whatever a host does, between its calls no node is running. -/
theorem Host.idle_after (r : Registry) (g : Graph) (actions : List Action) :
    (Host.after r g actions).session.Idle := by
  refine after_induction (P := fun h => h.session.Idle) rfl ?_ actions
  intro h a hs
  cases a with
  | edit edit => rw [session_act_edit]; exact hs
  | call c => exact ((Call.completes_iff hs c _).mpr rfl).idle hs
  | report d aloud => exact (Session.told_fields _ d aloud).2.1.trans hs

end LoftGraph
