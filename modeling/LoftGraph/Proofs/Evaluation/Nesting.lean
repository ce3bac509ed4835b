import LoftGraph.Proofs.Evaluation.Trace

/-!
# Nesting of running nodes

The actions of nodes are entered and left like brackets (`Session.Nested`): what was entered last is
left first, and nothing is entered that has not been left. A plan leaves out what is running, and a
node of a plan comes to its turn when just those nodes are running that were when it was planned.

`call_completes_without_reentry` is the main statement: each call completes, no action is entered
while it is running, and no more actions run inside each other than the graph has nodes.
-/

namespace LoftGraph

/-- What an event makes of the actions that are running, the innermost first. -/
def SessionEvent.onRunning : List String → SessionEvent → List String
  | stack, .enter id => id :: stack
  | stack, .leave id => stack.erase id
  | stack, .plan _ => stack
  | stack, .run _ _ => stack

/-- The actions that have been entered and not been left, the innermost first. -/
def running (events : List SessionEvent) : List String :=
  events.foldl SessionEvent.onRunning []

namespace Session

/-- One event, while some actions are running: like a bracket an action is opened, being one of a
node that is there and not running, or the one opened last is closed. -/
inductive NestStep (g : Graph) : List String → SessionEvent → List String → Prop
  | plan {order stack : List String} : NestStep g stack (.plan order) stack
  | run {id : String} {cut : List Connection} {stack : List String} :
      NestStep g stack (.run id cut) stack
  | enter {id : String} {stack : List String} :
      g.hasNode id = true → id ∉ stack → NestStep g stack (.enter id) (id :: stack)
  | leave {id : String} {stack : List String} : NestStep g (id :: stack) (.leave id) stack

/-- Events that nest lead from some running actions to others. -/
abbrev Nested (g : Graph) : List String → List SessionEvent → List String → Prop :=
  Leads (NestStep g)

variable {g : Graph} {stack last : List String} {event : SessionEvent}

theorem NestStep.onRunning_eq (h : NestStep g stack event last) :
    SessionEvent.onRunning stack event = last := by
  cases h <;> simp [SessionEvent.onRunning]

/-- What is running is all different and all there. -/
def Apart (g : Graph) (stack : List String) : Prop :=
  stack.Nodup ∧ ∀ id ∈ stack, g.hasNode id = true

theorem NestStep.apart (h : NestStep g stack event last) (hs : Apart g stack) : Apart g last := by
  obtain ⟨hd, hk⟩ := hs
  cases h with
  | plan => exact ⟨hd, hk⟩
  | run => exact ⟨hd, hk⟩
  | enter hid hn =>
    refine ⟨List.nodup_cons.mpr ⟨hn, hd⟩, ?_⟩
    intro x hx
    rcases List.mem_cons.mp hx with rfl | hx
    · exact hid
    · exact hk x hx
  | leave => exact ⟨(List.nodup_cons.mp hd).2, fun x hx => hk x (.tail _ hx)⟩

variable {e : Evaluation} {task : Task} {s s' : Session}

/-- Nothing that a task is about to run is running already. -/
def Ready (g : Graph) (busy : List String) : Task → Prop
  | .ask _ => True
  | .plan root => g.hasNode root = true ∧ root ∉ busy
  | .runs _ ids => ∀ id ∈ ids, id ∉ busy
  | .run _ id => id ∉ busy
  | .answer _ _ _ => True
  | .pass ns => ∀ n ∈ ns, g.hasNode n.id = true ∧ n.id ∉ busy

/-- Every task nests its events inside the nodes that were running before. -/
theorem Evaluates.nested (h : Evaluates e task s s') (hr : Ready e.graph s.executing task) :
    ∃ events, s'.trace = s.trace ++ events ∧
      Nested e.graph s.executing events s.executing := by
  induction h with
  | missing _ => exact ⟨[], by simp, .nil⟩
  | busy _ _ => exact ⟨[], by simp, .nil⟩
  | granted hk hb _ ih => exact ih ⟨hk, hb⟩
  | @planned root p s s' hp _ ih =>
    -- a plan leaves out what is running, so each of its nodes may run
    have hsound := hp.sound hr.1 hr.2
    obtain ⟨events, ht, hn⟩ := ih (by simpa [Ready] using hsound.idle)
    exact ⟨.plan p.order :: events, by simp [ht], .cons .plan (by simpa using hn)⟩
  | ranAll => exact ⟨[], by simp, .nil⟩
  | ranNext h₁ _ ih₁ ih₂ =>
    obtain ⟨xs, hx, hnx⟩ := ih₁ (hr _ (.head _))
    obtain ⟨ys, hy, hny⟩ := ih₂ (fun id hid => h₁.executing ▸ hr id (.tail _ hid))
    exact ⟨xs ++ ys, by simp [hy, hx], hnx.append (h₁.executing ▸ hny)⟩
  | absent _ => exact ⟨[], by simp, .nil⟩
  | @untyped cut _ n _ _ _ => exact ⟨[.run n.id cut], by simp [store], .cons .run .nil⟩
  | @unresolved cut _ n _ _ _ _ _ _ => exact ⟨[.run n.id cut], by simp, .cons .run .nil⟩
  | @acted cut id n d inputs result s t hn _ _ _ ih =>
    obtain rfl := Graph.node?_id hn
    obtain ⟨events, ht, hnest⟩ := ih trivial
    have hinside : Nested e.graph (n.id :: s.executing) events (n.id :: s.executing) := by
      simpa using hnest
    refine ⟨.run n.id cut :: .enter n.id :: (events ++ [.leave n.id]), by simp [ht], ?_⟩
    have hentered : NestStep e.graph s.executing (.enter n.id) (n.id :: s.executing) :=
      .enter (Graph.hasNode_of_node? hn) hr
    exact .cons .run (.cons hentered (hinside.append (.cons .leave .nil)))
  | finished => exact ⟨[], by simp, .nil⟩
  | failed => exact ⟨[], by simp, .nil⟩
  | held _ _ ih => exact ih trivial
  | fetched _ h₁ _ ih₁ ih₂ =>
    obtain ⟨xs, hx, hnx⟩ := ih₁ trivial
    obtain ⟨ys, hy, hny⟩ := ih₂ trivial
    exact ⟨xs ++ ys, by simp [hy, hx], hnx.append (h₁.executing ▸ hny)⟩
  | evaluated h₁ _ ih₁ ih₂ =>
    obtain ⟨xs, hx, hnx⟩ := ih₁ trivial
    obtain ⟨ys, hy, hny⟩ := ih₂ trivial
    exact ⟨xs ++ ys, by simp [hy, hx], hnx.append (h₁.executing ▸ hny)⟩
  | warned _ ih => simpa using ih trivial
  | noted _ ih => simpa using ih trivial
  | passedAll => exact ⟨[], by simp, .nil⟩
  | passedOver _ _ ih => exact ih (fun m hm => hr m (.tail _ hm))
  | passedNext _ h₁ _ ih₁ ih₂ =>
    obtain ⟨xs, hx, hnx⟩ := ih₁ (hr _ (.head _))
    obtain ⟨ys, hy, hny⟩ := ih₂ (fun m hm => h₁.executing ▸ hr m (.tail _ hm))
    exact ⟨xs ++ ys, by simp [hy, hx], hnx.append (h₁.executing ▸ hny)⟩

end Session

/-- A call nests its events, too. -/
theorem Call.Completes.nested {e : Evaluation} {c : Call} {s s' : Session}
    (h : c.Completes e s s') (hs : s.Idle) :
    ∃ events, s'.trace = s.trace ++ events ∧ Session.Nested e.graph [] events [] := by
  have hfree : ∀ n ∈ e.graph.nodes, e.graph.hasNode n.id = true ∧ n.id ∉ s.executing :=
    fun n hn => ⟨Graph.hasNode_of_mem hn, by simp [hs.out]⟩
  have hsync : (s.sync e.graph).executing = [] := Session.idle_sync hs
  cases h with
  | clear => exact ⟨[], by simp [Session.clear], .nil⟩
  | evaluateGraph h => simpa [Session.clear, hs.out] using h.nested hfree
  | evaluateNode h => simpa [hsync, Session.sync_trace] using h.nested trivial
  | heldOutput _ => exact ⟨[], by simp [Session.sync_trace], .nil⟩
  | newOutput _ h => simpa [hsync, Session.sync_trace] using h.nested trivial
  | meshOutputs h => simpa [Session.clear, hs.out] using h.nested hfree

theorem Call.nested_events {e : Evaluation} {s : Session} (hs : s.Idle) (c : Call) :
    Session.Nested e.graph [] (c.events e s) [] := by
  obtain ⟨events, ht, hn⟩ := ((completes_iff hs c (c.exec e s)).mpr rfl).nested hs
  rwa [Call.events, ht, List.drop_left]

/-- **No re-entrance, hence termination.** From every state that a history leads to, every call
completes, in exactly one way; no action is entered while an earlier one of the same node is
running; and no more actions are running at a time than there are identifiers of nodes. -/
theorem call_completes_without_reentry (r : Registry) (g : Graph) (actions : List Action)
    (c : Call) :
    let h := Host.after r g actions
    let e : Evaluation := ⟨h.graph, r⟩
    (∀ s, c.Completes e h.session s ↔ s = c.exec e h.session) ∧
      (∀ before id later, c.events e h.session = before ++ .enter id :: later →
        id ∉ running before) ∧
      (∀ before, before <+: c.events e h.session →
        (running before).length ≤ h.graph.distinctIds.length) := by
  intro h e
  have hs : h.session.Idle := Host.idle_after r g actions
  have hn : Session.Nested h.graph [] (c.events e h.session) [] :=
    Call.nested_events (e := e) hs c
  refine ⟨c.completes_iff hs, ?_, ?_⟩
  · intro before id later hsplit
    rw [hsplit] at hn
    obtain ⟨stack, hbefore, hlater⟩ := hn.of_append
    cases hlater with
    | cons hstep _ =>
      cases hstep with
      | enter _ hfree => rwa [running, hbefore.foldl_eq Session.NestStep.onRunning_eq]
  · rintro before ⟨later, hsplit⟩
    rw [← hsplit] at hn
    obtain ⟨stack, hbefore, -⟩ := hn.of_append
    have hapart : Session.Apart h.graph stack :=
      hbefore.keeps Session.NestStep.apart ⟨List.nodup_nil, by simp⟩
    obtain ⟨hd, hk⟩ := hapart
    rw [running, hbefore.foldl_eq Session.NestStep.onRunning_eq]
    exact (hd.subperm fun id hid => Graph.mem_distinctIds.mpr (hk id hid)).length_le

end LoftGraph
