import LoftGraph.Proofs.Evaluation.Quiet

/-!
# Turns

A plan lists its nodes before any of them runs, and each then waits for its turn. While it waits, a
running node may read one of its outputs, and then it runs out of turn; when its turn comes it runs
again. This module keeps account of that for node types that only read.

* `waiting` is the queue: a plan puts its nodes in front, a run takes its node from the front.
* `NoRepeat` says of events that a node which runs and does not wait any more never runs again.
* `Turns` puts together what a task keeps, and composes (`Turns.append`, `Turns.plan`,
  `Turns.entered`); `Evaluates.turns` is the induction over evaluation.

`full_pass_enters_once_iff` says when a full pass enters every action at most once. It may enter one
twice: `full_pass_may_enter_twice`.
-/

namespace LoftGraph

/-- The node whose turn an event is. -/
def SessionEvent.turn? : SessionEvent → Option String
  | .run id _ => some id
  | .enter id => some id
  | .plan _ => none
  | .leave _ => none

/-- What an event makes of the nodes that wait for their turn, those of the innermost plan first. -/
def SessionEvent.onWaiting : List String → SessionEvent → List String
  | queue, .plan order => order ++ queue
  | queue, .run id _ => queue.erase id
  | queue, .enter _ => queue
  | queue, .leave _ => queue

/-- The nodes that were planned and whose turn has not come, those of the innermost plan first. -/
def waiting (events : List SessionEvent) : List String :=
  events.foldl SessionEvent.onWaiting []

/-- No node of a registered type has other nodes evaluated, except by reading their outputs. -/
abbrev Registry.ReadOnly (r : Registry) : Prop := r.Every Request.ReadOnly

/-- The nodes whose turns a task is made of. -/
def Task.turns : Task → List String
  | .runs _ ids => ids
  | .run _ id => [id]
  | .ask _ => []
  | .plan _ => []
  | .answer _ _ _ => []
  | .pass _ => []

namespace Session

/-! ## The queue -/

/-- One event, while some nodes wait: a node has its turn when it is the first of them. -/
inductive TurnStep : List String → SessionEvent → List String → Prop
  | plan {order queue : List String} : TurnStep queue (.plan order) (order ++ queue)
  | run {id : String} {cut : List Connection} {queue : List String} :
      TurnStep (id :: queue) (.run id cut) queue
  | enter {id : String} {queue : List String} : TurnStep queue (.enter id) queue
  | leave {id : String} {queue : List String} : TurnStep queue (.leave id) queue

variable {queue rest last later : List String} {event : SessionEvent}
variable {xs ys events : List SessionEvent} {id : String}

theorem TurnStep.onWaiting_eq (h : TurnStep queue event last) :
    SessionEvent.onWaiting queue event = last := by
  cases h <;> simp [SessionEvent.onWaiting]

/-- Nodes further back in the queue make no difference. -/
theorem TurnStep.behind (h : TurnStep queue event last) (later : List String) :
    TurnStep (queue ++ later) event (last ++ later) := by
  cases h with
  | plan => rw [List.append_assoc]; exact .plan
  | run => exact .run
  | enter => exact .enter
  | leave => exact .leave

theorem Leads.behind (h : Leads TurnStep queue events last) (later : List String) :
    Leads TurnStep (queue ++ later) events (last ++ later) := by
  induction h with
  | nil => exact .nil
  | cons hstep _ ih => exact .cons (hstep.behind later) ih

/-- Who waits has a turn before the queue is empty. -/
theorem Leads.run_of_waiting (h : Leads TurnStep queue events []) (hid : id ∈ queue) :
    ∃ cut, .run id cut ∈ events := by
  generalize hempty : ([] : List String) = last at h
  induction h with
  | nil => simp [← hempty] at hid
  | cons hstep _ ih =>
    cases hstep with
    | plan =>
      obtain ⟨cut, hcut⟩ := ih (List.mem_append_right _ hid) hempty
      exact ⟨cut, .tail _ hcut⟩
    | @run first cut _ =>
      rcases List.mem_cons.mp hid with rfl | hid
      · exact ⟨cut, .head _⟩
      · obtain ⟨cut, hcut⟩ := ih hid hempty
        exact ⟨cut, .tail _ hcut⟩
    | enter =>
      obtain ⟨cut, hcut⟩ := ih hid hempty
      exact ⟨cut, .tail _ hcut⟩
    | leave =>
      obtain ⟨cut, hcut⟩ := ih hid hempty
      exact ⟨cut, .tail _ hcut⟩

/-! ## No repetition out of the queue -/

/-- A node that has had a turn and does not wait any more does not run or enter its action again. -/
def NoRepeat : List String → List SessionEvent → Prop
  | _, [] => True
  | queue, .plan order :: rest => NoRepeat (order ++ queue) rest
  | queue, .run id _ :: rest =>
    (id ∉ queue.erase id → ∀ cut, .run id cut ∉ rest) ∧ NoRepeat (queue.erase id) rest
  | queue, .enter id :: rest => (id ∉ queue → .enter id ∉ rest) ∧ NoRepeat queue rest
  | queue, .leave _ :: rest => NoRepeat queue rest

/-- Two stretches of events repeat nothing if no node of the first has a turn in the second, unless
it waits for it. -/
theorem NoRepeat.append (hx : NoRepeat queue xs) (hq : Leads TurnStep queue xs [])
    (hy : NoRepeat later ys)
    (hxy : ∀ x ∈ xs, ∀ id, x.turn? = some id → id ∉ later → ∀ y ∈ ys, y.turn? ≠ some id) :
    NoRepeat (queue ++ later) (xs ++ ys) := by
  generalize hempty : ([] : List String) = last at hq
  induction hq with
  | nil => subst hempty; exact hy
  | cons hstep _ ih =>
    have hrest := fun h => ih h (fun x hx => hxy x (.tail _ hx)) hempty
    cases hstep with
    | plan =>
      have hmore := hrest hx
      rwa [List.append_assoc] at hmore
    | @run id cut queue =>
      rw [NoRepeat, List.erase_cons_head] at hx
      rw [List.cons_append, List.cons_append, NoRepeat, List.erase_cons_head]
      refine ⟨?_, hrest hx.2⟩
      intro hid cut' hmem
      rw [List.mem_append, not_or] at hid
      rcases List.mem_append.mp hmem with hmem | hmem
      · exact hx.1 hid.1 cut' hmem
      · exact hxy _ (.head _) id rfl hid.2 _ hmem rfl
    | @enter id queue =>
      rw [NoRepeat] at hx
      rw [List.cons_append, NoRepeat]
      refine ⟨?_, hrest hx.2⟩
      intro hid hmem
      rw [List.mem_append, not_or] at hid
      rcases List.mem_append.mp hmem with hmem | hmem
      · exact hx.1 hid.1 hmem
      · exact hxy _ (.head _) id rfl hid.2 _ hmem rfl
    | leave => exact hrest hx

theorem NoRepeat.of_append {before after : List SessionEvent}
    (h : NoRepeat queue (before ++ after)) :
    NoRepeat (before.foldl SessionEvent.onWaiting queue) after := by
  induction before generalizing queue with
  | nil => exact h
  | cons x before ih =>
    cases x with
    | plan order => exact ih h
    | run id cut => exact ih h.2
    | enter id => exact ih h.2
    | leave id => exact ih h

/-! ## What a task keeps -/

/-- What a task may start from whose nodes only read. -/
def Reads (g : Graph) (s : Session) : Task → Prop
  | .ask id => s.cache.has id = false
  | .plan root => g.hasNode root = true ∧ root ∉ s.executing ∧ s.cache.has root = false
  | .runs _ ids => ∀ id ∈ ids, g.hasNode id = true
  | .run _ id => g.hasNode id = true
  | .answer _ request _ => request.ReadOnly
  | .pass ns => ∀ n ∈ ns, g.hasNode n.id = true ∧ n.id ∉ s.executing

/-- What is known about the turns between two sessions, if some nodes wait at first, and none in the
end. -/
structure Turns (s s' : Session) (queue : List String) (events : List SessionEvent) : Prop where
  /-- The queue is worked off. -/
  worked : Leads TurnStep queue events []
  /-- Only what waits runs again. -/
  noRepeat : NoRepeat queue events
  /-- Who has a turn is cached in the end. -/
  stored : ∀ x ∈ events, ∀ id, x.turn? = some id → s'.cache.has id = true
  /-- Who has a turn was waiting, or was neither cached nor running. -/
  fresh : ∀ x ∈ events, ∀ id, x.turn? = some id →
    id ∈ queue ∨ s.cache.has id = false ∧ id ∉ s.executing

variable {e : Evaluation} {task task' : Task} {s t s' : Session} {cut : List Connection}

theorem turns_nil (s s' : Session) : Turns s s' [] [] where
  worked := .nil
  noRepeat := trivial
  stored := by simp
  fresh := by simp

theorem Turns.congr (h : Turns t s' queue events) (hcache : t.cache = s.cache)
    (hexec : t.executing = s.executing) : Turns s s' queue events where
  worked := h.worked
  noRepeat := h.noRepeat
  stored := h.stored
  fresh := by simpa only [hcache, hexec] using h.fresh

/-- One task after the other. -/
theorem Turns.append (hx : Turns s t queue xs) (hy : Turns t s' later ys)
    (h₁ : Evaluates e task s t) (h₂ : Evaluates e task' t s') :
    Turns s s' (queue ++ later) (xs ++ ys) where
  worked := (hx.worked.behind later).append hy.worked
  noRepeat := by
    refine hx.noRepeat.append hx.worked hy.noRepeat ?_
    intro x hxmem id hid hlater y hymem hyid
    -- what had a turn in the first task is cached when the second begins
    rcases hy.fresh y hymem id hyid with h | h
    · exact hlater h
    · simp [hx.stored x hxmem id hid] at h
  stored := by
    intro x hmem id hid
    rcases List.mem_append.mp hmem with hmem | hmem
    · exact h₂.cache_has (hx.stored x hmem id hid)
    · exact hy.stored x hmem id hid
  fresh := by
    intro x hmem id hid
    rcases List.mem_append.mp hmem with hmem | hmem
    · exact (hx.fresh x hmem id hid).imp_left (List.mem_append_left _)
    · rcases hy.fresh x hmem id hid with h | ⟨hc, hb⟩
      · exact .inl (List.mem_append_right _ h)
      · refine .inr ⟨?_, h₁.executing ▸ hb⟩
        cases hold : s.cache.has id with
        | false => rfl
        | true => simp [h₁.cache_has hold] at hc

/-- A plan puts nodes into the queue that are neither cached nor running. -/
theorem Turns.plan {order : List String} (h : Turns s s' order events)
    (horder : ∀ id ∈ order, s.cache.has id = false ∧ id ∉ s.executing) :
    Turns s s' [] (.plan order :: events) where
  worked := .cons .plan (by simpa using h.worked)
  noRepeat := by simpa [NoRepeat] using h.noRepeat
  stored := by
    intro x hmem id hid
    rcases List.mem_cons.mp hmem with rfl | hmem
    · simp [SessionEvent.turn?] at hid
    · exact h.stored x hmem id hid
  fresh := by
    intro x hmem id hid
    rcases List.mem_cons.mp hmem with rfl | hmem
    · simp [SessionEvent.turn?] at hid
    · rcases h.fresh x hmem id hid with hwaits | hfresh
      · exact .inr (horder id hwaits)
      · exact .inr hfresh

/-- A node whose action is not entered. -/
theorem turns_skipped (hstored : s'.cache.has id = true) : Turns s s' [id] [.run id cut] where
  worked := .cons .run .nil
  noRepeat := by simp [NoRepeat]
  stored := by simpa [SessionEvent.turn?] using hstored
  fresh := by simp [SessionEvent.turn?]

/-- A node whose action is entered has no other turn while it runs. -/
theorem Turns.entered (h : Turns t s' [] events) (hcache : t.cache = s.cache)
    (hexec : t.executing = id :: s.executing) {u : Session}
    (hstored : ∀ x, u.cache.has x = true ↔ id = x ∨ s'.cache.has x = true) :
    Turns s u [id] (.run id cut :: .enter id :: (events ++ [.leave id])) := by
  -- the node is running all the while, and what runs has no turn
  have hother : ∀ x ∈ events, x.turn? ≠ some id := by
    intro x hmem hid
    rcases h.fresh x hmem id hid with hnil | ⟨-, hbusy⟩
    · cases hnil
    · exact hbusy (by simp [hexec])
  have hinside : NoRepeat [] (events ++ [.leave id]) :=
    h.noRepeat.append h.worked trivial (by simp [SessionEvent.turn?])
  have hturn : ∀ x ∈ SessionEvent.run id cut :: .enter id :: (events ++ [.leave id]),
      ∀ y, x.turn? = some y → id = y ∨ x ∈ events := by
    intro x hmem y hy
    simp only [List.mem_cons, List.mem_append, List.not_mem_nil, or_false] at hmem
    rcases hmem with rfl | rfl | hmem | rfl
    · exact .inl (Option.some.inj hy)
    · exact .inl (Option.some.inj hy)
    · exact .inr hmem
    · simp [SessionEvent.turn?] at hy
  constructor
  case worked => exact .cons .run (.cons .enter (h.worked.append (.cons .leave .nil)))
  case noRepeat =>
    rw [NoRepeat, List.erase_cons_head, NoRepeat]
    refine ⟨fun _ cut' hmem => ?_, fun _ hmem => ?_, hinside⟩
    · exact hother (.run id cut') (by simpa using hmem) rfl
    · exact hother (.enter id) (by simpa using hmem) rfl
  case stored =>
    intro x hmem y hy
    rcases hturn x hmem y hy with rfl | hevent
    · exact (hstored _).mpr (.inl rfl)
    · exact (hstored y).mpr (.inr (h.stored x hevent y hy))
  case fresh =>
    intro x hmem y hy
    rcases hturn x hmem y hy with rfl | hevent
    · exact .inl (.head _)
    · rcases h.fresh x hevent y hy with hnil | ⟨hc, hb⟩
      · cases hnil
      · rw [hcache] at hc
        rw [hexec] at hb
        exact .inr ⟨hc, fun hy => hb (.tail _ hy)⟩

/-- Every task of nodes that only read keeps account of the turns. -/
theorem Evaluates.turns (h : Evaluates e task s s') (hq : e.registry.ReadOnly)
    (hr : Reads e.graph s task) :
    ∃ events, s'.trace = s.trace ++ events ∧ Turns s s' task.turns events := by
  induction h with
  | missing _ => exact ⟨[], by simp, turns_nil _ _⟩
  | busy _ _ => exact ⟨[], by simp, turns_nil _ _⟩
  | granted hk hb _ ih => exact ih ⟨hk, hb, hr⟩
  | @planned root p s s' hp _ ih =>
    obtain ⟨hk, hb, hc⟩ := hr
    have hsound := hp.sound hk hb
    obtain ⟨events, ht, hturns⟩ := ih hsound.known
    refine ⟨.plan p.order :: events, by simp [ht], ?_⟩
    refine (hturns.congr (announce_fields s p).1 (announce_fields s p).2.1).plan ?_
    intro id hid
    -- only the root might be cached, and it was asked for because it is not
    refine ⟨?_, hsound.idle id hid⟩
    rcases hsound.fresh id hid with rfl | hfresh
    · exact hc
    · exact hfresh
  | ranAll => exact ⟨[], by simp, turns_nil _ _⟩
  | ranNext h₁ h₂ ih₁ ih₂ =>
    obtain ⟨xs, hx, hxturns⟩ := ih₁ (hr _ (.head _))
    obtain ⟨ys, hy, hyturns⟩ := ih₂ (fun id hid => hr id (.tail _ hid))
    exact ⟨xs ++ ys, by simp [hy, hx], hxturns.append hyturns h₁ h₂⟩
  | absent hn => simp [Reads, Graph.hasNode, hn] at hr
  | @untyped cut _ n _ hn _ =>
    obtain rfl := Graph.node?_id hn
    refine ⟨[.run n.id cut], by simp [store], turns_skipped ?_⟩
    exact (Fields.has_set _ _ _ _).mpr (.inl rfl)
  | @unresolved cut _ n _ _ _ hn _ _ =>
    obtain rfl := Graph.node?_id hn
    refine ⟨[.run n.id cut], by simp, turns_skipped ?_⟩
    rw [(conclude_fields _ _ _).1]
    exact (Fields.has_set _ _ _ _).mpr (.inl rfl)
  | @acted cut _ n d inputs result s t hn hd _ _ ih =>
    obtain rfl := Graph.node?_id hn
    obtain ⟨events, ht, hturns⟩ := ih (hq.action hd n.id inputs)
    refine ⟨.run n.id cut :: .enter n.id :: (events ++ [.leave n.id]), by simp [ht], ?_⟩
    refine hturns.entered (by simp) (by simp) ?_
    intro x
    rw [(conclude_fields _ _ _).1, (record_fields _ _).1]
    exact Fields.has_set _ _ _ _
  | finished => exact ⟨[], by simp, turns_nil _ _⟩
  | failed => exact ⟨[], by simp, turns_nil _ _⟩
  | held _ _ ih =>
    cases hr with
    | output _ _ hnext => exact ih (hnext _)
  | fetched hc h₁ h₂ ih₁ ih₂ =>
    cases hr with
    | output _ _ hnext =>
      obtain ⟨xs, hx, hxturns⟩ := ih₁ hc
      obtain ⟨ys, hy, hyturns⟩ := ih₂ (hnext _)
      exact ⟨xs ++ ys, by simp [hy, hx], hxturns.append hyturns h₁ h₂⟩
  | evaluated _ _ _ _ => cases hr
  | warned _ ih =>
    cases hr with
    | warn _ hnext =>
      obtain ⟨events, ht, hturns⟩ := ih hnext
      exact ⟨events, by simpa using ht, hturns.congr (report_fields _ _).1 (report_fields _ _).2.1⟩
  | noted _ ih =>
    cases hr with
    | note _ hnext =>
      obtain ⟨events, ht, hturns⟩ := ih hnext
      exact ⟨events, by simpa using ht, hturns.congr rfl rfl⟩
  | passedAll => exact ⟨[], by simp, turns_nil _ _⟩
  | passedOver _ _ ih => exact ih (fun m hm => hr m (.tail _ hm))
  | passedNext hc h₁ h₂ ih₁ ih₂ =>
    obtain ⟨hk, hb⟩ := hr _ (.head _)
    obtain ⟨xs, hx, hxturns⟩ := ih₁ ⟨hk, hb, hc⟩
    obtain ⟨ys, hy, hyturns⟩ := ih₂ (fun m hm => h₁.executing ▸ hr m (.tail _ hm))
    exact ⟨xs ++ ys, by simp [hy, hx], hxturns.append hyturns h₁ h₂⟩

/-- A full pass works off what it plans. -/
theorem evaluateGraph_turns (hq : e.registry.ReadOnly) (hs : s.Idle) :
    Turns (s.clear e.graph) (s.evaluateGraph e) [] (Call.evaluateGraph.events e s) := by
  have hreads : Reads e.graph (s.clear e.graph) (.pass e.graph.nodes) := by
    intro n hn
    exact ⟨Graph.hasNode_of_mem hn, by simp [(idle_clear hs).out]⟩
  obtain ⟨events, ht, hturns⟩ := (evaluates_evaluateGraph hs).turns hq hreads
  have hevents : Call.evaluateGraph.events e s = events := by
    have hsum := (Call.trace_exec (e := e) hs .evaluateGraph).symm.trans ht
    exact List.append_cancel_left hsum
  exact hevents ▸ hturns

theorem waiting_of_leads (h : Leads TurnStep [] events queue) : waiting events = queue :=
  h.foldl_eq TurnStep.onWaiting_eq

end Session

/-- **When a full pass enters each action once.** From every state that a history leads to, a full
pass over nodes that only read runs a node again exactly when it ran while it was waiting for its
turn. So it enters every action at most once exactly when no action is entered at the turn of its
node that was entered before, while the node was waiting. -/
theorem full_pass_enters_once_iff (r : Registry) (hr : r.ReadOnly) (g : Graph)
    (actions : List Action) :
    let h := Host.after r g actions
    let events := Call.evaluateGraph.events ⟨h.graph, r⟩ h.session
    ((∀ id, events.count (.enter id) ≤ 1) ↔
      ∀ before id after, events = before ++ .enter id :: after → id ∈ waiting before →
        .enter id ∉ after) ∧
    ∀ before id cut after, events = before ++ .run id cut :: after →
      (id ∈ waiting (before ++ [.run id cut]) ↔ ∃ cut', .run id cut' ∈ after) := by
  intro h events
  have hturns : Session.Turns _ _ [] events :=
    Session.evaluateGraph_turns (e := ⟨h.graph, r⟩) hr (Host.idle_after r g actions)
  have hrepeat := hturns.noRepeat
  have hworked := hturns.worked
  constructor
  · constructor
    · intro honce before id after hsplit _ hmem
      have hcount := honce id
      rw [hsplit, List.count_append, List.count_cons_self] at hcount
      have hpos : 0 < after.count (.enter id) := List.count_pos_iff.mpr hmem
      omega
    · intro hentered id
      -- the first entry is followed by no other, whether the node was waiting then or not
      by_cases hmem : .enter id ∈ events
      · obtain ⟨before, after, hsplit, hbefore⟩ := List.eq_append_cons_of_mem hmem
        have hafter : .enter id ∉ after := by
          by_cases hwaits : id ∈ waiting before
          · exact hentered before id after hsplit hwaits
          · rw [hsplit] at hrepeat
            exact hrepeat.of_append.1 hwaits
        rw [hsplit, List.count_append, List.count_cons_self, List.count_eq_zero_of_not_mem hbefore,
          List.count_eq_zero_of_not_mem hafter]
      · rw [List.count_eq_zero_of_not_mem hmem]
        exact Nat.zero_le 1
  · intro before id cut after hsplit
    constructor
    · intro hwaits
      -- the queue is worked off after the run, and the node is still in it
      rw [hsplit, List.append_cons] at hworked
      obtain ⟨queue, hbefore, hafter⟩ := hworked.of_append
      rw [Session.waiting_of_leads hbefore] at hwaits
      exact hafter.run_of_waiting hwaits
    · rintro ⟨cut', hmem⟩
      by_contra hwaits
      rw [hsplit] at hrepeat
      rw [waiting, List.foldl_append] at hwaits
      exact hrepeat.of_append.1 hwaits cut' hmem

/-- A type that only reads: it puts out what another node puts out. -/
def watcher : NodeDefinition where
  type := "watcher"
  name := "Watcher"
  category := "Basic"
  inputs := [⟨"target", "Target", .string, .text "source"⟩]
  outputs := [⟨"out", "Out", .boolean, .null⟩]
  action _ inputs :=
    match inputs.ports.value? "target" with
    | some (.text target) => .output target "out" (fun value => .yields [("out", value)])
    | _ => .yields [("out", .null)]

/-- The registry of this type and of a quiet one. -/
def watchers : Registry := ⟨[watcher, relay]⟩

theorem watchers_readOnly : watchers.ReadOnly := by
  intro d hd id inputs
  rcases List.mem_cons.mp hd with rfl | hd
  · simp only [watcher]
    split
    · exact .output _ _ fun _ => .finish _
    · exact .finish _
  · obtain rfl : d = relay := by simpa using hd
    exact .finish _

/-- A node is fed by two others; the first of them reads the second, which is waiting then. -/
def overtaking : Graph where
  nodes := [⟨"both", "relay", [], none⟩, ⟨"reader", "watcher", [], none⟩,
    ⟨"source", "relay", [], none⟩]
  connections := [⟨"k", "reader", "out", "both", "in"⟩, ⟨"l", "source", "out", "both", "in"⟩]

theorem overtaking_pass_runs_again :
    watchers.ReadOnly ∧
      let events := Call.evaluateGraph.events ⟨overtaking, watchers⟩ (.ofGraph overtaking)
      events = [.plan ["reader", "source", "both"], .run "reader" [], .enter "reader",
        .plan ["source"], .run "source" [], .enter "source", .leave "source", .leave "reader",
        .run "source" [], .enter "source", .leave "source",
        .run "both" [], .enter "both", .leave "both"] ∧
      ∃ before id after, events = before ++ .enter id :: after ∧ id ∈ waiting before ∧
        .enter id ∈ after := by
  obtain ⟨honce, -⟩ := full_pass_enters_once_iff watchers watchers_readOnly overtaking []
  refine ⟨watchers_readOnly, rfl, ?_⟩
  by_contra hnone
  push Not at hnone
  exact absurd (honce.mpr hnone "source") (by decide +kernel)

/-- An action that a full pass enters twice: no pass is bound to run each node once. -/
theorem full_pass_may_enter_twice :
    ¬ ∀ (r : Registry), r.ReadOnly → ∀ (g : Graph) (id : String),
      (Call.evaluateGraph.events ⟨g, r⟩ (.ofGraph g)).count (.enter id) ≤ 1 := by
  intro honce
  have htwice : (Call.evaluateGraph.events ⟨overtaking, watchers⟩ (.ofGraph overtaking)).count
      (.enter "source") = 2 := by decide +kernel
  have hcount := honce watchers watchers_readOnly overtaking "source"
  omega

end LoftGraph
