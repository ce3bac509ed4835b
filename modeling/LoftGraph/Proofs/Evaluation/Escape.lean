import LoftGraph.Graph.Evaluator
import LoftGraph.Proofs.Evaluation.History
import LoftGraph.Proofs.Evaluation.Quiet

/-!
# Faults that escape

`Evaluator` lets a fault escape that cannot be told. As long as none does, its steps do what the
functions of `Session` compute (`Steps.Follows`), and what is known of these holds of its calls.

* Where nodes fail only for causes that can be told, none ever does (`contains_told`), so every call
  returns with the session that is computed (`Call.attempt_told`).
* A quiet node lets out what its own action fails for and nothing else (`contains_quiet`).
-/

namespace LoftGraph

theorem NodeFault.isExit_eq_false {fault : NodeFault} (h : fault.escape? = none) :
    fault.isExit = false := by
  cases fault with
  | exit text => cases h
  | _ => rfl

/-- Nodes of registered types fail only for causes that can be told. -/
abbrev Registry.Told (r : Registry) : Prop := r.Every Request.Told

/-! ## Steps -/

namespace Steps

variable {α : Type} {P : NodeFault → Prop} {s : Session}

theorem run_observing (x : Steps α) (s : Session) : (observing x : Steps _).run s =
    match x.run s with
    | .ok a t => .ok (.ok a) t
    | .error fault t => .ok (.error fault) t := by
  show EStateM.tryCatch (EStateM.bind x fun a => pure (Except.ok a))
    (fun fault => pure (Except.error fault)) s = _
  rw [EStateM.tryCatch, EStateM.bind, EStateM.run]
  cases x s <;> rfl

/-- What comes of steps that end in a session with a result. -/
def ended : Session × Except NodeFault α → EStateM.Result NodeFault Session α
  | (t, .ok a) => .ok a t
  | (t, .error fault) => .error fault t

theorem run_observing_of_ended {x : Steps α} {after : Session × Except NodeFault α}
    (h : x.run s = ended after) : (observing x : Steps _).run s = .ok after.2 after.1 := by
  obtain ⟨t, result⟩ := after
  rw [run_observing, h]
  cases result <;> rfl

theorem run_ofExcept (result : Except NodeFault α) (s : Session) :
    (MonadExcept.ofExcept result : Steps α).run s = ended (s, result) := by
  cases result <;> rfl

/-- Steps yield what a function computes, unless a fault of some kind escapes. -/
def Yields (P : NodeFault → Prop) (x : Steps α) (f : Session → Session × α) : Prop :=
  ∀ s, x.run s = .ok (f s).2 (f s).1 ∨ ∃ fault t, x.run s = .error fault t ∧ P fault

/-- Steps do what a function does, unless a fault of some kind escapes. -/
abbrev Follows (P : NodeFault → Prop) (x : Steps Unit) (f : Session → Session) : Prop :=
  Yields P x fun s => (f s, ())

theorem follows_modify (f : Session → Session) : Follows P (modify f) f := fun _ => .inl rfl

theorem Yields.bind {β : Type} {x : Steps α} {y : α → Steps β} {f : Session → Session × α}
    {k : α → Session → Session × β} (hx : Yields P x f) (hy : ∀ a, Yields P (y a) (k a)) :
    Yields P (x >>= y) fun s => k (f s).2 (f s).1 := by
  intro s
  rw [EStateM.run_bind]
  rcases hx s with hx | ⟨fault, t, hx, hfault⟩
  · rw [hx]
    exact hy (f s).2 (f s).1
  · rw [hx]
    exact .inr ⟨fault, t, rfl, hfault⟩

theorem Follows.bind {β : Type} {x : Steps Unit} {y : Steps β} {f : Session → Session}
    {k : Session → Session × β} (hx : Follows P x f) (hy : Yields P y k) :
    Yields P (x >>= fun _ => y) fun s => k (f s) :=
  Yields.bind hx fun _ => hy

theorem yields_get {f : Session → α} :
    Yields P (do return f (← get)) fun s => (s, f s) :=
  fun _ => .inl rfl

/-- What steps come to is one thing, whatever they yield. -/
theorem Yields.forget {x : Steps α} {f : Session → Session × α} (h : Yields P x f) :
    Follows P (do let _ ← x) fun s => (f s).1 :=
  h.bind (k := fun _ s => (s, ())) fun _ _ => .inl rfl

theorem Follows.forM {β : Type} {x : β → Steps Unit} {f : Session → β → Session}
    (h : ∀ b, Follows P (x b) (f · b)) (bs : List β) :
    Follows P (bs.forM x) (bs.foldl f) := by
  induction bs with
  | nil => exact fun _ => .inl rfl
  | cons b bs ih => exact (h b).bind ih

/-- Steps return with a session and nothing escapes, or something that escapes ends them. -/
def Comes (escaping : NodeFault → Prop) (after : Session)
    (result : EStateM.Result NodeFault Session Unit) : Prop :=
  (result = .ok () after ∧ ∀ fault, ¬ escaping fault) ∨
    ∃ fault t, result = .error fault t ∧ escaping fault

namespace Comes

variable {Q : NodeFault → Prop} {t : Session}
variable {result : EStateM.Result NodeFault Session Unit}

theorem congr (h : Comes P t result) (hPQ : ∀ fault, P fault ↔ Q fault) : Comes Q t result := by
  obtain ⟨hok, hnone⟩ | ⟨fault, u, herror, hfault⟩ := h
  · exact .inl ⟨hok, fun fault hfault => hnone fault ((hPQ fault).mpr hfault)⟩
  · exact .inr ⟨fault, u, herror, (hPQ fault).mp hfault⟩

/-- What comes of steps one after the other. -/
theorem bind {x y : Steps Unit} {u : Session} (hx : Comes P t (x.run s))
    (hy : Comes Q u (y.run t)) :
    Comes (fun fault => P fault ∨ Q fault) u ((x >>= fun _ => y).run s) := by
  rw [EStateM.run_bind]
  obtain ⟨hok, hnone⟩ | ⟨fault, v, herror, hfault⟩ := hx
  · rw [hok]
    obtain ⟨hok', hnone'⟩ | ⟨fault, v, herror', hfault⟩ := hy
    · exact .inl ⟨hok', fun fault hfault => hfault.elim (hnone fault) (hnone' fault)⟩
    · exact .inr ⟨fault, v, herror', .inr hfault⟩
  · rw [herror]
    exact .inr ⟨fault, v, rfl, .inl hfault⟩

end Comes

end Steps

/-! ## One run of a node -/

namespace Evaluator

open Steps

variable {e : Evaluation} {asked : String → Steps Unit} {evaluate : String → Session → Session}
variable {cut : List Connection} {id : String} {n : GraphNode} {d : NodeDefinition} {s : Session}
variable {P : NodeFault → Prop}

/-- A request comes to the same, if it asks for nothing or what it asks for does. -/
theorem run_perform {request : Request}
    (h : request.Quiet ∨ ∀ node s, (asked node).run s = .ok () (evaluate node s)) (s : Session) :
    (perform asked id request).run s = ended (Session.perform evaluate id request s) := by
  induction request generalizing s with
  | finish outputs => rfl
  | fail fault => rfl
  | output node port next ih =>
    replace h := h.resolve_left (by intro hq; cases hq)
    simp only [perform, Session.perform, EStateM.run_bind, EStateM.run_get]
    by_cases hc : s.cache.has node = true
    · simp only [hc, Bool.not_true, Bool.false_eq_true, if_false, if_true]
      exact ih _ (.inr h) s
    · simp only [hc, Bool.not_false, if_true, Bool.false_eq_true, if_false, EStateM.run_bind,
        EStateM.run_get, h]
      exact ih _ (.inr h) _
  | evaluate node next ih =>
    replace h := h.resolve_left (by intro hq; cases hq)
    simp only [perform, Session.perform, EStateM.run_bind, h]
    exact ih (.inr h) _
  | warn message next ih =>
    exact ih (h.imp_left fun hq => by cases hq; assumption) _
  | note message next ih =>
    exact ih (h.imp_left fun hq => by cases hq; assumption) _

theorem run_execute
    (h : (∀ inputs, (d.action n.id inputs).Quiet) ∨
      ∀ node s, (asked node).run s = .ok () (evaluate node s)) (s : Session) :
    (execute e asked cut d n).run s = ended (Session.execute e evaluate cut d n s) := by
  simp only [execute, Session.execute, EStateM.run_bind, EStateM.run_modify, EStateM.run_get,
    run_ofExcept]
  cases (s.noteDangling e.graph cut n.id).resolve e.graph cut d n with
  | error fault => rfl
  | ok inputs =>
    have hperform : (perform asked n.id (d.action n.id inputs)).run _ = ended _ :=
      run_perform (h.imp_left (· inputs)) ((s.noteDangling e.graph cut n.id).record (.enter n.id))
    simp only [ended, act, Session.act, EStateM.run_bind, EStateM.run_modify,
      run_observing_of_ended hperform, run_ofExcept]

/-- What escapes from a result. -/
def escapeOf {α : Type} : Except NodeFault α → Option NodeFault
  | .ok _ => none
  | .error fault => fault.escape?

theorem comes_settle (id : String) (result : Except NodeFault Outputs) (s : Session) :
    Comes (escapeOf result = some ·) (Session.settle id result s) ((settle id result).run s) := by
  cases result with
  | ok outputs => exact .inl ⟨rfl, by simp [escapeOf]⟩
  | error fault =>
    simp only [escapeOf, settle]
    cases hfault : fault.escape? with
    | none =>
      simp only [NodeFault.isExit_eq_false hfault]
      exact .inl ⟨rfl, by simp⟩
    | some escaped => exact .inr ⟨escaped, _, rfl, rfl⟩

/-- Nothing escapes but what the action fails for: inputs that do not fit and outputs that are
missing can be told. -/
theorem escapeOf_execute (evaluate : String → Session → Session) (s : Session) :
    escapeOf (Session.execute e evaluate cut d n s).2 =
      match (s.noteDangling e.graph cut n.id).resolve e.graph cut d n with
      | .error _ => none
      | .ok inputs => escapeOf (Session.perform evaluate n.id (d.action n.id inputs)
          ((s.noteDangling e.graph cut n.id).record (.enter n.id))).2 := by
  have hcomplete : ∀ result : Except NodeFault (Option Outputs),
      escapeOf (result.bind (Session.complete d n.type)) = escapeOf result := by
    intro result
    cases result with
    | error fault => rfl
    | ok outputs =>
      show escapeOf (Session.complete d n.type outputs) = none
      unfold Session.complete
      split <;> rfl
  simp only [Session.execute]
  cases hi : (s.noteDangling e.graph cut n.id).resolve e.graph cut d n with
  | error fault =>
    unfold Session.resolve at hi
    split at hi
    · cases hi
    · cases hi
      rfl
  | ok inputs => exact hcomplete _

/-- What escapes when the node of an identifier runs. -/
def escapes (e : Evaluation) (evaluate : String → Session → Session) (cut : List Connection)
    (id : String) (s : Session) : Option NodeFault :=
  match e.graph.node? id with
  | none => none
  | some n =>
    match e.registry.get? n.type with
    | none => none
    | some d =>
      escapeOf (Session.execute e evaluate cut d n ((s.record (.run n.id cut)).started n.id)).2

/-- A run comes to the session that is computed, or to what escapes. -/
theorem comes_run
    (h : e.registry.Quiet ∨ ∀ node s, (asked node).run s = .ok () (evaluate node s)) (s : Session) :
    Comes (escapes e evaluate cut id s = some ·) (Session.run e evaluate cut s id)
      ((run e asked cut id).run s) := by
  unfold escapes run Session.run
  cases hn : e.graph.node? id with
  | none => exact .inl ⟨rfl, by simp⟩
  | some n =>
    simp only [runNode, Session.runNode, EStateM.run_bind, EStateM.run_modify]
    cases hd : e.registry.get? n.type with
    | none => exact .inl ⟨rfl, by simp⟩
    | some d =>
      have hexecute : (execute e asked cut d n).run _ = ended _ :=
        run_execute (h.imp_left fun hq inputs => hq.action hd n.id inputs)
          ((s.record (.run n.id cut)).started n.id)
      simp only [EStateM.run_bind, EStateM.run_modify, run_observing_of_ended hexecute]
      exact comes_settle n.id _ _

/-! ## Evaluations in which faults are contained -/

/-- Runs do what is computed, unless a fault of some kind escapes, if what they ask for does. -/
def Contains (e : Evaluation) (P : NodeFault → Prop) : Prop :=
  ∀ (asked : String → Steps Unit) (evaluate : String → Session → Session),
    (∀ node, Follows P (asked node) (evaluate node)) →
    ∀ cut id, Follows P (run e asked cut id) (Session.run e evaluate cut · id)

/-- A request that fails only for causes that can be told does so, whatever it gets. -/
theorem escapeOf_perform_of_told {request : Request} (h : request.Told) (s : Session) :
    escapeOf (Session.perform evaluate id request s).2 = none := by
  induction h generalizing s with
  | finish outputs => rfl
  | fail hfault => exact hfault
  | output node port _ ih => exact ih _ _
  | evaluate node _ ih => exact ih _
  | warn message _ ih => exact ih _
  | note message _ ih => exact ih _

/-- Where every cause can be told, nothing escapes. -/
theorem contains_told (hr : e.registry.Told) : Contains e fun _ => False := by
  intro asked evaluate hasked cut id s
  have hnone : escapes e evaluate cut id s = none := by
    unfold escapes
    cases e.graph.node? id with
    | none => rfl
    | some n =>
      simp only
      cases hd : e.registry.get? n.type with
      | none => rfl
      | some d =>
        simp only [escapeOf_execute]
        split
        · rfl
        · exact escapeOf_perform_of_told (hr.action hd n.id _) _
  have hrun : Comes _ _ ((run e asked cut id).run s) :=
    comes_run (.inr fun node s => (hasked node s).resolve_right (by simp)) s
  rw [hnone] at hrun
  exact .inl (hrun.resolve_right (by simp)).1

/-- What escapes from a quiet node, given what is cached: what its action fails for. -/
def escape? (e : Evaluation) (cut : List Connection) (n : GraphNode) (s : Session) :
    Option NodeFault :=
  match e.registry.get? n.type with
  | none => none
  | some d =>
    match s.resolve e.graph cut d n with
    | .error _ => none
    | .ok inputs => escapeOf (d.action n.id inputs).result

theorem follows_evaluateFrom (h : Contains e P)
    (hasked : ∀ node, Follows P (asked node) (evaluate node)) (root : String) :
    Follows P (evaluateFrom e asked root) (Session.evaluateFrom e evaluate root) := by
  intro s
  simp only [evaluateFrom, Session.evaluateFrom]
  rw [EStateM.run_bind, EStateM.run_get]
  dsimp only
  generalize e.graph.plan s.cache.has s.executing root = plan
  have hruns := Follows.forM (h asked evaluate hasked plan.cut) plan.order
  exact (follows_modify (·.announce plan)).bind hruns s

theorem follows_evaluateWithin (h : Contains e P) (depth : Nat) (id : String) :
    Follows P (evaluateWithin e depth id) (Session.evaluateWithin e depth id) := by
  induction depth generalizing id with
  | zero => exact fun s => .inl rfl
  | succ depth ih =>
    intro s
    simp only [evaluateWithin, Session.evaluateWithin, EStateM.run_bind, EStateM.run_get]
    split
    · exact .inl rfl
    · split
      · exact .inl rfl
      · exact follows_evaluateFrom h ih id s

theorem follows_evaluateNode (h : Contains e P) (id : String) :
    Follows P (evaluateNode e id) (Session.evaluateNode e id) :=
  (follows_modify (·.sync e.graph)).bind (follows_evaluateWithin h _ id)

theorem follows_evaluateFresh (h : Contains e P) (n : GraphNode) :
    Follows P (evaluateFresh e n) (Session.evaluateFresh e · n) := by
  intro s
  simp only [evaluateFresh, Session.evaluateFresh, EStateM.run_bind, EStateM.run_get]
  by_cases hc : s.cache.has n.id = true
  · simp only [hc, if_true]
    exact .inl rfl
  · simp only [hc, Bool.not_false, if_true]
    exact follows_evaluateFrom h (follows_evaluateWithin h _) n.id s

theorem follows_evaluateGraph (h : Contains e P) :
    Follows P (evaluateGraph e) (Session.evaluateGraph e) :=
  (follows_modify (·.clear e.graph)).bind (Follows.forM (follows_evaluateFresh h) e.graph.nodes)

theorem yields_output (h : Contains e P) (id port : String) :
    Yields P (output e id port) (Session.output e id port) := by
  intro s
  simp only [output, Session.output, EStateM.run_bind, EStateM.run_modify, EStateM.run_get]
  by_cases hc : (s.sync e.graph).cache.has id = true
  · simp only [hc, if_true]
    exact .inl rfl
  · simp only [hc, Bool.not_false, if_true]
    exact (follows_evaluateNode h id).bind (yields_get (f := (·.cached id port))) (s.sync e.graph)

theorem yields_meshOutputs (h : Contains e P) :
    Yields P (meshOutputs e) (Session.meshOutputs e) :=
  (follows_evaluateGraph h).bind yields_get

end Evaluator

/-! ## Calls -/

namespace Call

variable {e : Evaluation} {P : NodeFault → Prop}

/-- A call of a session that faults may escape from. -/
def attempt (e : Evaluation) : Call → Steps Unit
  | .clear => modify (·.clear e.graph)
  | .evaluateGraph => Evaluator.evaluateGraph e
  | .evaluateNode id => Evaluator.evaluateNode e id
  | .output id port => do let _ ← Evaluator.output e id port
  | .meshOutputs => do let _ ← Evaluator.meshOutputs e

theorem follows_attempt (h : Evaluator.Contains e P) (c : Call) :
    Steps.Follows P (c.attempt e) (c.exec e) := by
  cases c with
  | clear => exact Steps.follows_modify _
  | evaluateGraph => exact Evaluator.follows_evaluateGraph h
  | evaluateNode id => exact Evaluator.follows_evaluateNode h id
  | output id port => exact (Evaluator.yields_output h id port).forget
  | meshOutputs => exact (Evaluator.yields_meshOutputs h).forget

/-- **Nothing escapes where every cause can be told**, and every call has its computed session. -/
theorem attempt_told (hr : e.registry.Told) (c : Call) (s : Session) :
    (c.attempt e).run s = .ok () (c.exec e s) :=
  (follows_attempt (Evaluator.contains_told hr) c s).resolve_right (by simp)

end Call

end LoftGraph
