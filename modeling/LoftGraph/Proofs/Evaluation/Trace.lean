import LoftGraph.Proofs.Evaluation.History

/-!
# Traces

What a session records is read as a word: `Leads step a events b` says that the events lead from one
state of some bookkeeping to another, one `step` each. What a call adds to the trace is
`Call.events`, and nothing that was recorded before is changed (`Call.trace_exec`).
-/

namespace LoftGraph

namespace Session

/-- Events lead from one state to another, one step each. -/
inductive Leads {σ : Type} (step : σ → SessionEvent → σ → Prop) :
    σ → List SessionEvent → σ → Prop
  | nil {a : σ} : Leads step a [] a
  | cons {a b c : σ} {x : SessionEvent} {xs : List SessionEvent} :
      step a x b → Leads step b xs c → Leads step a (x :: xs) c

namespace Leads

variable {σ : Type} {step : σ → SessionEvent → σ → Prop} {a b c : σ}
variable {xs ys : List SessionEvent}

theorem append (hx : Leads step a xs b) (hy : Leads step b ys c) : Leads step a (xs ++ ys) c := by
  induction hx with
  | nil => exact hy
  | cons h _ ih => exact .cons h (ih hy)

/-- Events that lead somewhere pass through a state at every point in between. -/
theorem of_append (h : Leads step a (xs ++ ys) c) :
    ∃ b, Leads step a xs b ∧ Leads step b ys c := by
  induction xs generalizing a with
  | nil => exact ⟨a, .nil, h⟩
  | cons x xs ih =>
    cases h with
    | cons hstep h =>
      obtain ⟨b, hx, hy⟩ := ih h
      exact ⟨b, .cons hstep hx, hy⟩

/-- What every step keeps is kept. -/
theorem keeps (h : Leads step a xs b) {P : σ → Prop}
    (hstep : ∀ {a x b}, step a x b → P a → P b) (ha : P a) : P b := by
  induction h with
  | nil => exact ha
  | cons hx _ ih => exact ih (hstep hx ha)

/-- Steps that a function computes add up to its fold. -/
theorem foldl_eq (h : Leads step a xs b) {f : σ → SessionEvent → σ}
    (hstep : ∀ {a x b}, step a x b → f a x = b) : xs.foldl f a = b := by
  induction h with
  | nil => rfl
  | cons hx _ ih => rw [List.foldl_cons, hstep hx, ih]

end Leads

/-- The runs among some events: the node, and what was cut for it. -/
def runsOf (events : List SessionEvent) : List (String × List Connection) :=
  events.filterMap fun
    | .run id cut => some (id, cut)
    | _ => none

@[simp] theorem runsOf_append (xs ys : List SessionEvent) :
    runsOf (xs ++ ys) = runsOf xs ++ runsOf ys :=
  List.filterMap_append

theorem sync_trace (s : Session) (g : Graph) : (s.sync g).trace = s.trace := by
  unfold sync
  split <;> rfl

theorem Evaluates.trace_grows {e : Evaluation} {task : Task} {s s' : Session}
    (h : Evaluates e task s s') : s.trace <+: s'.trace := by
  refine h.respects (R := fun s t => s.trace <+: t.trace) ?_
  constructor
  case refl => exact fun s => List.prefix_refl _
  case trans => exact fun h₁ h₂ => h₁.trans h₂
  all_goals intros; simp [store, started, Session.finished]

end Session

theorem Call.Completes.trace_grows {e : Evaluation} {c : Call} {s s' : Session}
    (h : c.Completes e s s') : s.trace <+: s'.trace := by
  cases h with
  | clear => exact List.prefix_refl _
  | evaluateGraph h => exact h.trace_grows
  | evaluateNode h => exact s.sync_trace e.graph ▸ h.trace_grows
  | heldOutput _ => exact s.sync_trace e.graph ▸ List.prefix_refl _
  | newOutput _ h => exact s.sync_trace e.graph ▸ h.trace_grows
  | meshOutputs h => exact h.trace_grows

/-- A call adds its events to the trace. -/
theorem Call.trace_exec {e : Evaluation} {s : Session} (hs : s.Idle) (c : Call) :
    (c.exec e s).trace = s.trace ++ c.events e s := by
  obtain ⟨events, ht⟩ := ((completes_iff hs c (c.exec e s)).mpr rfl).trace_grows
  rw [Call.events, ← ht, List.drop_left]

end LoftGraph
