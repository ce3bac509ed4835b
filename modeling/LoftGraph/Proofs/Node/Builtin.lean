import LoftGraph.Node.Builtin
import LoftGraph.Proofs.Evaluation.Escape

/-!
# The registry of the built-in node types

The built-in types are all registered (`builtin_definitions`), by registering one after the other
(`builtin_built`), and none of them asks anything of other nodes (`builtin_quiet`). So what is known
of full passes over quiet types holds of graphs of built-in nodes. They fail only for causes that
can be told (`builtin_told`), as all the steps do that they are made of, so every call of a session
on built-in types returns (`builtin_attempt`).
-/

namespace LoftGraph

namespace Registry

/-- Leaving out the types that are refused is registering the others. -/
theorem built_ofDefinitions (ds : List NodeDefinition) : (ofDefinitions ds).Built := by
  unfold ofDefinitions
  refine List.foldlRecOn ds _ .empty fun r hr d _ => ?_
  split
  · next r' hregister => exact .register hr hregister
  · exact hr

theorem builtin_built : builtin.Built := built_ofDefinitions _

/-- No built-in type is refused. -/
theorem builtin_definitions : builtin.definitions = Builtin.definitions := rfl

end Registry

namespace Request

variable {next : Request}

/-- Warning without a line in the log is quiet too. -/
theorem Quiet.warns (h : Quiet next) (messages : List String) :
    Quiet (messages.foldr Request.warn next) :=
  messages.foldrRecOn _ h fun _ hrest message _ => .warn message hrest

theorem Told.ofResult {result : Except NodeFault Outputs} (h : Evaluator.escapeOf result = none) :
    Told (ofResult result) := by
  cases result with
  | ok outputs => exact .finish _
  | error fault => exact .fail h

theorem Told.notes (h : Told next) (messages : List String) :
    Told (Request.notes messages next) :=
  messages.foldrRecOn _ h fun _ hrest message _ => .note message hrest

theorem Told.warnings (h : Told next) (messages : List String) :
    Told (Request.warnings messages next) :=
  messages.foldrRecOn _ h fun _ hrest message _ => .note message (.warn message hrest)

theorem Told.warns (h : Told next) (messages : List String) :
    Told (messages.foldr Request.warn next) :=
  messages.foldrRecOn _ h fun _ hrest message _ => .warn message hrest

end Request

namespace Builtin

theorem sources_quiet : ∀ d ∈ sources, ∀ id inputs, (d.action id inputs).Quiet := by
  intro d hd id inputs
  simp only [sources, List.mem_cons, List.not_mem_nil, or_false] at hd
  obtain rfl | rfl | rfl | rfl := hd <;> exact .finish _

theorem growers_quiet : ∀ d ∈ growers, ∀ id inputs, (d.action id inputs).Quiet := by
  intro d hd id inputs
  simp only [growers, List.mem_cons, List.not_mem_nil, or_false] at hd
  obtain rfl | rfl := hd
  · exact .ofResult _
  · unfold spine
    dsimp only
    split
    · exact .fail _
    · exact .warns (.finish _) _

theorem stackers_quiet : ∀ d ∈ stackers, ∀ id inputs, (d.action id inputs).Quiet := by
  intro d hd id inputs
  simp only [stackers, List.mem_cons, List.not_mem_nil, or_false] at hd
  obtain rfl | rfl | rfl | rfl := hd
  · unfold patternToShapes
    dsimp only
    split
    · exact .finish _
    · exact .ofResult _
  · unfold crossSections
    dsimp only
    split
    · exact .finish _
    · split
      · exact .fail _
      · exact .notes (.finish _) _
  · unfold addHoles
    dsimp only
    split
    · exact .finish _
    · exact .ofResult _
  · unfold loft
    dsimp only
    split
    · exact .finish _
    · split
      · exact .fail _
      · exact .warnings (.finish _) _

/-! ## Causes of failure -/

section Causes

open Evaluator (escapeOf)

variable {α β : Type}

@[simp]
theorem escapeOf_pure (a : α) : escapeOf (pure a : Except NodeFault α) = none := rfl

theorem escapeOf_bind {x : Except NodeFault α} {f : α → Except NodeFault β}
    (hx : escapeOf x = none) (hf : ∀ a, escapeOf (f a) = none) : escapeOf (x >>= f) = none := by
  cases x with
  | ok a => exact hf a
  | error fault => exact hx

theorem escape?_of_eq_error {x : Except NodeFault α} {fault : NodeFault} (h : x = .error fault)
    (hx : escapeOf x = none) : fault.escape? = none := by
  rw [h] at hx
  exact hx

theorem escapeOf_map {x : Except NodeFault α} (f : α → β) (hx : escapeOf x = none) :
    escapeOf (f <$> x) = none := by
  cases x with
  | ok a => rfl
  | error fault => exact hx

@[simp]
theorem escapeOf_lift (x : Except Fault α) : escapeOf (NodeFault.lift x) = none := by
  cases x <;> rfl

@[simp]
theorem escapeOf_need (inputs : Inputs) (use : OpenUse) (id : String) :
    escapeOf (inputs.need use id) = none := by
  unfold Inputs.need OpenUse.need
  split <;> rfl

@[simp]
theorem escapeOf_count (inputs : Inputs) (id : String) : escapeOf (inputs.count id) = none :=
  escapeOf_bind (escapeOf_need ..) fun _ => escapeOf_lift _

@[simp]
theorem escapeOf_bothOperands (operation : String) (left right : Option Float) :
    escapeOf (bothOperands operation left right) = none := by
  unfold bothOperands
  split <;> rfl

theorem escapeOf_patternSettings (inputs : Inputs) :
    escapeOf (patternSettings inputs) = none := by
  have hgrowth : ∀ s, escapeOf (withGrowth inputs s) = none := fun s =>
    escapeOf_bind (by simp) fun _ => escapeOf_bind (by simp) fun _ =>
      escapeOf_bind (by simp) fun _ => escapeOf_bind (by simp) fun _ => rfl
  refine escapeOf_bind (by simp) fun steps => escapeOf_bind (by simp) fun _ => ?_
  refine escapeOf_bind (by simp) fun _ => escapeOf_bind (by simp) fun _ => ?_
  split
  · exact hgrowth _
  · rfl

theorem escapeOf_withRadii (inputs : Inputs) (s : SpineSettings Float) :
    escapeOf (withRadii inputs s) = none :=
  escapeOf_bind (by simp) fun _ => rfl

theorem escapeOf_withSteps (inputs : Inputs) (steps removeFrequency : Int)
    (s : SpineSettings Float) : escapeOf (withSteps inputs steps removeFrequency s) = none := by
  have hwalk : ∀ s, escapeOf (withWalk inputs s) = none := fun s =>
    escapeOf_bind (by simp) fun _ => escapeOf_bind (by simp) fun _ =>
      escapeOf_bind (by simp) fun _ => escapeOf_bind (by simp) fun _ =>
        escapeOf_bind (by simp) fun _ => rfl
  refine escapeOf_bind (by simp) fun height => ?_
  split
  · exact escapeOf_bind (escapeOf_withRadii inputs _) fun s => hwalk s
  · refine escapeOf_bind (hwalk _) fun s => ?_
    split
    · exact escapeOf_withRadii inputs s
    · rfl

theorem escapeOf_spineSettings (inputs : Inputs) : escapeOf (spineSettings inputs) = none := by
  refine escapeOf_bind (by simp) fun steps => escapeOf_bind (by simp) fun frequency => ?_
  extract_lets _ rest
  have hrest : ∀ seed, escapeOf (rest seed) = none := by
    intro seed
    refine escapeOf_bind (by simp) fun variation => escapeOf_bind (escapeOf_lift _) fun _ => ?_
    split
    · exact escapeOf_withSteps inputs steps frequency _
    · rfl
  split
  · exact hrest none
  · exact escapeOf_bind (escapeOf_map _ (escapeOf_count inputs "seed")) hrest

theorem escapeOf_stackOf (inputs : Inputs) (outlines : Outlines Float) :
    escapeOf (stackOf inputs outlines) = none := by
  refine escapeOf_bind ?_ fun easing => escapeOf_lift _
  unfold easingOf
  split
  · rfl
  · exact escapeOf_map _ (escapeOf_lift _)

theorem escapeOf_loftSettings (inputs : Inputs) (sections : List (CrossSection α)) :
    escapeOf (loftSettings inputs sections) = none := by
  unfold loftSettings
  dsimp only
  split
  · rfl
  · refine escapeOf_bind (by simp) fun height => ?_
    split
    · rfl
    · exact escapeOf_bind (by simp) fun taper => escapeOf_bind (by simp) fun twist => rfl

end Causes

theorem sources_told : ∀ d ∈ sources, ∀ id inputs, (d.action id inputs).Told := by
  intro d hd id inputs
  simp only [sources, List.mem_cons, List.not_mem_nil, or_false] at hd
  obtain rfl | rfl | rfl | rfl := hd <;> exact .finish _

theorem growers_told : ∀ d ∈ growers, ∀ id inputs, (d.action id inputs).Told := by
  intro d hd id inputs
  simp only [growers, List.mem_cons, List.not_mem_nil, or_false] at hd
  obtain rfl | rfl := hd
  · refine .ofResult (escapeOf_bind (escapeOf_patternSettings inputs) fun s => ?_)
    exact escapeOf_bind (escapeOf_lift _) fun placements => rfl
  · have hmesh : Evaluator.escapeOf (spineMesh inputs) = none := by
      refine escapeOf_bind (escapeOf_spineSettings inputs) fun s => ?_
      refine escapeOf_bind (escapeOf_lift _) fun points => ?_
      exact escapeOf_bind (escapeOf_lift _) fun mesh => rfl
    unfold spine
    dsimp only
    split
    · next fault hfault => exact .fail (escape?_of_eq_error hfault hmesh)
    · exact .warns (.finish _) _

theorem stackers_told : ∀ d ∈ stackers, ∀ id inputs, (d.action id inputs).Told := by
  intro d hd id inputs
  simp only [stackers, List.mem_cons, List.not_mem_nil, or_false] at hd
  obtain rfl | rfl | rfl | rfl := hd
  · unfold patternToShapes
    dsimp only
    split
    · exact .finish _
    · refine .ofResult (escapeOf_bind (escapeOf_count inputs _) fun frequency => ?_)
      exact escapeOf_bind (escapeOf_lift _) fun outlines => rfl
  · unfold crossSections
    dsimp only
    split
    · exact .finish _
    · split
      · next fault hfault => exact .fail (escape?_of_eq_error hfault (escapeOf_stackOf inputs _))
      · exact .notes (.finish _) _
  · unfold addHoles
    dsimp only
    split
    · exact .finish _
    · refine .ofResult (escapeOf_bind (escapeOf_count inputs _) fun frequency => ?_)
      exact escapeOf_bind (escapeOf_need ..) fun scale => rfl
  · unfold loft
    dsimp only
    split
    · exact .finish _
    · next sections _ =>
      have hlofted : Evaluator.escapeOf (lofted inputs sections) = none :=
        escapeOf_bind (escapeOf_loftSettings inputs _) fun settings => escapeOf_lift _
      split
      · next fault hfault => exact .fail (escape?_of_eq_error hfault hlofted)
      · exact .warnings (.finish _) _

end Builtin

/-- What holds of the built-in types holds of those that are registered. -/
theorem builtin_every {P : Request → Prop}
    (hsources : ∀ d ∈ Builtin.sources, ∀ id inputs, P (d.action id inputs))
    (hgrowers : ∀ d ∈ Builtin.growers, ∀ id inputs, P (d.action id inputs))
    (hstackers : ∀ d ∈ Builtin.stackers, ∀ id inputs, P (d.action id inputs)) :
    Registry.builtin.Every P := by
  intro d hd
  rw [Registry.builtin_definitions] at hd
  rcases List.mem_append.mp hd with hd | hd
  · rcases List.mem_append.mp hd with hd | hd
    · exact hsources d hd
    · exact hgrowers d hd
  · exact hstackers d hd

/-- **The built-in types are quiet.** -/
theorem builtin_quiet : Registry.builtin.Quiet :=
  builtin_every Builtin.sources_quiet Builtin.growers_quiet Builtin.stackers_quiet

/-- **The built-in types fail only for causes that can be told.** -/
theorem builtin_told : Registry.builtin.Told :=
  builtin_every Builtin.sources_told Builtin.growers_told Builtin.stackers_told

/-- Every call of a session on built-in types returns, with the session that is computed. -/
theorem builtin_attempt (g : Graph) (c : Call) (s : Session) :
    (c.attempt ⟨g, .builtin⟩).run s = .ok () (c.exec ⟨g, .builtin⟩ s) :=
  Call.attempt_told builtin_told c s

end LoftGraph
