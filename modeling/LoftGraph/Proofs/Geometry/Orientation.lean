import LoftGraph.Proofs.Geometry.Ordering

/-!
# The orientation of sections

Outlines are turned before they are resampled.  The sections run counter-clockwise exactly if
resampling turns no outline back (`sections_run_counterclockwise_iff`).  It leaves an outline
counter-clockwise whose vertices pass from right to left as seen from the first
(`Polygon.Fanned.resample`), and may turn an angle with thin arms
(`resampled_angle_runs_clockwise`).
-/

namespace LoftGraph

attribute [-instance] Scalar.toAdd Scalar.toSub Scalar.toMul Scalar.toDiv Scalar.toNeg
  Scalar.instOfNatScalar

namespace Outlines

/-- What is asked of every outline that is arranged is asked of every outline given, once it is
turned. -/
theorem forall_mem_arranged {α : Type} [Scalar α] {shapes : Outlines α} {preserveOrder : Bool}
    {P : Polygon α → Prop} (hnil : P []) :
    (∀ s ∈ arranged shapes preserveOrder, P (s.getD [])) ↔
      ∀ p, some p ∈ shapes → P p.ensureCounterClockwise := by
  constructor
  · exact fun h p hp => h _ (mem_arranged.mpr ⟨p, hp, rfl⟩)
  · intro h s hs
    cases s with
    | none => exact hnil
    | some q =>
      obtain ⟨p, hp, rfl⟩ := mem_arranged.mp hs
      exact h p hp

end Outlines

section Sections

open Outlines

variable {K : Type} [Field K] [LinearOrder K] [Gauge K] [IsStrictOrderedRing K]

theorem signedArea_nil_nonneg : 0 ≤ Polygon.signedArea ([] : Polygon K) :=
  Polygon.Fanned.signedArea_nonneg trivial

/-- Gaps do not count: what has no vertices does not run clockwise. -/
theorem counterClockwise_iff_map {sections : List (CrossSection K)} :
    (∀ s ∈ sections, s.isGap = false → 0 ≤ s.outer.signedArea) ↔
      ∀ p ∈ sections.map CrossSection.outer, 0 ≤ p.signedArea := by
  rw [List.forall_mem_map]
  refine forall₂_congr fun s _ => ⟨fun h => ?_, fun h _ => h⟩
  cases hgap : s.isGap with
  | false => exact h hgap
  | true =>
    rw [List.isEmpty_iff.mp hgap]
    exact signedArea_nil_nonneg

/-- **Sections run counter-clockwise unless resampling turns an outline back.** Sections come about
exactly if every height can be eased, as it is by a curve that has a name. Every one that is no gap
runs counter-clockwise exactly if none is resampled or if none of the outlines, turned
counter-clockwise, runs clockwise once it is resampled. An outline cannot do so that has the common
count already or that is fanned out, as every convex one is (`Polygon.Convex.fanned`). -/
theorem sections_run_counterclockwise_iff (shapes : Outlines K) (settings : SectionSettings K) :
    ((∃ stack, crossSections shapes settings = .ok stack) ↔
      ∀ i < (arranged shapes settings.preserveOrder).length, ∃ t : K,
        easedHeight settings.easing (arranged shapes settings.preserveOrder).length i = .ok t) ∧
    (settings.Named → ∃ stack, crossSections shapes settings = .ok stack) ∧
    ∀ stack, crossSections shapes settings = .ok stack →
      ((∀ s ∈ stack.sections, s.isGap = false → 0 ≤ s.outer.signedArea) ↔
        settings.normalize = false ∨ ∀ p, some p ∈ shapes →
          0 ≤ (p.ensureCounterClockwise.resample (largestCount shapes)).signedArea) ∧
      ((∀ p, some p ∈ shapes →
          p.length = max 3 (largestCount shapes) ∨ p.ensureCounterClockwise.Fanned) →
        ∀ s ∈ stack.sections, s.isGap = false → 0 ≤ s.outer.signedArea) := by
  refine ⟨exists_crossSections_iff, exists_crossSections _ _, fun stack hstack => ?_⟩
  have houter := outer_of_crossSections hstack
  have horiented : (∀ s ∈ stack.sections, s.isGap = false → 0 ≤ s.outer.signedArea) ↔
      settings.normalize = false ∨ ∀ p, some p ∈ shapes →
        0 ≤ (p.ensureCounterClockwise.resample (largestCount shapes)).signedArea := by
    rw [counterClockwise_iff_map, houter, List.forall_mem_map]
    cases settings.normalize with
    | false =>
      simp only [Bool.false_eq_true, if_false, true_or, iff_true]
      exact (forall_mem_arranged (P := fun p => 0 ≤ p.signedArea) signedArea_nil_nonneg).mpr
        fun p _ => p.signedArea_ensureCounterClockwise_nonneg
    | true =>
      simp only [if_true, Bool.true_eq_false, false_or]
      exact forall_mem_arranged (P := fun p => 0 ≤ (p.resample (largestCount shapes)).signedArea)
        signedArea_nil_nonneg
  refine ⟨horiented, fun hshapes => horiented.mpr (.inr fun p hp => ?_)⟩
  rcases hshapes p hp with hcount | hfanned
  · rw [resample_of_length (.inr _)]
    · exact p.signedArea_ensureCounterClockwise_nonneg
    · rw [Polygon.length_ensureCounterClockwise, resampleCount_ofNat, hcount]
  · exact (hfanned.resample _).signedArea_nonneg

/-- A square that runs clockwise, a place that was left empty, a dart and a hexagon. -/
def fannedOutlines : Outlines ℚ :=
  [some [⟨0, 0⟩, ⟨0, 4⟩, ⟨4, 4⟩, ⟨4, 0⟩], none, some [⟨0, 0⟩, ⟨6, 0⟩, ⟨2, 2⟩, ⟨0, 6⟩],
    some [⟨0, 0⟩, ⟨4, 0⟩, ⟨7, 4⟩, ⟨7, 8⟩, ⟨3, 8⟩, ⟨0, 4⟩]]

theorem fanned_sections_run_counterclockwise : ∃ stack,
    crossSections fannedOutlines ⟨some (Easing.apply .easeOut), true, true⟩ = .ok stack ∧
      ∀ s ∈ stack.sections, s.isGap = false → 0 ≤ s.outer.signedArea := by
  obtain ⟨-, hnamed, hturns⟩ :=
    sections_run_counterclockwise_iff fannedOutlines ⟨some (Easing.apply .easeOut), true, true⟩
  obtain ⟨stack, hstack⟩ := hnamed ⟨some .easeOut, rfl⟩
  obtain ⟨-, hfanned⟩ := hturns stack hstack
  have hshapes : ∀ s ∈ fannedOutlines, ∀ p ∈ s,
      p.length = max 3 (largestCount fannedOutlines) ∨ p.ensureCounterClockwise.Fanned := by
    decide +kernel
  exact ⟨stack, hstack, hfanned fun p hp => hshapes _ hp p rfl⟩

/-- A thin angle, with one arm on each axis, and a heptagon. -/
def angledOutlines : Outlines ℚ :=
  [some [⟨1, 1⟩, ⟨1, 39⟩, ⟨0, 39⟩, ⟨0, 0⟩, ⟨38, 0⟩, ⟨38, 1⟩],
    some [⟨0, 0⟩, ⟨4, 0⟩, ⟨6, 2⟩, ⟨6, 4⟩, ⟨4, 6⟩, ⟨2, 6⟩, ⟨0, 4⟩]]

/-- The angle with seven vertices.  The cut across its outer corner runs beyond the inner one. -/
def resampledAngle : Polygon ℚ :=
  [⟨1, 1⟩, ⟨1, 23⟩, ⟨0, 34⟩, ⟨0, 12⟩, ⟨10, 0⟩, ⟨32, 0⟩, ⟨23, 1⟩]

theorem resampled_angle_runs_clockwise :
    (∀ p, some p ∈ angledOutlines → 0 < p.signedArea) ∧
    ∃ stack, crossSections angledOutlines ⟨none, true, true⟩ = .ok stack ∧
      ∃ s ∈ stack.sections, s.isGap = false ∧ s.outer = resampledAngle ∧
        s.outer.signedArea = -5 ∧ ¬ 0 ≤ s.outer.signedArea := by
  have hgiven : ∀ s ∈ angledOutlines, ∀ p ∈ s, 0 < Polygon.signedArea p := by decide +kernel
  obtain ⟨stack, hstack⟩ := exists_crossSections angledOutlines ⟨none, true, true⟩ ⟨none, rfl⟩
  have houter := outer_of_crossSections hstack
  have hmem : resampledAngle ∈ stack.sections.map CrossSection.outer := by
    rw [houter]
    decide +kernel
  obtain ⟨s, hs, hsouter⟩ := List.mem_map.mp hmem
  have harea : s.outer.signedArea = -5 := by
    rw [hsouter]
    decide +kernel
  refine ⟨fun p hp => hgiven _ hp p rfl, stack, hstack, s, hs, ?_, hsouter, harea, ?_⟩
  · rw [CrossSection.isGap, hsouter]
    rfl
  · rw [harea]
    decide +kernel

end Sections

end LoftGraph
