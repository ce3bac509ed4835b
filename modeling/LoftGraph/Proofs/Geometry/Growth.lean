import Mathlib.Algebra.BigOperators.Group.Finset.Basic
import LoftGraph.Geometry.Pattern
import LoftGraph.Proofs.Number.Compass

/-!
# Growth in closed form

A pattern is grown step by step, and the drift of a step is kept as a distance and a heading, which
is curled a little more after every step. Over the real numbers the state before step `k` is known
without the steps before it (`PatternSettings.stateAt`): the scale is a geometric progression, the
rotation an arithmetic one, and the center is the sum of the drifts so far, each of them turned by
the curl of its step.

* A vector kept as distance and heading is turned by adding to the heading
  (`PatternSettings.drift_of_heading`). This holds of the drift of length zero too, whose heading
  says nothing.
* One step leads from one state in closed form to the next (`PatternSettings.next_stateAt`), so all
  placements of a pattern are in closed form (`PatternSettings.grow_stateAt`).

In every arithmetic, the one of floating point among them, more steps only add to a pattern
(`PatternSettings.generate_fewer`).
-/

namespace LoftGraph

namespace PatternSettings

/-! ## Settings for another number of steps -/

section Steps

variable {α : Type} [Circular α] {s : PatternSettings α} {placements : List (Placement α)}

/-- The same settings for so many steps. -/
def withSteps (s : PatternSettings α) (steps : Int) : PatternSettings α :=
  { s with steps := .ok steps }

/-- The number of steps is no part of a step. -/
theorem grow_withSteps (steps : Int) (shape : ShapeKind) (n : Nat) (g : Growth α) :
    (s.withSteps steps).grow shape n g = s.grow shape n g := by
  induction n generalizing g with
  | zero => rfl
  | succ n ih =>
    rw [grow, grow]
    simp only [ih]
    rfl

theorem generate_withSteps_eq_ok_iff {steps : Int} :
    (s.withSteps steps).generate = .ok placements ↔
      ∃ shape, s.shape = .ok shape ∧ Scalar.fault? s.driftDistance = none ∧
        s.grow shape steps.toNat s.start = .ok placements := by
  rw [generate_eq_ok_iff]
  constructor
  · intro ⟨shape, _, hshape, hdrift, hsteps, hgrow⟩
    cases hsteps
    exact ⟨shape, hshape, hdrift, (grow_withSteps _ _ _ _).symm.trans hgrow⟩
  · intro ⟨shape, hshape, hdrift, hgrow⟩
    exact ⟨shape, steps, hshape, hdrift, rfl, (grow_withSteps _ _ _ _).trans hgrow⟩

/-- Fewer steps give the beginning of what more steps give. -/
theorem generate_fewer {fewer more : Int} (hle : fewer ≤ more)
    (h : (s.withSteps more).generate = .ok placements) :
    (s.withSteps fewer).generate = .ok (placements.take fewer.toNat) := by
  obtain ⟨shape, hshape, hdrift, hgrow⟩ := generate_withSteps_eq_ok_iff.mp h
  exact generate_withSteps_eq_ok_iff.mpr
    ⟨shape, hshape, hdrift, grow_prefix (Int.toNat_le_toNat hle) hgrow⟩

/-- Without steps nothing is placed. -/
theorem generate_stepless_iff {steps : Int} (hnone : steps ≤ 0) :
    (s.withSteps steps).generate = .ok [] ↔
      ∃ shape, s.shape = .ok shape ∧ Scalar.fault? s.driftDistance = none := by
  simp [generate_withSteps_eq_ok_iff, Int.toNat_of_nonpos hnone, grow]

end Steps

/-! ## The closed form -/

section Closed

-- the operations and numerals of the field itself are the ones that are meant below
attribute [-instance] Scalar.toAdd Scalar.toSub Scalar.toMul Scalar.toDiv Scalar.toNeg
  Scalar.instOfNatScalar

variable (s : PatternSettings ℝ) (shape : ShapeKind)

/-- The drift of a step, turned by the curl of so many steps. -/
noncomputable def driftAt (k : ℕ) : Point ℝ :=
  let curl := k * s.spiralAmount * (Real.pi / 180)
  Point.turn ⟨s.driftX, s.driftY⟩ (Real.cos curl) (Real.sin curl)

/-- The state that so many steps lead to. -/
noncomputable def stateAt (k : ℕ) : Growth ℝ where
  center := ⟨∑ j ∈ Finset.range k, (s.driftAt j).x, ∑ j ∈ Finset.range k, (s.driftAt j).y⟩
  rotation := s.rotationStart + k * s.rotationStep
  scale := s.scaleStart * s.scaleFactor ^ k
  curl := k * s.spiralAmount

/-- What is placed after so many steps. -/
noncomputable def placementAt (starPoints : ℤ) (k : ℕ) : Placement ℝ where
  center := (s.stateAt k).center
  rotation := (s.rotationStart + k * s.rotationStep) * (Real.pi / 180)
  scale := s.scaleStart * s.scaleFactor ^ k
  shape := shape
  size := s.size
  starPoints := starPoints
  crossThickness := s.crossThickness

theorem radians_eq (x : ℝ) : Circular.radians x = x * (Real.pi / 180) := by
  show x * (Real.pi / ((180 : ℤ) : ℝ)) = _
  norm_num

theorem start_eq : s.start = s.stateAt 0 := by
  have hzero : (@OfNat.ofNat ℝ 0 Scalar.instOfNatScalar) = 0 := Scalar.zero_eq
  rw [start, stateAt, Point.origin, hzero]
  simp

/-- Distance and heading give the drift back, turned by what is added to the heading. -/
theorem drift_of_heading (angle : ℝ) :
    (⟨s.driftDistance * Real.cos (s.driftHeading + angle),
      s.driftDistance * Real.sin (s.driftHeading + angle)⟩ : Point ℝ)
      = Point.turn ⟨s.driftX, s.driftY⟩ (Real.cos angle) (Real.sin angle) := by
  have hdistance : s.driftDistance = ‖(⟨s.driftX, s.driftY⟩ : ℂ)‖ := by
    rw [Complex.norm_def, Complex.normSq_mk]
    rfl
  have hx : s.driftDistance * Real.cos s.driftHeading = s.driftX := by
    rw [hdistance]
    exact Complex.norm_mul_cos_arg _
  have hy : s.driftDistance * Real.sin s.driftHeading = s.driftY := by
    rw [hdistance]
    exact Complex.norm_mul_sin_arg _
  rw [Real.cos_add, Real.sin_add, mul_sub, mul_add]
  simp only [← mul_assoc, hx, hy]
  rw [add_comm]
  rfl

theorem stateAt_succ (k : ℕ) : s.stateAt (k + 1) = {
    center := ⟨(s.stateAt k).center.x + (s.driftAt k).x, (s.stateAt k).center.y + (s.driftAt k).y⟩
    rotation := (s.stateAt k).rotation + s.rotationStep
    scale := (s.stateAt k).scale * s.scaleFactor
    curl := (s.stateAt k).curl + s.spiralAmount } := by
  simp only [stateAt, Finset.sum_range_succ, pow_succ, Nat.cast_add_one, add_mul, one_mul,
    add_assoc, mul_assoc]

/-- A step leads from a state in closed form to the next one. -/
theorem next_stateAt (k : ℕ) : s.next (s.stateAt k) = .ok (s.stateAt (k + 1)) := by
  have hcurl : Circular.radians (s.stateAt k).curl = k * s.spiralAmount * (Real.pi / 180) :=
    radians_eq _
  have hx : s.driftDistance * Real.cos (s.driftHeading + k * s.spiralAmount * (Real.pi / 180))
      = (s.driftAt k).x := congrArg Point.x (s.drift_of_heading _)
  have hy : s.driftDistance * Real.sin (s.driftHeading + k * s.spiralAmount * (Real.pi / 180))
      = (s.driftAt k).y := congrArg Point.y (s.drift_of_heading _)
  rw [stateAt_succ, ← hx, ← hy, next, hcurl]
  rfl

theorem place_stateAt {starPoints : ℤ} (h : s.starPoints = .ok starPoints) (k : ℕ) :
    s.place shape (s.stateAt k) = .ok (s.placementAt shape starPoints k) := by
  rw [place, h, placementAt, ← radians_eq]
  rfl

/-- The placements of so many steps from a state in closed form on. -/
theorem grow_stateAt {starPoints : ℤ} (h : s.starPoints = .ok starPoints) (n k : ℕ) :
    s.grow shape n (s.stateAt k)
      = .ok ((List.range' k n).map (s.placementAt shape starPoints)) := by
  induction n generalizing k with
  | zero => rfl
  | succ n ih =>
    rw [grow, place_stateAt s shape h, next_stateAt]
    show (s.grow shape n (s.stateAt (k + 1)) >>= _) = _
    rw [ih, List.range'_succ, List.map_cons]
    rfl

theorem grow_start {starPoints : ℤ} (h : s.starPoints = .ok starPoints) (n : ℕ) :
    s.grow shape n s.start = .ok ((List.range n).map (s.placementAt shape starPoints)) := by
  rw [start_eq, grow_stateAt s shape h, List.range_eq_range']

/-- Without a number of tips there are no placements, and only where no step is made. -/
theorem grow_start_of_tipless {fault : Fault} (h : s.starPoints = .error fault) (n : ℕ) :
    s.grow shape (n + 1) s.start = .error fault := by
  have hplace : s.place shape s.start = .error fault := by
    rw [place, h]
    rfl
  rw [grow, hplace]
  rfl

theorem grow_start_eq_ok_iff {n : ℕ} {placements : List (Placement ℝ)} :
    s.grow shape n s.start = .ok placements ↔ placements.length = n ∧
      ∀ (k : ℕ) (hk : k < placements.length), ∃ starPoints, s.starPoints = .ok starPoints ∧
        placements[k] = s.placementAt shape starPoints k := by
  constructor
  · intro h
    cases hstar : s.starPoints with
    | ok starPoints =>
      rw [grow_start s shape hstar] at h
      cases h
      simp
    | error fault =>
      cases n with
      | zero =>
        cases h
        simp
      | succ n =>
        rw [grow_start_of_tipless s shape hstar] at h
        cases h
  · intro hplaced
    obtain ⟨hlength, hplaced⟩ := hplaced
    cases n with
    | zero =>
      rw [List.length_eq_zero_iff.mp hlength]
      rfl
    | succ n =>
      -- the first placement has a number of tips, and so have all others
      obtain ⟨starPoints, hstar, _⟩ := hplaced 0 (by omega)
      rw [grow_start s shape hstar]
      refine congrArg Except.ok (List.ext_getElem (by simp [hlength]) fun k hk hk' => ?_)
      obtain ⟨_, hpoints, hplacement⟩ := hplaced k hk'
      cases hstar.symm.trans hpoints
      rw [hplacement]
      simp

end Closed

end PatternSettings

/-- **Patterns grow in closed form**. In exact arithmetic the settings give a pattern exactly when
the shape and the number of steps can be read, and the number of tips if there is a step. Placement
`k` of the pattern then has the start scale times the factor to the power `k`, is turned by the
start rotation and `k` times the rotation of a step, and stands where the drifts of `k` steps lead,
drift `j` turned by `j` times the spiral amount. In every arithmetic a pattern of fewer steps is the
beginning of one of more steps, and without steps it is empty. -/
theorem patterns_grow_in_closed_form :
    (∀ (s : PatternSettings ℝ) (placements : List (Placement ℝ)),
      s.generate = .ok placements ↔
        ∃ shape steps, s.shape = .ok shape ∧ s.steps = .ok steps ∧
          placements.length = steps.toNat ∧
          ∀ (k : ℕ) (hk : k < placements.length), ∃ starPoints, s.starPoints = .ok starPoints ∧
            placements[k] = s.placementAt shape starPoints k) ∧
    ∀ (α : Type) [Circular α] (s : PatternSettings α),
      (∀ (fewer more : Int) (placements : List (Placement α)), fewer ≤ more →
        (s.withSteps more).generate = .ok placements →
        (s.withSteps fewer).generate = .ok (placements.take fewer.toNat)) ∧
      ∀ steps ≤ 0, ((s.withSteps steps).generate = .ok [] ↔
        ∃ shape, s.shape = .ok shape ∧ Scalar.fault? s.driftDistance = none) := by
  refine ⟨fun s placements => ?_, fun α _ s =>
    ⟨fun fewer more placements hle h => PatternSettings.generate_fewer hle h,
      fun steps hnone => PatternSettings.generate_stepless_iff hnone⟩⟩
  rw [PatternSettings.generate_eq_ok_iff]
  constructor
  · intro ⟨shape, steps, hshape, _, hsteps, hgrow⟩
    exact ⟨shape, steps, hshape, hsteps, (s.grow_start_eq_ok_iff shape).mp hgrow⟩
  · intro ⟨shape, steps, hshape, hsteps, hplaced⟩
    exact ⟨shape, steps, hshape, rfl, hsteps, (s.grow_start_eq_ok_iff shape).mpr hplaced⟩

end LoftGraph
