import Mathlib.Analysis.SpecialFunctions.Complex.Arg
import Mathlib.Data.Rat.Floor
import LoftGraph.Proofs.Number.Field

/-!
# Exact circle functions

A field with a gauge becomes one that shapes can be turned in as soon as it has a cosine and a sine
(`Compass`).  All that is asked of the two is that they are the parts of a direction: together they
lie on the unit circle.

The real numbers come with their own circle functions.  The rational numbers come with those of
whole quarter turns, a quarter being their unit of angles, and take every other angle for the whole
one below it.
-/

namespace LoftGraph

/-- Circle functions beside the gauge of a field. -/
class Compass (K : Type) [Field K] [LinearOrder K] extends Gauge K where
  pi : K
  cos : K → K
  sin : K → K
  /-- `atan2 y x` is the heading of the vector `(x, y)`. -/
  atan2 : K → K → K
  cos_mul_add_sin_mul (x : K) : cos x * cos x + sin x * sin x = 1

namespace Compass

instance circular {K : Type} [Field K] [LinearOrder K] [Compass K] : Circular K :=
  { Scalar.exact with pi := pi, cos := cos, sin := sin, atan2 := atan2 }

noncomputable instance real : Compass ℝ where
  sqrt := Real.sqrt
  hypot x y := Real.sqrt (x * x + y * y)
  hypot_nonneg _ _ := Real.sqrt_nonneg _
  pi := Real.pi
  cos := Real.cos
  sin := Real.sin
  atan2 y x := Complex.arg ⟨x, y⟩
  cos_mul_add_sin_mul x := by
    rw [← sq, ← sq]
    exact Real.cos_sq_add_sin_sq x

/-- Cosine and sine after so many quarter turns. -/
def quarterTurns (n : ℤ) : ℚ × ℚ :=
  if n % 4 = 0 then (1, 0) else if n % 4 = 1 then (0, 1) else if n % 4 = 2 then (-1, 0) else (0, -1)

theorem quarterTurns_on_circle (n : ℤ) :
    (quarterTurns n).1 * (quarterTurns n).1 + (quarterTurns n).2 * (quarterTurns n).2 = 1 := by
  unfold quarterTurns
  split
  · norm_num
  · split
    · norm_num
    · split <;> norm_num

instance rational : Compass ℚ where
  pi := 2
  cos x := (quarterTurns ⌊x⌋).1
  sin x := (quarterTurns ⌊x⌋).2
  atan2 y x :=
    if |y| ≤ |x| then if 0 ≤ x then 0 else 2
    else if 0 ≤ y then 1 else -1
  cos_mul_add_sin_mul x := quarterTurns_on_circle ⌊x⌋

end Compass

end LoftGraph
