import Mathlib.Algebra.Order.BigOperators.Group.List
import Mathlib.Algebra.Order.Field.Basic
import Mathlib.Data.Rat.Sqrt
import Mathlib.Tactic.Ring
import LoftGraph.Scalar

/-!
# Exact arithmetic

An ordered field computes without rounding, and the geometry can be carried out over it as soon as
something measures lengths there (`Gauge`).  The lemmas below say in the language of the field what
each operation of a `Scalar` is, so that what follows them speaks of the field alone.

Nothing is asked of a measure of length but that no length is below zero: what is proved for every
gauge holds for lengths that are given from outside.  The rational numbers come with the gauge that
is the true length wherever that is rational (`Gauge.hypot_eq_abs`).
-/

namespace LoftGraph

/-- A root and a measure of length beside the arithmetic of a field. -/
class Gauge (K : Type) [Zero K] [LE K] where
  sqrt : K → K
  /-- Length of the vector with these components. -/
  hypot : K → K → K
  hypot_nonneg (x y : K) : 0 ≤ hypot x y

instance Gauge.rational : Gauge ℚ where
  sqrt := Rat.sqrt
  hypot x y := Rat.sqrt (x * x + y * y)
  hypot_nonneg _ _ := Rat.sqrt_nonneg _

/-- A rational length is measured as it is. -/
theorem Gauge.hypot_eq_abs {x y z : ℚ} (h : z * z = x * x + y * y) : Gauge.hypot x y = |z| := by
  rw [Gauge.hypot, rational]
  simp only [← h]
  exact Rat.sqrt_eq z

namespace Scalar

section Exact

variable {K : Type} [Field K] [LinearOrder K] [Gauge K]

instance exact : Scalar K where
  add := Add.add
  sub := Sub.sub
  mul := Mul.mul
  div := Div.div
  neg := Neg.neg
  ofInt n := n
  ofDecimal digits places := digits / 10 ^ places
  lt x y := decide (x < y)
  le x y := decide (x ≤ y)
  eq x y := decide (x = y)
  infinite _ := false
  sqrt := Gauge.sqrt
  hypot := Gauge.hypot

-- the operations and numerals of the field itself are the ones that are meant below
attribute [-instance] toAdd toSub toMul toDiv toNeg instOfNatScalar

theorem zero_eq : (@OfNat.ofNat K 0 instOfNatScalar) = 0 := Int.cast_zero

theorem one_eq : (@OfNat.ofNat K 1 instOfNatScalar) = 1 := Int.cast_one

@[simp] theorem ofNat_eq (n : Nat) : (ofNat n : K) = n := Int.cast_natCast n

@[simp] theorem lt_eq (x y : K) : lt x y = decide (x < y) := rfl

@[simp] theorem eq_eq (x y : K) : eq x y = decide (x = y) := rfl

@[simp] theorem ofDecimal_eq (digits places : Nat) :
    (ofDecimal digits places : K) = digits / 10 ^ places := rfl

@[simp] theorem infinite_eq (x : K) : infinite x = false := rfl

@[simp] theorem undefined_eq (x : K) : undefined x = false := by
  simp [undefined]

@[simp] theorem sum_eq (xs : List K) : sum xs = xs.sum := by
  rw [sum, zero_eq, List.sum_eq_foldl]

/-- What is brought between two bounds stays what it is if it lies between them. -/
theorem smaller_larger_eq {x low high : K} (hlow : low ≤ x) (hhigh : x ≤ high) :
    smaller (larger x low) high = x := by
  have hlarger : larger x low = x := if_neg (by simpa using hlow)
  rw [hlarger]
  exact if_neg (by simpa using hhigh)

@[simp] theorem abs_eq [IsStrictOrderedRing K] (x : K) : abs x = |x| := by
  unfold abs
  rw [zero_eq, lt_eq]
  split
  · next h => exact (abs_of_neg (of_decide_eq_true h)).symm
  · next h => exact (abs_of_nonneg (not_lt.mp (mt decide_eq_true h))).symm

end Exact

end Scalar

end LoftGraph
