import LoftGraph.Mesh.Basic
import LoftGraph.Proofs.Number.Exact
import LoftGraph.Proofs.Number.Field

/-!
# Adding to zero

A sum that starts at zero and has one term is that term. In floating point it is so up to the sign
of a zero: zero plus negative zero is positive zero. `Scalar.Same` does not tell the two zeros
apart, and all that is needed of an arithmetic is that squares do not either and that division keeps
them together (`Scalar.Neutral`). Then the direction of a vector is the same number by number when
the vector is added to zero first (`Point3.same_normalized`).

Exact arithmetic and floating point are both of this kind.
-/

namespace LoftGraph

namespace Scalar

/-- Are two scalars one number? A zero is under either sign. -/
def Same {α : Type} [Scalar α] (x y : α) : Prop := x = y ∨ eq x y = true

/-- Does adding to zero change no number? -/
class Neutral (α : Type) [Scalar α] : Prop where
  zero_add_mul_self (x : α) : (0 + x) * (0 + x) = x * x
  zero_add_div (x d : α) : Same ((0 + x) / d) (x / d)

section Exact

variable {K : Type} [Field K] [LinearOrder K] [Gauge K]

instance neutral_exact : Neutral K where
  zero_add_mul_self x := by
    rw [zero_eq]
    exact congrArg (fun y : K => y * y) (zero_add x)
  zero_add_div x d := by
    rw [zero_eq]
    exact .inl (congrArg (fun y : K => y / d) (zero_add x))

end Exact

end Scalar

/-! ## Floating point -/

namespace FloatScalar

open Float.Model Float.Model.UnpackedFloat

/-- The zero of a sign. -/
def zeroOf (s : Sign) : Float := .ofModel (.pack (.zero s))

theorem ofModel_pack_unpack (x : Float) : Float.ofModel (.pack x.toModel.unpack) = x :=
  Float.ofBits_toBits x

/-- Only a negative zero is not what it was when it is added to zero. -/
theorem zero_add_cases (x : Float) : Scalar.ofInt 0 + x = x ∨
    (Scalar.ofInt 0 + x = zeroOf .positive ∧ x = zeroOf .negative) := by
  have hzero : (Scalar.ofInt 0 : Float).toModel.unpack = .zero .positive := rfl
  have hadd : Scalar.ofInt 0 + x
      = .ofModel (.pack (UnpackedFloat.add .binary64 (.zero .positive) x.toModel.unpack)) := by
    rw [← hzero]
    rfl
  have hself := ofModel_pack_unpack x
  rw [hadd]
  cases hx : x.toModel.unpack with
  | zero s =>
    rw [hx] at hself
    cases s with
    | negative => exact .inr ⟨rfl, hself.symm⟩
    | positive => exact .inl hself
  | _ =>
    rw [hx] at hself
    exact .inl hself

/-- What either zero is divided by makes no difference. -/
theorem same_zero_div (d : Float) :
    Scalar.Same (zeroOf .positive / d) (zeroOf .negative / d) := by
  have hdiv (s : Sign) : zeroOf s / d
      = .ofModel (.pack (UnpackedFloat.div .binary64 (.zero s) d.toModel.unpack)) := by
    cases s <;> rfl
  rw [hdiv, hdiv]
  cases d.toModel.unpack with
  | notANumber => exact .inl rfl
  | zero s => exact .inl rfl
  | infinity s =>
    refine .inr ?_
    cases s <;> rfl
  | finite s m e h =>
    have hquotient (s' : Sign) : UnpackedFloat.div .binary64 (.zero s') (.finite s m e h)
        = .zero (s' / s) := rfl
    rw [hquotient, hquotient]
    refine .inr ?_
    cases s <;> rfl

instance neutral_float : Scalar.Neutral Float where
  zero_add_mul_self x := by
    have hsquare : zeroOf .positive * zeroOf .positive = zeroOf .negative * zeroOf .negative := rfl
    rcases zero_add_cases x with h | ⟨h, rfl⟩
    · exact congrArg (fun y : Float => y * y) h
    · exact (congrArg (fun y : Float => y * y) h).trans hsquare
  zero_add_div x d := by
    rcases zero_add_cases x with h | ⟨h, rfl⟩
    · exact .inl (congrArg (fun y : Float => y / d) h)
    · have hquotient := congrArg (fun y : Float => y / d) h
      exact hquotient ▸ same_zero_div d

end FloatScalar

/-! ## Vectors -/

namespace Point3

variable {α : Type} [Scalar α]

/-- Are two points one, number by number? -/
structure Same (p q : Point3 α) : Prop where
  x : Scalar.Same p.x q.x
  y : Scalar.Same p.y q.y
  z : Scalar.Same p.z q.z

variable [Scalar.Neutral α]

theorem norm_zero_add (v : Point3 α) : (zero.add v).norm = v.norm := by
  simp only [norm, add, zero, Scalar.Neutral.zero_add_mul_self]

/-- A vector that is added to zero keeps its direction. -/
theorem same_normalized (v : Point3 α) : Same (zero.add v).normalized v.normalized := by
  simp only [normalized, norm_zero_add]
  exact ⟨Scalar.Neutral.zero_add_div _ _, Scalar.Neutral.zero_add_div _ _,
    Scalar.Neutral.zero_add_div _ _⟩

end Point3

end LoftGraph
