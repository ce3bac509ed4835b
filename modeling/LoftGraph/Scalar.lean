import LoftGraph.Fault

/-!
# Scalars

The geometry is written once for every kind of number it may be computed with.  `Scalar` lists
the arithmetic it needs, `Circular` adds the circle functions.  The running program uses binary
floating point; an exact ordered field is another instance, and a statement about exact
arithmetic is a statement about that one.

Comparisons are Boolean, because on floating point they are not a linear order: every comparison
with something that is not a number is false.  `Scalar.larger` and `Scalar.smaller` therefore say
which operand they return in that case.

Some scalars are numbers as somebody wrote them down: one may turn out to be no number, or a whole
number too large to compute with.  Such a scalar does harm only where a computation looks at it,
and `Scalar.checked` and `Scalar.settled` are the places where it does.
-/

namespace LoftGraph

class Scalar (α : Type) extends Add α, Sub α, Mul α, Div α, Neg α where
  /-- The scalar nearest to an integer. -/
  ofInt : Int → α
  /-- `ofDecimal digits places` is the scalar nearest to `digits / 10 ^ places`. -/
  ofDecimal : Nat → Nat → α
  lt : α → α → Bool
  le : α → α → Bool
  eq : α → α → Bool
  /-- Is the scalar an infinity?  An exact field has none. -/
  infinite : α → Bool
  sqrt : α → α
  /-- Length of the vector with these components, without spurious overflow. -/
  hypot : α → α → α
  /-- Why the scalar is no number; nothing if it is one. -/
  fault? : α → Option Fault := fun _ => none
  /-- The scalar as arithmetic computes with it. -/
  settle : α → α := id

/-- The circle functions beside the arithmetic. -/
class Circular (α : Type) extends Scalar α where
  pi : α
  /-- Cosine of an angle in radians. -/
  cos : α → α
  /-- Sine of an angle in radians. -/
  sin : α → α
  /-- `atan2 y x` is the heading of the vector `(x, y)` in radians. -/
  atan2 : α → α → α

namespace Scalar

variable {α : Type} [Scalar α]

instance (priority := low) instOfNatScalar {n : Nat} : OfNat α n := ⟨ofInt n⟩

/-- The scalar of a natural number. -/
@[inline] def ofNat (n : Nat) : α := ofInt n

@[inline] def abs (x : α) : α := if lt x 0 then -x else x

/-- The first operand, unless the second is strictly larger. -/
@[inline] def larger (x y : α) : α := if lt x y then y else x

/-- The first operand, unless the second is strictly smaller. -/
@[inline] def smaller (x y : α) : α := if lt y x then y else x

/-- Is the scalar not equal to itself? -/
@[inline] def undefined (x : α) : Bool := !eq x x

@[inline] def finite (x : α) : Bool := !infinite x && !undefined x

/-- Sum of a list from the left, starting at zero. -/
def sum (xs : List α) : α := xs.foldl (· + ·) 0

/-- The scalar, if it is a number. -/
def checked (x : α) : Except Fault α :=
  match fault? x with
  | none => .ok x
  | some fault => .error fault

/-- The scalar as arithmetic computes with it, if it is a number that can be computed with. -/
def settled (x : α) : Except Fault α := checked (settle x)

end Scalar

namespace Circular

variable {α : Type} [Circular α]

/-- Radians of an angle given in degrees. -/
@[inline] def radians (degrees : α) : α := degrees * (pi / (180 : α))

end Circular

/-! ## Binary floating point -/

namespace FloatScalar

/-- The six hundredth power of two, with which every number above zero can be multiplied. -/
def huge : Float := (1.0 : Float).scaleB 600

/-- The six hundredth power of one half. -/
def tiny : Float := 1.0 / huge

/-- Length of a vector whose squares stay within range; outside that range the vector is scaled by
a power of two first, which changes no digit. -/
def hypot (x y : Float) : Float :=
  let a := x.abs
  let b := y.abs
  let m := if a < b then b else a
  let length := fun (scale : Float) =>
    ((a * scale) * (a * scale) + (b * scale) * (b * scale)).sqrt / scale
  if a.isInf || b.isInf then 1.0 / 0.0
  else if m > 1e150 then length tiny
  else if m < 1e-140 then length huge
  else (a * a + b * b).sqrt

instance : Circular Float where
  ofInt := Float.ofInt
  ofDecimal digits places := Float.ofScientific digits true places
  lt x y := x < y
  le x y := x ≤ y
  eq x y := x == y
  infinite := Float.isInf
  sqrt := Float.sqrt
  hypot := hypot
  pi := 3.141592653589793
  cos := Float.cos
  sin := Float.sin
  atan2 := Float.atan2

end FloatScalar

end LoftGraph
