import LoftGraph.Scalar
import LoftGraph.Fault

/-!
# Floating point numbers as exact numbers

A finite floating point number is a whole number times a power of two.  `Binary` holds the two
parts; everything exact that is said about a floating point number (its decimal text, its integer
part) is said about them.

* `Binary.ofFloat?` takes a number apart; infinities and undefined numbers have no parts.
* `Binary.scaled` is the magnitude as a quotient of natural numbers.
* `Float.count` is the integer part of a number, a fault when there is none.
-/

namespace LoftGraph

/-- The number `mantissa * 2 ^ exponent`, with a sign that is kept for zero too. -/
structure Binary where
  negative : Bool
  mantissa : Nat
  exponent : Int
  deriving Repr, DecidableEq

namespace Binary

/-- The parts of a finite floating point number. -/
def ofFloat? (x : Float) : Option Binary :=
  let bits := x.toBits.toNat
  let negative := bits / Nat.pow 2 63 == 1
  let exponent : Nat := bits / Nat.pow 2 52 % 2048
  let fraction := bits % Nat.pow 2 52
  if exponent = 2047 then none
  else if exponent = 0 then some ⟨negative, fraction, -1074⟩
  else some ⟨negative, fraction + Nat.pow 2 52, (exponent : Int) - 1075⟩

/-- Numerator and denominator of the magnitude. -/
def scaled (b : Binary) : Nat × Nat :=
  (b.mantissa * Nat.pow 2 b.exponent.toNat, Nat.pow 2 (-b.exponent).toNat)

/-- The magnitude without its fractional part. -/
def floor (b : Binary) : Nat := b.scaled.1 / b.scaled.2

/-- The number without its fractional part. -/
def truncate (b : Binary) : Int := if b.negative then -(b.floor : Int) else b.floor

end Binary

/-- The whole number a floating point number starts with, toward zero. -/
def countOfFloat (x : Float) : Count :=
  match Binary.ofFloat? x with
  | some b => .ok b.truncate
  | none => if x.isNaN then .error .countOfNaN else .error .countOfInfinity

/-- The nearest floating point number to an integer, unless it is out of range. -/
def floatOfInt? (i : Int) : Option Float :=
  let x := Float.ofInt i
  if x.isInf then none else some x

end LoftGraph
