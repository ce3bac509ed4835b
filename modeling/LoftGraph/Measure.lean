import LoftGraph.Quantity

/-!
# Measures

A measure is a number as a computation is given it: whole, floating point, or missing because what
was given is no number at all.

* Sums, differences and products of whole numbers are whole and exact.  Every other operation is
  one of floating point: `Measure.settle` brings a whole number there, and one that is out of range
  is missing from then on.
* An operation with a missing operand is missing for the reason of the first such operand, so a
  measure that is not a number does no harm until a computation looks at it (`Scalar.checked`).
* On floating point numbers a measure computes what floating point does (`combine_real`).
-/

namespace LoftGraph

/-- A number that a computation is given. -/
inductive Measure where
  | whole (i : Int)
  | real (x : Float)
  | missing (why : Fault)

namespace Measure

def ofQuantity : Quantity → Measure
  | .whole i => whole i
  | .real x => real x

def fault? : Measure → Option Fault
  | missing why => some why
  | _ => none

def quantity : Measure → Except Fault Quantity
  | whole i => .ok (.whole i)
  | real x => .ok (.real x)
  | missing why => .error why

/-- The nearest floating point number; what is missing is undefined. -/
def toFloat : Measure → Float
  | whole i => Float.ofInt i
  | real x => x
  | missing _ => 0.0 / 0.0

/-- The floating point number of a measure. -/
def float : Measure → Except Fault Float
  | whole i => (floatOfInt? i).elim (.error .numberTooLarge) .ok
  | real x => .ok x
  | missing why => .error why

/-- A floating point number, or why there is none. -/
def ofResult : Except Fault Float → Measure
  | .ok x => real x
  | .error why => missing why

/-- The measure as a floating point number. -/
def settle (m : Measure) : Measure := ofResult m.float

def apply (onReal : Float → Float) (m : Measure) : Measure := ofResult (m.float.map onReal)

/-- An operation of floating point.  That an operand is no number is told before that one is too
large. -/
def combineReal (onReal : Float → Float → Float) : Measure → Measure → Measure
  | missing why, _ => missing why
  | _, missing why => missing why
  | p, q => ofResult do
    let x ← p.float
    let y ← q.float
    return onReal x y

/-- An operation that keeps whole numbers whole. -/
def combine (onWhole : Int → Int → Int) (onReal : Float → Float → Float) :
    Measure → Measure → Measure
  | whole i, whole j => whole (onWhole i j)
  | real x, real y => real (onReal x y)
  | p, q => combineReal onReal p q

def neg : Measure → Measure
  | whole i => whole (-i)
  | real x => real (-x)
  | missing why => missing why

/-- A comparison; one of whole numbers is exact. -/
def compare (onWhole : Int → Int → Bool) (onReal : Float → Float → Bool) :
    Measure → Measure → Bool
  | whole i, whole j => onWhole i j
  | p, q => onReal p.toFloat q.toFloat

@[simp] theorem toFloat_real (x : Float) : (real x).toFloat = x := rfl

@[simp] theorem settle_real (x : Float) : (real x).settle = real x := rfl

/-- Floating point numbers are combined as floating point numbers. -/
@[simp] theorem combine_real (onWhole : Int → Int → Int) (onReal : Float → Float → Float)
    (x y : Float) : combine onWhole onReal (real x) (real y) = real (onReal x y) := rfl

@[simp] theorem combineReal_real (onReal : Float → Float → Float) (x y : Float) :
    combineReal onReal (real x) (real y) = real (onReal x y) := rfl

@[simp] theorem apply_real (onReal : Float → Float) (x : Float) :
    apply onReal (real x) = real (onReal x) := rfl

instance : Circular Measure where
  add := combine (· + ·) (· + ·)
  sub := combine (· - ·) (· - ·)
  mul := combine (· * ·) (· * ·)
  div := combineReal (· / ·)
  neg := neg
  ofInt i := real (Scalar.ofInt i)
  ofDecimal digits places := real (Scalar.ofDecimal digits places)
  lt := compare (fun i j => i < j) Scalar.lt
  le := compare (fun i j => i ≤ j) Scalar.le
  eq := compare (fun i j => i == j) Scalar.eq
  infinite m := m.toFloat.isInf
  sqrt := apply Float.sqrt
  hypot p q := combineReal Scalar.hypot p.settle q.settle
  fault? := fault?
  settle := settle
  pi := real Circular.pi
  cos := apply Float.cos
  sin := apply Float.sin
  atan2 := combineReal Float.atan2

end Measure

end LoftGraph
