import LoftGraph.Decimal.Shortest

/-!
# Rounding to decimal places

`roundedQuotient` rounds a quotient of natural numbers to the nearest whole number, a half going
to the even neighbour.  On top of it a floating point number is rounded to a number of decimal
places or to a number of significant digits, from its exact value.
-/

namespace LoftGraph

/-- The whole number nearest to `n / d`; a half goes to the even neighbour. -/
def roundedQuotient (n d : Nat) : Nat :=
  let q := n / d
  let twice := 2 * (n % d)
  if twice < d then q
  else if d < twice then q + 1
  else q + q % 2

namespace Decimal

/-- The decimal with this many places that is nearest to a binary magnitude. -/
def roundedTo (places : Nat) (b : Binary) : Decimal :=
  let (n, d) := b.scaled
  ⟨roundedQuotient (n * Nat.pow 10 places) d, -places⟩

/-- The decimal of this many significant digits that is nearest to a positive binary
magnitude. -/
def roundedToDigits (count : Nat) (b : Binary) : Decimal :=
  let (n, d) := b.scaled
  let k := decimalMagnitude n d - count
  ⟨roundedQuotient (n * Nat.pow 10 (-k).toNat) (d * Nat.pow 10 k.toNat), k⟩

/-- The floating point number nearest to a decimal. -/
def toFloat (d : Decimal) : Float :=
  if d.exponent < 0 then Float.ofScientific d.digits true d.exponent.natAbs
  else Float.ofScientific d.digits false d.exponent.natAbs

end Decimal

/-- The number of a format that is nearest to a number; one that is out of range becomes
infinite. -/
def Precision.nearest (p : Precision) (x : Float) : Float :=
  match Binary.ofFloat? x with
  | none => x
  | some b =>
    let surplus := max (Nat.log2 b.mantissa + 1 - p.bits) (p.least - b.exponent).toNat
    let kept := roundedQuotient b.mantissa (Nat.pow 2 surplus)
    let magnitude := (Float.ofNat kept).scaleB (b.exponent + surplus)
    let y := if (1.0 : Float).scaleB p.limit ≤ magnitude then 1.0 / 0.0 else magnitude
    if b.negative then -y else y

/-- The whole floating point number nearest to `x`; a half goes to the even neighbour. -/
def nearestEven (x : Float) : Float :=
  let r := x.round
  if (r - x).abs == 0.5 then 2.0 * (x / 2.0).round else r

/-- A floating point number rounded to thousandths, by way of its thousandfold. -/
def toThousandths (x : Float) : Float := nearestEven (x * 1000.0) / 1000.0

end LoftGraph
