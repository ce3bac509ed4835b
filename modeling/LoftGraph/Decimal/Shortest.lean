import LoftGraph.Decimal.Binary

/-!
# The shortest decimal that reads back

Among the decimals that a correctly rounding reader turns into a given floating point number,
`Decimal.shortest` picks one with the fewest digits, and of those the nearest to the number.

The numbers that round to `m * 2 ^ q` fill an interval around it; the ends belong to it exactly
when `m` is even, because ties go to the even mantissa.  Below a power of two the spacing halves,
so there the lower end is half as far away.  For one digit, two digits and so on the two
neighbours of the number on the decimal grid of that many digits are tested in exact arithmetic;
if any grid point lies in the interval, so does one of these two.

* `Interval` holds the number and the two ends over one denominator.
* `Decimal.search_contains` says that what the search returns rounds to the number, as soon as one
  of the grids it looks at has a point that does.
-/

namespace LoftGraph

/-- The decimal `digits * 10 ^ exponent`. -/
structure Decimal where
  digits : Nat
  exponent : Int
  deriving Repr, DecidableEq

/-- How many bits a floating point format keeps, and which powers of two. -/
structure Precision where
  bits : Nat
  /-- The least power of two. -/
  least : Int
  /-- The least power of two that is out of range. -/
  limit : Int
  deriving Repr, DecidableEq

/-- So many decimal digits tell any two numbers of a format apart. -/
def Precision.digits (p : Precision) : Nat := p.bits * 30103 / 100000 + 2

def Precision.double : Precision := ⟨53, -1074, 1024⟩

def Precision.single : Precision := ⟨24, -149, 128⟩

def Precision.half : Precision := ⟨11, -24, 16⟩

def Precision.extended : Precision := ⟨64, -16445, 16384⟩

/-- The parts of a positive number as a format keeps them, with all its bits in use as long as the
power of two allows; a number of that format loses nothing. -/
def Precision.parts (p : Precision) (b : Binary) : Binary :=
  let exponent := max p.least (b.exponent + (Nat.log2 b.mantissa + 1 : Nat) - p.bits)
  { b with
    mantissa := b.mantissa * Nat.pow 2 (b.exponent - exponent).toNat /
      Nat.pow 2 (exponent - b.exponent).toNat
    exponent }

/-- A positive number with the interval of numbers that round to it, over one denominator. -/
structure Interval where
  low : Nat
  value : Nat
  high : Nat
  denominator : Nat
  /-- Do the ends belong to the interval? -/
  closed : Bool

namespace Interval

/-- The interval of numbers that round to a positive binary number of a format. -/
def ofBinary (p : Precision) (b : Binary) : Interval :=
  let up := Nat.pow 2 b.exponent.toNat
  -- below a power of two the neighbour is only half as far away
  let below := if b.mantissa = Nat.pow 2 (p.bits - 1) ∧ p.least < b.exponent then 1 else 2
  { low := (4 * b.mantissa - below) * up
    value := 4 * b.mantissa * up
    high := (4 * b.mantissa + 2) * up
    denominator := 4 * Nat.pow 2 (-b.exponent).toNat
    closed := b.mantissa % 2 == 0 }

/-- The factors `(a, b)` for which a grid point `d * 10 ^ k` compares with a numerator `n` as
`d * a` with `n * b`. -/
def factors (i : Interval) (k : Int) : Nat × Nat :=
  (Nat.pow 10 k.toNat * i.denominator, Nat.pow 10 (-k).toNat)

/-- Does `d * 10 ^ k` round to the number? -/
def contains (i : Interval) (k : Int) (d : Nat) : Bool :=
  let (a, b) := i.factors k
  if i.closed then i.low * b ≤ d * a && d * a ≤ i.high * b
  else i.low * b < d * a && d * a < i.high * b

/-- The grid point just below the number, in units of `10 ^ k`. -/
def below (i : Interval) (k : Int) : Nat :=
  let (a, b) := i.factors k
  i.value * b / a

/-- Is the number nearer to `(d + 1) * 10 ^ k` than to `d * 10 ^ k`, ties going to the even
one? -/
def nearerAbove (i : Interval) (k : Int) (d : Nat) : Bool :=
  let (a, b) := i.factors k
  let twice := 2 * (i.value * b)
  let middle := (2 * d + 1) * a
  middle < twice || (middle == twice && d % 2 == 1)

/-- The grid point of step `10 ^ k` that rounds to the number and is nearest to it, if any. -/
def onGrid? (i : Interval) (k : Int) : Option Decimal :=
  let d := i.below k
  match i.contains k d, i.contains k (d + 1) with
  -- both neighbours read back: the nearer one is the better text
  | true, true => some ⟨if i.nearerAbove k d then d + 1 else d, k⟩
  | true, false => some ⟨d, k⟩
  | false, true => some ⟨d + 1, k⟩
  | false, false => none

/-- A grid point that is returned rounds to the number. -/
theorem contains_of_onGrid? {i : Interval} {k : Int} {d : Decimal}
    (h : i.onGrid? k = some d) : i.contains d.exponent d.digits = true := by
  simp only [onGrid?] at h
  split at h
  · next h₀ h₁ =>
      cases h
      simp only
      split
      · exact h₁
      · exact h₀
  · next h₀ _ => cases h; exact h₀
  · next _ h₁ => cases h; exact h₁
  · cases h

end Interval

/-- How many decimal digits a positive number has before its point, or minus the number of zeros
that follow the point. -/
def decimalMagnitude (numerator denominator : Nat) : Int :=
  if denominator ≤ numerator then ((Nat.toDigits 10 (numerator / denominator)).length : Int)
  else -(zerosAfterPoint 400 0)
where
  /-- The least `j` for which the number times `10 ^ (j + 1)` is at least one. -/
  zerosAfterPoint : Nat → Nat → Nat
    | 0, j => j
    | fuel + 1, j =>
      if denominator ≤ numerator * Nat.pow 10 (j + 1) then j else zerosAfterPoint fuel (j + 1)

namespace Decimal

/-- Zeros at the end of the digits go into the exponent. -/
def strip (d : Decimal) : Decimal := go 400 d.digits d.exponent
where
  go : Nat → Nat → Int → Decimal
    | 0, n, k => ⟨n, k⟩
    | fuel + 1, n, k =>
      if n ≠ 0 ∧ n % 10 = 0 then go fuel (n / 10) (k + 1) else ⟨n, k⟩

/-- Searches the grids of `count`, `count + 1`, … digits. -/
def search (i : Interval) (magnitude : Int) : Nat → Nat → Decimal
  | 0, count =>
    let k := magnitude - count
    ⟨i.below k, k⟩
  | fuel + 1, count =>
    match i.onGrid? (magnitude - count) with
    | some d => d
    | none => search i magnitude fuel (count + 1)

/-- The shortest decimal for the magnitude of a number of a format; zero for zero. -/
def shortestIn (p : Precision) (b : Binary) : Decimal :=
  if b.mantissa = 0 then ⟨0, 0⟩
  else
    let i := Interval.ofBinary p (p.parts b)
    (search i (decimalMagnitude i.value i.denominator) p.digits 1).strip

/-- The shortest decimal for the magnitude of a double precision number. -/
def shortest (b : Binary) : Decimal := shortestIn .double b

/-- What the search returns rounds to the number, unless every grid up to the last was empty. -/
theorem search_contains {i : Interval} {magnitude : Int} {fuel count : Nat}
    (h : ∃ n, count ≤ n ∧ n < count + fuel ∧ (i.onGrid? (magnitude - n)).isSome) :
    i.contains (search i magnitude fuel count).exponent
      (search i magnitude fuel count).digits = true := by
  induction fuel generalizing count with
  | zero => obtain ⟨n, h₁, h₂, -⟩ := h; omega
  | succ fuel ih =>
      unfold search
      cases hg : i.onGrid? (magnitude - count) with
      | some d => exact Interval.contains_of_onGrid? hg
      | none =>
          refine ih ?_
          obtain ⟨n, h₁, h₂, h₃⟩ := h
          refine ⟨n, ?_, by omega, h₃⟩
          rcases Nat.lt_or_eq_of_le h₁ with hlt | heq
          · omega
          · subst heq
            rw [hg] at h₃
            cases h₃

end Decimal

end LoftGraph
