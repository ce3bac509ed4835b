import LoftGraph.Decimal.Shortest

/-!
# How a floating point number is written

The digits of a number come from `Decimal.shortest`; this module decides how they are laid out.
A `NumberLayout` lists the decisions, and `NumberLayout.write` follows them.

* `NumberLayout.display` is the layout of texts and messages: positional notation while the
  decimal exponent is at least -4 and below 16, a fraction of at least one digit, exponents of at
  least two digits with a sign.  The exponent that decides is that of the exact number, which may
  lie just below the power of ten that its digits show.
* `NumberLayout.json` differs only in the names of the numbers that have no digits.
-/

namespace LoftGraph

/-- The decisions about the text of a number. -/
structure NumberLayout where
  /-- The least decimal exponent that is written positionally. -/
  positionalFrom : Int
  /-- The first decimal exponent that is not. -/
  positionalBelow : Int
  /-- The fewest digits of a written exponent. -/
  exponentDigits : Nat
  /-- The text of what is not a number. -/
  nan : String
  /-- The text of infinity, after the sign. -/
  infinity : String

namespace NumberLayout

def display : NumberLayout := ⟨-4, 16, 2, "nan", "inf"⟩

def json : NumberLayout := ⟨-4, 16, 2, "NaN", "Infinity"⟩

def zeros (n : Nat) : String := String.ofList (List.replicate n '0')

/-- Decimal digits of a natural number. -/
def digits (n : Nat) : String := String.ofList (Nat.toDigits 10 n)

/-- Digits filled up with zeros on the left. -/
def paddedDigits (width n : Nat) : String :=
  let text := digits n
  zeros (width - text.length) ++ text

/-- A decimal in positional notation, with a fraction of at least one digit. -/
def positional (d : Decimal) : String :=
  let text := digits d.digits
  let point : Int := text.length + d.exponent
  if point ≤ 0 then "0." ++ zeros (-point).toNat ++ text
  else if (text.length : Int) ≤ point then text ++ zeros (point - text.length).toNat ++ ".0"
  else
    let whole := text.toList.take point.toNat
    let fraction := text.toList.drop point.toNat
    String.ofList whole ++ "." ++ String.ofList fraction

/-- A decimal with one digit before the point and a signed exponent. -/
def scientific (layout : NumberLayout) (d : Decimal) (exponent : Int) : String :=
  let text := (digits d.digits).toList
  let fraction := text.drop 1
  let mantissa :=
    String.ofList (text.take 1) ++
      (if fraction.isEmpty then "" else "." ++ String.ofList fraction)
  let sign := if exponent < 0 then "-" else "+"
  mantissa ++ "e" ++ sign ++ paddedDigits layout.exponentDigits exponent.natAbs

/-- The decimal exponent of the first digit of a positive number. -/
def leadingExponent (b : Binary) : Int := decimalMagnitude b.scaled.1 b.scaled.2 - 1

/-- The text of the magnitude of a number of a format. -/
def magnitude (layout : NumberLayout) (p : Precision) (b : Binary) : String :=
  let d := Decimal.shortestIn p b
  if d.digits = 0 then "0.0"
  else
    let exponent := leadingExponent b
    if layout.positionalFrom ≤ exponent ∧ exponent < layout.positionalBelow then positional d
    else layout.scientific d ((digits d.digits).length + d.exponent - 1)

/-- The text of a number of a format. -/
def writeIn (layout : NumberLayout) (p : Precision) (x : Float) : String :=
  match Binary.ofFloat? x with
  | some b => (if b.negative then "-" else "") ++ layout.magnitude p b
  | none =>
    if x.isNaN then layout.nan
    else (if x < 0 then "-" else "") ++ layout.infinity

/-- The text of a floating point number. -/
def write (layout : NumberLayout) (x : Float) : String := layout.writeIn .double x

end NumberLayout

end LoftGraph
