import LoftGraph.Decimal.Layout
import LoftGraph.Decimal.Round

/-!
# Numbers under one another

The numbers of a block are written alike, so that their points stand in one column.  A `Column`
holds what they share: whether there are exponents, and how wide the parts on both sides of the
point are.  `Column.fit` chooses it for given numbers.

* Every number has as few digits as read back, but at most eight after the point.
* Exponents are used when a number is large (`1e8` and above), small (below `1e-4`), or when the
  largest is more than a thousand times the smallest; zeros do not count.
* Without exponents shorter fractions are filled with blanks, with exponents by further digits of
  the number.
-/

namespace LoftGraph

namespace Decimal

/-- The shortest decimal with at most so many places after the point. -/
def withinPlaces (places : Nat) (b : Binary) : Decimal :=
  let d := shortest b
  if -(places : Int) ≤ d.exponent then d else (roundedTo places b).strip

/-- The shortest decimal of at most so many digits. -/
def withinDigits (count : Nat) (b : Binary) : Decimal :=
  let d := shortest b
  if (Nat.toDigits 10 d.digits).length ≤ count then d else (roundedToDigits count b).strip

/-- The digits before the point and after it. -/
def sides (d : Decimal) : List Char × List Char :=
  let digits := Nat.toDigits 10 d.digits
  let places := (-d.exponent).toNat
  if digits.length ≤ places then (['0'], List.replicate (places - digits.length) '0' ++ digits)
  else
    let whole := digits.length - places
    (digits.take whole ++ List.replicate d.exponent.toNat '0', digits.drop whole)

/-- The power of ten of the first digit; zero for zero. -/
def leadingExponent (d : Decimal) : Int :=
  if d.digits = 0 then 0 else (Nat.toDigits 10 d.digits).length + d.exponent - 1

end Decimal

/-- The common layout of the numbers of a block. -/
structure Column where
  scientific : Bool
  /-- The width before the point, sign included. -/
  left : Nat
  right : Nat
  /-- The most digits after the point. -/
  places : Nat
  /-- The fewest digits of an exponent. -/
  exponentDigits : Nat
  deriving Repr, DecidableEq

namespace Column

/-- The most digits after the point. -/
def mostPlaces : Nat := 8

def widest (widths : List Nat) : Nat := widths.foldl max 0

/-- Text filled up with blanks on the left. -/
def padLeft (width : Nat) (text : List Char) : List Char :=
  List.replicate (width - text.length) ' ' ++ text

/-- Text filled up on the right. -/
def padRight (filler : Char) (width : Nat) (text : List Char) : List Char :=
  text ++ List.replicate (width - text.length) filler

/-- The sign of a number that has one to show. -/
def sign (b : Binary) : List Char := if b.negative then ['-'] else []

/-- The number's first digit, the digits after it, and its exponent, for so many digits after the
first. -/
def scientificParts (places : Nat) (b : Binary) : List Char × List Char × Int :=
  let d := Decimal.withinDigits (places + 1) b
  let digits := Nat.toDigits 10 d.digits
  (digits.take 1, digits.drop 1, d.leadingExponent)

/-- The same parts with all the digits asked for.  Digits beyond those that read back are those of
the exact number. -/
def filledParts (places : Nat) (b : Binary) : List Char × List Char × Int :=
  let short := (Nat.toDigits 10 (Decimal.shortest b).digits).length ≤ places
  if short && b.mantissa ≠ 0 then
    let d := Decimal.roundedToDigits (places + 1) b
    let digits := Nat.toDigits 10 d.digits
    (digits.take 1, (digits.drop 1).take places, d.leadingExponent)
  else scientificParts places b

/-- Do numbers of these magnitudes ask for exponents? -/
def wantsExponents (magnitudes : List Float) : Bool :=
  match magnitudes with
  | [] => false
  | x :: rest =>
    let largest := rest.foldl (fun a b => if a < b then b else a) x
    let smallest := rest.foldl (fun a b => if b < a then b else a) x
    1e8 ≤ largest || smallest < 0.0001 || 1000.0 < largest / smallest

/-- The layout of finite numbers with exponents. -/
def withExponents (numbers : List Binary) : Column :=
  let parts := numbers.map (scientificParts mostPlaces)
  let places := widest (parts.map (fun p => p.2.1.length))
  let exponentDigits :=
    max 2 (widest (parts.map (fun p => (Nat.toDigits 10 p.2.2.natAbs).length)))
  { scientific := true
    left := widest (numbers.map (fun b => (sign b).length + 1))
    right := places + 2 + exponentDigits
    places, exponentDigits }

/-- The layout of finite numbers without exponents. -/
def withoutExponents (numbers : List Binary) : Column :=
  let parts := numbers.map (fun b => (sign b, (Decimal.withinPlaces mostPlaces b).sides))
  { scientific := false
    left := widest (parts.map (fun p => p.1.length + p.2.1.length))
    right := widest (parts.map (fun p => p.2.2.length))
    places := mostPlaces
    exponentDigits := 0 }

/-- Room for the names of what is not finite. -/
def withNames (c : Column) (others : List Float) : Column :=
  if others.isEmpty then c
  else
    let width := if others.any (· < 0) then 4 else 3
    { c with left := max c.left (width - (c.right + 1)) }

def fit (numbers : List Float) : Column :=
  let finite := numbers.filterMap Binary.ofFloat?
  let magnitudes := ((numbers.filter Float.isFinite).filter (fun x => !(x == 0))).map Float.abs
  let column := if wantsExponents magnitudes then withExponents finite else withoutExponents finite
  column.withNames (numbers.filter (fun x => !x.isFinite))

/-- The digits of an exponent after its sign. -/
def exponentText (c : Column) (exponent : Int) : List Char :=
  (if exponent < 0 then '-' else '+') ::
    (NumberLayout.paddedDigits c.exponentDigits exponent.natAbs).toList

/-- The text of a finite number. -/
def writeFinite (c : Column) (b : Binary) : List Char :=
  if c.scientific then
    let (first, rest, exponent) := filledParts c.places b
    padLeft c.left (sign b ++ first) ++ '.' :: padRight '0' c.places rest ++
      'e' :: c.exponentText exponent
  else
    let (whole, fraction) := (Decimal.withinPlaces c.places b).sides
    padLeft c.left (sign b ++ whole) ++ '.' :: padRight ' ' c.right fraction

def write (c : Column) (x : Float) : String :=
  String.ofList (match Binary.ofFloat? x with
    | some b => c.writeFinite b
    | none => padLeft (c.left + c.right + 1) (NumberLayout.display.write x).toList)

end Column

end LoftGraph
