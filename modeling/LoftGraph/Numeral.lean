import LoftGraph.Text.Blank
import LoftGraph.Text.Digit
import LoftGraph.Decimal.Round

/-!
# Numbers read from text

`Numeral.float?` reads a floating point number and `Numeral.int?` an integer from a text a person
typed: blanks around it do not count, digits of any script are digits, and a single underscore may
stand between two digits.  The information separators are blank elsewhere, but not around a
number.

* `Numeral.digitRun` takes the longest run of digits off a text, `Numeral.digitRunIn` that of any
  base.
* A decimal text is rounded to the nearest floating point number, once.
-/

namespace LoftGraph.Numeral

/-- A run of digits with the value it stands for. -/
structure Run where
  value : Nat
  length : Nat

/-- A run with one more digit. -/
def Run.push (run : Run) (base digit : Nat) : Run := ⟨base * run.value + digit, run.length + 1⟩

/-- The digits of a base that follow a digit, where one underscore may stand before each. -/
def moreDigits (base : Nat) (digit? : Char → Option Nat) (run : Run) :
    List Char → Run × List Char
  | [] => (run, [])
  | '_' :: c :: rest =>
    match digit? c with
    | some d => moreDigits base digit? (run.push base d) rest
    | none => (run, '_' :: c :: rest)
  | c :: rest =>
    match digit? c with
    | some d => moreDigits base digit? (run.push base d) rest
    | none => (run, c :: rest)

/-- The longest run of digits of a base that a text starts with, and what follows. -/
def digitRunIn (base : Nat) (digit? : Char → Option Nat) : List Char → Run × List Char
  | [] => (⟨0, 0⟩, [])
  | c :: rest =>
    match digit? c with
    | some d => moreDigits base digit? ⟨d, 1⟩ rest
    | none => (⟨0, 0⟩, c :: rest)

/-- The longest run of decimal digits a text starts with, and what follows. -/
def digitRun (cs : List Char) : Run × List Char := digitRunIn 10 Text.digit? cs

/-- A sign, if there is one: is it minus, and what follows. -/
def sign : List Char → Bool × List Char
  | '-' :: rest => (true, rest)
  | '+' :: rest => (false, rest)
  | cs => (false, cs)

/-- Is the character blank around a number? -/
def isPadding (c : Char) : Bool := Text.isBlank c && !('\x1c' ≤ c && c ≤ '\x1f')

/-- The text without what is blank around a number. -/
def unpadded (text : String) : List Char := Text.trimOf isPadding text.toList

/-- The most digits an integer may be spelled with. -/
def digitLimit : Nat := 4300

/-- An integer that fills the whole text. -/
def int? (text : String) : Option Int :=
  let (negative, cs) := sign (unpadded text)
  let (run, rest) := digitRun cs
  if run.length = 0 ∨ digitLimit < run.length ∨ !rest.isEmpty then none
  else some (if negative then -(run.value : Int) else run.value)

/-- The floating point number nearest to `value * 10 ^ exponent`.  Beyond the range of the format
the result is decided by the magnitude alone, so no large power of ten is formed. -/
def ofParts (value : Nat) (exponent : Int) : Float :=
  let magnitude : Int := (Nat.toDigits 10 value).length + exponent
  if value = 0 ∨ magnitude < -400 then 0.0
  else if 400 < magnitude then 1.0 / 0.0
  else Decimal.toFloat ⟨value, exponent⟩

/-- The exponent part of a decimal text, if it starts one. -/
def exponent? : List Char → Option (Int × List Char)
  | c :: rest =>
    if c = 'e' ∨ c = 'E' then
      let (negative, cs) := sign rest
      let (run, rest) := digitRun cs
      if run.length = 0 then none
      else some (if negative then -(run.value : Int) else run.value, rest)
    else none
  | [] => none

/-- A decimal magnitude that fills the whole text. -/
def magnitude? (cs : List Char) : Option Float :=
  let (whole, rest) := digitRun cs
  let (fraction, rest) :=
    match rest with
    | '.' :: after => digitRun after
    | _ => (⟨0, 0⟩, rest)
  if whole.length + fraction.length = 0 then none
  else
    let digits := whole.value * Nat.pow 10 fraction.length + fraction.value
    match rest with
    | [] => some (ofParts digits (-fraction.length))
    | _ =>
      match exponent? rest with
      | some (e, []) => some (ofParts digits (e - fraction.length))
      | _ => none

/-- A floating point number that fills the whole text. -/
def float? (text : String) : Option Float :=
  let (negative, cs) := sign (unpadded text)
  let magnitude :=
    if Text.lower cs ∈ ["inf".toList, "infinity".toList] then some (1.0 / 0.0)
    else if Text.lower cs = "nan".toList then some (0.0 / 0.0)
    else magnitude? cs
  magnitude.map (fun x => if negative then -x else x)

end LoftGraph.Numeral
