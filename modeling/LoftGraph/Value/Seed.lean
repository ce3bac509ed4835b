import LoftGraph.Geometry.RandomStream
import LoftGraph.Json.Reader
import LoftGraph.Value.Basic

/-!
# Seeds read off values

A host may seed a random stream with a whole number or with a nested list of whole numbers, whose
words are taken one after the other.  Inside a list a number may also be spelled as a text, in
decimal digits or in hexadecimal ones behind `0x`; single underscores may stand between digits.
-/

namespace LoftGraph.Seed

/-- The value of a hexadecimal digit; its decimal ones are those of every script. -/
def hexDigit? (c : Char) : Option Nat := (Text.digit? c).or (Json.hexDigit? c)

/-- The number that hexadecimal digits spell; none without digits.  An underscore may stand before
the first one too. -/
def hexNumber? (cs : List Char) : Option Nat :=
  let (run, rest) := Numeral.digitRunIn 16 hexDigit? (if cs.head? = some '_' then cs.drop 1 else cs)
  if run.length = 0 ∨ !rest.isEmpty then none else some run.value

def spelled (s : String) : Seed :=
  let number :=
    match s.toList with
    | '0' :: 'x' :: _ => (hexNumber? ((Numeral.unpadded s).drop 2)).map Int.ofNat
    | c :: _ => if c.isDigit then Numeral.int? s else none
    | [] => none
  match number with
  | some i => ofInt i
  | none => .error .malformedSeed

mutual

/-- The words of a value inside a list. -/
def words : Value → Seed
  | .int i => ofInt i
  | .bool b => ofInt (if b then 1 else 0)
  | .text s => spelled s
  | .list items | .tuple items => listWords items
  | .object entries => entryWords entries
  | _ => .error .unsuitableSeed

/-- The words of items, one after the other. -/
def listWords : List Value → Seed
  | [] => .ok []
  | item :: rest => do
    let first ← words item
    let others ← listWords rest
    return first ++ others

/-- The words that the names of entries spell, one after the other. -/
def entryWords : List (String × Value) → Seed
  | [] => .ok []
  | (name, _) :: rest => do
    let first ← spelled name
    let others ← entryWords rest
    return first ++ others

end

/-- The seed of a value: a whole number or a list. -/
def ofValue (value : Value) : Seed :=
  match value with
  | .int _ | .bool _ | .list _ | .tuple _ => words value
  | _ => .error .unsuitableSeed

end LoftGraph.Seed
