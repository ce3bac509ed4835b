import LoftGraph.Json.Basic
import LoftGraph.Text.Quoted

/-!
# Writing documents

`Json.write` is the text of a document on lines of two-space indentation, `Json.writeLine` the
text on one line.  Both use ASCII alone: any other character is a numeric escape, one beyond the
basic plane a pair of them, and one that stands for a lone half of a pair that half.

Containers without items are written without a line break inside.
-/

namespace LoftGraph.Json

/-- A numeric escape of one code unit. -/
def unitEscape (n : Nat) : String := "\\u" ++ Text.hexDigits 4 n

/-- One character of a written text. -/
def escapeChar (c : Char) : String :=
  let n := c.toNat
  if c = '"' then "\\\""
  else if c = '\\' then "\\\\"
  else if c = '\n' then "\\n"
  else if c = '\r' then "\\r"
  else if c = '\t' then "\\t"
  else if c = '\x0c' then "\\f"
  else if c = '\x08' then "\\b"
  else if 0x20 ≤ n ∧ n < 0x7f then c.toString
  else if n < 0x10000 then unitEscape n
  else
    match Text.half? c with
    | some unit => unitEscape unit
    | none =>
      let m := n - 0x10000
      unitEscape (0xd800 + m / 0x400) ++ unitEscape (0xdc00 + m % 0x400)

def quote (s : String) : String := "\"" ++ String.join (s.toList.map escapeChar) ++ "\""

/-- The text of a value that is no container. -/
def atomText : Json → String
  | null => "null"
  | bool b => if b then "true" else "false"
  | int i => toString i
  | float x => NumberLayout.json.write x
  | string s => quote s
  | array _ => "[]"
  | object _ => "\x7b\x7d"

/-- A line break and the blanks that start a line of this depth. -/
def lineBreak (depth : Nat) : String := "\n" ++ String.ofList (List.replicate (2 * depth) ' ')

mutual

/-- The text of a value whose first character stands on a line of this depth. -/
def writeAt : Nat → Json → String
  | depth, array (item :: rest) =>
    "[" ++ lineBreak (depth + 1) ++ writeAt (depth + 1) item ++ writeItems (depth + 1) rest ++
      lineBreak depth ++ "]"
  | depth, object ((name, value) :: rest) =>
    "\x7b" ++ lineBreak (depth + 1) ++ quote name ++ ": " ++ writeAt (depth + 1) value ++
      writeEntries (depth + 1) rest ++ lineBreak depth ++ "\x7d"
  | _, array [] => "[]"
  | _, object [] => "\x7b\x7d"
  | _, null => atomText null
  | _, bool b => atomText (bool b)
  | _, int i => atomText (int i)
  | _, float x => atomText (float x)
  | _, string s => atomText (string s)

/-- The items that follow the first of an array. -/
def writeItems : Nat → List Json → String
  | _, [] => ""
  | depth, item :: rest => "," ++ lineBreak depth ++ writeAt depth item ++ writeItems depth rest

/-- The entries that follow the first of an object. -/
def writeEntries : Nat → List (String × Json) → String
  | _, [] => ""
  | depth, (name, value) :: rest =>
    "," ++ lineBreak depth ++ quote name ++ ": " ++ writeAt depth value ++ writeEntries depth rest

end

def write (document : Json) : String := writeAt 0 document

mutual

/-- The text of a value on one line. -/
def writeLine : Json → String
  | array items => "[" ++ String.intercalate "," (lineItems items) ++ "]"
  | object entries => "\x7b" ++ String.intercalate "," (lineEntries entries) ++ "\x7d"
  | null => atomText null
  | bool b => atomText (bool b)
  | int i => atomText (int i)
  | float x => atomText (float x)
  | string s => atomText (string s)

def lineItems : List Json → List String
  | [] => []
  | item :: rest => writeLine item :: lineItems rest

def lineEntries : List (String × Json) → List String
  | [] => []
  | (name, value) :: rest => (quote name ++ ":" ++ writeLine value) :: lineEntries rest

end

end LoftGraph.Json
