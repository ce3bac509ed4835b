import LoftGraph.Json.Basic
import LoftGraph.Numeral
import LoftGraph.Text.Half

/-!
# Reading documents

`Json.read` turns the text of a document into its value or says where and why it is none.

* A `Cursor` is the unread text with the number of characters before it.
* Blanks are space, tab, newline and carriage return.
* An object with a repeated name keeps the last value, in the place of the first.
* Beside finite numbers the names `NaN`, `Infinity` and `-Infinity` are read.
* Nested values are read by recursion on a budget that the length of the text bounds, so reading
  always ends.  Containers may lie `depthLimit` deep inside each other.
-/

namespace LoftGraph.Json

/-- Why a text is not a document. -/
inductive SyntaxCause where
  | value
  /-- No quoted name of an entry starts here. -/
  | name
  /-- A name is not followed by a colon. -/
  | colon
  /-- An item is followed neither by a comma nor by the end of its container. -/
  | comma
  | extra
  /-- A quoted text does not end. -/
  | unterminated
  /-- A control character stands in a quoted text. -/
  | control
  | escape
  /-- A numeric escape without its four digits. -/
  | numericEscape
  /-- The text starts with a byte order mark. -/
  | byteOrderMark
  /-- A whole number is spelled with more digits than can be read. -/
  | digits (count : Nat)
  /-- Containers lie too deep inside each other. -/
  | tooDeep
  deriving Repr, DecidableEq

/-- A cause with the number of characters before it. -/
structure SyntaxError where
  cause : SyntaxCause
  position : Nat
  deriving Repr, DecidableEq

def SyntaxCause.message : SyntaxCause → String
  | value => "Expecting value"
  | name => "Expecting property name enclosed in double quotes"
  | colon => "Expecting ':' delimiter"
  | comma => "Expecting ',' delimiter"
  | extra => "Extra data"
  | unterminated => "Unterminated string starting at"
  | control => "Invalid control character at"
  | escape => "Invalid \\escape"
  | numericEscape => "Invalid \\uXXXX escape"
  | byteOrderMark => "Unexpected UTF-8 BOM (decode using utf-8-sig)"
  | digits count =>
    s!"Exceeds the limit ({Numeral.digitLimit} digits) for integer string conversion: value has " ++
      s!"{count} digits; use sys.set_int_max_str_digits() to increase the limit"
  | tooDeep => "maximum recursion depth exceeded while decoding"

/-- Is the text a document by its form, but one that cannot be held? -/
def SyntaxCause.isLimit : SyntaxCause → Bool
  | digits _ | tooDeep => true
  | _ => false

/-- The words for an error in a text, with line, column and number of characters before it; a limit
is told without its place. -/
def SyntaxError.message (e : SyntaxError) (text : String) : String :=
  let before := text.toList.take e.position
  let line := before.count '\n' + 1
  let column := (before.reverse.takeWhile (· ≠ '\n')).length + 1
  if e.cause.isLimit then e.cause.message
  else s!"{e.cause.message}: line {line} column {column} (char {e.position})"

/-- The unread text and the number of characters before it. -/
structure Cursor where
  /-- What is still to be read. -/
  rest : List Char
  position : Nat

namespace Cursor

def advance (c : Cursor) (n : Nat) : Cursor := ⟨c.rest.drop n, c.position + n⟩

def fail {α : Type} (c : Cursor) (cause : SyntaxCause) : Except SyntaxError α :=
  .error ⟨cause, c.position⟩

/-- Is the character a blank between tokens? -/
def isSpace (c : Char) : Bool := c = ' ' || c = '\t' || c = '\n' || c = '\r'

def skipSpace (c : Cursor) : Cursor :=
  c.advance (c.rest.takeWhile isSpace).length

/-- Does the unread text start with these characters? -/
def startsWith (c : Cursor) (text : String) : Bool := text.toList.isPrefixOf c.rest

end Cursor

/-! ## Quoted texts -/

/-- The value of a hexadecimal digit. -/
def hexDigit? (c : Char) : Option Nat :=
  if '0' ≤ c ∧ c ≤ '9' then some (c.toNat - '0'.toNat)
  else if 'a' ≤ c ∧ c ≤ 'f' then some (c.toNat - 'a'.toNat + 10)
  else if 'A' ≤ c ∧ c ≤ 'F' then some (c.toNat - 'A'.toNat + 10)
  else none

/-- The value of four hexadecimal digits that something follows. -/
def hexFour? : List Char → Option Nat
  | a :: b :: c :: d :: _ :: _ => do
    let a ← hexDigit? a
    let b ← hexDigit? b
    let c ← hexDigit? c
    let d ← hexDigit? d
    some (((a * 16 + b) * 16 + c) * 16 + d)
  | _ => none

/-- The character of a code unit; a lone half of a pair is kept as one. -/
def unitChar (n : Nat) : Char := if Text.isHalf n then Text.ofHalf n else Char.ofNat n

/-- The character of a single-letter escape. -/
def simpleEscape? : Char → Option Char
  | '"' => some '"'
  | '\\' => some '\\'
  | '/' => some '/'
  | 'b' => some '\x08'
  | 'f' => some '\x0c'
  | 'n' => some '\n'
  | 'r' => some '\r'
  | 't' => some '\t'
  | _ => none

/-- Reads a numeric escape from behind its letter: the character and how much was read.  Two
escapes that form a surrogate pair are one character. -/
def numericEscape? (rest : List Char) : Option (Char × Nat) := do
  let high ← hexFour? rest
  -- only a high surrogate takes a second escape with it
  if 0xd800 ≤ high ∧ high < 0xdc00 then
    match rest.drop 4 with
    | '\\' :: 'u' :: more =>
      match hexFour? more with
      | some low =>
        if 0xdc00 ≤ low ∧ low < 0xe000 then
          some (Char.ofNat (0x10000 + (high - 0xd800) * 0x400 + (low - 0xdc00)), 10)
        else some (unitChar high, 4)
      | none => some (unitChar high, 4)
    | _ => some (unitChar high, 4)
  else some (unitChar high, 4)

/-- Reads a quoted text from behind its opening quote, which stands at `start`. -/
def quotedBody (start : Nat) : Nat → List Char → Cursor → Except SyntaxError (String × Cursor)
  | 0, _, _ => .error ⟨.unterminated, start⟩
  | fuel + 1, done, c =>
    match c.rest with
    | [] => .error ⟨.unterminated, start⟩
    | '"' :: _ => .ok (String.ofList done.reverse, c.advance 1)
    | '\\' :: [] => .error ⟨.unterminated, start⟩
    | '\\' :: 'u' :: rest =>
      match numericEscape? rest with
      | some (ch, used) => quotedBody start fuel (ch :: done) (c.advance (used + 2))
      | none => .error ⟨.numericEscape, c.position + 1⟩
    | '\\' :: letter :: _ =>
      match simpleEscape? letter with
      | some ch => quotedBody start fuel (ch :: done) (c.advance 2)
      | none => c.fail .escape
    | ch :: _ =>
      if ch.toNat < 0x20 then c.fail .control
      else quotedBody start fuel (ch :: done) (c.advance 1)

/-- Reads a quoted text from its opening quote. -/
def quotedText (c : Cursor) : Except SyntaxError (String × Cursor) :=
  quotedBody c.position (c.rest.length + 1) [] (c.advance 1)

/-! ## Numbers -/

/-- The digits a text starts with. -/
def leadingDigits (cs : List Char) : List Char := cs.takeWhile Char.isDigit

def digitsValue (ds : List Char) : Nat :=
  ds.foldl (fun n d => 10 * n + (d.toNat - '0'.toNat)) 0

/-- The whole part of a number: a zero alone, or digits that start with another. -/
def wholeDigits : List Char → List Char
  | '0' :: _ => ['0']
  | cs => leadingDigits cs

/-- The fraction of a number: a point and at least one digit. -/
def fractionDigits : List Char → List Char
  | '.' :: rest => leadingDigits rest
  | _ => []

/-- The exponent of a number, with the number of characters it takes. -/
def exponentPart : List Char → Int × Nat
  | c :: rest =>
    if c = 'e' ∨ c = 'E' then
      let (negative, signLength, rest) :=
        match rest with
        | '-' :: more => (true, 1, more)
        | '+' :: more => (false, 1, more)
        | _ => (false, 0, rest)
      let ds := leadingDigits rest
      if ds.isEmpty then (0, 0)
      else
        (if negative then -(digitsValue ds : Int) else digitsValue ds, 1 + signLength + ds.length)
    else (0, 0)
  | [] => (0, 0)

def number (c : Cursor) : Except SyntaxError (Json × Cursor) :=
  let negative := c.rest.head? = some '-'
  let signLength := if negative then 1 else 0
  let afterSign := c.rest.drop signLength
  let whole := wholeDigits afterSign
  if whole.isEmpty then c.fail .value
  else
    let afterWhole := afterSign.drop whole.length
    let fraction := fractionDigits afterWhole
    let fractionLength := if fraction.isEmpty then 0 else fraction.length + 1
    let (exponent, exponentLength) := exponentPart (afterWhole.drop fractionLength)
    let next := c.advance (signLength + whole.length + fractionLength + exponentLength)
    if fractionLength + exponentLength = 0 then
      if Numeral.digitLimit < whole.length then c.fail (.digits whole.length) else
      let n := digitsValue whole
      .ok (int (if negative then -(n : Int) else n), next)
    else
      let x := Numeral.ofParts (digitsValue (whole ++ fraction)) (exponent - fraction.length)
      .ok (float (if negative then -x else x), next)

/-! ## Values -/

def words : List (String × Json) :=
  [("null", null), ("true", bool true), ("false", bool false), ("NaN", float (0.0 / 0.0)),
   ("Infinity", float (1.0 / 0.0)), ("-Infinity", float (-(1.0 / 0.0)))]

/-- Reads a value that is not a container. -/
def atom (c : Cursor) : Except SyntaxError (Json × Cursor) :=
  match words.find? (fun word => c.startsWith word.1) with
  | some (word, value) => .ok (value, c.advance word.length)
  | none =>
    match c.rest with
    | '"' :: _ => do
      let (text, next) ← quotedText c
      .ok (string text, next)
    | _ => number c

/-- Reads the name of an entry, its colon and the blanks around it. -/
def entryName (c : Cursor) : Except SyntaxError (String × Cursor) :=
  match c.rest with
  | '"' :: _ => do
    let (name, next) ← quotedText c
    let next := next.skipSpace
    match next.rest with
    | ':' :: _ => .ok (name, (next.advance 1).skipSpace)
    | _ => next.fail .colon
  | _ => c.fail .name

/-- How deep containers may lie inside each other. -/
def depthLimit : Nat := 988

mutual

/-- Reads a value at the cursor, with so many containers around it. -/
def value (depth : Nat) : Nat → Cursor → Except SyntaxError (Json × Cursor)
  | 0, c => c.fail .value
  | fuel + 1, c =>
    match c.rest with
    | '[' :: _ =>
      let inside := (c.advance 1).skipSpace
      if depthLimit ≤ depth then c.fail .tooDeep
      else
        match inside.rest with
        | ']' :: _ => .ok (array [], inside.advance 1)
        | _ => elements (depth + 1) fuel [] inside
    | '{' :: _ =>
      let inside := (c.advance 1).skipSpace
      if depthLimit ≤ depth then c.fail .tooDeep
      else
        match inside.rest with
        | '}' :: _ => .ok (object [], inside.advance 1)
        | _ => members (depth + 1) fuel [] inside
    | _ => atom c

/-- Reads the items of an array up to its end, given the ones before in reverse. -/
def elements (depth : Nat) : Nat → List Json → Cursor → Except SyntaxError (Json × Cursor)
  | 0, _, c => c.fail .value
  | fuel + 1, done, c =>
    match value depth fuel c with
    | .error e => .error e
    | .ok (item, next) =>
      let next := next.skipSpace
      match next.rest with
      | ']' :: _ => .ok (array (item :: done).reverse, next.advance 1)
      | ',' :: _ => elements depth fuel (item :: done) (next.advance 1).skipSpace
      | _ => next.fail .comma

/-- Reads the entries of an object up to its end, given the ones before in reverse. -/
def members (depth : Nat) : Nat → List (String × Json) → Cursor → Except SyntaxError (Json × Cursor)
  | 0, _, c => c.fail .name
  | fuel + 1, done, c =>
    match entryName c with
    | .error e => .error e
    | .ok (name, atValue) =>
      match value depth fuel atValue with
      | .error e => .error e
      | .ok (item, next) =>
        let next := next.skipSpace
        match next.rest with
        | '}' :: _ => .ok (object (Fields.ofEntries ((name, item) :: done).reverse), next.advance 1)
        | ',' :: _ => members depth fuel ((name, item) :: done) (next.advance 1).skipSpace
        | _ => next.fail .comma

end

def read (text : String) : Except SyntaxError Json := do
  let cs := text.toList
  if cs.head? = some '\ufeff' then .error ⟨.byteOrderMark, 0⟩
  else
    let start := (⟨cs, 0⟩ : Cursor).skipSpace
    let (document, next) ← value 0 (2 * cs.length + 2) start
    let next := next.skipSpace
    if next.rest.isEmpty then .ok document else next.fail .extra

end LoftGraph.Json
