import LoftGraph.Json.Reader
import LoftGraph.MeshFile.Content

/-!
# Files of counts, vertices and faces

The first line names the format.  The next line that is neither empty nor a comment announces how
many vertices, faces and edges there are; then come the coordinates, and every face with the
number of its corners.
-/

namespace LoftGraph.Counted

def title : String := "OFF"

def write (m : Mesh Float) : String :=
  MeshContent.fileText
    ([title, s!"{m.vertexCount} {m.triangleCount} 0"] ++
      m.vertices.toList.map MeshContent.pointText ++
      m.triangles.toList.map (fun t => "3 " ++ MeshContent.cornerText 0 t))

/-- Is a line empty or a comment? -/
def isAside (line : String) : Bool :=
  match Text.trim line.toList with
  | [] => true
  | c :: _ => c = '#'

/-- The numbers of vertices and faces a line announces. -/
def counts (line : String) : Except MeshReadFault (Int × Int) :=
  match Text.split (· = ' ') (Text.trim line.toList) with
  | [vertices, faces, _] => do
    let vertices ← MeshContent.int vertices
    let faces ← MeshContent.int faces
    return (vertices, faces)
  | _ => .error .count

/-- A line of a file, and what follows it. -/
structure Line where
  /-- The text of the line, without its end. -/
  text : String
  /-- Does a carriage return alone end it? -/
  loneReturn : Bool
  rest : List Char

/-- The lines of a file.  `done` is the line so far, backwards. -/
def linesFrom : List Char → List Char → List Line
  | done, [] => if done.isEmpty then [] else [⟨String.ofList done.reverse, false, []⟩]
  | done, '\n' :: rest => ⟨String.ofList done.reverse, false, rest⟩ :: linesFrom [] rest
  | done, '\r' :: '\n' :: rest => ⟨String.ofList done.reverse, false, rest⟩ :: linesFrom [] rest
  | done, '\r' :: rest => ⟨String.ofList done.reverse, true, rest⟩ :: linesFrom [] rest
  | done, c :: rest => linesFrom (c :: done) rest

/-- Is the character blank between numbers? -/
def isGap (c : Char) : Bool := c = ' ' || ('\t' ≤ c && c ≤ '\r')

/-- A number read off the start of a text, and what follows it. -/
abbrev Scan (α : Type) := List Char → Option (α × List Char)

/-- A whole number; one that 64 bits cannot hold becomes the nearest that they can. -/
def scanInt : Scan Int := fun cs =>
  let (negative, rest) := Numeral.sign (cs.dropWhile isGap)
  let digits := rest.takeWhile Char.isDigit
  if digits.isEmpty then none
  else
    let n : Int := Json.digitsValue digits
    let kept := if negative then max (-n) (-(Int.pow 2 63)) else min n (Int.pow 2 63 - 1)
    some (kept, rest.drop digits.length)

/-- The most characters of a text that are looked at for one floating point number. -/
def numberLimit : Nat := 120

/-- The number of characters in which a text agrees with a name, in capitals or not. -/
def agreement : List Char → List Char → Nat
  | n :: name, c :: cs => if c.toLower = n then agreement name cs + 1 else 0
  | _, _ => 0

/-- The sign of a text, and what follows it. -/
def signOf (cs : List Char) : List Char := cs.take (cs.length - (Numeral.sign cs).2.length)

/-- The remark in brackets that may follow the name of an undefined number. -/
def remark : List Char → List Char
  | '(' :: rest =>
    let inside := rest.takeWhile (fun c => c.isAlphanum || c = '_')
    '(' :: inside ++ ((rest.drop inside.length).take 1).filter (· = ')')
  | _ => []

/-- The exponent that may follow the digits of a number; its own digits may be missing. -/
def exponentPart : List Char → List Char
  | c :: rest =>
    if c = 'e' ∨ c = 'E' then
      c :: signOf rest ++ (Numeral.sign rest).2.takeWhile Char.isDigit
    else []
  | [] => []

/-- The digits a text starts with, and the fraction behind them. -/
def digitPart (cs : List Char) : List Char :=
  let whole := cs.takeWhile Char.isDigit
  match cs.drop whole.length with
  | '.' :: rest => whole ++ '.' :: rest.takeWhile Char.isDigit
  | _ => whole

/-- What a text starts with that looks like a floating point number, its sign apart. -/
def numberPart (cs : List Char) : List Char :=
  let cut := fun (name : String) => cs.take (agreement name.toList cs)
  match cs with
  | [] => []
  | c :: _ =>
    if c.toLower = 'n' then
      if (cut "nan").length = 3 then cut "nan" ++ remark (cs.drop 3) else cut "nan"
    else if c.toLower = 'i' then cut "infinity"
    else
      let digits := digitPart cs
      digits ++ exponentPart (cs.drop digits.length)

/-- The number that what looks like one stands for, if any.  The name of infinity may be cut short,
and an exponent without digits does not count. -/
def numberValue (cs : List Char) : Option Float :=
  let name := Text.lower cs
  if name.take 3 = "nan".toList then some (0.0 / 0.0)
  else if name.take 3 = "inf".toList then some (1.0 / 0.0)
  else
    let digits := digitPart cs
    let exponent := (cs.drop digits.length).drop 1
    if (Numeral.sign exponent).2.isEmpty then Numeral.float? (String.ofList digits)
    else Numeral.float? (String.ofList cs)

/-- A floating point number, also by name. -/
def scanFloat : Scan Float := fun cs =>
  let cs := cs.dropWhile isGap
  let (negative, _) := Numeral.sign cs
  let signed := (signOf cs).length
  let found := (numberPart (cs.drop signed)).take (numberLimit - signed)
  (numberValue found).map (fun x => (if negative then -x else x, cs.drop (signed + found.length)))

/-- Up to so many numbers, and what follows them.  A number that no gap follows is the last. -/
def scanUpTo {α : Type} (scan : Scan α) : Nat → List Char → List α × List Char
  | 0, cs => ([], cs)
  | n + 1, cs =>
    match scan cs with
    | none => ([], cs)
    | some (x, rest) =>
      if rest.head?.any isGap then
        let (xs, rest) := scanUpTo scan n (rest.dropWhile isGap)
        (x :: xs, rest)
      else ([x], rest)

/-- So many rows of numbers of one width, and what follows them; all the numbers that are left for
a count below zero. -/
def rows {α : Type} (scan : Scan α) (width : Nat) (count : Int) (cs : List Char) :
    Except MeshReadFault (List (List α) × List Char) := do
  match count with
  | .ofNat n =>
    if Nat.pow 2 63 ≤ width * n then throw .tooLarge
    let (numbers, rest) := scanUpTo scan (width * n) cs
    if numbers.length < width * n then throw .count
    return (← MeshContent.rowsOf width numbers, rest)
  | .negSucc _ =>
    let (numbers, rest) := scanUpTo scan cs.length cs
    return (← MeshContent.rowsOf width numbers, rest)

/-- The content of a text.  The numbers are read from the place where the line of counts ends, and
after a carriage return alone that place is out of range. -/
def read (text : String) : Except MeshReadFault MeshContent :=
  match linesFrom [] text.toList with
  | [] => .error .unreadable
  | first :: rest =>
    if String.ofList (Text.trim first.text.toList) ≠ title then .error .unreadable
    else
      match rest.dropWhile (fun line => isAside line.text) with
      | [] => .error .unreadable
      | line :: _ => do
        let (vertices, faces) ← counts line.text
        if line.loneReturn then throw .tooLarge
        let (points, rest) ← rows scanFloat 3 vertices line.rest
        let (corners, _) ← rows scanInt 4 faces rest
        let triangles ← MeshContent.countedTriangles corners.flatten
        return ⟨points, some triangles⟩

end LoftGraph.Counted
