import LoftGraph.Text.Blank

/-!
# Lines and words

`Text.lines` splits a text at its line ends, of whichever convention, `Text.shownLines` also at the
characters that end a line when a text is shown, and `Text.words` splits a line into the words that
blanks separate.
-/

namespace LoftGraph.Text

/-- Splits off what stands before the first separator, again and again.  `done` is the piece so
far, backwards. -/
def splitAux (separator : Char → Bool) : List Char → List Char → List String
  | done, [] => [String.ofList done.reverse]
  | done, c :: rest =>
    if separator c then String.ofList done.reverse :: splitAux separator [] rest
    else splitAux separator (c :: done) rest

/-- The pieces between separators; always at least one. -/
def split (separator : Char → Bool) (cs : List Char) : List String := splitAux separator [] cs

/-- Line ends of every convention as the newline character. -/
def plainLineEnds : List Char → List Char
  | [] => []
  | '\r' :: '\n' :: rest => '\n' :: plainLineEnds rest
  | '\r' :: rest => '\n' :: plainLineEnds rest
  | c :: rest => c :: plainLineEnds rest

/-- The lines of a text, each ended by such a character.  A line end at the end of the text starts
no further line. -/
def linesBy (ends : Char → Bool) (text : String) : List String :=
  let pieces := split ends (plainLineEnds text.toList)
  if pieces.getLast? = some "" then pieces.dropLast else pieces

def lines (text : String) : List String := linesBy (· = '\n') text

/-- Does the character end a line when a text is shown?  Tabulators and separators that stand
between lines, pages and paragraphs do. -/
def endsShownLine (c : Char) : Bool :=
  ['\n', '\x0b', '\x0c', '\x1c', '\x1d', '\x1e', '\x85', '\u2028', '\u2029'].contains c

/-- The lines of a text as it is shown. -/
def shownLines (text : String) : List String := linesBy endsShownLine text

def words (text : String) : List String := (split isBlank text.toList).filter (· ≠ "")

end LoftGraph.Text
