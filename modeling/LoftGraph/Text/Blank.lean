/-!
# Blank characters

The characters that count as blank around a number or a word: the separators of Unicode, the
controls from tab to carriage return, the four information separators and the next-line control.
`Text.trim` drops them from both ends.
-/

namespace LoftGraph.Text

/-- Ranges of blank characters, by code point, in increasing order. -/
def blankRanges : List (Nat × Nat) :=
  [(0x09, 0x0d), (0x1c, 0x20), (0x85, 0x85), (0xa0, 0xa0), (0x1680, 0x1680), (0x2000, 0x200a),
   (0x2028, 0x2029), (0x202f, 0x202f), (0x205f, 0x205f), (0x3000, 0x3000)]

/-- Does a list of ranges in increasing order hold a code point?  Only the first range that does
not end before it can. -/
def inRanges (ranges : List (Nat × Nat)) (n : Nat) : Bool :=
  (ranges.find? (fun range => n ≤ range.2)).any (fun range => range.1 ≤ n)

def isBlank (c : Char) : Bool := inRanges blankRanges c.toNat

/-- The text without the characters of a class that it starts or ends with. -/
def trimOf (drops : Char → Bool) (cs : List Char) : List Char :=
  ((cs.dropWhile drops).reverse.dropWhile drops).reverse

/-- The text without the blank characters it starts or ends with. -/
def trim (cs : List Char) : List Char := trimOf isBlank cs

/-- ASCII letters in lower case; every other character as it is. -/
def lower (cs : List Char) : List Char := cs.map Char.toLower

end LoftGraph.Text
