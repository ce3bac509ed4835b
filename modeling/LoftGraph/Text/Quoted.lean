import LoftGraph.Decimal.Layout
import LoftGraph.Text.Glyph
import LoftGraph.Text.Half

/-!
# Quoted text

How a text is shown inside a message: between single quotes, or between double quotes when it
holds a single quote and no double one.  The quote in use, the backslash and the characters that
have no glyph are escaped.

* `Text.quoted` is the form with its quotes.
* `Text.escape` writes one character, given the quote in use.
-/

namespace LoftGraph.Text

/-- Lower-case hexadecimal digits, filled up with zeros on the left. -/
def hexDigits (width n : Nat) : String :=
  let text := String.ofList (Nat.toDigits 16 n)
  NumberLayout.zeros (width - text.length) ++ text

/-- One character of a quoted text. -/
def escape (quote c : Char) : String :=
  let n := c.toNat
  if c = quote ∨ c = '\\' then "\\" ++ c.toString
  else if c = '\n' then "\\n"
  else if c = '\r' then "\\r"
  else if c = '\t' then "\\t"
  else if isHidden c then
    if n < 0x100 then "\\x" ++ hexDigits 2 n
    else if n < 0x10000 then "\\u" ++ hexDigits 4 n
    else
      match half? c with
      | some unit => "\\u" ++ hexDigits 4 unit
      | none => "\\U" ++ hexDigits 8 n
  else c.toString

/-- The quote a text is shown between. -/
def quoteFor (text : String) : Char :=
  if text.contains '\'' && !text.contains '"' then '"' else '\''

def quoted (text : String) : String :=
  let quote := quoteFor text
  let body := text.toList.map (escape quote)
  quote.toString ++ String.join body ++ quote.toString

end LoftGraph.Text
