/-
Quoted text in messages. A text stands between single quotes, or between double quotes if it holds
a single one and no double one; the quote in use, the backslash and what is not printable are
escaped, by the shortest of the numbered escapes that fits.
-/
import StructuralTyping.Text.Printable

namespace StructuralTyping.Text

/-- The lower-case hexadecimal digits of a number, padded with zeros. -/
def hex (width n : Nat) : String :=
  let digits := Nat.toDigits 16 n
  String.ofList (List.replicate (width - digits.length) '0' ++ digits)

/-- The quote that a text is put in. -/
def quoteFor (text : List Char) : Char :=
  if text.contains '\'' && !text.contains '"' then '"' else '\''

/-- How one character is written between the quotes. -/
def escape (quote c : Char) : String :=
  if c == '\\' then "\\\\"
  else if c == quote then "\\" ++ quote.toString
  else if c == '\n' then "\\n"
  else if c == '\r' then "\\r"
  else if c == '\t' then "\\t"
  else if isPrintable c then c.toString
  else if c.toNat ≤ 0xff then "\\x" ++ hex 2 c.toNat
  else if c.toNat ≤ 0xffff then "\\u" ++ hex 4 c.toNat
  else "\\U" ++ hex 8 c.toNat

/-- A text in quotes. -/
def quoted (text : String) : String :=
  let quote := quoteFor text.toList
  quote.toString ++ String.join (text.toList.map (escape quote)) ++ quote.toString

/-- A list of texts in brackets, each in quotes. -/
def quotedList (texts : List String) : String := "[" ++ ", ".intercalate (texts.map quoted) ++ "]"

end StructuralTyping.Text
