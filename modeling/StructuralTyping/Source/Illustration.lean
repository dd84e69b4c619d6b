/-
Showing a span in its source text: the row where it begins, with its line number in front, and
below it carets under the span with a caption. Tabs are repeated below so that the carets stand
right.
-/
import StructuralTyping.Source.Span

namespace StructuralTyping.Illustration

/-- The rows of a text. There is always a last one, which may be empty, without a terminator. -/
def rows (text : List Char) : List (List Char) :=
  let lines := Text.splitLines Text.isRowEnd text
  match text.getLast? with
  | some c => if Text.isRowEnd c then lines ++ [[]] else lines
  | none => [[]]

/-- The row that an offset is in, and the column there. The last row has no end. -/
def rowAt : List (List Char) → Nat → List Char × Nat
  | [], offset => ([], offset)
  | [row], offset => (row, offset)
  | row :: rest, offset =>
    if offset < row.length then (row, offset) else rowAt rest (offset - row.length)

/-- The row and column of an offset. One before the text is in the first row, and its column
counts from the end of the text. -/
def locate (text : List Char) (offset : Int) : List Char × Int :=
  if offset < 0 then ((rows text).headD [], offset - text.length)
  else
    let (row, column) := rowAt (rows text) offset.toNat
    (row, column)

/-- A line number on six places, with a blank where a minus would stand, and a bar. -/
def label (line : Int) : List Char :=
  let digits := (if line < 0 then '-' else ' ') :: Nat.toDigits 10 line.natAbs
  List.replicate (6 - digits.length) ' ' ++ digits ++ [' ', '|']

/-- A row with carets below it, from a column on and not past its end, and a caption. -/
def underline (label row : List Char) (column width : Int) (caption : String) : String :=
  let above := label ++ Text.upTo column row
  let blanks := above.map fun c => if c == '\t' then '\t' else ' '
  let carets := max 1 (min width (row.length - column))
  String.ofList (label ++ Text.trimEnd row ++ '\n' :: blanks ++ List.replicate carets.toNat '^') ++
    " " ++ caption

/-- The illustration of a span in a text. -/
def ofSpan (text : List Char) (span : Span) (caption : String) : String :=
  let (row, column) := locate text (Text.offsetOf text span.start)
  underline (label span.start.line) row column (span.widthOn row) caption

end StructuralTyping.Illustration
