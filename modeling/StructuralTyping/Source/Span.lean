/-
Points and spans of source text. Lines are counted from one and columns from zero. A span is read
from a location tag; a blank tag is no span. Widths are at least one, and offsets count characters
from the start of the text.
-/
import StructuralTyping.Files.Path
import StructuralTyping.Json.Basic
import StructuralTyping.Text.Blank
import StructuralTyping.Text.Lines

namespace StructuralTyping

/-- A place in a text. -/
structure Point where
  line : Int
  column : Int
  deriving Repr, DecidableEq, Inhabited

/-- A stretch of text from `start` up to `stop`, in the file at `path` if it is known. -/
structure Span where
  path : Option Path
  start : Point
  stop : Point
  deriving Repr, DecidableEq, Inhabited

/-- Why a location tag is no span: a field is missing, or something is of the wrong kind. -/
inductive TagFault where
  | missing (key : String)
  | wrongKind
  deriving Repr, DecidableEq

/-- A field that has to be there. -/
def Json.require (value : Json) (key : String) : Except TagFault Json :=
  match value.field? key with
  | some part => .ok part
  | none => .error (.missing key)

/-- Reads a point: both coordinates are there, and both are integers. -/
def Point.read (value : Json) : Except TagFault Point :=
  match value with
  | .object _ => do
    let line ← value.require "line"
    let column ← value.require "column"
    match line, column with
    | .number (.int line), .number (.int column) => return ⟨line, column⟩
    | _, _ => .error .wrongKind
  | _ => .error .wrongKind

namespace Span

/-- Reads a location tag. Without an end, a span ends where it starts. -/
def read (path : Option Path) (tag : Json) : Except TagFault (Option Span) :=
  if tag.isBlank then .ok none
  else
    match tag with
    | .object _ => do
      let start ← Point.read (← tag.require "start")
      match tag.field? "end" with
      | some value => return some ⟨path, start, ← Point.read value⟩
      | none => return some ⟨path, start, start⟩
    | _ => .error .wrongKind

/-- How many characters of its first line a span covers: up to its end, or up to the last
character of the line that is not blank. -/
def widthOn (span : Span) (line : List Char) : Int :=
  let width :=
    if span.stop.line = span.start.line then span.stop.column - span.start.column
    else (Text.trimEnd line).length - span.start.column
  max width 1

theorem one_le_widthOn (span : Span) (line : List Char) : 1 ≤ span.widthOn line :=
  Int.le_max_right _ _

end Span

namespace Text

/-- The items before a bound; a negative bound counts from the end. -/
def upTo {α : Type} (bound : Int) (items : List α) : List α :=
  items.take (if 0 ≤ bound then bound else items.length + bound).toNat

/-- The offset of a point: the lengths of the lines before it, and its column. -/
def offsetOf (text : List Char) (point : Point) : Int :=
  let before := upTo (point.line - 1) (splitLines isLineEnd text)
  before.flatten.length + point.column

end Text

end StructuralTyping
