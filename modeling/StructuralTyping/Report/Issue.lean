/-
Issues: what a human is told. An issue has an introduction, notes that point at source text, and a
footer. Showing a note may need a source file; a note without one says in words where it is.
-/
import StructuralTyping.Files.Recent
import StructuralTyping.Source.Illustration

namespace StructuralTyping

/-- A caption for a span, if one is known. -/
structure Note where
  span : Option Span
  caption : String
  deriving Repr

/-- The file that a note points into. -/
def Note.path (note : Note) : Option Path := note.span.bind (·.path)

/-- A note in words: an illustration if its file is known, else its line and column. -/
def Note.text (files : Files) (note : Note) : Showing String :=
  match note.span with
  | none => return "    at an unknown location: " ++ note.caption
  | some span =>
    match span.path with
    | none =>
      return "    at line " ++ toString span.start.line ++ ", column " ++
        toString span.start.column ++ ": " ++ note.caption
    | some path => return Illustration.ofSpan (← files.recall path) span note.caption

/-- An issue: an introduction, notes, and lines below them. -/
structure Issue where
  intro : String
  notes : List Note
  footer : List String
  deriving Repr

namespace Issue

/-- The lines of notes. The path of a note stands above it if it is not that of the note before. -/
def noteLines (files : Files) (current : Option Path) : List Note → Showing (List String)
  | [] => return []
  | note :: rest => do
    let heading :=
      match note.path with
      | some path => if current = some path then [] else [path.text]
      | none => []
    let text ← note.text files
    let lines ← noteLines files (note.path.or current) rest
    return heading ++ text :: lines

/-- An issue in words. -/
def text (files : Files) (issue : Issue) : Showing String := do
  let notes ← noteLines files none issue.notes
  return "\n".intercalate (issue.intro :: "" :: notes ++ issue.footer)

/-! ## The kinds of issue -/

/-- A file is missing. -/
def noSuchFile (path : Path) : Issue := ⟨"I see no file called " ++ path.text, [], []⟩

/-- A file cannot be read as what it should be. -/
def brokenFile (path : Path) (why : String) : Issue :=
  ⟨"Something went pear-shaped while trying to read " ++ path.text, [], [why]⟩

/-- A term tree is refused. -/
def malformedTree (path : Option Path) (place hint : String) : Issue :=
  let file :=
    match path with
    | some path => path.text
    | none => "the input"
  ⟨"The term tree in " ++ file ++ " is not well-formed at " ++ place ++ ".", [], [hint]⟩

/-- A term is ill-typed. -/
def typeError (nature : String) (span : Option Span) : Issue :=
  ⟨"Type-checking found a problem: " ++ nature, [⟨span, nature⟩], []⟩

end Issue

end StructuralTyping
