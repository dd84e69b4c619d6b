/-
The texts that were needed last. A text that is remembered is not read again, so that what is shown
of a file stays the same while the file changes. Only so many are remembered: then the one that was
not needed for the longest time is forgotten.
-/
import StructuralTyping.Files.Basic

namespace StructuralTyping

/-- The texts that are remembered, by the paths of their files. The one needed last is in front. -/
structure Recent where
  texts : List (Path × List Char)
  deriving Repr

namespace Recent

/-- How many texts are remembered. -/
def capacity : Nat := 5

/-- Nothing is remembered yet. -/
def empty : Recent := ⟨[]⟩

/-- Remembers a text as the one needed last. -/
def keep (recent : Recent) (path : Path) (text : List Char) : Recent :=
  ⟨((path, text) :: recent.texts.filter (·.1 != path)).take capacity⟩

/-- A text that is kept is remembered. -/
theorem lookup_keep (recent : Recent) (path : Path) (text : List Char) :
    (recent.keep path text).texts.lookup path = some text := by
  simp [keep, capacity]

theorem length_keep_le (recent : Recent) (path : Path) (text : List Char) :
    (recent.keep path text).texts.length ≤ capacity := by
  simp only [keep]
  exact List.length_take_le ..

end Recent

/-- Showing something, which may need the texts of files. It leaves behind what is remembered then,
also if there is a file that cannot be read. -/
abbrev Showing (α : Type) := EStateM FileFault Recent α

/-- The text of a file: as it is remembered, or else as it can be read now. -/
def Files.recall (files : Files) (path : Path) : Showing (List Char) := fun recent =>
  match recent.texts.lookup path with
  | some text => .ok text (recent.keep path text)
  | .none =>
    match files.text path with
    | .ok text => .ok text (recent.keep path text)
    | .error fault => .error fault recent

end StructuralTyping
