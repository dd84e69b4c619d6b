/-
Paths in normal form. Single dots and empty components are dropped and double dots stay; a path
that is absolute keeps one leading slash, or two if it has exactly two. Two texts name the same
path if their normal forms agree.
-/
namespace StructuralTyping

/-- A path: how many slashes it begins with, and its components. -/
structure Path where
  slashes : Nat
  parts : List String
  deriving Repr, DecidableEq, Inhabited

namespace Path

/-- The components of a text between its slashes. -/
def components (text : List Char) : List (List Char) :=
  match text with
  | [] => [[]]
  | c :: rest =>
    if c == '/' then [] :: components rest
    else
      match components rest with
      | [] => [[c]]
      | first :: others => (c :: first) :: others

/-- The path that a text names. -/
def ofString (text : String) : Path :=
  let lead := (text.toList.takeWhile (· == '/')).length
  let parts := (components text.toList).map String.ofList
  ⟨if lead = 2 then 2 else min lead 1, parts.filter fun part => part != "" && part != "."⟩

/-- Whether a path begins at the root. -/
def isAbsolute (path : Path) : Bool := 0 < path.slashes

/-- A path seen from a folder; an absolute one is itself. -/
def join (folder path : Path) : Path :=
  if path.isAbsolute then path else ⟨folder.slashes, folder.parts ++ path.parts⟩

/-- The text of a path; the empty path is a dot. -/
def text (path : Path) : String :=
  let body := "/".intercalate path.parts
  if path.slashes = 0 ∧ path.parts.isEmpty then "."
  else String.ofList (List.replicate path.slashes '/') ++ body

/-- Whether a component holds the null character, which no file name does. -/
def holdsNull (path : Path) : Bool := path.parts.any (·.toList.contains '\x00')

end Path

end StructuralTyping
