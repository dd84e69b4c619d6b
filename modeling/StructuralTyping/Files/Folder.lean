/-
A folder held in memory. Names may lead through folders, which are there as soon as something is in
them; double dots lead back, and only through what is there.
-/
import StructuralTyping.Files.Basic

namespace StructuralTyping

/-- What stands at a path: a file with its contents, or a folder. -/
inductive Entry where
  | file (bytes : List UInt8)
  | folder
  deriving Repr

/-- A folder: where it is, and what it holds, by the components below the root. -/
structure Folder where
  home : List String
  entries : List (List String × Entry)
  deriving Repr

namespace Folder

/-- The folder at `home` with the given contents; no bytes mean an empty folder. If two names lead
to one place, the later contents are there. -/
def ofContents (home : Path) (contents : List (String × Option (List UInt8))) : Folder :=
  ⟨home.parts, contents.reverse.map fun (name, bytes) =>
    (home.parts ++ (Path.ofString name).parts,
      match bytes with
      | some bytes => .file bytes
      | none => .folder)⟩

/-- What stands at a place below the root. -/
def entry? (folder : Folder) (place : List String) : Option Entry :=
  match folder.entries.lookup place with
  | some entry => some entry
  | none =>
    if place.isPrefixOf folder.home || folder.entries.any (place.isPrefixOf ·.1) then some .folder
    else none

/-- The most octets that a name may have. -/
def maxName : Nat := 255

/-- The contents of the file that the names lead to, from a folder below the root. -/
def walk (folder : Folder) (here : List String) : List String → Except FileFault (List UInt8)
  | [] => .error .isFolder
  | name :: rest =>
    if name == ".." then walk folder here.dropLast rest
    else if maxName < name.utf8ByteSize then .error .nameTooLong
    else
      match folder.entry? (here ++ [name]) with
      | none => .error .missing
      | some .folder => walk folder (here ++ [name]) rest
      | some (.file bytes) => if rest.isEmpty then .ok bytes else .error .notFolder

/-- The most octets that the text of a path may have. -/
def maxPath : Nat := 4095

/-- The files of a folder; relative paths begin at the folder itself. -/
def files (folder : Folder) : Files :=
  ⟨fun path =>
    if path.holdsNull then .error .nullInName
    else if maxPath < path.text.utf8ByteSize then .error .nameTooLong
    else walk folder (if path.isAbsolute then [] else folder.home) path.parts⟩

end Folder

end StructuralTyping
