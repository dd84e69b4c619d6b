/-
Files as the program sees them: a look-up from paths to contents, which says why if there is
nothing to read. The text of a file is strict UTF-8 with every line terminator read as a line feed.
-/
import StructuralTyping.Files.Path
import StructuralTyping.Text.Lines
import StructuralTyping.Text.Utf8

namespace StructuralTyping

/-- Why a file cannot be read. -/
inductive FileFault where
  | missing
  | isFolder
  | notFolder
  | nameTooLong
  | denied
  | nullInName
  | notText (fault : Text.Utf8.Fault)
  deriving Repr, DecidableEq

/-- The message of a fault about a path. -/
def FileFault.message (path : Path) : FileFault → String
  | .missing => "[Errno 2] No such file or directory: " ++ Text.quoted path.text
  | .isFolder => "[Errno 21] Is a directory: " ++ Text.quoted path.text
  | .notFolder => "[Errno 20] Not a directory: " ++ Text.quoted path.text
  | .nameTooLong => "[Errno 36] File name too long: " ++ Text.quoted path.text
  | .denied => "[Errno 13] Permission denied: " ++ Text.quoted path.text
  | .nullInName => "embedded null byte"
  | .notText fault => fault.message

/-- The files at hand, by path. -/
structure Files where
  bytes : Path → Except FileFault (List UInt8)

namespace Files

/-- No files at all. -/
def none : Files := ⟨fun _ => .error .missing⟩

/-- The text of a file. -/
def text (files : Files) (path : Path) : Except FileFault (List Char) := do
  let bytes ← files.bytes path
  match Text.Utf8.decode bytes with
  | .ok text => return Text.unifyNewlines text
  | .error fault => .error (.notText fault)

end Files

end StructuralTyping
