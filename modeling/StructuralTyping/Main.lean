/-
The program: hands the command line and the files it names to `Command.run`, prints what comes back
and exits with its code. A mishap ends the program with exit code 1.
-/
import StructuralTyping.Command.Run

namespace StructuralTyping

/-- The contents of a file on disk. -/
def readDisk (path : Path) : IO (Except FileFault (List UInt8)) := do
  if path.holdsNull then return .error .nullInName
  try
    return .ok (← IO.FS.readBinFile path.text).toList
  catch
    -- a folder opens and fails when it is read; only a failure to open names the file
    | .inappropriateType (some _) _ _ => return .error .notFolder
    | .inappropriateType none _ _ => return .error .isFolder
    | .permissionDenied .. => return .error .denied
    | .invalidArgument .. => return .error .nameTooLong
    | _ => return .error .missing

/-- The files at some paths, read once. -/
def readFiles (paths : List Path) : IO Files := do
  let found ← paths.mapM fun path => return (path, ← readDisk path)
  return ⟨fun path => (found.lookup path).getD (.error .missing)⟩

/-- A pick at random. -/
def randomPick : IO Pick := do
  let below (items : List String) : IO Nat := IO.rand 0 (items.length - 1)
  return ⟨← below Pick.particles, ← below Pick.oaths, ← below Pick.resignations⟩

/-- Runs the command on the files of the disk. -/
def runCommand (words : List String) : IO UInt32 := do
  let folder := Path.ofString (← IO.currentDir).toString
  let files ← readFiles (Command.inputs folder words)
  let outcome := Command.run files folder (← randomPick) words
  (← IO.getStdout).putStr outcome.stdout
  (← IO.getStderr).putStr outcome.stderr
  match outcome.ending with
  | .ok code => return code.toUInt32
  | .error _ => return 1

end StructuralTyping

def main (words : List String) : IO UInt32 := StructuralTyping.runCommand words
