/-
The command: reads the program's tree, checks it, and prints its type or a complaint. A run is a
function of the files at hand, the folder it starts in, the pick of an outburst and the words of
the command line; it ends with an exit code or with a mishap that nothing catches.
-/
import StructuralTyping.Command.Arguments
import StructuralTyping.Session.Basic

namespace StructuralTyping.Command

/-- What a run prints and how it ends. -/
structure Outcome where
  stdout : String
  stderr : String
  ending : Except Mishap Nat

/-- How the command is used. -/
def usage : String := "usage: tinyts [-h] [-s SOURCE] [-c] program\n"

/-- What the command says without any words. -/
def introduction : String :=
  "This is a type-checker for a tiny typed language.\n\n" ++ usage ++ "\n\n" ++
  "It reads the JSON term tree that a parser produces. For example:\n\n" ++
  "    tinyts program.json\n\n" ++
  "will print the type of the program if it is well-typed, or else try to explain why not.\n\n" ++
  "    tinyts program.json -s program.ts\n\n" ++
  "does the same, but can point at the guilty part of program.ts when complaining.\n\n" ++
  "    tinyts -h\n\n" ++
  "will explain all the arguments.\n"

/-- What the command says when help is asked for. -/
def help : String :=
  usage ++ "\n" ++
  "Type-checker for term trees of a tiny typed language.\n\n" ++
  "positional arguments:\n" ++
  "  program               a JSON term tree, as a parser emits it.\n\n" ++
  "options:\n" ++
  "  -h, --help            show this help message and exit\n" ++
  "  -s SOURCE, --source SOURCE\n" ++
  "                        the source text the tree was parsed from, for\n" ++
  "                        illustrating complaints.\n" ++
  "  -c, --check           Check verbosely, reporting progress on stderr.\n"

/-- Complains after what was printed before, and ends with exit code 1. -/
def giveUp (files : Files) (pick : Pick) (report : Report) (before : String) : Outcome :=
  let (printed, _) := report.complain files pick
  match printed.fault with
  | some fault => ⟨"", before ++ printed.text, .error (.cannotShow fault)⟩
  | none => ⟨"", before ++ printed.text, .ok 1⟩

/-- Reads and checks a program. When a term has been read, there may be no issue yet. -/
def work (files : Files) (report : Report) (program : Path) (source : Option Path) : Ran Verdict :=
  let read := report.readDocument files program source
  match read.result with
  | .error mishap => ⟨read.report, read.printed, .error mishap⟩
  | .ok term =>
    if read.report.isOk then
      let checked := read.report.checkProgram .empty term
      { checked with printed := read.printed ++ checked.printed }
    else ⟨read.report, read.printed, .error (.issuesHeld "")⟩

/-- Ends a run with what it has worked out. The report says whether something is wrong; something
has to be, if reading was given up. -/
def finish (files : Files) (pick : Pick) (worked : Ran Verdict) : Outcome :=
  match worked.result with
  | .ok verdict =>
    if worked.report.isSick then giveUp files pick worked.report worked.printed
    else ⟨verdict.text ++ "\n", worked.printed, .ok 0⟩
  | .error .gaveUp =>
    if worked.report.isSick then giveUp files pick worked.report worked.printed
    else ⟨"", worked.printed, .error (.issuesHeld "")⟩
  | .error .tooManyIssues => giveUp files pick worked.report worked.printed
  | .error mishap => ⟨"", worked.printed, .error mishap⟩

/-- Runs for a program. -/
def checkFile (files : Files) (pick : Pick) (report : Report) (program : Path)
    (source : Option Path) : Outcome :=
  finish files pick (work files report program source)

/-- Runs with arguments. A source that is given has to be a file; an empty one counts as none. -/
def runWith (files : Files) (folder : Path) (pick : Pick) (arguments : Arguments) : Outcome :=
  let report := Report.fresh Report.defaultLimit (0 < arguments.checks)
  let program := folder.join (.ofString arguments.program)
  match arguments.source with
  | none | some "" => checkFile files pick report program none
  | some text =>
    let source := folder.join (.ofString text)
    match files.bytes source with
    | .ok _ | .error .denied => checkFile files pick report program (some source)
    | .error .nameTooLong => ⟨"", "", .error (.cannotShow .nameTooLong)⟩
    | .error _ => giveUp files pick (report.add (.noSuchFile source)) ""

/-- The paths that a run may read. -/
def inputs (folder : Path) (words : List String) : List Path :=
  match parse words with
  | .ok arguments =>
    folder.join (.ofString arguments.program) ::
      arguments.source.toList.map fun text => folder.join (.ofString text)
  | .error _ => []

/-- Runs the command. -/
def run (files : Files) (folder : Path) (pick : Pick) (words : List String) : Outcome :=
  if words.isEmpty then ⟨introduction, "", .ok 0⟩
  else
    match parse words with
    | .error .help => ⟨help, "", .ok 0⟩
    | .error (.misuse misuse) =>
      ⟨"", usage ++ "tinyts: error: " ++ misuse.message ++ "\n", .ok 2⟩
    | .ok arguments => runWith files folder pick arguments

end StructuralTyping.Command
