/-
The uses of a report, one value for each, and what a use answers. A mishap ends its use and nothing
else: the report goes on as it is then.
-/
import StructuralTyping.Session.Basic

namespace StructuralTyping

/-- A use of a report. -/
inductive Use where
  | isOk
  | isSick
  | texts
  | progress (words : List String)
  | noSuchFile (path : Path)
  | brokenFile (path : Path) (why : String)
  | malformedTree (path : Option Path) (place hint : String)
  | typeError (nature : String) (span : Option Span)
  | readTree (source : Option Path) (tree : Json)
  | readDocument (path : Path) (source : Option Path)
  | checkProgram (env : Env) (term : ReadTerm)
  | complain
  | assertNoIssues (message : String)

/-- What a use answers. -/
inductive Answer where
  | nothing
  | truth (value : Bool)
  | texts (texts : List String)
  | term (term : ReadTerm)
  | verdict (verdict : Verdict)

/-- The same step with its result wrapped. -/
def Ran.map {α β : Type} (f : α → β) (ran : Ran α) : Ran β :=
  ⟨ran.report, ran.printed, ran.result.map f⟩

namespace Use

/-- Runs a use of a report. -/
def run (files : Files) (pick : Pick) (report : Report) : Use → Ran Answer
  | .isOk => ⟨report, "", .ok (.truth report.isOk)⟩
  | .isSick => ⟨report, "", .ok (.truth report.isSick)⟩
  | .texts =>
    match report.texts files with
    | (.ok shown, report) => ⟨report, "", .ok (.texts shown)⟩
    | (.error fault, report) => ⟨report, "", .error (.cannotShow fault)⟩
  | .progress words => ⟨report, report.progress words, .ok .nothing⟩
  | .noSuchFile path => report.hold (.noSuchFile path) "" (.ok .nothing)
  | .brokenFile path why => report.hold (.brokenFile path why) "" (.ok .nothing)
  | .malformedTree path place hint =>
    report.hold (.malformedTree path place hint) "" (.ok .nothing)
  | .typeError nature span => report.hold (.typeError nature span) "" (.ok .nothing)
  | .readTree source tree => (report.readTree source tree).map .term
  | .readDocument path source => (report.readDocument files path source).map .term
  | .checkProgram env term => (report.checkProgram env term).map .verdict
  | .complain =>
    let (printed, report) := report.complain files pick
    match printed.fault with
    | some fault => ⟨report, printed.text, .error (.cannotShow fault)⟩
    | none => ⟨report, printed.text, .ok .nothing⟩
  | .assertNoIssues message =>
    let (printed, report) := report.complain files pick
    match printed.fault with
    | some fault => ⟨report, printed.text, .error (.cannotShow fault)⟩
    | none =>
      if report.isOk then ⟨report, "", .ok .nothing⟩
      else ⟨report, printed.text, .error (.issuesHeld (pick.outburst ++ " " ++ message))⟩

/-- Runs uses one after the other; each goes on with the report that the one before left. -/
def runAll (files : Files) (pick : Pick) (report : Report) : List Use → List (Ran Answer)
  | [] => []
  | use :: rest =>
    let ran := use.run files pick report
    ran :: runAll files pick ran.report rest

end Use

end StructuralTyping
