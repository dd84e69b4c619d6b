/-
Working under a report: reading trees and files, and checking programs, so that the report knows
what went wrong. What a step leaves behind is the new report, what it printed, and its result or
the mishap that ended it.
-/
import StructuralTyping.Json.Parser
import StructuralTyping.Report.Complaint
import StructuralTyping.Tree.TermReader
import StructuralTyping.Ty.Printer
import StructuralTyping.Typing.Judge

namespace StructuralTyping

/-- Terms as they are read. -/
abbrev ReadTerm := Term (Option Span)

/-- What ends a step early. `issuesHeld` is for an assertion about the issues of a report that fails. -/
inductive Mishap where
  | gaveUp
  | tooManyIssues
  | stray (stray : Tree.Stray)
  | repeatedNames (fault : RepeatedNames)
  | cannotShow (fault : FileFault)
  | issuesHeld (message : String)
  deriving Repr

/-- What a check finds: a type, or what is wrong and where. -/
inductive Verdict where
  | type (type : Ty)
  | complaint (violation : Violation) (guilty : Option ReadTerm)

/-- A verdict in words: the type, or what stands in its place. -/
def Verdict.text : Verdict → String
  | .type found => found.render
  | .complaint violation _ => (Ty.error violation.nature).render

/-- What a step leaves behind. -/
structure Ran (α : Type) where
  report : Report
  printed : String
  result : Except Mishap α

namespace Report

/-- Adds an issue and goes on with a result, unless the report is full now. -/
def hold {α : Type} (report : Report) (issue : Issue) (printed : String)
    (result : Except Mishap α) : Ran α :=
  let report := report.add issue
  ⟨report, printed, if report.isFull then .error .tooManyIssues else result⟩

/-- Takes what a reader found: a hint becomes an issue, and reading is given up. -/
def takeReading {α : Type} (report : Report) (source : Option Path) : Tree.Reading α → Ran α
  | .ok value => ⟨report, "", .ok value⟩
  | .error ⟨trail, .hint hint⟩ =>
    report.hold (.malformedTree source trail.text hint.message) "" (.error .gaveUp)
  | .error ⟨_, .stray stray⟩ => ⟨report, "", .error (.stray stray)⟩

/-- Reads a term tree. -/
def readTree (report : Report) (source : Option Path) (tree : Json) : Ran ReadTerm :=
  report.takeReading source (Tree.readTerm source [] tree)

/-- Reads the term tree in a file. -/
def readDocument (files : Files) (report : Report) (path : Path) (source : Option Path) :
    Ran ReadTerm :=
  match files.text path with
  | .error .missing => report.hold (.noSuchFile path) "" (.error .gaveUp)
  | .error fault => report.hold (.brokenFile path (fault.message path)) "" (.error .gaveUp)
  | .ok text =>
    match Json.parse text with
    | .error fault => report.hold (.brokenFile path (fault.message text)) "" (.error .gaveUp)
    | .ok tree => report.readTree source tree

/-- Checks a program, and tells of it before and after. -/
def checkProgram (report : Report) (env : Env) (term : ReadTerm) : Ran Verdict :=
  let before := report.progress ["Type-Check", term.kind.title]
  match term.judge env with
  | .ok type => ⟨report, before ++ report.progress ["Judged", type.render], .ok (.type type)⟩
  | .error (.complaint violation guilty) =>
    report.hold (.typeError violation.nature (guilty.bind (·.loc))) before
      (.ok (.complaint violation guilty))
  | .error (.repeatedNames fault) => ⟨report, before, .error (.repeatedNames fault)⟩

end Report

end StructuralTyping
