/-
Reports: the issues found so far, in order, and how many are enough. An issue that is added stays;
the report is full exactly when the count equals the limit. A report remembers the texts that its
issues were shown with.
-/
import StructuralTyping.Report.Issue

namespace StructuralTyping

/-- A report. A verbose one also tells of progress. -/
structure Report where
  issues : List Issue
  limit : Int
  verbose : Bool
  recent : Recent
  deriving Repr

namespace Report

/-- How many issues are enough, unless something else is said. -/
def defaultLimit : Int := 3

/-- A report without issues. -/
def fresh (limit : Int) (verbose : Bool) : Report := ⟨[], limit, verbose, .empty⟩

/-- Whether nothing is wrong. -/
def isOk (report : Report) : Bool := report.issues.isEmpty

/-- Whether something is wrong. -/
def isSick (report : Report) : Bool := !report.isOk

/-- Adds an issue after those found before. -/
def add (report : Report) (issue : Issue) : Report :=
  { report with issues := report.issues ++ [issue] }

/-- Whether there are just as many issues as are enough. -/
def isFull (report : Report) : Bool := report.issues.length == report.limit

/-- A line of progress, for a verbose report. -/
def progress (report : Report) (words : List String) : String :=
  if report.verbose then " ".intercalate words ++ "\n" else ""

/-- The texts of all issues, and the report that remembers what they were shown with. -/
def texts (files : Files) (report : Report) : Except FileFault (List String) × Report :=
  match (report.issues.mapM (Issue.text files)).run report.recent with
  | .ok texts recent => (.ok texts, { report with recent })
  | .error fault recent => (.error fault, { report with recent })

@[simp] theorem issues_add (report : Report) (issue : Issue) :
    (report.add issue).issues = report.issues ++ [issue] := rfl

theorem isOk_add (report : Report) (issue : Issue) : (report.add issue).isOk = false := by
  simp [isOk]

/-- Showing the issues keeps them. -/
@[simp] theorem issues_texts (files : Files) (report : Report) :
    (report.texts files).2.issues = report.issues := by
  simp only [texts]
  split <;> rfl

end Report

end StructuralTyping
