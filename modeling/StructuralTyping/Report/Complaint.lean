/-
Complaining: an outburst and then every issue. The outburst is picked from three lists, by numbers
that are handed in. Printing goes on until an issue cannot be shown.
-/
import StructuralTyping.Report.Basic

namespace StructuralTyping

/-- Which particle, oath and resignation make up an outburst. -/
structure Pick where
  particle : Nat
  oath : Nat
  resignation : Nat
  deriving Repr, Inhabited

namespace Pick

/-- How an outburst may begin. -/
def particles : List String := ["Oh, ", "Well, ", "Aw, ", "", ""]

/-- What an outburst may exclaim. -/
def oaths : List String :=
  ["Ack", "ARGH", "Blargh", "Confound it", "Crud", "Curses", "Crikey", "Drat", "Fiddlesticks",
    "Good Grief", "Great Scott", "Heavens", "Mercy", "Nuts", "Rats"]

/-- How an outburst may end. -/
def resignations : List String :=
  ["I am undone.", "I cannot continue.", "That does not type-check.", "I need to ask for help."]

/-- The outburst that is picked. -/
def outburst (pick : Pick) : String :=
  particles.getD pick.particle "" ++ oaths.getD pick.oath "" ++ "! " ++
    resignations.getD pick.resignation ""

end Pick

/-- What was printed, and the fault that stopped the printing, if any. -/
structure Printed where
  text : String
  fault : Option FileFault
  deriving Repr

namespace Report

/-- The line above each issue. -/
def rule : String := String.join (List.replicate 20 "  -") ++ "\n"

/-- The line above an outburst. -/
def banner : String := String.ofList (List.replicate 60 '*') ++ "\n"

/-- Prints issues up to the first that cannot be shown. -/
def printIssues (files : Files) (recent : Recent) : List Issue → Printed × Recent
  | [] => (⟨"", none⟩, recent)
  | issue :: rest =>
    match (issue.text files).run recent with
    | .error fault recent => (⟨rule, some fault⟩, recent)
    | .ok text recent =>
      let (more, recent) := printIssues files recent rest
      (⟨rule ++ text ++ "\n" ++ more.text, more.fault⟩, recent)

/-- Prints a complaint, or nothing if there are no issues. The report remembers what its issues
were shown with. -/
def complain (files : Files) (pick : Pick) (report : Report) : Printed × Report :=
  if report.isOk then (⟨"", none⟩, report)
  else
    let (issues, recent) := printIssues files report.recent report.issues
    (⟨banner ++ pick.outburst ++ "\n" ++ issues.text, issues.fault⟩, { report with recent })

/-- Complaining keeps the issues. -/
@[simp] theorem issues_complain (files : Files) (pick : Pick) (report : Report) :
    (report.complain files pick).2.issues = report.issues := by
  simp only [complain]
  split <;> rfl

end Report

end StructuralTyping
