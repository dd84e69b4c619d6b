/-
What a program file comes to when the command reads and checks it: it is refused with an issue, or the reader
meets a stray, or its term is blamed at a node, or it has a type. Main statements: every file comes to one of
these, and what it comes to says what the run works out, how it ends and what it prints.
-/
import StructuralTyping.Command.Run
import StructuralTyping.Proofs.Session.ReadTree
import StructuralTyping.Proofs.Tree.Relocation
import StructuralTyping.Proofs.Typing.Blame
import StructuralTyping.Proofs.Typing.Relocation

namespace StructuralTyping.Command

open StructuralTyping.Tree

/-- What a program comes to. -/
inductive Fate where
  | refused (issue : Issue)
  | stray (value : Stray)
  | illTyped (term : ReadTerm) (violation : Violation) (guilty : ReadTerm)
  | typed (term : ReadTerm) (type : Ty)

/-- There is a tree in a file. -/
def Decodes (files : Files) (path : Path) (tree : Json) : Prop :=
  ∃ text, files.text path = .ok text ∧ Json.parse text = .ok tree

/-- What the program in a file comes to if its spans lie in a source. -/
inductive Comes (files : Files) (path : Path) (source : Option Path) : Fate → Prop where
  | missing : files.text path = .error .missing → Comes files path source (.refused (.noSuchFile path))
  | unreadable {fault} : files.text path = .error fault → fault ≠ .missing →
      Comes files path source (.refused (.brokenFile path (fault.message path)))
  | noTree {text fault} : files.text path = .ok text → Json.parse text = .error fault →
      Comes files path source (.refused (.brokenFile path (fault.message text)))
  | malformed {tree trail hint} : Decodes files path tree → readTerm source [] tree = .error ⟨trail, .hint hint⟩ →
      Comes files path source (.refused (.malformedTree source trail.text hint.message))
  | stray {tree trail stray} : Decodes files path tree → readTerm source [] tree = .error ⟨trail, .stray stray⟩ →
      Comes files path source (.stray stray)
  | illTyped {tree term violation guilty} : Decodes files path tree → readTerm source [] tree = .ok term →
      term.judge .empty = blame violation guilty → Comes files path source (.illTyped term violation guilty)
  | typed {tree term type} : Decodes files path tree → readTerm source [] tree = .ok term →
      term.judge .empty = .ok type → Comes files path source (.typed term type)

/-- What is read of a program, and what becomes of the report. -/
def Fate.reading (report : Report) : Fate → Ran ReadTerm
  | .refused issue => ⟨report.add issue, "", .error .gaveUp⟩
  | .stray value => ⟨report, "", .error (.stray value)⟩
  | .illTyped term _ _ | .typed term _ => ⟨report, "", .ok term⟩

/-- The issue that is held in the end. -/
def Fate.issue? : Fate → Option Issue
  | .refused issue => some issue
  | .illTyped _ violation guilty => some (.typeError violation.nature guilty.loc)
  | .stray _ | .typed .. => none

/-- What is told of progress. -/
def Fate.told : Fate → List (List String)
  | .refused _ | .stray _ => []
  | .illTyped term _ _ => [["Type-Check", term.kind.title]]
  | .typed term type => [["Type-Check", term.kind.title], ["Judged", type.render]]

/-- The lines that are printed when progress is told. -/
def tell (report : Report) (told : List (List String)) : String := String.join (told.map report.progress)

/-- What is worked out about a program. -/
def Fate.worked (report : Report) : Fate → Ran Verdict
  | .refused issue => ⟨report.add issue, "", .error .gaveUp⟩
  | .stray value => ⟨report, "", .error (.stray value)⟩
  | .illTyped term violation guilty =>
    ⟨report.add (.typeError violation.nature guilty.loc), report.progress ["Type-Check", term.kind.title],
      .ok (.complaint violation (some guilty))⟩
  | .typed term type =>
    ⟨report, report.progress ["Type-Check", term.kind.title] ++ report.progress ["Judged", type.render],
      .ok (.type type)⟩

/-- How a run ends, and what it prints. -/
def Fate.outcome (files : Files) (pick : Pick) (report : Report) : Fate → Outcome
  | .refused issue => giveUp files pick (report.add issue) ""
  | .stray value => ⟨"", "", .error (.stray value)⟩
  | .illTyped term violation guilty =>
    giveUp files pick (report.add (.typeError violation.nature guilty.loc))
      (report.progress ["Type-Check", term.kind.title])
  | .typed term type =>
    ⟨type.render ++ "\n",
      report.progress ["Type-Check", term.kind.title] ++ report.progress ["Judged", type.render], .ok 0⟩

section

variable {files : Files} {pick : Pick} {path : Path} {source : Option Path} {fate : Fate} {report : Report}

theorem exists_comes (files : Files) (path : Path) (source : Option Path) : ∃ fate, Comes files path source fate := by
  cases htext : files.text path with
  | error fault =>
    by_cases hf : fault = .missing
    · rw [hf] at htext
      exact ⟨_, .missing htext⟩
    · exact ⟨_, .unreadable htext hf⟩
  | ok text =>
    cases hparse : Json.parse text with
    | error fault => exact ⟨_, .noTree htext hparse⟩
    | ok tree =>
      have hdecodes : Decodes files path tree := ⟨text, htext, hparse⟩
      cases hread : readTerm source [] tree with
      | error refusal =>
        obtain ⟨trail, cause⟩ := refusal
        cases cause with
        | hint hint => exact ⟨_, .malformed hdecodes hread⟩
        | stray stray => exact ⟨_, .stray hdecodes hread⟩
      | ok term =>
        cases hjudge : term.judge .empty with
        | ok type => exact ⟨_, .typed hdecodes hread hjudge⟩
        | error failure =>
          -- what is read is clean, so names were distinct and a node is blamed
          have hclean : term.Clean := (readTerm_eq_ok.1 hread).clean
          obtain ⟨violation, guilty, rfl, -⟩ := Term.justified_of_judge Env.clean_empty hclean hjudge
          exact ⟨_, .illTyped hdecodes hread hjudge⟩

theorem readDocument_of_comes (h : Comes files path source fate)
    (hroom : (report.issues.length : Int) + 1 ≠ report.limit) :
    report.readDocument files path source = fate.reading report := by
  have hread : ∀ {tree}, Decodes files path tree →
      report.readDocument files path source = report.takeReading source (readTerm source [] tree) := by
    rintro tree ⟨text, htext, hparse⟩
    rw [Report.readDocument, htext]
    dsimp only
    rw [hparse]
    rfl
  cases h with
  | missing htext =>
    rw [Report.readDocument, htext]
    dsimp only
    exact Report.hold_of_ne hroom
  | @unreadable fault htext hf =>
    rw [Report.readDocument, htext]
    cases fault with
    | missing => exact absurd rfl hf
    | _ =>
      dsimp only
      exact Report.hold_of_ne hroom
  | noTree htext hparse =>
    rw [Report.readDocument, htext]
    dsimp only
    rw [hparse]
    exact Report.hold_of_ne hroom
  | malformed hd hr =>
    rw [hread hd, hr]
    exact Report.hold_of_ne hroom
  | stray hd hr =>
    rw [hread hd, hr]
    rfl
  | illTyped hd hr | typed hd hr =>
    rw [hread hd, hr]
    rfl

theorem work_of_comes (h : Comes files path source fate) (hok : report.isOk = true)
    (hroom : (report.issues.length : Int) + 1 ≠ report.limit) :
    work files report path source = fate.worked report := by
  have hread := readDocument_of_comes h hroom
  unfold work
  rw [hread]
  cases h with
  | missing | unreadable | noTree | malformed | stray => rfl
  | illTyped _ _ hj =>
    simp only [Fate.reading, hok, Report.checkProgram, hj, blame, Report.hold_of_ne hroom, String.empty_append]
    rfl
  | typed _ _ hj => simp only [Fate.reading, hok, Report.checkProgram, hj, String.empty_append, Fate.worked, if_true]

/-- What is printed before the run ends are lines of progress. -/
theorem Fate.printed_worked (fate : Fate) (report : Report) : (fate.worked report).printed = tell report fate.told := by
  cases fate <;> simp [Fate.worked, Fate.told, tell]

theorem Fate.report_worked {issue : Issue} (hi : fate.issue? = some issue) :
    (fate.worked report).report = report.add issue := by
  cases fate with
  | refused | illTyped =>
    cases hi
    rfl
  | stray | typed => cases hi

theorem Fate.finish_worked (hok : report.isOk = true) :
    finish files pick (fate.worked report) = fate.outcome files pick report := by
  cases fate with
  | refused | illTyped => simp only [finish, Fate.worked, Report.isSick, Report.isOk_add, Bool.not_false, if_true]; rfl
  | stray => rfl
  | typed => simp [finish, Fate.worked, Report.isSick, hok, Verdict.text, Fate.outcome]

/-- Whoever has an issue gives up. -/
theorem Fate.outcome_eq_giveUp {issue : Issue} (hi : fate.issue? = some issue) :
    fate.outcome files pick report = giveUp files pick (report.add issue) (tell report fate.told) := by
  cases fate with
  | refused | illTyped =>
    cases hi
    simp [Fate.outcome, Fate.told, tell]
  | stray | typed => cases hi

theorem checkFile_of_comes (h : Comes files path source fate) (hok : report.isOk = true)
    (hroom : (report.issues.length : Int) + 1 ≠ report.limit) :
    checkFile files pick report path source = fate.outcome files pick report := by
  rw [checkFile, work_of_comes h hok hroom, Fate.finish_worked hok]

end

end StructuralTyping.Command
