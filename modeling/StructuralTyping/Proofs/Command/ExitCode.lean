/-
The exit code tells the truth. Without a source no issue needs a file to be shown, so whatever is wrong is
shown. Main statement: a run ends with exit code 0, and prints a type, exactly if the program has that type;
else it ends with exit code 1, and spells out the only issue in its report, or the reader has met a stray.
-/
import StructuralTyping.Proofs.Command.Fate
import StructuralTyping.Proofs.Report.Pathless

namespace StructuralTyping.Command

open StructuralTyping.Tree

/-- The report of a run, as it begins. -/
def freshReport (checks : Nat) : Report := .fresh Report.defaultLimit (0 < checks)

/-- What is printed to complain about one issue. -/
def complaint (files : Files) (pick : Pick) (issue : Issue) : Printed :=
  (((freshReport 0).add issue).complain files pick).1

/-- How a run ends after a complaint. -/
def endingAfter (printed : Printed) : Except Mishap Nat :=
  match printed.fault with
  | some fault => .error (.cannotShow fault)
  | none => .ok 1

section

variable {files : Files} {pick : Pick} {issue : Issue} {checks : Nat}

theorem giveUp_eq (before : String) : giveUp files pick ((freshReport checks).add issue) before =
    ⟨"", before ++ (complaint files pick issue).text, endingAfter (complaint files pick issue)⟩ := by
  have hprinted : (((freshReport checks).add issue).complain files pick).1 = complaint files pick issue := rfl
  unfold giveUp
  rw [← hprinted]
  generalize Report.complain files pick _ = complained
  obtain ⟨⟨text, fault⟩, report⟩ := complained
  cases fault <;> rfl

theorem fault_complaint : (complaint files pick issue).fault =
    match (issue.text files).run .empty with
    | .ok _ _ => none
    | .error fault _ => some fault := by
  simp only [complaint, Report.complain, Report.isOk_add, Bool.false_eq_true, if_false]
  simp only [freshReport, Report.fresh, Report.add, List.nil_append, Report.printIssues]
  cases (issue.text files).run .empty <;> rfl

/-- A complaint about one issue is an outburst and the issue's text. -/
theorem complaint_of_text {text : String} (h : issue.text files = pure text) : complaint files pick issue =
    ⟨Report.banner ++ pick.outburst ++ "\n" ++ Report.rule ++ text ++ "\n", none⟩ := by
  have hprinted (recent : Recent) : Report.printIssues files recent [issue] =
      (⟨Report.rule ++ text ++ "\n" ++ "", none⟩, recent) := by
    rw [Report.printIssues, h]
    rfl
  simp only [complaint, Report.complain, Report.isOk_add, Bool.false_eq_true, if_false]
  simp only [freshReport, Report.fresh, Report.add, List.nil_append, hprinted, String.append_empty, String.append_assoc]

/-- An issue that needs no file can be shown. -/
theorem fault_of_pathless (h : issue.Pathless) : (complaint files pick issue).fault = none := by
  have hheld : ∀ other ∈ ((freshReport 0).add issue).issues, other.Pathless := List.forall_mem_singleton.2 h
  exact Report.fault_complain files hheld pick

/-- To show a type error in a known file the text of the file is needed, and nothing else. -/
theorem text_typeError (nature : String) (start stop : Point) (path : Path) :
    (Issue.typeError nature (some ⟨some path, start, stop⟩)).text files = (do
      let text ← files.recall path
      return "\n".intercalate ["Type-checking found a problem: " ++ nature, "", path.text,
        Illustration.ofSpan text ⟨some path, start, stop⟩ nature]) := by
  have hnote : Note.text files ⟨some ⟨some path, start, stop⟩, nature⟩ =
      (do return Illustration.ofSpan (← files.recall path) ⟨some path, start, stop⟩ nature) := rfl
  unfold Issue.text Issue.typeError
  rw [Issue.noteLines, Issue.noteLines, hnote]
  simp only [bind_assoc, pure_bind]
  rfl

theorem fault_of_path {nature : String} {span : Span} {path : Path} (h : span.path = some path) :
    (complaint files pick (.typeError nature (some span))).fault =
      match files.text path with
      | .ok _ => none
      | .error fault => some fault := by
  obtain ⟨own, start, stop⟩ := span
  obtain rfl : own = some path := h
  have hrecall : (files.recall path).run .empty = match files.text path with
    | .ok text => .ok text (Recent.empty.keep path text)
    | .error fault => .error fault .empty := rfl
  rw [fault_complaint, text_typeError, EStateM.run_bind, hrecall]
  cases files.text path <;> rfl

end

/-! ## Without a source -/

section

variable {files : Files} {pick : Pick} {path : Path} {source : Option Path} {fate : Fate} {checks : Nat}

theorem isOk_fresh : (freshReport checks).isOk = true := rfl

/-- A report without issues has room for one. -/
theorem room_fresh : ((freshReport checks).issues.length : Int) + 1 ≠ (freshReport checks).limit := by
  simp [freshReport, Report.fresh, Report.defaultLimit]

/-- A node that is blamed has its span in the source that was read for. -/
theorem loc_of_blamed {tree : Json} {term guilty : ReadTerm} {violation : Violation}
    (hr : readTerm source [] tree = .ok term) (hj : term.judge .empty = blame violation guilty) :
    guilty.loc = guilty.loc.map (Span.within source) := by
  have hterm : term.mapLoc (Option.map (Span.within source)) = term := within_of_read hr
  have hjudged := Term.judge_mapLoc (Option.map (Span.within source)) .empty term
  rw [hterm, hj] at hjudged
  have hguilty : guilty = guilty.mapLoc (Option.map (Span.within source)) := by
    injection hjudged with hfailure
    injection hfailure with _ hg
    exact Option.some.inj hg
  calc guilty.loc = (guilty.mapLoc (Option.map (Span.within source))).loc := congrArg Term.loc hguilty
    _ = guilty.loc.map (Span.within source) := Term.loc_mapLoc ..

/-- An issue that is not of a blamed node needs no file to be shown, and without a source no issue does. -/
theorem Comes.pathless (h : Comes files path none fate) {issue : Issue} (hi : fate.issue? = some issue) :
    issue.Pathless := by
  cases h with
  | missing | unreadable | noTree | malformed =>
    cases hi
    exact Issue.pathless_of_notes_nil rfl
  | stray | typed => cases hi
  | @illTyped tree term violation guilty _ hr hj =>
    cases hi
    refine Issue.pathless_typeError ?_
    rw [loc_of_blamed hr hj]
    cases guilty.loc <;> rfl

theorem Fate.outcome_of_issue {issue : Issue} (hi : fate.issue? = some issue) :
    fate.outcome files pick (freshReport checks) =
      ⟨"", tell (freshReport checks) fate.told ++ (complaint files pick issue).text,
        endingAfter (complaint files pick issue)⟩ := by
  rw [Fate.outcome_eq_giveUp hi, giveUp_eq]

theorem Fate.outcome_typed {report : Report} (term : ReadTerm) (type : Ty) :
    (Fate.typed term type).outcome files pick report =
      ⟨type.render ++ "\n", tell report (Fate.typed term type).told, .ok 0⟩ := by
  simp [Fate.outcome, Fate.told, tell]

end

/-! ## Runs -/

/-- The path that a word names in a folder. -/
def pathNamed (folder : Path) (word : String) : Path := folder.join (.ofString word)

/-- The tree in a file is a term that has a type where nothing is bound. -/
def Judged (files : Files) (path : Path) (type : Ty) : Prop :=
  ∃ tree term, Decodes files path tree ∧ TermTree none tree term ∧ term.judge .empty = .ok type

theorem judged_iff {files : Files} {path : Path} {type : Ty} :
    Judged files path type ↔ ∃ term, Comes files path none (.typed term type) := by
  constructor
  · rintro ⟨tree, term, hd, ht, hj⟩
    exact ⟨term, .typed hd (readTerm_eq_ok.2 ht) hj⟩
  · rintro ⟨term, h⟩
    cases h with
    | typed hd hr hj => exact ⟨_, term, hd, readTerm_eq_ok.1 hr, hj⟩

section

variable (files : Files) (folder : Path) (pick : Pick) (program : String) (checks : Nat)

/-- A run without a source. -/
def plainRun : Outcome := runWith files folder pick ⟨program, none, checks⟩

/-- What is read in a run without a source. -/
def plainReading : Ran ReadTerm :=
  (freshReport checks).readDocument files (pathNamed folder program) none

/-- What is worked out in a run without a source. -/
def plainWork : Ran Verdict := work files (freshReport checks) (pathNamed folder program) none

/-- A run without a source complains of one issue. -/
structure ComplainsOf (issue : Issue) : Prop where
  /-- It gives up with the report that it has worked out. -/
  gaveUp : plainRun files folder pick program checks =
    giveUp files pick (plainWork files folder program checks).report (plainWork files folder program checks).printed
  /-- The issue is the only one in the report. -/
  held : (plainWork files folder program checks).report.issues = [issue]
  /-- After the lines of progress there are an outburst and the text of the issue, which needs no file. -/
  spelled : ∃ text, issue.text files = pure text ∧ (plainRun files folder pick program checks).stderr =
    (plainWork files folder program checks).printed ++ Report.banner ++ pick.outburst ++ "\n" ++ Report.rule ++
      text ++ "\n"

/-- A run without a source tells the truth about its program. -/
structure TellsTruth : Prop where
  /-- It ends with exit code 0, and prints a type, if and only if the program has the type. -/
  typed : ∀ shown, (plainRun files folder pick program checks).ending = .ok 0 ∧
      (plainRun files folder pick program checks).stdout = shown ↔
    ∃ type, Judged files (pathNamed folder program) type ∧ shown = type.render ++ "\n"
  /-- Else it ends with exit code 1, if with any, and complains of the one issue that the program comes to. -/
  otherwise : ∀ code, (plainRun files folder pick program checks).ending = .ok code →
    (¬ ∃ type, Judged files (pathNamed folder program) type) →
      code = 1 ∧ (plainRun files folder pick program checks).stdout = "" ∧
        ∃ fate issue, Comes files (pathNamed folder program) none fate ∧ fate.issue? = some issue ∧
          (plainWork files folder program checks).printed = tell (freshReport checks) fate.told ∧
          ComplainsOf files folder pick program checks issue
  /-- Whoever gives up has told the report, and whoever reads a term has not. -/
  sick : (plainReading files folder program checks).result = .error .gaveUp →
    (plainReading files folder program checks).report.isSick = true
  ok : ∀ term, (plainReading files folder program checks).result = .ok term →
    (plainReading files folder program checks).report.isOk = true
  /-- The report does not fill up. -/
  room : (plainReading files folder program checks).result ≠ .error .tooManyIssues ∧
    ∀ term, (plainReading files folder program checks).result = .ok term →
      ((plainReading files folder program checks).report.checkProgram .empty term).result ≠ .error .tooManyIssues
  /-- It ends without an exit code only if the reader meets an item that is no object. No assertion fails. -/
  stray : ∀ mishap, (plainRun files folder pick program checks).ending = .error mishap →
    ∃ value tree, mishap = .stray value ∧ Decodes files (pathNamed folder program) tree ∧ StopsAtStray none tree
  /-- Checks only put lines of progress before what else is printed. -/
  checks : (plainRun files folder pick program checks).ending = (plainRun files folder pick program 0).ending ∧
    (plainRun files folder pick program checks).stdout = (plainRun files folder pick program 0).stdout ∧
    ∃ fate, Comes files (pathNamed folder program) none fate ∧
      (plainWork files folder program checks).printed = tell (freshReport checks) fate.told ∧
      (plainRun files folder pick program checks).stderr =
        tell (freshReport checks) fate.told ++ (plainRun files folder pick program 0).stderr

end

section

variable {files : Files} {folder : Path} {pick : Pick} {program : String} {checks : Nat} {fate : Fate}

theorem plainRun_of_comes (h : Comes files (pathNamed folder program) none fate) :
    plainRun files folder pick program checks = fate.outcome files pick (freshReport checks) :=
  checkFile_of_comes h isOk_fresh room_fresh

theorem plainReading_of_comes (h : Comes files (pathNamed folder program) none fate) :
    plainReading files folder program checks = fate.reading (freshReport checks) :=
  readDocument_of_comes h room_fresh

theorem plainWork_of_comes (h : Comes files (pathNamed folder program) none fate) :
    plainWork files folder program checks = fate.worked (freshReport checks) :=
  work_of_comes h isOk_fresh room_fresh

/-- A run that comes to an issue ends with exit code 1. -/
theorem Comes.plainRun_of_issue (h : Comes files (pathNamed folder program) none fate) {issue : Issue}
    (hi : fate.issue? = some issue) : plainRun files folder pick program checks =
      ⟨"", tell (freshReport checks) fate.told ++ (complaint files pick issue).text, .ok 1⟩ := by
  rw [plainRun_of_comes h, Fate.outcome_of_issue hi, endingAfter, fault_of_pathless (h.pathless hi)]

/-- It complains of the issue. -/
theorem Comes.complainsOf (h : Comes files (pathNamed folder program) none fate) {issue : Issue}
    (hi : fate.issue? = some issue) : ComplainsOf files folder pick program checks issue := by
  have hwork : plainWork files folder program checks = fate.worked (freshReport checks) := plainWork_of_comes h
  constructor
  case gaveUp =>
    rw [hwork, fate.printed_worked, Fate.report_worked hi, plainRun_of_comes h, Fate.outcome_eq_giveUp hi]
  case held =>
    rw [hwork, Fate.report_worked hi]
    rfl
  case spelled =>
    obtain ⟨text, htext⟩ := (h.pathless hi).text files
    refine ⟨text, htext, ?_⟩
    rw [hwork, fate.printed_worked, h.plainRun_of_issue hi, complaint_of_text htext]
    simp only [String.append_assoc]

theorem tell_quiet (told : List (List String)) : tell (freshReport 0) told = "" := by
  induction told with
  | nil => rfl
  | cons words rest ih =>
    rw [tell, List.map_cons, String.join_cons]
    exact ih

/-- A stray is an item of a list of named parts. -/
theorem stopsAtStray_of_error {source : Option Path} {tree : Json} {trail : Trail} {value : Stray}
    (h : readTerm source [] tree = .error ⟨trail, .stray value⟩) : StopsAtStray source tree := by
  have hfault : Fault source [] tree ⟨trail, .stray value⟩ := readTerm_fault [] tree .start .start _ h
  cases hfault with
  | stray hs ht hnot => exact (stopsAtStray_iff_of_error h).2 ⟨ht, _, hs.follow_of_nil, hnot⟩

/-- A run complains of an issue and ends with exit code 1, or it ends with a stray, or it prints a type and ends with
exit code 0. -/
theorem Comes.plainRun_cases (h : Comes files (pathNamed folder program) none fate) (pick : Pick) :
    (∃ issue, fate.issue? = some issue ∧ ∀ checks, plainRun files folder pick program checks =
      ⟨"", tell (freshReport checks) fate.told ++ (complaint files pick issue).text, .ok 1⟩) ∨
    (∃ value, fate = .stray value ∧ ∀ checks, plainRun files folder pick program checks =
      ⟨"", "", .error (.stray value)⟩) ∨
    ∃ term type, fate = .typed term type ∧ ∀ checks, plainRun files folder pick program checks =
      ⟨type.render ++ "\n", tell (freshReport checks) fate.told, .ok 0⟩ := by
  cases fate with
  | refused | illTyped => exact .inl ⟨_, rfl, fun _ => h.plainRun_of_issue rfl⟩
  | stray value => exact .inr (.inl ⟨value, rfl, fun _ => plainRun_of_comes h⟩)
  | typed term type =>
    exact .inr (.inr ⟨term, type, rfl, fun _ => (plainRun_of_comes h).trans (Fate.outcome_typed term type)⟩)

/-- Whoever gives up has told the report. -/
theorem Fate.isSick_reading {report : Report} (hgave : (fate.reading report).result = .error .gaveUp) :
    (fate.reading report).report.isSick = true := by
  cases fate with
  | refused issue => simp [Fate.reading, Report.isSick, Report.isOk_add]
  | stray | illTyped | typed => cases hgave

/-- Whoever reads a term has not. -/
theorem Fate.report_reading {report : Report} {term : ReadTerm} (hr : (fate.reading report).result = .ok term) :
    (fate.reading report).report = report := by
  cases fate with
  | refused => cases hr
  | stray | illTyped | typed => rfl

theorem Fate.reading_ne_tooManyIssues {report : Report} (fate : Fate) :
    (fate.reading report).result ≠ .error .tooManyIssues := by
  cases fate <;> simp [Fate.reading]

theorem Comes.checkProgram_room {report : Report} {term : ReadTerm}
    (h : Comes files (pathNamed folder program) none fate) (hr : (fate.reading report).result = .ok term)
    (hroom : (report.issues.length : Int) + 1 ≠ report.limit) :
    (report.checkProgram .empty term).result ≠ .error .tooManyIssues := by
  cases h with
  | missing | unreadable | noTree | malformed | stray => cases hr
  | illTyped _ _ hj =>
    cases hr
    simp [Report.checkProgram, hj, blame, Report.hold_of_ne hroom]
  | typed _ _ hj =>
    cases hr
    simp [Report.checkProgram, hj]

/-- The exit code tells whether a program has a type, and which. -/
theorem exit_code_truthful (files : Files) (folder : Path) (pick : Pick) (program : String) (checks : Nat) :
    TellsTruth files folder pick program checks := by
  obtain ⟨fate, hfate⟩ := exists_comes files (pathNamed folder program) none
  have hread : plainReading files folder program checks = fate.reading (freshReport checks) :=
    plainReading_of_comes hfate
  have hprinted : (plainWork files folder program checks).printed = tell (freshReport checks) fate.told := by
    rw [plainWork_of_comes hfate, fate.printed_worked]
  have hcases := hfate.plainRun_cases pick
  constructor
  case typed =>
    intro shown
    constructor
    · rintro ⟨hend, rfl⟩
      obtain ⟨issue, hi, hrun⟩ | ⟨value, rfl, hrun⟩ | ⟨term, type, rfl, hrun⟩ := hcases
      · rw [hrun] at hend
        cases hend
      · rw [hrun] at hend
        cases hend
      · exact ⟨type, judged_iff.2 ⟨term, hfate⟩, by rw [hrun]⟩
    · rintro ⟨type, hj, rfl⟩
      obtain ⟨term, hcomes⟩ := judged_iff.1 hj
      rw [plainRun_of_comes hcomes]
      exact ⟨rfl, rfl⟩
  case otherwise =>
    intro code hend hnot
    obtain ⟨issue, hi, hrun⟩ | ⟨value, rfl, hrun⟩ | ⟨term, type, rfl, hrun⟩ := hcases
    · rw [hrun] at hend ⊢
      cases hend
      exact ⟨rfl, rfl, fate, issue, hfate, hi, hprinted, hfate.complainsOf hi⟩
    · rw [hrun] at hend
      cases hend
    · exact absurd ⟨type, judged_iff.2 ⟨term, hfate⟩⟩ hnot
  case sick =>
    rw [hread]
    exact Fate.isSick_reading
  case ok =>
    rw [hread]
    intro term hr
    rw [Fate.report_reading hr, isOk_fresh]
  case room =>
    rw [hread]
    refine ⟨fate.reading_ne_tooManyIssues, fun term hr => ?_⟩
    rw [Fate.report_reading hr]
    exact hfate.checkProgram_room hr room_fresh
  case stray =>
    intro mishap hend
    obtain ⟨issue, hi, hrun⟩ | ⟨value, rfl, hrun⟩ | ⟨term, type, rfl, hrun⟩ := hcases
    · rw [hrun] at hend
      cases hend
    · rw [hrun] at hend
      cases hend
      cases hfate with
      | stray hd hr => exact ⟨value, _, rfl, hd, stopsAtStray_of_error hr⟩
    · rw [hrun] at hend
      cases hend
  case checks =>
    obtain ⟨issue, hi, hrun⟩ | ⟨value, rfl, hrun⟩ | ⟨term, type, rfl, hrun⟩ := hcases
    · rw [hrun, hrun, tell_quiet]
      exact ⟨rfl, rfl, fate, hfate, hprinted, by simp⟩
    · rw [hrun, hrun]
      exact ⟨rfl, rfl, _, hfate, hprinted, rfl⟩
    · rw [hrun, hrun, tell_quiet]
      exact ⟨rfl, rfl, _, hfate, hprinted, by simp⟩

end

end StructuralTyping.Command
