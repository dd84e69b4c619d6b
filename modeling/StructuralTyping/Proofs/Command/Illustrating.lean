/-
A run with a source. It comes to what the run without one comes to, with its spans in the source, so that the
source is needed to complain about a place and for nothing else. Main statement: with a source the same type
is printed or the same issue is complained about; but where the place of a type error is known and the source
has no text, the complaint does not come out and the run ends without an exit code.
-/
import StructuralTyping.Files.Folder
import StructuralTyping.Proofs.Command.ExitCode

namespace StructuralTyping.Command

open StructuralTyping.Tree

/-- There is a file, whether it may be read or not. -/
def IsFile (files : Files) (path : Path) : Prop :=
  (∃ bytes, files.bytes path = .ok bytes) ∨ files.bytes path = .error .denied

/-- The program in a file is ill-typed at a node whose place is known. -/
def GuiltyPlace (files : Files) (path : Path) : Prop :=
  ∃ term violation guilty span, Comes files path none (.illTyped term violation guilty) ∧ guilty.loc = some span

/-- An issue, and how it is told of a program that has a source. -/
inductive Retold (source : Path) : Issue → Issue → Prop where
  | noSuchFile (path : Path) : Retold source (.noSuchFile path) (.noSuchFile path)
  | brokenFile (path : Path) (why : String) : Retold source (.brokenFile path why) (.brokenFile path why)
  | malformedTree (place hint : String) :
    Retold source (.malformedTree none place hint) (.malformedTree (some source) place hint)
  | typeError (nature : String) (span : Option Span) :
    Retold source (.typeError nature span) (.typeError nature (span.map (Span.within source)))

section

variable {files : Files} {pick : Pick} {path source : Path} {fate : Fate} {checks : Nat}

/-- For a source a program comes to the same type. -/
theorem Comes.typed_within {term : ReadTerm} {type : Ty} (h : Comes files path none (.typed term type)) :
    Comes files path (some source) (.typed (term.within source) type) := by
  cases h with
  | typed hd hr hj =>
    refine .typed hd (readTerm_ok_within hr) ?_
    rw [Term.judge_mapLoc, hj]
    rfl

/-- For a source a program comes to the same violation. -/
theorem Comes.illTyped_within {term guilty : ReadTerm} {violation : Violation}
    (h : Comes files path none (.illTyped term violation guilty)) :
    Comes files path (some source) (.illTyped (term.within source) violation (guilty.within source)) := by
  cases h with
  | illTyped hd hr hj =>
    refine .illTyped hd (readTerm_ok_within hr) ?_
    rw [Term.judge_mapLoc, hj]
    rfl

/-- For a source a program comes to the same issue. -/
theorem Comes.retold (h : Comes files path none fate) (source : Path) {issue : Issue}
    (hi : fate.issue? = some issue) : ∃ fate' issue', Comes files path (some source) fate' ∧
      fate'.issue? = some issue' ∧ fate'.told = fate.told ∧ Retold source issue issue' := by
  cases h with
  | missing ht =>
    cases hi
    exact ⟨_, _, .missing ht, rfl, rfl, .noSuchFile path⟩
  | unreadable ht hf =>
    cases hi
    exact ⟨_, _, .unreadable ht hf, rfl, rfl, .brokenFile path _⟩
  | noTree ht hp =>
    cases hi
    exact ⟨_, _, .noTree ht hp, rfl, rfl, .brokenFile path _⟩
  | malformed hd hr =>
    cases hi
    exact ⟨_, _, .malformed hd (readTerm_error_within hr), rfl, rfl, .malformedTree _ _⟩
  | stray | typed => cases hi
  | @illTyped tree term violation guilty hd hr hj =>
    cases hi
    refine ⟨_, _, (Comes.illTyped hd hr hj).illTyped_within, rfl, ?_, ?_⟩
    · rw [Fate.told, Fate.told, Term.kind_mapLoc]
    · rw [Term.loc_mapLoc]
      exact .typeError _ _

/-- Told of a program that has a source, an issue can be shown if the source has a text or no place is known. -/
theorem Retold.fault_eq_none {issue issue' : Issue} (hr : Retold source issue issue')
    (h : Comes files path none fate) (hi : fate.issue? = some issue)
    (hshown : (∃ text, files.text source = .ok text) ∨ ¬ GuiltyPlace files path) :
    (complaint files pick issue').fault = none := by
  cases hr with
  | noSuchFile | brokenFile | malformedTree => exact fault_of_pathless (Issue.pathless_of_notes_nil rfl)
  | typeError nature span =>
    cases span with
    | none => exact fault_of_pathless (Issue.pathless_typeError rfl)
    | some span =>
      obtain ⟨text, ht⟩ | hnot := hshown
      · rw [Option.map_some, fault_of_path rfl, ht]
      · -- of all issues only a type error has a note
        cases h with
        | missing | unreadable | noTree | malformed =>
          have hnotes : ([] : List Note) = [⟨some span, nature⟩] := congrArg Issue.notes (Option.some.inj hi)
          cases hnotes
        | stray | typed => cases hi
        | @illTyped tree term violation guilty hd hr hj =>
          have hnotes : [Note.mk guilty.loc violation.nature] = [⟨some span, nature⟩] :=
            congrArg Issue.notes (Option.some.inj hi)
          have hloc : guilty.loc = some span := congrArg Note.span (List.singleton_inj.1 hnotes)
          exact absurd ⟨term, violation, guilty, span, .illTyped hd hr hj, hloc⟩ hnot

end

/-! ## Runs -/

section

variable (files : Files) (folder : Path) (pick : Pick) (program source : String) (checks : Nat)

/-- A run with a source. -/
def sourcedRun : Outcome := runWith files folder pick ⟨program, some source, checks⟩

/-- A source only changes how a run shows the place of a type error. -/
structure OnlyIllustrates : Prop where
  /-- The same is printed as without it. -/
  stdout : (sourcedRun files folder pick program source checks).stdout =
    (plainRun files folder pick program checks).stdout
  /-- Nothing at all is different if the program has a type. -/
  typed : (plainRun files folder pick program checks).ending = .ok 0 →
    sourcedRun files folder pick program source checks = plainRun files folder pick program checks
  /-- Else the same issue is complained about after the same lines of progress. -/
  complaint : (plainRun files folder pick program checks).ending = .ok 1 →
    ∃ told issue issue', Retold (pathNamed folder source) issue issue' ∧
      (plainRun files folder pick program checks).stderr =
        tell (freshReport checks) told ++ (complaint files pick issue).text ∧
      (sourcedRun files folder pick program source checks).stderr =
        tell (freshReport checks) told ++ (complaint files pick issue').text
  /-- The exit code is the same if the source has a text or no place is known. -/
  spared : (∃ text, files.text (pathNamed folder source) = .ok text) ∨ ¬ GuiltyPlace files (pathNamed folder program) →
    (sourcedRun files folder pick program source checks).ending = (plainRun files folder pick program checks).ending
  /-- Else the source cannot be shown, and nothing catches that. -/
  lost : ∀ fault, files.text (pathNamed folder source) = .error fault → GuiltyPlace files (pathNamed folder program) →
    (sourcedRun files folder pick program source checks).ending = .error (.cannotShow fault)

end

section

variable {files : Files} {folder : Path} {pick : Pick} {program source : String} {checks : Nat} {fate : Fate}

theorem sourcedRun_of_comes (hs : source ≠ "") (hf : IsFile files (pathNamed folder source))
    (h : Comes files (pathNamed folder program) (some (pathNamed folder source)) fate) :
    sourcedRun files folder pick program source checks = fate.outcome files pick (freshReport checks) := by
  have hrun : sourcedRun files folder pick program source checks =
      checkFile files pick (freshReport checks) (pathNamed folder program) (some (pathNamed folder source)) := by
    unfold sourcedRun runWith
    split
    case h_1 hnone => cases hnone
    case h_2 hempty => exact absurd (Option.some.inj hempty) hs
    case h_3 text _ htext =>
      obtain rfl : source = text := Option.some.inj htext
      obtain ⟨bytes, hbytes⟩ | hdenied := hf
      · rw [pathNamed] at hbytes
        simp only [hbytes]
        rfl
      · rw [pathNamed] at hdenied
        simp only [hdenied]
        rfl
  rw [hrun, checkFile_of_comes h isOk_fresh room_fresh]

/-- A run that has to show a place in a source without a text ends without an exit code. -/
theorem sourcedRun_of_guiltyPlace {fault : FileFault} (hs : source ≠ "") (hf : IsFile files (pathNamed folder source))
    (hfault : files.text (pathNamed folder source) = .error fault)
    (hplace : GuiltyPlace files (pathNamed folder program)) :
    (sourcedRun files folder pick program source checks).ending = .error (.cannotShow fault) := by
  obtain ⟨term, violation, guilty, span, hcomes, hloc⟩ := hplace
  rw [sourcedRun_of_comes hs hf hcomes.illTyped_within, Fate.outcome_of_issue rfl, Term.loc_mapLoc, hloc]
  rw [endingAfter, Option.map_some, fault_of_path rfl, hfault]

/-- A source that is there only illustrates, but the run is lost if it has no text and a place is to be shown. -/
theorem source_only_illustrates (files : Files) (folder : Path) (pick : Pick) (program source : String) (checks : Nat)
    (hs : source ≠ "") (hf : IsFile files (pathNamed folder source)) :
    OnlyIllustrates files folder pick program source checks := by
  obtain ⟨fate, hfate⟩ := exists_comes files (pathNamed folder program) none
  have hlost : ∀ fault, files.text (pathNamed folder source) = .error fault →
      GuiltyPlace files (pathNamed folder program) →
      (sourcedRun files folder pick program source checks).ending = .error (.cannotShow fault) :=
    fun _ hfault hplace => sourcedRun_of_guiltyPlace hs hf hfault hplace
  obtain ⟨issue, hi, hplain⟩ | ⟨value, rfl, hplain⟩ | ⟨term, type, rfl, hplain⟩ := hfate.plainRun_cases pick
  · -- the same issue, told of a program with a source
    obtain ⟨fate', issue', hfate', hi', htold, hretold⟩ := hfate.retold (pathNamed folder source) hi
    have hsourced : sourcedRun files folder pick program source checks =
        ⟨"", tell (freshReport checks) fate.told ++ (complaint files pick issue').text,
          endingAfter (complaint files pick issue')⟩ := by
      rw [sourcedRun_of_comes hs hf hfate', Fate.outcome_of_issue hi', htold]
    refine ⟨?_, ?_, fun _ => ⟨fate.told, issue, issue', hretold, ?_, ?_⟩, fun hshown => ?_, hlost⟩
    · rw [hsourced, hplain]
    · rw [hplain]
      intro hend
      cases hend
    · rw [hplain]
    · rw [hsourced]
    · rw [hsourced, hplain, endingAfter, hretold.fault_eq_none hfate hi hshown]
  · -- a stray is met before any issue is found
    have hsame : sourcedRun files folder pick program source checks = plainRun files folder pick program checks := by
      cases hfate with
      | stray hd hr =>
        rw [hplain, sourcedRun_of_comes hs hf (.stray hd (readTerm_error_within hr)), Fate.outcome]
    refine ⟨by rw [hsame], fun _ => hsame, ?_, fun _ => by rw [hsame], hlost⟩
    rw [hplain]
    intro hend
    cases hend
  · have hsame : sourcedRun files folder pick program source checks = plainRun files folder pick program checks := by
      rw [hplain, sourcedRun_of_comes hs hf hfate.typed_within, Fate.outcome_typed, Fate.told, Fate.told,
        Term.kind_mapLoc]
    refine ⟨by rw [hsame], fun _ => hsame, ?_, fun _ => by rw [hsame], hlost⟩
    rw [hplain]
    intro hend
    cases hend

end

/-! ## A source that is no text -/

/-- A program whose only name is unknown, with its place. -/
def lostName : String :=
  "\x7b\"tag\":\"var\",\"name\":\"x\",\"loc\":\x7b\"start\":\x7b\"line\":1,\"column\":0\x7d\x7d\x7d"

/-- The program, and a source for it that is no text. -/
def garbled : Folder := ⟨["w"], [(["w", "p.json"], .file lostName.toUTF8.toList), (["w", "s.ts"], .file [0xff])]⟩

theorem isFile_garbled : IsFile garbled.files (pathNamed ⟨1, ["w"]⟩ "s.ts") := .inl ⟨[0xff], rfl⟩

theorem parse_lostName : Json.parse lostName.toList = .ok (.object [("tag", .text "var"), ("name", .text "x"),
    ("loc", .object [("start", .object [("line", .number (.int 1)), ("column", .number (.int 0))])])]) := by
  simp [lostName, Json.parse, Json.Cursor.skip, Json.Cursor.drop, Json.isGap, Json.readValue, Json.readFields,
    Json.readText, Json.joinCodes, Json.readSimple, Json.constants, Json.readNumber, Json.isDigit, Json.fraction,
    Json.exponent, Json.natOf, Json.maxDigits, Dict.put, bind, Except.bind, pure, Except.pure]

theorem decodes_garbled : Decodes garbled.files (pathNamed ⟨1, ["w"]⟩ "p.json") (.object [("tag", .text "var"),
    ("name", .text "x"), ("loc", .object [("start", .object [("line", .number (.int 1)),
      ("column", .number (.int 0))])])]) := by
  have hbytes : garbled.files.bytes (pathNamed ⟨1, ["w"]⟩ "p.json") = .ok lostName.toUTF8.toList := rfl
  have hchars : Text.Utf8.decode lostName.toUTF8.toList = .ok lostName.toList := by decide +kernel
  have hlines : Text.unifyNewlines lostName.toList = lostName.toList := by decide +kernel
  refine ⟨lostName.toList, ?_, parse_lostName⟩
  simp only [Files.text, hbytes, bind, Except.bind, hchars, hlines]
  rfl

theorem guiltyPlace_garbled : GuiltyPlace garbled.files (pathNamed ⟨1, ["w"]⟩ "p.json") :=
  have hlocated : Located none _ (some ⟨none, ⟨1, 0⟩, ⟨1, 0⟩⟩) := .point rfl rfl ⟨rfl, rfl⟩ rfl
  ⟨.var "x" (some ⟨none, ⟨1, 0⟩, ⟨1, 0⟩⟩), .unknownVariable "x", _, _,
    .illTyped decodes_garbled (readTerm_eq_ok.2 (.var rfl hlocated rfl)) rfl, rfl⟩

theorem source_only_illustrates_garbled : "s.ts" ≠ "" ∧ IsFile garbled.files (pathNamed ⟨1, ["w"]⟩ "s.ts") ∧
    OnlyIllustrates garbled.files ⟨1, ["w"]⟩ default "p.json" "s.ts" 0 :=
  ⟨by decide, isFile_garbled, source_only_illustrates _ _ _ _ _ _ (by decide) isFile_garbled⟩

/-- With a source that is no text the run of an ill-typed program ends without the exit code that it has else. -/
theorem garbled_source_loses_code : IsFile garbled.files (pathNamed ⟨1, ["w"]⟩ "s.ts") ∧
    (plainRun garbled.files ⟨1, ["w"]⟩ default "p.json" 0).ending = .ok 1 ∧
    (sourcedRun garbled.files ⟨1, ["w"]⟩ default "p.json" "s.ts" 0).ending =
      .error (.cannotShow (.notText ⟨.start, 0xff, 0, 0⟩)) := by
  refine ⟨isFile_garbled, ?_, sourcedRun_of_guiltyPlace (by decide) isFile_garbled rfl guiltyPlace_garbled⟩
  obtain ⟨term, violation, guilty, span, hcomes, -⟩ := guiltyPlace_garbled
  rw [hcomes.plainRun_of_issue rfl]

end StructuralTyping.Command
