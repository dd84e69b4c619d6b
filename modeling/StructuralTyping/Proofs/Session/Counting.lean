/-
The issues of a report over whole runs. Whatever a report is used for, it then holds the issues that it held
before and the one that this use finds, if it finds one. Which issue that is depends on the use, and not on the
report. Exactly the use that finds the last issue of those that are enough ends with word of too many issues, in
place of what it would have come to; every other use comes to what it does by itself.
-/
import Mathlib.Data.List.Forall2
import StructuralTyping.Proofs.Report.Pathless
import StructuralTyping.Proofs.Session.ReadTree
import StructuralTyping.Session.Use

namespace StructuralTyping

/-! ## What a use finds and comes to -/

/-- The issue that a reader found. -/
def Tree.Reading.issue? {α : Type} (source : Option Path) : Tree.Reading α → Option Issue
  | .error ⟨trail, .hint hint⟩ => some (.malformedTree source trail.text hint.message)
  | .error ⟨_, .stray _⟩ | .ok _ => none

namespace Use

/-- The issue that a use finds: those that find none leave a report as it is. -/
def found (files : Files) : Use → Option Issue
  | .noSuchFile path => some (.noSuchFile path)
  | .brokenFile path why => some (.brokenFile path why)
  | .malformedTree path place hint => some (.malformedTree path place hint)
  | .typeError nature span => some (.typeError nature span)
  | .readTree source tree => Tree.Reading.issue? source (Tree.readTerm source [] tree)
  | .readDocument path source =>
    match files.text path with
    | .error .missing => some (.noSuchFile path)
    | .error fault => some (.brokenFile path (fault.message path))
    | .ok text =>
      match Json.parse text with
      | .error fault => some (.brokenFile path (fault.message text))
      | .ok tree => Tree.Reading.issue? source (Tree.readTerm source [] tree)
  | .checkProgram env term =>
    match term.judge env with
    | .error (.complaint violation guilty) => some (.typeError violation.nature (guilty.bind (·.loc)))
    | .error (.repeatedNames _) | .ok _ => none
  | .isOk | .isSick | .texts | .progress _ | .complain | .assertNoIssues _ => none

/-- A use that shows the issues held. -/
inductive Shows : Use → Prop
  | texts : Shows .texts
  | complain : Shows .complain
  | assertNoIssues {message} : Shows (.assertNoIssues message)

/-- What a use comes to by itself, whatever number of issues is enough, when the issues before it are `held`. -/
inductive Ends (files : Files) (pick : Pick) (held : List Issue) : Use → Except Mishap Answer → Prop
  | isOk : Ends files pick held .isOk (.ok (.truth held.isEmpty))
  | isSick : Ends files pick held .isSick (.ok (.truth !held.isEmpty))
  | progress {words} : Ends files pick held (.progress words) (.ok .nothing)
  | noSuchFile {path} : Ends files pick held (.noSuchFile path) (.ok .nothing)
  | brokenFile {path why} : Ends files pick held (.brokenFile path why) (.ok .nothing)
  | malformedTree {path place hint} : Ends files pick held (.malformedTree path place hint) (.ok .nothing)
  | typeError {nature span} : Ends files pick held (.typeError nature span) (.ok .nothing)
  | read {source tree term} : Tree.readTerm source [] tree = .ok term →
      Ends files pick held (.readTree source tree) (.ok (.term term))
  | refused {source tree trail hint} : Tree.readTerm source [] tree = .error ⟨trail, .hint hint⟩ →
      Ends files pick held (.readTree source tree) (.error .gaveUp)
  | stray {source tree trail stray} : Tree.readTerm source [] tree = .error ⟨trail, .stray stray⟩ →
      Ends files pick held (.readTree source tree) (.error (.stray stray))
  | noText {path source fault} : files.text path = .error fault →
      Ends files pick held (.readDocument path source) (.error .gaveUp)
  | noTree {path source text fault} : files.text path = .ok text → Json.parse text = .error fault →
      Ends files pick held (.readDocument path source) (.error .gaveUp)
  | tree {path source text tree result} : files.text path = .ok text → Json.parse text = .ok tree →
      Ends files pick held (.readTree source tree) result → Ends files pick held (.readDocument path source) result
  | typed {env term type} : term.judge env = .ok type →
      Ends files pick held (.checkProgram env term) (.ok (.verdict (.type type)))
  | illTyped {env term violation guilty} : term.judge env = .error (.complaint violation guilty) →
      Ends files pick held (.checkProgram env term) (.ok (.verdict (.complaint violation guilty)))
  | repeatedNames {env term fault} : term.judge env = .error (.repeatedNames fault) →
      Ends files pick held (.checkProgram env term) (.error (.repeatedNames fault))
  | texts {shown} : List.Forall₂ (fun issue text => ∃ recent rest, (issue.text files).run recent = .ok text rest)
      held shown → Ends files pick held .texts (.ok (.texts shown))
  | complain : Ends files pick held .complain (.ok .nothing)
  | assertNone {message} : held = [] → Ends files pick held (.assertNoIssues message) (.ok .nothing)
  | assertSome {message} : held ≠ [] →
      Ends files pick held (.assertNoIssues message) (.error (.issuesHeld (pick.outburst ++ " " ++ message)))
  | cannotShow {use fault} : Shows use → (¬ ∀ issue ∈ held, issue.Pathless) →
      Ends files pick held use (.error (.cannotShow fault))

/-- What there is to know when a report with the issues `held` has been used. -/
structure Counted (files : Files) (pick : Pick) (limit : Int) (held : List Issue) (use : Use) (ran : Ran Answer) :
    Prop where
  /-- The issue that the use finds comes after those before it. -/
  issues : ran.report.issues = held ++ (use.found files).toList
  room : ran.report.limit = limit
  /-- There is word of too many issues exactly if the use finds the last issue of those that are enough. -/
  full : ran.result = .error .tooManyIssues ↔ (use.found files).isSome = true ∧ (held.length : Int) + 1 = limit
  /-- Without that word, the use comes to what it does by itself. -/
  ends : ran.result ≠ .error .tooManyIssues → Ends files pick held use ran.result

section

variable {files : Files} {pick : Pick} {held : List Issue} {use : Use} {result : Except Mishap Answer}
  {report : Report} {issue : Issue} {ran : Ran Answer} {limit : Int}

theorem Ends.ne_tooManyIssues (h : Ends files pick held use result) : result ≠ .error .tooManyIssues := by
  induction h with
  | tree _ _ _ ih => exact ih
  | _ => simp

/-- A use that finds an issue: the report holds it, whatever the use comes to. -/
theorem counted_hold (hf : use.found files = some issue) (he : Ends files pick report.issues use result)
    (printed : String) : Counted files pick report.limit report.issues use (report.hold issue printed result) := by
  by_cases hroom : (report.issues.length : Int) + 1 = report.limit
  · have hran : report.hold issue printed result = ⟨report.add issue, printed, .error .tooManyIssues⟩ := by
      simp [Report.hold, Report.isFull, Report.add, hroom]
    rw [hran]
    exact ⟨by simp [hf], rfl, by simp [hf, hroom], fun h => absurd rfl h⟩
  · rw [Report.hold_of_ne hroom]
    exact ⟨by simp [hf], rfl, by simp [hroom, he.ne_tooManyIssues], fun _ => he⟩

/-- A use that finds no issue. -/
theorem counted_keep (hf : use.found files = none) (he : Ends files pick held use ran.result)
    (hi : ran.report.issues = held) (hl : ran.report.limit = limit) : Counted files pick limit held use ran :=
  ⟨by simp [hf, hi], hl, by simp [hf, he.ne_tooManyIssues], fun _ => he⟩

theorem map_hold {α β : Type} (f : α → β) (printed : String) (result : Except Mishap α) :
    (report.hold issue printed result).map f = report.hold issue printed (result.map f) := by
  simp only [Report.hold, Ran.map]
  split <;> rfl

theorem counted_readTree (source : Option Path) (tree : Json) :
    Counted files pick report.limit report.issues (.readTree source tree)
      ((report.readTree source tree).map .term) := by
  cases h : Tree.readTerm source [] tree with
  | ok term =>
    have hf : (Use.readTree source tree).found files = none := by simp [found, h, Tree.Reading.issue?]
    rw [Report.readTree, h]
    exact counted_keep hf (.read h) rfl rfl
  | error refusal =>
    obtain ⟨trail, cause⟩ := refusal
    cases cause with
    | hint hint =>
      have hf : (Use.readTree source tree).found files =
          some (.malformedTree source trail.text hint.message) := by simp [found, h, Tree.Reading.issue?]
      rw [Report.readTree, h, Report.takeReading, map_hold]
      exact counted_hold hf (.refused h) ""
    | stray stray =>
      have hf : (Use.readTree source tree).found files = none := by simp [found, h, Tree.Reading.issue?]
      rw [Report.readTree, h]
      exact counted_keep hf (.stray h) rfl rfl

/-- A document is read as the tree in it. -/
theorem Counted.document {path : Path} {source : Option Path} {text : List Char} {tree : Json}
    (ht : files.text path = .ok text) (hp : Json.parse text = .ok tree)
    (h : Counted files pick limit held (.readTree source tree) ran) :
    Counted files pick limit held (.readDocument path source) ran := by
  have hf : (Use.readDocument path source).found files = (Use.readTree source tree).found files := by
    simp [found, ht, hp]
  exact ⟨hf ▸ h.issues, h.room, hf ▸ h.full, fun hne => .tree ht hp (h.ends hne)⟩

theorem counted_readDocument (path : Path) (source : Option Path) :
    Counted files pick report.limit report.issues (.readDocument path source)
      ((report.readDocument files path source).map .term) := by
  cases ht : files.text path with
  | error fault =>
    cases fault with
    | missing =>
      have hf : (Use.readDocument path source).found files = some (.noSuchFile path) := by simp [found, ht]
      simp only [Report.readDocument, ht, map_hold]
      exact counted_hold hf (.noText ht) ""
    | _ =>
      simp only [Report.readDocument, ht, map_hold]
      exact counted_hold (by simp [found, ht]) (.noText ht) ""
  | ok text =>
    cases hp : Json.parse text with
    | error fault =>
      simp only [Report.readDocument, ht, hp, map_hold]
      exact counted_hold (by simp [found, ht, hp]) (.noTree ht hp) ""
    | ok tree =>
      simp only [Report.readDocument, ht, hp]
      exact (counted_readTree source tree).document ht hp

theorem counted_checkProgram (env : Env) (term : ReadTerm) :
    Counted files pick report.limit report.issues (.checkProgram env term)
      ((report.checkProgram env term).map .verdict) := by
  cases h : term.judge env with
  | ok type =>
    simp only [Report.checkProgram, h]
    exact counted_keep (by simp [found, h]) (.typed h) rfl rfl
  | error failure =>
    cases failure with
    | complaint violation guilty =>
      simp only [Report.checkProgram, h, map_hold]
      exact counted_hold (by simp [found, h]) (.illTyped h) _
    | repeatedNames fault =>
      simp only [Report.checkProgram, h]
      exact counted_keep (by simp [found, h]) (.repeatedNames h) rfl rfl

/-! ## Showing the issues -/

theorem shown_of_mapM {issues : List Issue} {shown : List String} {recent rest : Recent}
    (h : (issues.mapM (Issue.text files)).run recent = .ok shown rest) :
    List.Forall₂ (fun issue text => ∃ recent rest, (issue.text files).run recent = .ok text rest) issues shown := by
  induction issues generalizing shown recent with
  | nil =>
    cases h
    exact .nil
  | cons issue others ih =>
    rw [List.mapM_cons, EStateM.run_bind] at h
    cases ht : (issue.text files).run recent with
    | error fault middle =>
      rw [ht] at h
      cases h
    | ok text middle =>
      rw [ht] at h
      dsimp only at h
      rw [EStateM.run_bind] at h
      cases hm : (others.mapM (Issue.text files)).run middle with
      | error fault last =>
        rw [hm] at h
        cases h
      | ok more last =>
        rw [hm] at h
        cases h
        exact .cons ⟨recent, middle, ht⟩ (ih hm)

theorem limit_complain : (report.complain files pick).2.limit = report.limit := by
  simp only [Report.complain]
  split <;> rfl

theorem counted_texts : Counted files pick report.limit report.issues .texts (Use.texts.run files pick report) := by
  cases h : (report.issues.mapM (Issue.text files)).run report.recent with
  | ok shown rest =>
    simp only [run, Report.texts, h]
    exact counted_keep rfl (.texts (shown_of_mapM h)) rfl rfl
  | error fault rest =>
    simp only [run, Report.texts, h]
    refine counted_keep rfl (.cannotShow .texts fun hp => ?_) rfl rfl
    obtain ⟨shown, hs⟩ := Issue.mapM_text_of_pathless files hp
    rw [hs] at h
    cases h

theorem counted_complain :
    Counted files pick report.limit report.issues .complain (Use.complain.run files pick report) := by
  simp only [run]
  split
  · next fault h =>
    refine counted_keep rfl (.cannotShow .complain fun hp => ?_) (Report.issues_complain ..) limit_complain
    simp [Report.fault_complain files hp] at h
  · exact counted_keep rfl .complain (Report.issues_complain ..) limit_complain

theorem counted_assertNoIssues (message : String) : Counted files pick report.limit report.issues
    (.assertNoIssues message) ((Use.assertNoIssues message).run files pick report) := by
  simp only [run]
  split
  · next fault h =>
    refine counted_keep rfl (.cannotShow .assertNoIssues fun hp => ?_) (Report.issues_complain ..) limit_complain
    simp [Report.fault_complain files hp] at h
  · split
    · next h =>
      refine counted_keep rfl (.assertNone ?_) (Report.issues_complain ..) limit_complain
      simpa [Report.isOk] using h
    · next h =>
      refine counted_keep rfl (.assertSome ?_) (Report.issues_complain ..) limit_complain
      simpa [Report.isOk] using h

/-! ## Whole runs -/

/-- One use, whatever the report holds. -/
theorem counted_run (files : Files) (pick : Pick) (report : Report) (use : Use) :
    Counted files pick report.limit report.issues use (use.run files pick report) := by
  cases use with
  | isOk => exact counted_keep rfl .isOk rfl rfl
  | isSick => exact counted_keep rfl .isSick rfl rfl
  | texts => exact counted_texts
  | progress words => exact counted_keep rfl .progress rfl rfl
  | noSuchFile path => exact counted_hold rfl .noSuchFile ""
  | brokenFile path why => exact counted_hold rfl .brokenFile ""
  | malformedTree path place hint => exact counted_hold rfl .malformedTree ""
  | typeError nature span => exact counted_hold rfl .typeError ""
  | readTree source tree => exact counted_readTree source tree
  | readDocument path source => exact counted_readDocument path source
  | checkProgram env term => exact counted_checkProgram env term
  | complain => exact counted_complain
  | assertNoIssues message => exact counted_assertNoIssues message

@[simp] theorem length_runAll (files : Files) (pick : Pick) (report : Report) (uses : List Use) :
    (runAll files pick report uses).length = uses.length := by
  induction uses generalizing report with
  | nil => rfl
  | cons use rest ih => simp [runAll, ih]

theorem exists_use {uses : List Use} {i : Nat} (hr : (runAll files pick report uses)[i]? = some ran) :
    ∃ use, uses[i]? = some use := by
  obtain ⟨hi, -⟩ := List.getElem?_eq_some_iff.1 hr
  rw [length_runAll] at hi
  exact ⟨uses[i], List.getElem?_eq_getElem hi⟩

/-- What uses find, one after the other. -/
def foundIn (files : Files) (uses : List Use) : List Issue := uses.filterMap (found files)

theorem foundIn_cons (use : Use) (rest : List Use) :
    foundIn files (use :: rest) = (use.found files).toList ++ foundIn files rest := by
  rw [foundIn, List.filterMap_cons]
  cases use.found files <;> rfl

theorem foundIn_take_succ {uses : List Use} {i : Nat} (hu : uses[i]? = some use) :
    foundIn files (uses.take (i + 1)) = foundIn files (uses.take i) ++ (use.found files).toList := by
  rw [List.take_add_one, hu, foundIn, List.filterMap_append]
  exact congrArg _ ((foundIn_cons use []).trans (List.append_nil _))

theorem foundIn_eq_nil {uses : List Use} : foundIn files uses = [] ↔ ∀ use ∈ uses, use.found files = none :=
  List.filterMap_eq_nil_iff

theorem length_foundIn_take_le (files : Files) (uses : List Use) {i j : Nat} (h : i ≤ j) :
    (foundIn files (uses.take i)).length ≤ (foundIn files (uses.take j)).length :=
  ((List.take_sublist_take_left h).filterMap (found files)).length_le

/-- Each use of a run: it goes on from the issues of the report in the beginning and all that has been found since. -/
theorem counted_runAll {uses : List Use} {i : Nat} (hu : uses[i]? = some use)
    (hr : (runAll files pick report uses)[i]? = some ran) :
    Counted files pick report.limit (report.issues ++ foundIn files (uses.take i)) use ran := by
  induction uses generalizing report i with
  | nil => cases hu
  | cons first rest ih =>
    have hfirst : Counted files pick report.limit report.issues first (first.run files pick report) :=
      counted_run files pick report first
    cases i with
    | zero =>
      obtain rfl : first = use := by simpa using hu
      obtain rfl : first.run files pick report = ran := by simpa [runAll] using hr
      simpa [foundIn] using hfirst
    | succ i =>
      -- the rest goes on from what the first use left, and its limit is the same
      have h : Counted files pick (first.run files pick report).report.limit
          ((first.run files pick report).report.issues ++ foundIn files (rest.take i)) use ran :=
        ih (by simpa using hu) (by simpa [runAll] using hr)
      rw [hfirst.room, hfirst.issues, List.append_assoc, ← foundIn_cons] at h
      simpa using h

end

/-- What there is to know of a run of uses, of a report that had no issues in the beginning. -/
structure Faithful (files : Files) (pick : Pick) (limit : Int) (uses : List Use) (runs : List (Ran Answer)) : Prop where
  length : runs.length = uses.length
  /-- The issues held are those found, each once, in the order in which they were found. -/
  counted : ∀ i use ran, uses[i]? = some use → runs[i]? = some ran →
    Counted files pick limit (foundIn files (uses.take i)) use ran
  isOk : ∀ i ran, runs[i]? = some ran →
    (ran.report.isOk = true ↔ ∀ use ∈ uses.take (i + 1), use.found files = none)
  isSick : ∀ ran ∈ runs, ran.report.isSick = !ran.report.isOk
  /-- If no file is needed to show the issues, then they are complained of exactly if there are any. -/
  asserted : ∀ i message ran, uses[i]? = some (.assertNoIssues message) → runs[i]? = some ran →
    (∀ issue ∈ foundIn files (uses.take i), issue.Pathless) →
    ((∃ text, ran.result = .error (.issuesHeld text)) ↔ ∃ use ∈ uses.take i, use.found files ≠ none)
  never : limit ≤ 0 → ∀ ran ∈ runs, ran.result ≠ .error .tooManyIssues
  once : ∀ (i j : Nat) (ran ran' : Ran Answer), runs[i]? = some ran → runs[j]? = some ran' →
    ran.result = .error .tooManyIssues → ran'.result = .error .tooManyIssues → i = j

section

variable {files : Files} {pick : Pick} {held : List Issue} {limit : Int} {verbose : Bool} {uses : List Use}
  {ran ran' : Ran Answer} {message : String} {i j : Nat}

/-- With issues that need no file, the assertion of none fails exactly if there are any. -/
theorem Counted.asserted (h : Counted files pick limit held (.assertNoIssues message) ran)
    (hp : ∀ issue ∈ held, issue.Pathless) : (∃ text, ran.result = .error (.issuesHeld text)) ↔ held ≠ [] := by
  have hends := h.ends fun hfull => Bool.false_ne_true (h.full.1 hfull).1
  generalize ran.result = result at hends ⊢
  cases hends with
  | assertNone hnone => simp [hnone]
  | assertSome hsome => simp [hsome]
  | cannotShow _ hnot => exact absurd hp hnot

/-- After the word of too many issues the count has grown past the limit. -/
theorem not_full_again (hr : (runAll files pick (.fresh limit verbose) uses)[i]? = some ran)
    (hr' : (runAll files pick (.fresh limit verbose) uses)[j]? = some ran')
    (hfull : ran.result = .error .tooManyIssues) (hlt : i < j) : ran'.result ≠ .error .tooManyIssues := by
  intro hfull'
  obtain ⟨use, hu⟩ := exists_use hr
  obtain ⟨use', hu'⟩ := exists_use hr'
  obtain ⟨hfound, hcount⟩ := (counted_runAll hu hr).full.1 hfull
  obtain ⟨-, hcount'⟩ := (counted_runAll hu' hr').full.1 hfull'
  obtain ⟨issue, hissue⟩ := Option.isSome_iff_exists.1 hfound
  have hgrown := length_foundIn_take_le files uses (Nat.succ_le_of_lt hlt)
  rw [Nat.succ_eq_add_one, foundIn_take_succ hu, hissue, List.length_append] at hgrown
  simp only [Report.fresh, List.nil_append, Option.toList_some, List.length_singleton] at hcount hcount' hgrown
  omega

end

/-- Whatever a report is used for: it counts faithfully. -/
theorem runAll_faithful (files : Files) (pick : Pick) (limit : Int) (verbose : Bool) (uses : List Use) :
    Faithful files pick limit uses (runAll files pick (.fresh limit verbose) uses) := by
  have hcounted : ∀ (i : Nat) (use : Use) (ran : Ran Answer), uses[i]? = some use →
      (runAll files pick (.fresh limit verbose) uses)[i]? = some ran →
      Counted files pick limit (foundIn files (uses.take i)) use ran :=
    fun i use ran hu hr => counted_runAll hu hr
  refine ⟨length_runAll .., hcounted, ?_, fun _ _ => rfl, ?_, ?_, ?_⟩
  · intro i ran hr
    obtain ⟨use, hu⟩ := exists_use hr
    rw [← foundIn_eq_nil, foundIn_take_succ hu, ← (hcounted i use ran hu hr).issues, Report.isOk, List.isEmpty_iff]
  · intro i message ran hu hr hp
    rw [(hcounted i _ ran hu hr).asserted hp, Ne, foundIn_eq_nil]
    push Not
    rfl
  · intro hlimit ran hmem hfull
    obtain ⟨i, hr⟩ := List.mem_iff_getElem?.1 hmem
    obtain ⟨use, hu⟩ := exists_use hr
    have hcount := ((hcounted i use ran hu hr).full.1 hfull).2
    omega
  · intro i j ran ran' hr hr' hfull hfull'
    rcases Nat.lt_trichotomy i j with hlt | rfl | hlt
    · exact absurd hfull' (not_full_again hr hr' hfull hlt)
    · rfl
    · exact absurd hfull (not_full_again hr' hr hfull' hlt)

/-- Where two issues are enough there is word of the second, and a third is held without. -/
example (files : Files) (pick : Pick) (path : Path) :
    (runAll files pick (.fresh 2 false) [.noSuchFile path, .isSick, .noSuchFile path, .noSuchFile path]).map
      (·.result) = [.ok .nothing, .ok (.truth true), .error .tooManyIssues, .ok .nothing] := rfl

end Use

end StructuralTyping
