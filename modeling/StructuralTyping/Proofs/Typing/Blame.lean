/-
Complaints are true. For each violation the rule that it says is broken is stated about a node, the
scope of the node and the part that is at fault. Main statement: when a clean term has no type in a
clean environment, the complaint names a node of the term, on the way to which every binding has a
type, and the rule is broken there.
-/
import StructuralTyping.Proofs.Typing.Loops
import StructuralTyping.Proofs.Typing.Scope

namespace StructuralTyping.Term

variable {Loc α : Type}

/-- `Breaks env node violation blamed`: in this scope the node is wrong in the way that the violation
says, and the fault is at `blamed`, counted from the node. -/
inductive Breaks (env : Env) : Term Loc → Violation → Position → Prop where
  | booleanExpected {cond thn els loc T} : judge env cond = .ok T → T ≠ .boolean →
      Breaks env (.ite cond thn els loc) .booleanExpected [0]
  | branchesDiffer {cond thn els loc A B} : judge env thn = .ok A → judge env els = .ok B → ¬ Ty.Same A B →
      Breaks env (.ite cond thn els loc) .branchesDiffer []
  | leftNotNumber {left right loc T} : judge env left = .ok T → T ≠ .number →
      Breaks env (.add left right loc) .numberExpected [0]
  | rightNotNumber {left right loc T} : judge env right = .ok T → T ≠ .number →
      Breaks env (.add left right loc) .numberExpected [1]
  | unknownVariable {name loc} : env.find? name = none → Breaks env (.var name loc) (.unknownVariable name) []
  | wrongReturnType {name params ret body rest loc T} :
      judge ((env.extend params).bind name (.func params ret)) body = .ok T → ¬ Ty.Same T ret →
      Breaks env (.recFunc name params ret body rest loc) .wrongReturnType []
  | functionExpected {callee args loc T} : judge env callee = .ok T → (∀ params ret, T ≠ .func params ret) →
      Breaks env (.call callee args loc) .functionExpected [0]
  | wrongArgumentCount {callee args loc params ret} : judge env callee = .ok (.func params ret) →
      params.length ≠ args.length → Breaks env (.call callee args loc) .wrongArgumentCount []
  | argumentMismatch {callee args loc params ret i arg p T} : judge env callee = .ok (.func params ret) →
      params.length = args.length → args[i]? = some arg → params[i]? = some p → judge env arg = .ok T →
      ¬ Ty.Same T p.2 → Breaks env (.call callee args loc) .argumentMismatch [i + 1]
  | duplicateProperty {props : List (String × Term Loc)} {loc i prop} : props[i]? = some prop →
      prop.1 ∈ Dict.names (props.take i) → Breaks env (.objectNew props loc) (.duplicateProperty prop.1) []
  | objectExpected {object name loc T} : judge env object = .ok T → (∀ props, T ≠ .object props) →
      Breaks env (.objectGet object name loc) .objectExpected [0]
  | unknownProperty {object name loc props} : judge env object = .ok (.object props) → name ∉ Dict.names props →
      Breaks env (.objectGet object name loc) (.unknownProperty name) []
  | unionRequired {label props type loc} : (∀ variants, type ≠ .union variants) →
      Breaks env (.unionNew label props type loc) .unionRequired []
  | unknownVariant {label props variants loc} : label ∉ Dict.names variants →
      Breaks env (.unionNew label props (.union variants) loc) (.unknownVariant label) []
  | repeatedProperty {label type loc} {props : List (String × Term Loc)} {i prop} : props[i]? = some prop →
      prop.1 ∈ Dict.names (props.take i) → Breaks env (.unionNew label props type loc) (.duplicateProperty prop.1) []
  | undeclaredProperty {label variants declared name loc} {props : List (String × Term Loc)} :
      variants.lookup label = some declared → name ∈ Dict.names props → name ∉ Dict.names declared →
      Breaks env (.unionNew label props (.union variants) loc) (.unknownProperty name) []
  | propertyMismatch {label props variants declared prop expected T loc} :
      variants.lookup label = some declared → prop ∈ props → declared.lookup prop.1 = some expected →
      judge env prop.2 = .ok T → ¬ Ty.Same T expected →
      Breaks env (.unionNew label props (.union variants) loc) (.propertyMismatch prop.1) []
  | missingProperty {label variants declared name loc} {props : List (String × Term Loc)} :
      variants.lookup label = some declared → name ∈ Dict.names declared → name ∉ Dict.names props →
      Breaks env (.unionNew label props (.union variants) loc) (.missingProperty name) []
  | unknownSubject {subject clauses loc} : env.find? subject = none →
      Breaks env (.unionGet subject clauses loc) (.unknownVariable subject) []
  | subjectNotUnion {subject clauses loc T} : env.find? subject = some T → (∀ variants, T ≠ .union variants) →
      Breaks env (.unionGet subject clauses loc) (.subjectNotUnion subject) []
  | noSuchCase {subject clauses loc variants i clause} : env.find? subject = some (.union variants) →
      clauses[i]? = some clause → clause.1 ∉ Dict.names variants →
      Breaks env (.unionGet subject clauses loc) (.noSuchCase clause.1) [i]
  | duplicateCase {subject} {clauses : List (String × Term Loc)} {loc variants i clause} :
      env.find? subject = some (.union variants) → clauses[i]? = some clause →
      clause.1 ∈ Dict.names (clauses.take i) →
      Breaks env (.unionGet subject clauses loc) (.duplicateCase clause.1) [i]
  | clausesDiffer {subject clauses loc variants i first clause A B} : env.find? subject = some (.union variants) →
      clauses.head? = some first → judge (env.narrow subject first.1) first.2 = .ok A →
      clauses[i]? = some clause → judge (env.narrow subject clause.1) clause.2 = .ok B → ¬ Ty.Same B A →
      Breaks env (.unionGet subject clauses loc) .clausesDiffer [i]
  | notExhaustive {subject} {clauses : List (String × Term Loc)} {loc variants label} :
      env.find? subject = some (.union variants) → label ∈ Dict.names variants → label ∉ Dict.names clauses →
      Breaks env (.unionGet subject clauses loc) .notExhaustive []
  | noClauses {subject loc} : env.find? subject = some (.union []) →
      Breaks env (.unionGet subject [] loc) .noClauses []

/-- Some node of the term, in its scope, breaks a rule, and the guilty node is the part at fault. Both
have a scope. -/
def Blamed (env : Env) (term : Term Loc) (violation : Violation) (guilty : Term Loc) : Prop :=
  ∃ site node scope blamed own, term.at? site = some node ∧ scope? env term site = some scope ∧
    Breaks scope node violation blamed ∧
    term.at? (site ++ blamed) = some guilty ∧ scope? env term (site ++ blamed) = some own

/-- A failure is a complaint about a guilty node that does break a rule. -/
def Justified (env : Env) (term : Term Loc) (failure : Failure Loc) : Prop :=
  ∃ violation guilty, failure = .complaint violation (some guilty) ∧ Blamed env term violation guilty

section

variable {env own inner : Env} {term sub : Term Loc} {violation : Violation} {failure : Failure Loc} {i : Nat}

theorem Justified.here (h : (blame violation term : Judgment Loc α) = .error failure)
    (hb : Breaks env term violation []) : Justified env term failure := by
  cases h
  exact ⟨violation, term, rfl, [], term, env, [], env, rfl, rfl, hb, rfl, rfl⟩

theorem Justified.there (h : (blame violation sub : Judgment Loc α) = .error failure)
    (hb : Breaks env term violation [i]) (hp : term.parts[i]? = some sub) (hs : partScope? env term i = some own) :
    Justified env term failure := by
  cases h
  exact ⟨violation, sub, rfl, [], term, env, [i], own, rfl, rfl, hb, at?_cons.2 ⟨sub, hp, rfl⟩,
    scope?_cons.2 ⟨own, sub, hs, hp, rfl⟩⟩

theorem Justified.part (h : Justified inner sub failure) (hp : term.parts[i]? = some sub)
    (hs : partScope? env term i = some inner) : Justified env term failure := by
  obtain ⟨violation, guilty, rfl, site, node, scope, blamed, own, hn, hsc, hb, hg, ho⟩ := h
  refine ⟨violation, guilty, rfl, i :: site, node, scope, blamed, own, ?_, ?_, hb, ?_, ?_⟩
  · exact at?_cons.2 ⟨sub, hp, hn⟩
  · exact scope?_cons.2 ⟨inner, sub, hs, hp, hsc⟩
  · exact at?_cons.2 ⟨sub, hp, hg⟩
  · exact scope?_cons.2 ⟨inner, sub, hs, hp, ho⟩

end

/-! ## Where the loops fail -/

variable {env : Env} {failure : Failure Loc}

theorem judgeArgs_error {params : List (String × Ty)} {args : List (Term Loc)}
    (h : judgeArgs env params args = .error failure) : ∃ (i : Nat) (arg : Term Loc) (p : String × Ty),
      args[i]? = some arg ∧ params[i]? = some p ∧ (judge env arg = .error failure ∨
        ∃ S, judge env arg = .ok S ∧ ¬ Ty.Same S p.2 ∧
          (blame .argumentMismatch arg : Judgment Loc Unit) = .error failure) := by
  rw [judgeArgs_eq] at h
  obtain ⟨i, ⟨arg, p⟩, -, hx, -, he⟩ := foldlM_first_error h
  obtain ⟨harg, hp⟩ := List.getElem?_zip_eq_some.1 hx
  refine ⟨i, arg, p, harg, hp, ?_⟩
  rcases bind_eq_error.1 he with hj | ⟨S, hs, he⟩
  · exact .inl hj
  · split at he
    · cases he
    · exact .inr ⟨S, hs, ‹_›, he⟩

theorem judgeProps_error {whole : Term Loc} {props : List (String × Term Loc)}
    (h : judgeProps env whole [] props = .error failure) : ∃ (i : Nat) (prop : String × Term Loc),
      props[i]? = some prop ∧ (judge env prop.2 = .error failure ∨
        prop.1 ∈ Dict.names (props.take i) ∧
          (blame (.duplicateProperty prop.1) whole : Judgment Loc Unit) = .error failure) := by
  rw [judgeProps_eq] at h
  obtain ⟨i, prop, before, hx, ht, he⟩ := foldlM_first_error h
  -- the names met so far are those of the properties before this one
  have hnames : Dict.names before = Dict.names (props.take i) := by
    refine foldlM_invariant (fun behind before => Dict.names before = Dict.names behind) rfl ?_ ht
    intro behind s x r hn hr
    unfold addProp at hr
    split at hr
    · cases hr
    · obtain ⟨S, -, hr⟩ := bind_eq_ok.1 hr
      cases hr
      rw [Dict.names_append, Dict.names_append, hn]
      rfl
  refine ⟨i, prop, hx, ?_⟩
  unfold addProp at he
  split at he
  · rename_i hc
    exact .inr ⟨by simpa [hnames] using hc, by cases he; rfl⟩
  · rcases bind_eq_error.1 he with hj | ⟨S, -, he⟩
    · exact .inl hj
    · cases he

theorem judgeSupplied_error {whole : Term Loc} {declared : List (String × Ty)} {props : List (String × Term Loc)}
    (h : judgeSupplied env whole declared [] props = .error failure) : ∃ (i : Nat) (prop : String × Term Loc),
      props[i]? = some prop ∧ (judge env prop.2 = .error failure ∨
        prop.1 ∈ Dict.names (props.take i) ∧
          (blame (.duplicateProperty prop.1) whole : Judgment Loc Unit) = .error failure ∨
        declared.lookup prop.1 = none ∧
          (blame (.unknownProperty prop.1) whole : Judgment Loc Unit) = .error failure ∨
        ∃ expected S, declared.lookup prop.1 = some expected ∧ judge env prop.2 = .ok S ∧ ¬ Ty.Same S expected ∧
          (blame (.propertyMismatch prop.1) whole : Judgment Loc Unit) = .error failure) := by
  rw [judgeSupplied_eq] at h
  obtain ⟨i, prop, supplied, hx, ht, he⟩ := foldlM_first_error ((bind_eq_error.1 h).resolve_right (by simp))
  -- the names met so far are those of the properties before this one
  have hnames : supplied = Dict.names (props.take i) := by
    refine foldlM_invariant (fun behind supplied => supplied = Dict.names behind) rfl ?_ ht
    intro behind s x r hn hr
    unfold checkSupplied at hr
    split at hr
    · cases hr
    · split at hr
      · cases hr
      · obtain ⟨S, -, hr⟩ := bind_eq_ok.1 hr
        split at hr
        · cases hr
          rw [Dict.names_append, hn]
          rfl
        · cases hr
  refine ⟨i, prop, hx, ?_⟩
  unfold checkSupplied at he
  split at he
  · rename_i hc
    exact .inr (.inl ⟨by simpa [hnames] using hc, by cases he; rfl⟩)
  · split at he
    · exact .inr (.inr (.inl ⟨‹_›, by cases he; rfl⟩))
    · rcases bind_eq_error.1 he with hj | ⟨S, hs, he⟩
      · exact .inl hj
      · split at he
        · cases he
        · exact .inr (.inr (.inr ⟨_, S, ‹_›, hs, ‹_›, by cases he; rfl⟩))

/-- The names seen are those of the clauses behind, and the first type is that of the first clause. -/
def ClausesBehind (env : Env) (subject : String) (behind : List (String × Term Loc))
    (state : List String × Option Ty) : Prop :=
  state.1 = Dict.names behind ∧
    Option.Rel (fun first seed => judge (env.narrow subject first.1) first.2 = .ok seed) behind.head? state.2

theorem checkClause_behind {subject : String} {variants : List (String × List (String × Ty))}
    {behind : List (String × Term Loc)} {state next : List String × Option Ty} {clause : String × Term Loc}
    (hf : env.find? subject = some (.union variants)) (hb : ClausesBehind env subject behind state)
    (h : checkClause env subject variants state clause = .ok next) :
    ClausesBehind env subject (behind ++ [clause]) next := by
  obtain ⟨hseen, hfirst⟩ := hb
  unfold checkClause at h
  split at h
  · cases h
  rename_i props hl
  split at h
  · cases h
  obtain ⟨_, hm, h⟩ := bind_eq_ok.1 h
  obtain ⟨-, rfl⟩ := demandDistinct_mkObject.1 hm
  obtain ⟨S, hs, h⟩ := bind_eq_ok.1 h
  have hnames : state.1 ++ [clause.1] = Dict.names (behind ++ [clause]) := by
    rw [hseen, Dict.names_append]
    rfl
  -- the first clause brings the type with which the others are compared
  cases behind with
  | nil =>
    generalize state.2 = first at h hfirst
    cases hfirst
    cases h
    refine ⟨hnames, .some ?_⟩
    rw [Env.narrow_eq hf hl]
    exact hs
  | cons head rest =>
    generalize state.2 = first at h hfirst
    cases hfirst with
    | some hj =>
      dsimp only at h
      split at h
      · cases h
        exact ⟨hnames, .some hj⟩
      · cases h

theorem judgeClauses_error {subject : String} {variants : List (String × List (String × Ty))}
    {clauses : List (String × Term Loc)} (hf : env.find? subject = some (.union variants))
    (hv : Dict.Proper (Dict.Proper Ty.Clean) variants)
    (h : judgeClauses env subject variants [] none clauses = .error failure) :
    ∃ (i : Nat) (clause : String × Term Loc), clauses[i]? = some clause ∧
      (judge (env.narrow subject clause.1) clause.2 = .error failure ∨
        clause.1 ∉ Dict.names variants ∧
          (blame (.noSuchCase clause.1) clause.2 : Judgment Loc Unit) = .error failure ∨
        clause.1 ∈ Dict.names (clauses.take i) ∧
          (blame (.duplicateCase clause.1) clause.2 : Judgment Loc Unit) = .error failure ∨
        ∃ first A B, clauses.head? = some first ∧ judge (env.narrow subject first.1) first.2 = .ok A ∧
          judge (env.narrow subject clause.1) clause.2 = .ok B ∧ ¬ Ty.Same B A ∧
          (blame .clausesDiffer clause.2 : Judgment Loc Unit) = .error failure) := by
  rw [judgeClauses_eq] at h
  obtain ⟨i, clause, state, hx, ht, he⟩ := foldlM_first_error ((bind_eq_error.1 h).resolve_right (by simp))
  obtain ⟨hseen, hfirst⟩ : ClausesBehind env subject (clauses.take i) state :=
    foldlM_invariant (ClausesBehind env subject) ⟨rfl, .none⟩ (fun _ _ _ _ hb h => checkClause_behind hf hb h) ht
  refine ⟨i, clause, hx, ?_⟩
  unfold checkClause at he
  split at he
  · exact .inr (.inl ⟨Dict.lookup_eq_none.1 ‹_›, by cases he; rfl⟩)
  rename_i props hl
  split at he
  · rename_i hc
    exact .inr (.inr (.inl ⟨by simpa [hseen] using hc, by cases he; rfl⟩))
  -- the properties of a clean variant always make an object type
  rcases bind_eq_error.1 he with he | ⟨narrowed, hm, he⟩
  · rw [demandDistinct_mkObject.2 ⟨(hv.of_lookup hl).nodup, rfl⟩] at he
    cases he
  obtain ⟨-, rfl⟩ := demandDistinct_mkObject.1 hm
  rw [← Env.narrow_eq hf hl] at he
  rcases bind_eq_error.1 he with hj | ⟨B, hB, he⟩
  · exact .inl hj
  generalize state.2 = seed at he hfirst
  cases seed with
  | none => cases he
  | some A =>
    obtain ⟨first, hhead, hA⟩ := Dict.rel_eq_some hfirst
    dsimp only at he
    split at he
    · cases he
    · rw [List.head?_take] at hhead
      split at hhead
      · cases hhead
      · exact .inr (.inr (.inr ⟨first, A, B, hhead, hA, hB, ‹_›, by cases he; rfl⟩))

theorem firstMissing_eq_some {declared supplied : List String} {name : String} :
    firstMissing declared supplied = some name ↔ ∃ before after, declared = before ++ name :: after ∧
      (∀ own ∈ before, own ∈ supplied) ∧ name ∉ supplied := by
  rw [firstMissing, List.find?_eq_some_iff_append]
  simp only [List.contains_eq_mem, Bool.not_eq_true', decide_eq_false_iff_not, Bool.not_not, decide_eq_true_eq,
    ← exists_and_left]
  constructor
  · rintro ⟨before, after, hn, hsplit, hbefore⟩
    exact ⟨before, after, hsplit, hbefore, hn⟩
  · rintro ⟨before, after, hsplit, hbefore, hn⟩
    exact ⟨before, after, hn, hsplit, hbefore⟩

/-- Clauses for distinct variants that are too few or too many leave a variant out. -/
theorem exists_uncovered {subject : String} {variants : List (String × List (String × Ty))}
    {clauses : List (String × Term Loc)} {first : Option Ty} (hv : (Dict.names variants).Nodup)
    (h : judgeClauses env subject variants [] none clauses = .ok first) (hl : clauses.length ≠ variants.length) :
    ∃ label ∈ Dict.names variants, label ∉ Dict.names clauses := by
  obtain ⟨hd, hsub, -⟩ := judgeClauses_names h
  by_contra! hall
  have hle := (List.subperm_of_subset hd hsub).length_le
  have hge := (List.subperm_of_subset hv hall).length_le
  rw [Dict.length_names, Dict.length_names] at hle hge
  omega

/-! ## Complaints -/

theorem justified_of_judge {term : Term Loc} (henv : env.Clean) (hterm : term.Clean)
    (h : judge env term = .error failure) : Justified env term failure := by
  induction term using partsInduction generalizing env with
  | step term ih =>
    have ha := hterm.annotated
    -- a failure of a part, judged in its scope, is a failure of the node
    replace ih : ∀ i part inner, term.parts[i]? = some part → partScope? env term i = some inner →
        judge inner part = .error failure → Justified env term failure := fun i part inner hp hs hj =>
      have hm := List.mem_of_getElem? hp
      (ih part hm (hterm.partScope henv hs) (hterm.part hm) hj).part hp hs
    cases term with
    | bool => cases h
    | number => cases h
    | ite cond thn els =>
      rw [judge] at h
      rcases bind_eq_error.1 h with h | ⟨C, hc, h⟩
      · exact ih 0 cond env rfl rfl h
      split at h
      · rcases bind_eq_error.1 h with h | ⟨A, hA, h⟩
        · exact ih 1 thn env rfl rfl h
        rcases bind_eq_error.1 h with h | ⟨B, hB, h⟩
        · exact ih 2 els env rfl rfl h
        split at h
        · cases h
        · exact .here h (.branchesDiffer hA hB ‹_›)
      · exact .there h (.booleanExpected hc ‹_›) rfl rfl
    | add left right =>
      rw [judge] at h
      rcases bind_eq_error.1 h with h | ⟨L, hL, h⟩
      · exact ih 0 left env rfl rfl h
      rcases bind_eq_error.1 h with h | ⟨_, -, h⟩
      · obtain ⟨hne, h⟩ := requireNumber_eq_error.1 h
        exact .there h (.leftNotNumber hL hne) rfl rfl
      rcases bind_eq_error.1 h with h | ⟨R, hR, h⟩
      · exact ih 1 right env rfl rfl h
      rcases bind_eq_error.1 h with h | ⟨_, -, h⟩
      · obtain ⟨hne, h⟩ := requireNumber_eq_error.1 h
        exact .there h (.rightNotNumber hR hne) rfl rfl
      cases h
    | var name =>
      rw [judge] at h
      split at h
      · rename_i T hf
        rw [judged_eq_ok.2 ⟨rfl, (henv name T hf).isError⟩] at h
        cases h
      · exact .here h (.unknownVariable ‹_›)
    | func params body =>
      rw [judge] at h
      rcases bind_eq_error.1 h with h | ⟨ret, -, h⟩
      · exact ih 0 body _ rfl rfl h
      · rw [demandDistinct_mkFunc.2 ⟨ha.nodup, rfl⟩] at h
        cases h
    | call callee args =>
      rw [judge] at h
      rcases bind_eq_error.1 h with h | ⟨F, hF, h⟩
      · exact ih 0 callee env rfl rfl h
      split at h
      · rename_i params ret
        split at h
        · rename_i hl
          rcases bind_eq_error.1 h with h | ⟨_, -, h⟩
          · obtain ⟨i, arg, p, harg, hp, h | ⟨S, hS, hne, h⟩⟩ := judgeArgs_error h
            · exact ih (i + 1) arg env harg rfl h
            · exact .there h (.argumentMismatch hF hl harg hp hS hne) harg rfl
          · have hret := (Ty.clean_func.1 (judge_clean henv (hterm.part (by simp [parts])) hF)).2
            rw [judged_eq_ok.2 ⟨rfl, hret.isError⟩] at h
            cases h
        · exact .here h (.wrongArgumentCount hF ‹_›)
      · exact .there h (.functionExpected hF ‹_›) rfl rfl
    | seq body rest =>
      rw [judge] at h
      rcases bind_eq_error.1 h with h | ⟨S, -, h⟩
      · exact ih 0 body env rfl rfl h
      · exact ih 1 rest env rfl rfl h
    | const name init rest =>
      rw [judge] at h
      rcases bind_eq_error.1 h with h | ⟨S, hS, h⟩
      · exact ih 0 init env rfl rfl h
      · exact ih 1 rest (env.bind name S) rfl (by simp only [partScope?, hS]) h
    | recFunc name params ret body rest =>
      rw [judge] at h
      rcases bind_eq_error.1 h with h | ⟨signature, hm, h⟩
      · rw [demandDistinct_mkFunc.2 ⟨ha.1.nodup, rfl⟩] at h
        cases h
      obtain ⟨-, rfl⟩ := demandDistinct_mkFunc.1 hm
      rcases bind_eq_error.1 h with h | ⟨S, hS, h⟩
      · exact ih 0 body _ rfl rfl h
      split at h
      · rename_i hs
        exact ih 1 rest (env.bind name (.func params ret)) rfl (by simp only [partScope?, hS, if_pos hs]) h
      · exact .here h (.wrongReturnType hS ‹_›)
    | objectNew props =>
      rw [judge] at h
      rcases bind_eq_error.1 h with h | ⟨types, hp, h⟩
      · obtain ⟨i, prop, hx, h | ⟨hd, h⟩⟩ := judgeProps_error h
        · exact ih i prop.2 env (by simp [parts, hx]) rfl h
        · exact .here h (.duplicateProperty hx hd)
      · obtain ⟨hd, _, rfl, hnew⟩ := (judgeProps_ok (by simp)).1 hp
        rw [demandDistinct_mkObject.2 ⟨names_of_forall₂ hnew ▸ hd, rfl⟩] at h
        cases h
    | objectGet object name =>
      rw [judge] at h
      rcases bind_eq_error.1 h with h | ⟨O, hO, h⟩
      · exact ih 0 object env rfl rfl h
      split at h
      · rename_i props
        split at h
        · rename_i T hl
          have hT := (Ty.clean_object.1 (judge_clean henv (hterm.part (by simp [parts])) hO)).of_lookup hl
          rw [judged_eq_ok.2 ⟨rfl, hT.isError⟩] at h
          cases h
        · exact .here h (.unknownProperty hO (Dict.lookup_eq_none.1 ‹_›))
      · exact .there h (.objectExpected hO ‹_›) rfl rfl
    | unionNew label props type =>
      cases type with
      | union variants =>
        rw [judge] at h
        split at h
        · rename_i declared hl
          rcases bind_eq_error.1 h with h | ⟨_, -, h⟩
          · obtain ⟨i, prop, hx, h | ⟨hd, h⟩ | ⟨hn, h⟩ | ⟨expected, S, he, hS, hne, h⟩⟩ := judgeSupplied_error h
            · exact ih i prop.2 env (by simp [parts, hx]) rfl h
            · exact .here h (.repeatedProperty hx hd)
            · have hm := Dict.mem_names (List.mem_of_getElem? hx)
              exact .here h (.undeclaredProperty hl hm (Dict.lookup_eq_none.1 hn))
            · exact .here h (.propertyMismatch hl (List.mem_of_getElem? hx) he hS hne)
          · split at h
            · obtain ⟨before, after, hsplit, -, hs⟩ := firstMissing_eq_some.1 ‹_›
              exact .here h (.missingProperty hl (by simp [hsplit]) hs)
            · cases h
        · exact .here h (.unknownVariant (Dict.lookup_eq_none.1 ‹_›))
      | _ => exact .here h (.unionRequired fun _ hu => by cases hu)
    | unionGet subject clauses =>
      rw [judge] at h
      split at h
      · exact .here h (.unknownSubject ‹_›)
      · rename_i variants hf
        have hv := Ty.clean_union.1 (henv subject _ hf)
        rcases bind_eq_error.1 h with h | ⟨first, hc, h⟩
        · obtain ⟨i, clause, hx, h⟩ := judgeClauses_error hf hv h
          have hp : (clauses.map Prod.snd)[i]? = some clause.2 := by simp [hx]
          have hs : partScope? env (.unionGet subject clauses ‹Loc›) i = some (env.narrow subject clause.1) := by
            simp [partScope?, hx]
          rcases h with h | ⟨hn, h⟩ | ⟨hd, h⟩ | ⟨first, A, B, hfirst, hA, hB, hne, h⟩
          · exact ih i clause.2 _ hp hs h
          · exact .there h (.noSuchCase hf hx hn) hp hs
          · exact .there h (.duplicateCase hf hx hd) hp hs
          · exact .there h (.clausesDiffer hf hfirst hA hx hB hne) hp hs
        · split at h
          · rename_i hl
            cases first with
            | some type => cases h
            | none =>
              -- without clauses an equal number of variants is none
              obtain rfl := (judgeClauses_names hc).2.2 rfl
              obtain rfl := List.length_eq_zero_iff.1 hl.symm
              exact .here h (.noClauses hf)
          · obtain ⟨label, hm, hn⟩ := exists_uncovered hv.nodup hc ‹_›
            exact .here h (.notExhaustive hf hm hn)
      · exact .here h (.subjectNotUnion ‹_› (by simpa using ‹_›))

/-- A failure is a complaint about a node of the term. The node has a scope, so every constant and
recursive function on the way to it has a type, and in the scope of the node whose rule is broken the
rule is broken as the complaint says. -/
theorem complaint_holds {term : Term Loc} (henv : env.Clean) (hterm : term.Clean)
    (h : judge env term = .error failure) :
    ∃ violation guilty, failure = .complaint violation (some guilty) ∧
      ∃ site node scope blamed own, term.at? site = some node ∧ scope? env term site = some scope ∧
        Breaks scope node violation blamed ∧
        term.at? (site ++ blamed) = some guilty ∧ scope? env term (site ++ blamed) = some own :=
  justified_of_judge henv hterm h

/-- A number for a condition, under the parameter that it is. -/
theorem complaint_holds_in_body :
    ∃ site blamed scope, ∃ node : Term Unit, Breaks scope node .booleanExpected blamed ∧
      (Term.func [("size", .number)] (.ite (.var "size" ()) (.bool true ()) (.bool false ()) ()) ()).at?
        (site ++ blamed) = some (.var "size" ()) := by
  have h : judge .empty (.func [("size", .number)] (.ite (.var "size" ()) (.bool true ()) (.bool false ()) ()) ()) =
      .error (.complaint .booleanExpected (some (.var "size" ()))) := rfl
  obtain ⟨_, _, he, site, node, scope, blamed, _, -, -, hb, hg, -⟩ := complaint_holds Env.clean_empty (by decide) h
  cases he
  exact ⟨site, blamed, scope, node, hb, hg⟩

end StructuralTyping.Term
