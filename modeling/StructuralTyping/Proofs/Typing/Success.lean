/-
When a term has a type: for each kind of node, what the judgment of its parts has to be. The loops
over arguments, properties and clauses are read as statements about the whole list. A type that is
found for a clean term in a clean environment is clean.
-/
import StructuralTyping.Proofs.Except
import StructuralTyping.Proofs.Ty.Equality
import StructuralTyping.Proofs.Env
import StructuralTyping.Proofs.Term.Parts
import StructuralTyping.Typing.Judge

namespace StructuralTyping

variable {Loc α β : Type}

/-! ## Steps of a judgment -/

theorem requireNumber_eq_ok {operand : Term Loc} {type : Ty} {done : Unit} :
    requireNumber operand type = .ok done ↔ type = .number := by
  cases type <;> simp [requireNumber, blame]

theorem requireNumber_eq_error {operand : Term Loc} {type : Ty} {failure : Failure Loc} :
    requireNumber operand type = .error failure ↔
      type ≠ .number ∧ (blame .numberExpected operand : Judgment Loc Unit) = .error failure := by
  cases type <;> simp [requireNumber]

theorem judged_eq_ok {type found : Ty} :
    (type.judged : Judgment Loc Ty) = .ok found ↔ type = found ∧ found.isError = false := by
  cases type with
  | error nature =>
    simp only [Ty.judged, reduceCtorEq, false_iff, not_and]
    rintro rfl
    simp [Ty.isError]
  | _ =>
    simp only [Ty.judged, Except.ok.injEq, iff_self_and]
    rintro rfl
    rfl

theorem demandDistinct_mkFunc {params : List (String × Ty)} {ret type : Ty} :
    (demandDistinct (Ty.mkFunc params ret) : Judgment Loc Ty) = .ok type ↔
      (Dict.names params).Nodup ∧ type = .func params ret := by
  by_cases h : (Dict.names params).Nodup <;>
    simp [Ty.mkFunc, Ty.requireDistinct, h, demandDistinct, bind, Except.bind, pure, Except.pure, eq_comm]

theorem demandDistinct_mkObject {props : List (String × Ty)} {type : Ty} :
    (demandDistinct (Ty.mkObject props) : Judgment Loc Ty) = .ok type ↔
      (Dict.names props).Nodup ∧ type = .object props := by
  by_cases h : (Dict.names props).Nodup <;>
    simp [Ty.mkObject, Ty.requireDistinct, h, demandDistinct, bind, Except.bind, pure, Except.pure, eq_comm]

namespace Term

variable {env : Env} {T : Ty} {loc : Loc}

/-! ## Branches -/

theorem judge_ite_ok {cond thn els : Term Loc} : judge env (.ite cond thn els loc) = .ok T ↔
    judge env cond = .ok .boolean ∧ judge env thn = .ok T ∧ ∃ S, judge env els = .ok S ∧ Ty.Same T S := by
  simp only [judge, bind_eq_ok]
  constructor
  · rintro ⟨C, hc, h⟩
    cases C with
    | boolean =>
      obtain ⟨A, ha, h⟩ := bind_eq_ok.1 h
      obtain ⟨S, hs, h⟩ := bind_eq_ok.1 h
      split at h
      · cases h
        exact ⟨hc, ha, S, hs, ‹_›⟩
      · cases h
    | _ => cases h
  · rintro ⟨hc, ht, S, hs, he⟩
    refine ⟨_, hc, bind_eq_ok.2 ⟨T, ht, bind_eq_ok.2 ⟨S, hs, ?_⟩⟩⟩
    rw [if_pos he]

example : judge .empty (.ite (.bool true ()) (.bool false ()) (.bool true ()) ()) = .ok .boolean := by cbv

/-! ## The loops -/

theorem judgeArgs_ok {params : List (String × Ty)} {args : List (Term Loc)} {done : Unit}
    (hl : params.length = args.length) : judgeArgs env params args = .ok done ↔
      List.Forall₂ (fun arg p => ∃ S, judge env arg = .ok S ∧ Ty.Same S p.2) args params := by
  induction args generalizing params with
  | nil =>
    rw [List.length_nil, List.length_eq_zero_iff] at hl
    simp [judgeArgs, hl]
  | cons arg rest ih =>
    cases params with
    | nil => cases hl
    | cons p others =>
      rw [List.forall₂_cons, ← ih (by simpa using hl)]
      simp only [judgeArgs, bind_eq_ok]
      constructor
      · rintro ⟨S, hs, h⟩
        split at h
        · exact ⟨⟨S, hs, ‹_›⟩, h⟩
        · cases h
      · rintro ⟨⟨S, hs, he⟩, h⟩
        refine ⟨S, hs, ?_⟩
        rw [if_pos he]
        exact h

/-- A name and its judged type stand for a name and its term. -/
def PropJudged (env : Env) (prop : String × Term Loc) (typed : String × Ty) : Prop :=
  prop.1 = typed.1 ∧ judge env prop.2 = .ok typed.2

theorem judgeProps_ok {whole : Term Loc} {before types : List (String × Ty)} {props : List (String × Term Loc)}
    (hd : (Dict.names before).Nodup) : judgeProps env whole before props = .ok types ↔
      (Dict.names before ++ Dict.names props).Nodup ∧
      ∃ new, types = before ++ new ∧ List.Forall₂ (PropJudged env) props new := by
  induction props generalizing before with
  | nil => simp [judgeProps, hd, eq_comm]
  | cons prop rest ih =>
    obtain ⟨name, term⟩ := prop
    rw [judgeProps]
    by_cases hn : name ∈ Dict.names before
    · simp [hn, blame, Dict.not_nodup_of_seen]
    · rw [if_neg (by simpa using hn), bind_eq_ok]
      have hd' : ∀ type : Ty, (Dict.names (before ++ [(name, type)])).Nodup := fun type => by
        simpa using Dict.nodup_seen hd hn
      constructor
      · rintro ⟨type, ht, h⟩
        obtain ⟨hnd, new, rfl, hnew⟩ := (ih (hd' type)).1 h
        exact ⟨by simpa using hnd, (name, type) :: new, by simp, .cons ⟨rfl, ht⟩ hnew⟩
      · rintro ⟨hnd, new, rfl, hnew⟩
        cases hnew with
        | @cons _ typed _ new hp hnew =>
          obtain ⟨own, type⟩ := typed
          obtain ⟨rfl, ht⟩ := hp
          exact ⟨type, ht, (ih (hd' type)).2 ⟨by simpa using hnd, new, by simp, hnew⟩⟩

/-- A supplied property is declared, and of the declared type. -/
def SuppliedOk (env : Env) (declared : List (String × Ty)) (prop : String × Term Loc) : Prop :=
  ∃ expected, declared.lookup prop.1 = some expected ∧ ∃ S, judge env prop.2 = .ok S ∧ Ty.Same S expected

/-- Only declared names are supplied; if all of them are, they are the same names. -/
theorem names_perm_of_supplied {declared : List (String × Ty)} {props : List (String × Term Loc)}
    (hd : (Dict.names props).Nodup) (hdeclared : (Dict.names declared).Nodup)
    (hs : ∀ p ∈ props, SuppliedOk env declared p) (hm : ∀ name ∈ Dict.names declared, name ∈ Dict.names props) :
    (Dict.names props).Perm (Dict.names declared) := by
  refine (List.perm_ext_iff_of_nodup hd hdeclared).2 fun name => ⟨fun hn => ?_, hm name⟩
  obtain ⟨p, hp, rfl⟩ := List.mem_map.1 hn
  obtain ⟨expected, he, -⟩ := hs p hp
  exact Dict.exists_lookup.1 ⟨expected, he⟩

theorem judgeSupplied_ok {whole : Term Loc} {declared : List (String × Ty)} {supplied : List String}
    {props : List (String × Term Loc)} {done : Unit} (hd : supplied.Nodup) :
    judgeSupplied env whole declared supplied props = .ok done ↔
      (supplied ++ Dict.names props).Nodup ∧ ∀ p ∈ props, SuppliedOk env declared p := by
  induction props generalizing supplied with
  | nil => simp [judgeSupplied, hd]
  | cons prop rest ih =>
    obtain ⟨name, term⟩ := prop
    rw [judgeSupplied]
    by_cases hn : name ∈ supplied
    · simp [hn, blame, Dict.not_nodup_of_seen]
    · have hstep := ih (Dict.nodup_seen hd hn)
      rw [List.append_assoc, List.singleton_append] at hstep
      rw [if_neg (by simpa using hn), List.forall_mem_cons]
      cases hl : declared.lookup name with
      | none => simp [SuppliedOk, hl, blame]
      | some expected =>
        simp only [bind_eq_ok, SuppliedOk, hl, Option.some.injEq, exists_eq_left', Dict.names_cons]
        constructor
        · rintro ⟨S, hs, h⟩
          split at h
          · obtain ⟨hnd, hrest⟩ := hstep.1 h
            exact ⟨hnd, ⟨S, hs, ‹_›⟩, hrest⟩
          · cases h
        · rintro ⟨hnd, ⟨S, hs, he⟩, hrest⟩
          refine ⟨S, hs, ?_⟩
          rw [if_pos he]
          exact hstep.2 ⟨hnd, hrest⟩

/-- A clause is for a variant of the union, and has a type with the subject as that variant. -/
def ClauseJudged (env : Env) (subject : String) (variants : List (String × List (String × Ty)))
    (clause : String × Term Loc) (type : Ty) : Prop :=
  ∃ props, variants.lookup clause.1 = some props ∧ (Dict.names props).Nodup ∧
    judge (env.bind subject (.object props)) clause.2 = .ok type

theorem judgeClauses_some_ok {subject : String} {variants : List (String × List (String × Ty))} {seen : List String}
    {seed : Ty} {clauses : List (String × Term Loc)} {first : Option Ty} (hd : seen.Nodup) :
    judgeClauses env subject variants seen (some seed) clauses = .ok first ↔
      (seen ++ Dict.names clauses).Nodup ∧ first = some seed ∧
      ∀ c ∈ clauses, ∃ S, ClauseJudged env subject variants c S ∧ Ty.Same S seed := by
  induction clauses generalizing seen with
  | nil =>
    rw [judgeClauses, Except.ok.injEq, eq_comm]
    simp [hd]
  | cons clause rest ih =>
    obtain ⟨label, term⟩ := clause
    rw [judgeClauses]
    cases hl : variants.lookup label with
    | none => simp [ClauseJudged, hl, blame]
    | some props =>
      by_cases hn : label ∈ seen
      · simp [hn, blame, Dict.not_nodup_of_seen]
      · have hstep := ih (Dict.nodup_seen hd hn)
        rw [List.append_assoc, List.singleton_append] at hstep
        simp only [List.contains_eq_mem, hn, decide_false, Bool.false_eq_true, if_false, bind_eq_ok,
          demandDistinct_mkObject, List.forall_mem_cons, Dict.names_cons]
        constructor
        · rintro ⟨_, ⟨hp, rfl⟩, S, hs, h⟩
          split at h
          · obtain ⟨hnd, hf, hrest⟩ := hstep.1 h
            exact ⟨hnd, hf, ⟨S, ⟨props, hl, hp, hs⟩, ‹_›⟩, hrest⟩
          · cases h
        · rintro ⟨hnd, hf, ⟨S, ⟨own, ho, hp, hs⟩, he⟩, hrest⟩
          rw [hl, Option.some.injEq] at ho
          subst ho
          refine ⟨_, ⟨hp, rfl⟩, S, hs, ?_⟩
          rw [if_pos he]
          exact hstep.2 ⟨hnd, hf, hrest⟩

theorem judgeClauses_none_ok {subject : String} {variants : List (String × List (String × Ty))}
    {label : String} {term : Term Loc} {rest : List (String × Term Loc)} {first : Option Ty} :
    judgeClauses env subject variants [] none ((label, term) :: rest) = .ok first ↔
      (label :: Dict.names rest).Nodup ∧ ∃ seed, first = some seed ∧
      ClauseJudged env subject variants (label, term) seed ∧
      ∀ c ∈ rest, ∃ S, ClauseJudged env subject variants c S ∧ Ty.Same S seed := by
  rw [judgeClauses]
  cases hl : variants.lookup label with
  | none => simp [ClauseJudged, hl, blame]
  | some props =>
    have hstep : ∀ seed, judgeClauses env subject variants [label] (some seed) rest = .ok first ↔ _ := fun _ =>
      judgeClauses_some_ok (List.nodup_singleton label)
    simp only [List.contains_nil, Bool.false_eq_true, if_false, bind_eq_ok, demandDistinct_mkObject,
      List.nil_append, hstep, List.singleton_append, ClauseJudged, hl, Option.some.injEq]
    constructor
    · rintro ⟨_, ⟨hp, rfl⟩, S, hs, hnd, hf, hrest⟩
      exact ⟨hnd, S, hf, ⟨props, rfl, hp, hs⟩, hrest⟩
    · rintro ⟨hnd, S, hf, ⟨_, rfl, hp, hs⟩, hrest⟩
      exact ⟨_, ⟨hp, rfl⟩, S, hs, hnd, hf, hrest⟩

/-- The clauses are for distinct variants of the union, and without a type there are none. -/
theorem judgeClauses_names {subject : String} {variants : List (String × List (String × Ty))}
    {clauses : List (String × Term Loc)} {first : Option Ty}
    (h : judgeClauses env subject variants [] none clauses = .ok first) :
    (Dict.names clauses).Nodup ∧ Dict.names clauses ⊆ Dict.names variants ∧ (first = none → clauses = []) := by
  cases clauses with
  | nil => simp
  | cons clause rest =>
    obtain ⟨hd, seed, rfl, ⟨props, hl, -⟩, hrest⟩ := judgeClauses_none_ok.1 h
    refine ⟨hd, List.cons_subset.2 ⟨Dict.exists_lookup.1 ⟨props, hl⟩, fun label hm => ?_⟩, nofun⟩
    obtain ⟨c, hc, rfl⟩ := List.mem_map.1 hm
    obtain ⟨_, ⟨props, hl, -⟩, -⟩ := hrest c hc
    exact Dict.exists_lookup.1 ⟨props, hl⟩

/-! ## The other rules -/

theorem judge_add_ok {left right : Term Loc} : judge env (.add left right loc) = .ok T ↔
    judge env left = .ok .number ∧ judge env right = .ok .number ∧ T = .number := by
  simp only [judge, bind_eq_ok, requireNumber_eq_ok, Except.ok.injEq]
  constructor
  · rintro ⟨_, hl, _, rfl, _, hr, _, rfl, rfl⟩
    exact ⟨hl, hr, rfl⟩
  · rintro ⟨hl, hr, rfl⟩
    exact ⟨_, hl, (), rfl, _, hr, (), rfl, rfl⟩

theorem judge_var_ok {name : String} : judge env (.var name loc) = .ok T ↔
    env.find? name = some T ∧ T.isError = false := by
  rw [judge]
  cases hf : env.find? name with
  | none => simp [blame]
  | some type => simp [judged_eq_ok]

theorem judge_func_ok {params : List (String × Ty)} {body : Term Loc} : judge env (.func params body loc) = .ok T ↔
    ∃ ret, judge (env.extend params) body = .ok ret ∧ (Dict.names params).Nodup ∧ T = .func params ret := by
  simp only [judge, bind_eq_ok, demandDistinct_mkFunc]

theorem judge_call_ok {callee : Term Loc} {args : List (Term Loc)} : judge env (.call callee args loc) = .ok T ↔
    ∃ params, judge env callee = .ok (.func params T) ∧ params.length = args.length ∧
      List.Forall₂ (fun arg p => ∃ S, judge env arg = .ok S ∧ Ty.Same S p.2) args params ∧
      T.isError = false := by
  simp only [judge, bind_eq_ok]
  constructor
  · rintro ⟨F, hf, h⟩
    cases F with
    | func params ret =>
      dsimp only at h
      split at h
      · rename_i hl
        obtain ⟨_, hargs, hret⟩ := bind_eq_ok.1 h
        obtain ⟨rfl, he⟩ := judged_eq_ok.1 hret
        exact ⟨params, hf, hl, (judgeArgs_ok hl).1 hargs, he⟩
      · cases h
    | _ => cases h
  · rintro ⟨params, hf, hl, hargs, he⟩
    refine ⟨_, hf, ?_⟩
    dsimp only
    rw [if_pos hl]
    exact bind_eq_ok.2 ⟨(), (judgeArgs_ok hl).2 hargs, judged_eq_ok.2 ⟨rfl, he⟩⟩

theorem judge_seq_ok {body rest : Term Loc} : judge env (.seq body rest loc) = .ok T ↔
    (∃ S, judge env body = .ok S) ∧ judge env rest = .ok T := by
  simp only [judge, bind_eq_ok, exists_and_right]

theorem judge_const_ok {name : String} {init rest : Term Loc} : judge env (.const name init rest loc) = .ok T ↔
    ∃ S, judge env init = .ok S ∧ judge (env.bind name S) rest = .ok T := by
  simp only [judge, bind_eq_ok]

theorem judge_recFunc_ok {name : String} {params : List (String × Ty)} {ret : Ty} {body rest : Term Loc} :
    judge env (.recFunc name params ret body rest loc) = .ok T ↔ (Dict.names params).Nodup ∧
      (∃ S, judge ((env.extend params).bind name (.func params ret)) body = .ok S ∧ Ty.Same S ret) ∧
      judge (env.bind name (.func params ret)) rest = .ok T := by
  simp only [judge, bind_eq_ok, demandDistinct_mkFunc]
  constructor
  · rintro ⟨_, ⟨hd, rfl⟩, S, hs, h⟩
    split at h
    · exact ⟨hd, ⟨S, hs, ‹_›⟩, h⟩
    · cases h
  · rintro ⟨hd, ⟨S, hs, he⟩, h⟩
    refine ⟨_, ⟨hd, rfl⟩, S, hs, ?_⟩
    rw [if_pos he]
    exact h

theorem names_of_forall₂ {props : List (String × Term Loc)} {types : List (String × Ty)}
    (h : List.Forall₂ (PropJudged env) props types) : Dict.names props = Dict.names types :=
  Dict.names_eq_of_forall₂ (R := fun term type => judge env term = .ok type) h

theorem agree_of_forall₂ {props : List (String × Term Loc)} {types : List (String × Ty)}
    (h : List.Forall₂ (PropJudged env) props types) :
    Dict.Agree (fun term type => judge env term = .ok type) props types :=
  Dict.agree_of_forall₂ h

theorem judge_objectNew_ok {props : List (String × Term Loc)} : judge env (.objectNew props loc) = .ok T ↔
    (Dict.names props).Nodup ∧ ∃ types, List.Forall₂ (PropJudged env) props types ∧ T = .object types := by
  have hprops : ∀ types, judgeProps env (.objectNew props loc) [] props = .ok types ↔ _ := fun _ =>
    judgeProps_ok List.nodup_nil
  simp only [judge, bind_eq_ok, demandDistinct_mkObject, hprops, Dict.names_nil, List.nil_append]
  constructor
  · rintro ⟨types, ⟨hd, _, rfl, h⟩, -, rfl⟩
    exact ⟨hd, types, h, rfl⟩
  · rintro ⟨hd, types, h, rfl⟩
    exact ⟨types, ⟨hd, types, rfl, h⟩, names_of_forall₂ h ▸ hd, rfl⟩

theorem judge_objectGet_ok {object : Term Loc} {name : String} : judge env (.objectGet object name loc) = .ok T ↔
    ∃ props, judge env object = .ok (.object props) ∧ props.lookup name = some T ∧ T.isError = false := by
  simp only [judge, bind_eq_ok]
  constructor
  · rintro ⟨O, ho, h⟩
    cases O with
    | object props =>
      dsimp only at h
      cases hl : props.lookup name with
      | none => rw [hl] at h; cases h
      | some type =>
        rw [hl] at h
        obtain ⟨rfl, he⟩ := judged_eq_ok.1 h
        exact ⟨props, ho, hl, he⟩
    | _ => cases h
  · rintro ⟨props, ho, hl, he⟩
    refine ⟨_, ho, ?_⟩
    dsimp only
    rw [hl]
    exact judged_eq_ok.2 ⟨rfl, he⟩

theorem firstMissing_eq_none {declared supplied : List String} :
    firstMissing declared supplied = none ↔ ∀ name ∈ declared, name ∈ supplied := by
  simp [firstMissing]

theorem judge_unionNew_ok {label : String} {props : List (String × Term Loc)} {type : Ty} :
    judge env (.unionNew label props type loc) = .ok T ↔ ∃ variants declared, type = .union variants ∧
      variants.lookup label = some declared ∧ (Dict.names props).Nodup ∧
      (∀ p ∈ props, SuppliedOk env declared p) ∧ (∀ name ∈ Dict.names declared, name ∈ Dict.names props) ∧
      T = type := by
  cases type with
  | union variants =>
    rw [judge]
    cases hl : variants.lookup label with
    | none => simp [hl, blame]
    | some declared =>
      simp only [bind_eq_ok, judgeSupplied_ok List.nodup_nil, List.nil_append, Ty.union.injEq]
      constructor
      · rintro ⟨_, ⟨hd, hs⟩, h⟩
        split at h
        · cases h
        · rename_i hm
          cases h
          exact ⟨variants, declared, rfl, hl, hd, hs, firstMissing_eq_none.1 hm, rfl⟩
      · rintro ⟨_, own, rfl, ho, hd, hs, hm, rfl⟩
        rw [hl, Option.some.injEq] at ho
        subst ho
        exact ⟨(), ⟨hd, hs⟩, by rw [firstMissing_eq_none.2 hm]⟩
  | _ => simp [judge, blame]

theorem judge_unionGet_ok {subject : String} {clauses : List (String × Term Loc)} :
    judge env (.unionGet subject clauses loc) = .ok T ↔ ∃ variants clause rest,
      env.find? subject = some (.union variants) ∧ clauses = clause :: rest ∧ (Dict.names clauses).Nodup ∧
      clauses.length = variants.length ∧ ClauseJudged env subject variants clause T ∧
      ∀ c ∈ rest, ∃ S, ClauseJudged env subject variants c S ∧ Ty.Same S T := by
  rw [judge]
  cases hf : env.find? subject with
  | none => simp [blame]
  | some type =>
    cases type with
    | union variants =>
      simp only [bind_eq_ok, Option.some.injEq, Ty.union.injEq]
      cases clauses with
      | nil =>
        simp only [judgeClauses, Except.ok.injEq, exists_eq_left']
        split <;> simp [blame]
      | cons clause rest =>
        obtain ⟨label, term⟩ := clause
        simp only [judgeClauses_none_ok]
        constructor
        · rintro ⟨first, ⟨hd, seed, rfl, hseed, hrest⟩, h⟩
          split at h
          · cases h
            exact ⟨variants, _, rest, rfl, rfl, hd, ‹_›, hseed, hrest⟩
          · cases h
        · rintro ⟨_, _, _, rfl, hcons, hd, hl, hseed, hrest⟩
          cases hcons
          refine ⟨_, ⟨hd, T, rfl, hseed, hrest⟩, ?_⟩
          rw [if_pos hl]
    | _ => simp [blame]

/-! ## Types found are clean -/

theorem exists_of_mem_right {R : α → β → Prop} {xs : List α} {ys : List β} (h : List.Forall₂ R xs ys) {y : β}
    (hy : y ∈ ys) : ∃ x ∈ xs, R x y := by
  induction h with
  | nil => cases hy
  | cons hr _ ih =>
    rcases List.mem_cons.1 hy with rfl | hy
    · exact ⟨_, List.mem_cons_self, hr⟩
    · obtain ⟨x, hx, hr⟩ := ih hy
      exact ⟨x, List.mem_cons_of_mem _ hx, hr⟩

/-- What holds at every depth of the types bound and written holds at every depth of the type that is
found, if it holds of a function or object type as soon as the names in it are distinct. -/
theorem judge_everywhere {Q : Ty → Prop} (hboolean : Q .boolean) (hnumber : Q .number)
    (hfunc : ∀ params ret, (Dict.names params).Nodup → Q (.func params ret))
    (hobject : ∀ props, (Dict.names props).Nodup → Q (.object props)) {term : Term Loc}
    (henv : env.All (Ty.Everywhere Q)) (hterm : term.Written (Ty.Everywhere Q)) (h : judge env term = .ok T) :
    T.Everywhere Q := by
  have boolean : Ty.boolean.Everywhere Q := by simpa [Ty.Everywhere, Ty.nodes] using hboolean
  have number : Ty.number.Everywhere Q := by simpa [Ty.Everywhere, Ty.nodes] using hnumber
  induction term using partsInduction generalizing env T with
  | step term ih =>
    have hw := hterm.here
    replace ih := fun part hp (env : Env) T henv => @ih part hp env T henv (hterm.part hp)
    cases term with
    | bool => cases h; exact boolean
    | number => cases h; exact number
    | ite cond thn els => exact ih thn (by simp [parts]) env T henv (judge_ite_ok.1 h).2.1
    | add left right => rw [(judge_add_ok.1 h).2.2]; exact number
    | var name => exact henv name T (judge_var_ok.1 h).1
    | func params body =>
      obtain ⟨ret, hr, hd, rfl⟩ := judge_func_ok.1 h
      have hparams : ∀ p ∈ params, p.2.Everywhere Q := fun p hp => hw p.2 (List.mem_map_of_mem hp)
      have hret := ih body (by simp [parts]) _ ret (henv.extend hparams) hr
      exact Ty.everywhere_func.2 ⟨hfunc params ret hd, hparams, hret⟩
    | call callee args =>
      obtain ⟨params, hf, -⟩ := judge_call_ok.1 h
      exact (Ty.everywhere_func.1 (ih callee (by simp [parts]) env _ henv hf)).2.2
    | seq body rest => exact ih rest (by simp [parts]) env T henv (judge_seq_ok.1 h).2
    | const name init rest =>
      obtain ⟨S, hi, hr⟩ := judge_const_ok.1 h
      exact ih rest (by simp [parts]) _ T (henv.bind (ih init (by simp [parts]) env S henv hi)) hr
    | recFunc name params ret body rest =>
      obtain ⟨hd, -, hr⟩ := judge_recFunc_ok.1 h
      have hparams : ∀ p ∈ params, p.2.Everywhere Q := fun p hp =>
        hw p.2 (List.mem_cons_of_mem _ (List.mem_map_of_mem hp))
      have hsig := Ty.everywhere_func.2 ⟨hfunc params ret hd, hparams, hw ret List.mem_cons_self⟩
      exact ih rest (by simp [parts]) _ T (henv.bind hsig) hr
    | objectNew props =>
      obtain ⟨hd, types, hp, rfl⟩ := judge_objectNew_ok.1 h
      refine Ty.everywhere_object.2 ⟨hobject types (names_of_forall₂ hp ▸ hd), fun typed hm => ?_⟩
      obtain ⟨prop, hprop, -, hj⟩ := exists_of_mem_right hp hm
      exact ih prop.2 (List.mem_map_of_mem hprop) env _ henv hj
    | objectGet object name =>
      obtain ⟨props, ho, hl, -⟩ := judge_objectGet_ok.1 h
      have hobject := Ty.everywhere_object.1 (ih object (by simp [parts]) env _ henv ho)
      exact hobject.2 _ (Dict.mem_of_lookup hl)
    | unionNew label props type =>
      obtain ⟨_, _, -, -, -, -, -, rfl⟩ := judge_unionNew_ok.1 h
      exact hw _ List.mem_cons_self
    | unionGet subject clauses =>
      obtain ⟨variants, clause, rest, hf, rfl, -, -, ⟨props, hl, hd, hj⟩, -⟩ := judge_unionGet_ok.1 h
      have hprops := (Ty.everywhere_union.1 (henv subject _ hf)).2 _ (Dict.mem_of_lookup hl)
      have hnarrowed := Ty.everywhere_object.2 ⟨hobject props hd, hprops⟩
      exact ih clause.2 (by simp [parts]) _ T (henv.bind hnarrowed) hj

theorem judge_errorFree {term : Term Loc} (henv : env.All Ty.ErrorFree) (hterm : term.Written Ty.ErrorFree)
    (h : judge env term = .ok T) : T.ErrorFree :=
  judge_everywhere rfl rfl (fun _ _ _ => rfl) (fun _ _ => rfl) henv hterm h

theorem judge_wellFormed {term : Term Loc} (henv : env.All Ty.WellFormed) (hterm : term.Written Ty.WellFormed)
    (h : judge env term = .ok T) : T.WellFormed :=
  judge_everywhere trivial trivial (fun _ _ hd => hd) (fun _ hd => hd) henv hterm h

theorem judge_clean_of_written {term : Term Loc} (henv : env.Clean) (hterm : term.Written Ty.Clean)
    (h : judge env term = .ok T) : T.Clean := by
  constructor
  · exact judge_wellFormed (fun name type hf => (henv name type hf).1) (hterm.mono fun _ ht => ht.1) h
  · exact judge_errorFree (fun name type hf => (henv name type hf).2) (hterm.mono fun _ ht => ht.2) h

theorem judge_clean {term : Term Loc} (henv : env.Clean) (hterm : term.Clean) (h : judge env term = .ok T) :
    T.Clean :=
  judge_clean_of_written henv hterm.written h

theorem ClauseJudged.clean {subject : String} {variants : List (String × List (String × Ty))}
    {clause : String × Term Loc} (h : ClauseJudged env subject variants clause T) (henv : env.Clean)
    (hv : (Ty.union variants).Clean) (hc : clause.2.Clean) : T.Clean := by
  obtain ⟨props, hl, -, hj⟩ := h
  exact judge_clean (henv.bind (Ty.clean_object.2 ((Ty.clean_union.1 hv).of_lookup hl))) hc hj

end Term

end StructuralTyping
