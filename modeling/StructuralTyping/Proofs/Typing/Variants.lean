/-
Values and matches of tagged unions, as a whole. Nothing in the loops looks for a property that is one too
many or for a variant without a clause: they stop at the first fault, and the declared names or a count settle
the rest. Main statements: a value has a type exactly if it supplies what its variant declares, a match
exactly if its clauses are one for each variant and agree, and what is complained about otherwise.
-/
import StructuralTyping.Proofs.Typing.Blame

namespace StructuralTyping.Term

variable {Loc : Type} {env : Env}

/-! ## Values -/

section Values

variable {declared : List (String × Ty)} {whole : Term Loc} {behind props : List (String × Term Loc)}
  {prop : String × Term Loc}

/-- What is wrong with a property that is supplied after others: of several faults the first in this order
counts. -/
inductive SuppliedFault (env : Env) (declared : List (String × Ty)) (behind : List (String × Term Loc))
    (prop : String × Term Loc) : Violation → Prop where
  | repeated : prop.1 ∈ Dict.names behind → SuppliedFault env declared behind prop (.duplicateProperty prop.1)
  | undeclared : prop.1 ∉ Dict.names behind → prop.1 ∉ Dict.names declared →
      SuppliedFault env declared behind prop (.unknownProperty prop.1)
  | mismatched {expected S} : prop.1 ∉ Dict.names behind → declared.lookup prop.1 = some expected →
      judge env prop.2 = .ok S → ¬ Ty.Same S expected →
      SuppliedFault env declared behind prop (.propertyMismatch prop.1)

theorem checkSupplied_step (hprop : ∃ T, judge env prop.2 = .ok T) :
    (checkSupplied env whole declared (Dict.names behind) prop = .ok (Dict.names (behind ++ [prop])) ∧
      ∀ fault, ¬ SuppliedFault env declared behind prop fault) ∨
    ∃ fault, checkSupplied env whole declared (Dict.names behind) prop = .error (.complaint fault (some whole)) ∧
      SuppliedFault env declared behind prop fault := by
  obtain ⟨S, hS⟩ := hprop
  unfold checkSupplied
  by_cases hseen : prop.1 ∈ Dict.names behind
  · rw [if_pos (by simpa using hseen)]
    exact .inr ⟨_, rfl, .repeated hseen⟩
  rw [if_neg (by simpa using hseen)]
  cases hl : declared.lookup prop.1 with
  | none => exact .inr ⟨_, rfl, .undeclared hseen (Dict.lookup_eq_none.1 hl)⟩
  | some expected =>
    simp only [hS, Dict.names_append]
    by_cases hsame : Ty.Same S expected
    · refine .inl ⟨if_pos hsame, fun fault hfault => ?_⟩
      cases hfault with
      | repeated hm => exact hseen hm
      | undeclared _ hn => exact hn (Dict.exists_lookup.1 ⟨expected, hl⟩)
      | mismatched _ hl' hS' hne =>
        rw [hl, Option.some.injEq] at hl'
        rw [hS, Except.ok.injEq] at hS'
        exact hne (hl' ▸ hS' ▸ hsame)
    · exact .inr ⟨_, if_neg hsame, .mismatched hseen hl hS hsame⟩

/-- The loop over the supplied properties goes through if nothing is at fault and stops at the first fault. -/
theorem judgeSupplied_faults (declared : List (String × Ty)) (whole : Term Loc)
    (hprops : ∀ prop ∈ props, ∃ T, judge env prop.2 = .ok T) :
    (judgeSupplied env whole declared [] props = .ok () ∧ Faultless (SuppliedFault env declared) props) ∨
    ∃ prop fault, judgeSupplied env whole declared [] props = .error (.complaint fault (some whole)) ∧
      FirstFault (SuppliedFault env declared) props prop fault := by
  have hfold : (∃ supplied, props.foldlM (checkSupplied env whole declared) [] = .ok supplied ∧
        supplied = Dict.names props ∧ Faultless (SuppliedFault env declared) props) ∨
      ∃ prop fault, props.foldlM (checkSupplied env whole declared) [] = .error (.complaint fault (some whole)) ∧
        FirstFault (SuppliedFault env declared) props prop fault := by
    refine foldlM_faults (fun behind supplied => supplied = Dict.names behind)
      (fun _ fault => Failure.complaint fault (some whole)) rfl ?_
    rintro behind _ prop hm rfl
    rcases checkSupplied_step (hprops prop hm) with ⟨hok, hnone⟩ | herror
    · exact .inl ⟨_, hok, rfl, hnone⟩
    · exact .inr herror
  rw [judgeSupplied_eq]
  rcases hfold with ⟨supplied, hok, -, hfree⟩ | ⟨prop, fault, herror, hfirst⟩
  · exact .inl ⟨bind_eq_ok.2 ⟨supplied, hok, rfl⟩, hfree⟩
  · exact .inr ⟨prop, fault, bind_error_of_error herror, hfirst⟩

/-- A value of a variant has a type, the union as it is written, exactly if the names supplied are those
declared, in any order, and each property is of the type declared for its name. Otherwise it is complained about
at the value itself: for the first supplied property that is at fault, and if there is none, for the first
declared name that is not supplied. -/
theorem value_complete_and_exact {label : String} {variants : List (String × List (String × Ty))} {loc : Loc}
    (hunion : (Ty.union variants).WellFormed) (hl : variants.lookup label = some declared)
    (hprops : ∀ prop ∈ props, ∃ T, judge env prop.2 = .ok T) :
    (∀ T, judge env (.unionNew label props (.union variants) loc) = .ok T ↔
      T = .union variants ∧ (Dict.names props).Perm (Dict.names declared) ∧
        ∀ prop ∈ props, SuppliedOk env declared prop) ∧
    (¬ ((Dict.names props).Perm (Dict.names declared) ∧ ∀ prop ∈ props, SuppliedOk env declared prop) →
      ∃ fault, judge env (.unionNew label props (.union variants) loc) =
          .error (.complaint fault (some (.unionNew label props (.union variants) loc))) ∧
        ((∃ prop, FirstFault (SuppliedFault env declared) props prop fault) ∨
          Faultless (SuppliedFault env declared) props ∧
            ∃ before name after, Dict.names declared = before ++ name :: after ∧
              (∀ own ∈ before, own ∈ Dict.names props) ∧ name ∉ Dict.names props ∧
              fault = .missingProperty name)) := by
  have hdeclared := ((Ty.wellFormed_union.1 hunion).of_lookup hl).nodup
  have hok : ∀ T, judge env (.unionNew label props (.union variants) loc) = .ok T ↔
      T = .union variants ∧ (Dict.names props).Perm (Dict.names declared) ∧
        ∀ prop ∈ props, SuppliedOk env declared prop := by
    intro T
    rw [judge_unionNew_ok]
    constructor
    · rintro ⟨_, own, hu, ho, hd, hs, hm, rfl⟩
      cases hu
      obtain rfl := Option.some.inj (hl.symm.trans ho)
      exact ⟨rfl, names_perm_of_supplied hd hdeclared hs hm, hs⟩
    · rintro ⟨rfl, hperm, hs⟩
      exact ⟨variants, declared, rfl, hl, hperm.nodup_iff.2 hdeclared, hs, fun name => hperm.mem_iff.2, rfl⟩
  refine ⟨hok, fun hnot => ?_⟩
  cases hj : judge env (.unionNew label props (.union variants) loc) with
  | ok T => exact absurd ((hok T).1 hj).2 hnot
  | error failure =>
    simp only [judge, hl] at hj
    rcases judgeSupplied_faults declared (.unionNew label props (.union variants) loc) hprops with
      ⟨hs, hfree⟩ | ⟨prop, fault, hs, hfirst⟩
    · rw [hs] at hj
      cases hm : firstMissing (Dict.names declared) (Dict.names props) with
      | none =>
        rw [hm] at hj
        cases hj
      | some name =>
        rw [hm] at hj
        cases hj
        obtain ⟨before, after, hsplit, hbefore, hname⟩ := firstMissing_eq_some.1 hm
        exact ⟨_, rfl, .inr ⟨hfree, before, name, after, hsplit, hbefore, hname, rfl⟩⟩
    · rw [hs] at hj
      cases hj
      exact ⟨fault, rfl, .inl ⟨prop, hfirst⟩⟩

/-- Supplied the other way round, and with a property left out. -/
theorem value_complete_and_exact_reordered :
    judge .empty (.unionNew "Box" [("open", .bool true ()), ("width", .number (.int 2) ())]
        (.union [("Bag", []), ("Box", [("width", .number), ("open", .boolean)])]) ()) =
      .ok (.union [("Bag", []), ("Box", [("width", .number), ("open", .boolean)])]) ∧
    ∃ fault, judge .empty (.unionNew "Box" [("open", .bool true ())]
        (.union [("Bag", []), ("Box", [("width", .number), ("open", .boolean)])]) ()) =
      .error (.complaint fault (some (.unionNew "Box" [("open", .bool true ())]
        (.union [("Bag", []), ("Box", [("width", .number), ("open", .boolean)])]) ()))) := by
  have hunion : (Ty.union [("Bag", []), ("Box", [("width", .number), ("open", .boolean)])]).WellFormed := by decide
  have hl : [("Bag", []), ("Box", [("width", Ty.number), ("open", .boolean)])].lookup "Box" =
      some [("width", .number), ("open", .boolean)] := rfl
  have hopen : ∃ T, judge .empty (.bool true () : Term Unit) = .ok T := ⟨.boolean, rfl⟩
  have hwidth : ∃ T, judge .empty (.number (.int 2) () : Term Unit) = .ok T := ⟨.number, rfl⟩
  have hone : ∀ prop ∈ [("open", (.bool true () : Term Unit))], ∃ T, judge .empty prop.2 = .ok T :=
    List.forall_mem_singleton.2 hopen
  constructor
  · refine ((value_complete_and_exact hunion hl ?_).1 _).2 ⟨rfl, by decide, ?_⟩
    · exact List.forall_mem_cons.2 ⟨hopen, List.forall_mem_singleton.2 hwidth⟩
    · refine List.forall_mem_cons.2 ⟨⟨.boolean, rfl, .boolean, rfl, rfl⟩, List.forall_mem_singleton.2 ?_⟩
      exact ⟨.number, rfl, .number, rfl, rfl⟩
  · have hnot : ¬ (Dict.names [("open", (.bool true () : Term Unit))]).Perm ["width", "open"] := by decide
    obtain ⟨fault, herror, -⟩ := (value_complete_and_exact hunion hl hone).2 fun hall => hnot hall.1
    exact ⟨fault, herror⟩

end Values

/-! ## Matches -/

section Matches

variable {subject : String} {variants : List (String × List (String × Ty))}
  {behind clauses : List (String × Term Loc)} {clause : String × Term Loc}

/-- What is wrong with a clause after others: of several faults the first in this order counts. -/
inductive ClauseFault (env : Env) (subject : String) (variants : List (String × List (String × Ty)))
    (behind : List (String × Term Loc)) (clause : String × Term Loc) : Violation → Prop where
  | unknown : clause.1 ∉ Dict.names variants → ClauseFault env subject variants behind clause (.noSuchCase clause.1)
  | repeated : clause.1 ∈ Dict.names variants → clause.1 ∈ Dict.names behind →
      ClauseFault env subject variants behind clause (.duplicateCase clause.1)
  | differs {first S T} : clause.1 ∈ Dict.names variants → clause.1 ∉ Dict.names behind →
      behind.head? = some first → judge (env.narrow subject first.1) first.2 = .ok S →
      judge (env.narrow subject clause.1) clause.2 = .ok T → ¬ Ty.Same T S →
      ClauseFault env subject variants behind clause .clausesDiffer

theorem checkClause_step {state : List String × Option Ty} (hf : env.find? subject = some (.union variants))
    (hv : Dict.Proper (Dict.Proper Ty.Clean) variants) (hb : ClausesBehind env subject behind state)
    (hbody : clause.1 ∈ Dict.names variants → ∃ T, judge (env.narrow subject clause.1) clause.2 = .ok T) :
    (∃ next, checkClause env subject variants state clause = .ok next ∧
      ClausesBehind env subject (behind ++ [clause]) next ∧
      ∀ fault, ¬ ClauseFault env subject variants behind clause fault) ∨
    ∃ fault, checkClause env subject variants state clause = .error (.complaint fault (some clause.2)) ∧
      ClauseFault env subject variants behind clause fault := by
  cases hl : variants.lookup clause.1 with
  | none =>
    refine .inr ⟨_, ?_, .unknown (Dict.lookup_eq_none.1 hl)⟩
    rw [checkClause, hl]
    rfl
  | some props =>
    have hknown : clause.1 ∈ Dict.names variants := Dict.exists_lookup.1 ⟨props, hl⟩
    obtain ⟨T, hT⟩ := hbody hknown
    by_cases hseen : clause.1 ∈ Dict.names behind
    · refine .inr ⟨_, ?_, .repeated hknown hseen⟩
      simp only [checkClause, hl]
      rw [if_pos (by simpa [hb.1] using hseen)]
      rfl
    -- the clause is judged, and then compared with the first one if there is one
    have hcheck : checkClause env subject variants state clause =
        state.2.elim (.ok (state.1 ++ [clause.1], some T)) fun seed =>
          if T.equal seed then .ok (state.1 ++ [clause.1], some seed) else blame .clausesDiffer clause.2 := by
      simp only [checkClause, hl]
      rw [if_neg (by simpa [hb.1] using hseen), demandDistinct_mkObject.2 ⟨(hv.of_lookup hl).nodup, rfl⟩]
      rw [Env.narrow_eq hf hl] at hT
      simp only [hT, bind, Except.bind]
      cases state.2 with
      | none => rfl
      | some seed => rfl
    have hnext : ∀ next, checkClause env subject variants state clause = .ok next →
        ClausesBehind env subject (behind ++ [clause]) next := fun next => checkClause_behind hf hb
    have hfirst := hb.2
    generalize state.2 = seed at hcheck hfirst
    generalize hhead : behind.head? = first at hfirst
    cases hfirst with
    | none =>
      refine .inl ⟨_, hcheck, hnext _ hcheck, fun fault hfault => ?_⟩
      cases hfault with
      | unknown hn => exact hn hknown
      | repeated _ hm => exact hseen hm
      | differs _ _ hh => cases hhead.symm.trans hh
    | @some first S hS =>
      by_cases hsame : Ty.Same T S
      · have hok := hcheck.trans (if_pos hsame)
        refine .inl ⟨_, hok, hnext _ hok, fun fault hfault => ?_⟩
        cases hfault with
        | unknown hn => exact hn hknown
        | repeated _ hm => exact hseen hm
        | differs _ _ hh hS' hT' hne =>
          cases hhead.symm.trans hh
          rw [hS, Except.ok.injEq] at hS'
          rw [hT, Except.ok.injEq] at hT'
          exact hne (hS' ▸ hT' ▸ hsame)
      · exact .inr ⟨_, hcheck.trans (if_neg hsame), .differs hknown hseen hhead hS hT hsame⟩

/-- The loop over the clauses goes through if nothing is at fault and stops at the first fault. -/
theorem judgeClauses_faults (hf : env.find? subject = some (.union variants))
    (hv : Dict.Proper (Dict.Proper Ty.Clean) variants)
    (hbodies : ∀ clause ∈ clauses, clause.1 ∈ Dict.names variants →
      ∃ T, judge (env.narrow subject clause.1) clause.2 = .ok T) :
    (∃ first, judgeClauses env subject variants [] none clauses = .ok first ∧
      Option.Rel (fun clause type => judge (env.narrow subject clause.1) clause.2 = .ok type) clauses.head? first ∧
      Faultless (ClauseFault env subject variants) clauses) ∨
    ∃ clause fault, judgeClauses env subject variants [] none clauses = .error (.complaint fault (some clause.2)) ∧
      FirstFault (ClauseFault env subject variants) clauses clause fault := by
  have hfold : (∃ state, clauses.foldlM (checkClause env subject variants) ([], none) = .ok state ∧
        ClausesBehind env subject clauses state ∧ Faultless (ClauseFault env subject variants) clauses) ∨
      ∃ clause fault, clauses.foldlM (checkClause env subject variants) ([], none) =
          .error (.complaint fault (some clause.2)) ∧
        FirstFault (ClauseFault env subject variants) clauses clause fault :=
    foldlM_faults (ClausesBehind env subject) (fun clause fault => Failure.complaint fault (some clause.2))
      ⟨rfl, .none⟩ fun behind state clause hm hb => checkClause_step hf hv hb (hbodies clause hm)
  rw [judgeClauses_eq]
  rcases hfold with ⟨state, hok, hb, hfree⟩ | ⟨clause, fault, herror, hfirst⟩
  · exact .inl ⟨state.2, bind_eq_ok.2 ⟨state, hok, rfl⟩, hb.2, hfree⟩
  · exact .inr ⟨clause, fault, bind_error_of_error herror, hfirst⟩

/-- The types of the bodies are equal, each to each. -/
def BodiesAgree (env : Env) (subject : String) (clauses : List (String × Term Loc)) : Prop :=
  ∀ c ∈ clauses, ∀ d ∈ clauses, ∀ S T, judge (env.narrow subject c.1) c.2 = .ok S →
    judge (env.narrow subject d.1) d.2 = .ok T → S.equal T = true

theorem bodiesAgree_of_first (hclean : ∀ clause ∈ clauses, ∀ T,
      judge (env.narrow subject clause.1) clause.2 = .ok T → T.Clean)
    (hfirst : ∀ first, clauses.head? = some first → ∃ R, judge (env.narrow subject first.1) first.2 = .ok R ∧
      ∀ clause ∈ clauses, ∀ T, judge (env.narrow subject clause.1) clause.2 = .ok T → Ty.Same T R) :
    BodiesAgree env subject clauses := by
  intro c hc d hd S T hS hT
  cases clauses with
  | nil => cases hc
  | cons first rest =>
    obtain ⟨R, hR, hsame⟩ := hfirst first rfl
    exact (hsame c hc S hS).of_common (hclean c hc S hS).1 (hclean d hd T hT).1
      (hclean first List.mem_cons_self R hR).1 (hsame d hd T hT)

/-- No clause is at fault exactly if all labels are known, no label is repeated, and the bodies agree. -/
theorem faultless_clauses_iff (henv : env.Clean) (hwritten : ∀ clause ∈ clauses, clause.2.Written Ty.Clean)
    (hbodies : ∀ clause ∈ clauses, clause.1 ∈ Dict.names variants →
      ∃ T, judge (env.narrow subject clause.1) clause.2 = .ok T) :
    Faultless (ClauseFault env subject variants) clauses ↔
      Dict.names clauses ⊆ Dict.names variants ∧ (Dict.names clauses).Nodup ∧ BodiesAgree env subject clauses := by
  have hclean : ∀ clause ∈ clauses, ∀ T, judge (env.narrow subject clause.1) clause.2 = .ok T → T.Clean :=
    fun clause hm T => judge_clean_of_written (henv.narrow subject clause.1) (hwritten clause hm)
  constructor
  · intro hfree
    have hknown : ∀ clause ∈ clauses, clause.1 ∈ Dict.names variants := by
      intro clause hm
      obtain ⟨before, after, hsplit⟩ := List.append_of_mem hm
      by_contra hn
      exact hfree before clause after hsplit _ (.unknown hn)
    have hnew : ∀ before clause after, clauses = before ++ clause :: after → clause.1 ∉ Dict.names before := by
      intro before clause after hsplit hm
      exact hfree before clause after hsplit _ (.repeated (hknown clause (by simp [hsplit])) hm)
    refine ⟨fun label hm => ?_, Dict.nodup_of_new hnew, bodiesAgree_of_first hclean fun first hhead => ?_⟩
    · obtain ⟨clause, hc, rfl⟩ := List.mem_map.1 hm
      exact hknown clause hc
    have hm := List.mem_of_mem_head? hhead
    obtain ⟨R, hR⟩ := hbodies first hm (hknown first hm)
    refine ⟨R, hR, fun clause hm T hT => ?_⟩
    obtain ⟨before, after, hsplit⟩ := List.append_of_mem hm
    cases before with
    | nil =>
      have he : first = clause := by simpa [hsplit, eq_comm] using hhead
      rw [he, hT, Except.ok.injEq] at hR
      exact hR ▸ (hclean clause hm T hT).same_refl
    | cons b rest =>
      have hb : (b :: rest).head? = some first := by simpa [hsplit] using hhead
      by_contra hne
      exact hfree _ clause after hsplit _ (.differs (hknown clause hm) (hnew _ clause after hsplit) hb hR hT hne)
  · rintro ⟨hknown, hdistinct, hagree⟩ before clause after rfl fault hfault
    cases hfault with
    | unknown hn => exact hn (hknown (by simp))
    | repeated _ hm => exact Dict.not_nodup_of_seen hm (by simpa using hdistinct)
    | differs _ _ hfirst hS hT hne =>
      exact hne (hagree clause (by simp) _ (by simp [List.mem_of_mem_head? hfirst]) _ _ hT hS)

/-- What a match on a union comes to, with the conditions for it. -/
inductive MatchVerdict (env : Env) (subject : String) (variants : List (String × List (String × Ty)))
    (clauses : List (String × Term Loc)) (whole : Term Loc) : Judgment Loc Ty → Prop where
  | typed {first rest T} : clauses = first :: rest → judge (env.narrow subject first.1) first.2 = .ok T →
      (Dict.names clauses).Perm (Dict.names variants) → BodiesAgree env subject clauses →
      MatchVerdict env subject variants clauses whole (.ok T)
  | notExhaustive {label} : Dict.names clauses ⊆ Dict.names variants → (Dict.names clauses).Nodup →
      BodiesAgree env subject clauses → label ∈ Dict.names variants → label ∉ Dict.names clauses →
      MatchVerdict env subject variants clauses whole (.error (.complaint .notExhaustive (some whole)))
  | noClauses : variants = [] → clauses = [] →
      MatchVerdict env subject variants clauses whole (.error (.complaint .noClauses (some whole)))
  | fault {label body violation} : FirstFault (ClauseFault env subject variants) clauses (label, body) violation →
      MatchVerdict env subject variants clauses whole (.error (.complaint violation (some body)))

section Verdict

variable (henv : env.Clean) (hf : env.find? subject = some (.union variants))
  (hwritten : ∀ clause ∈ clauses, clause.2.Written Ty.Clean)
  (hbodies : ∀ clause ∈ clauses, clause.1 ∈ Dict.names variants →
    ∃ T, judge (env.narrow subject clause.1) clause.2 = .ok T)

include henv hf hwritten hbodies

theorem matchVerdict_judge (loc : Loc) :
    MatchVerdict env subject variants clauses (.unionGet subject clauses loc)
      (judge env (.unionGet subject clauses loc)) := by
  have hv := Ty.clean_union.1 (henv subject _ hf)
  rw [judge, hf]
  rcases judgeClauses_faults hf hv hbodies with ⟨first, hok, hhead, hfree⟩ | ⟨clause, fault, herror, hfirst⟩
  · obtain ⟨hknown, hdistinct, hagree⟩ := (faultless_clauses_iff henv hwritten hbodies).1 hfree
    simp only [hok, bind, Except.bind]
    split
    · rename_i hl
      have hperm : (Dict.names clauses).Perm (Dict.names variants) :=
        (List.subperm_of_subset hdistinct hknown).perm_of_length_le (by simp only [Dict.length_names, hl, le_refl])
      cases first with
      | some T =>
        obtain ⟨clause, hc, hT⟩ := Dict.rel_eq_some hhead
        obtain ⟨rest, rfl⟩ := List.head?_eq_some_iff.1 hc
        exact .typed rfl hT hperm hagree
      | none =>
        have hnil : clauses = [] := (judgeClauses_names hok).2.2 rfl
        exact .noClauses (List.length_eq_zero_iff.1 (by rw [← hl, hnil, List.length_nil])) hnil
    · obtain ⟨label, hm, hn⟩ := exists_uncovered hv.nodup hok ‹_›
      exact .notExhaustive hknown hdistinct hagree hm hn
  · simp only [herror]
    exact .fault hfirst

/-- A match on a union has a type, that of its first body, exactly if there is a clause, the labels are those of
the union, in any order, and the bodies agree. With known and distinct labels and agreeing bodies it is not
exhaustive exactly if a variant has no clause, and it is without clauses exactly if there are no variants either.
In every other case the complaint is about the body of the first clause at fault. -/
theorem match_exhaustive (loc : Loc) :
    (∀ T, judge env (.unionGet subject clauses loc) = .ok T ↔
      (∃ first rest, clauses = first :: rest ∧ judge (env.narrow subject first.1) first.2 = .ok T) ∧
        (Dict.names clauses).Perm (Dict.names variants) ∧ BodiesAgree env subject clauses) ∧
    (judge env (.unionGet subject clauses loc) =
        .error (.complaint .notExhaustive (some (.unionGet subject clauses loc))) ↔
      Dict.names clauses ⊆ Dict.names variants ∧ (Dict.names clauses).Nodup ∧ BodiesAgree env subject clauses ∧
        ∃ label ∈ Dict.names variants, label ∉ Dict.names clauses) ∧
    (judge env (.unionGet subject clauses loc) =
        .error (.complaint .noClauses (some (.unionGet subject clauses loc))) ↔
      variants = [] ∧ clauses = []) ∧
    ((∀ T, judge env (.unionGet subject clauses loc) ≠ .ok T) →
      judge env (.unionGet subject clauses loc) ≠
        .error (.complaint .notExhaustive (some (.unionGet subject clauses loc))) →
      judge env (.unionGet subject clauses loc) ≠
        .error (.complaint .noClauses (some (.unionGet subject clauses loc))) →
      ∃ clause violation, FirstFault (ClauseFault env subject variants) clauses clause violation ∧
        judge env (.unionGet subject clauses loc) = .error (.complaint violation (some clause.2))) := by
  have hv := Ty.clean_union.1 (henv subject _ hf)
  have hverdict := matchVerdict_judge henv hf hwritten hbodies loc
  -- a clause at fault leaves a label unknown or repeated, or bodies that differ
  have hfault : ∀ {clause violation}, FirstFault (ClauseFault env subject variants) clauses clause violation →
      ¬ (Dict.names clauses ⊆ Dict.names variants ∧ (Dict.names clauses).Nodup ∧
        BodiesAgree env subject clauses) := fun hfirst hall =>
    hfirst.not_faultless ((faultless_clauses_iff henv hwritten hbodies).2 hall)
  generalize judge env (.unionGet subject clauses loc) = outcome at hverdict ⊢
  refine ⟨fun T => ⟨?_, ?_⟩, ⟨?_, ?_⟩, ⟨?_, ?_⟩, fun htyped hexhaustive hclauses => ?_⟩
  · rintro rfl
    cases hverdict with
    | typed hc hT hperm hagree => exact ⟨⟨_, _, hc, hT⟩, hperm, hagree⟩
  · rintro ⟨⟨first, rest, hc, hT⟩, hperm, hagree⟩
    cases hverdict with
    | typed hc' hT' =>
      cases hc.symm.trans hc'
      exact hT'.symm.trans hT
    | notExhaustive _ _ _ hm hn => exact absurd (hperm.mem_iff.2 hm) hn
    | noClauses _ hnil => cases hc.symm.trans hnil
    | fault hfirst => exact absurd ⟨hperm.subset, hperm.nodup_iff.2 hv.nodup, hagree⟩ (hfault hfirst)
  · rintro rfl
    cases hverdict with
    | notExhaustive hknown hdistinct hagree hm hn => exact ⟨hknown, hdistinct, hagree, _, hm, hn⟩
    | fault hfirst =>
      obtain ⟨_, _, _, _, hclause⟩ := hfirst
      cases hclause
  · rintro ⟨hknown, hdistinct, hagree, label, hm, hn⟩
    cases hverdict with
    | typed _ _ hperm => exact absurd (hperm.mem_iff.2 hm) hn
    | notExhaustive => rfl
    | noClauses hnil => simp [hnil] at hm
    | fault hfirst => exact absurd ⟨hknown, hdistinct, hagree⟩ (hfault hfirst)
  · rintro rfl
    cases hverdict with
    | noClauses hvariants hnil => exact ⟨hvariants, hnil⟩
    | fault hfirst =>
      obtain ⟨_, _, _, _, hclause⟩ := hfirst
      cases hclause
  · rintro ⟨hvariants, hnil⟩
    cases hverdict with
    | typed hc => cases hnil.symm.trans hc
    | notExhaustive _ _ _ hm => simp [hvariants] at hm
    | noClauses => rfl
    | fault hfirst => exact absurd ⟨by simp [hnil], by simp [hnil], by simp [BodiesAgree, hnil]⟩ (hfault hfirst)
  · cases hverdict with
    | typed => exact absurd rfl (htyped _)
    | notExhaustive => exact absurd rfl hexhaustive
    | noClauses => exact absurd rfl hclauses
    | fault hfirst => exact ⟨_, _, hfirst, rfl⟩

end Verdict

/-- The clauses stand the other way round, and in one of them the subject is read as its variant. -/
theorem match_exhaustive_reordered :
    judge (Env.empty.bind "box" (.union [("Box", [("width", .number)]), ("Bag", [])]))
        (.unionGet "box" [("Bag", .number (.int 0) ()), ("Box", .objectGet (.var "box" ()) "width" ())] ()) =
      .ok .number ∧
    ["Bag", "Box"].Perm ["Box", "Bag"] := by
  have henv : (Env.empty.bind "box" (.union [("Box", [("width", .number)]), ("Bag", [])])).Clean :=
    Env.clean_empty.bind (by decide)
  have hf : (Env.empty.bind "box" (.union [("Box", [("width", .number)]), ("Bag", [])])).find? "box" =
      some (.union [("Box", [("width", .number)]), ("Bag", [])]) := rfl
  have hwritten : ∀ clause ∈ [("Bag", .number (.int 0) ()), ("Box", .objectGet (.var "box" ()) "width" ())],
      (clause : String × Term Unit).2.Written Ty.Clean := by decide
  have hbodies : ∀ clause ∈ [("Bag", .number (.int 0) ()), ("Box", .objectGet (.var "box" ()) "width" ())],
      (clause : String × Term Unit).1 ∈ Dict.names [("Box", [("width", Ty.number)]), ("Bag", [])] →
        ∃ T, judge ((Env.empty.bind "box" (.union [("Box", [("width", .number)]), ("Bag", [])])).narrow "box"
          clause.1) clause.2 = .ok T :=
    List.forall_mem_cons.2 ⟨fun _ => ⟨.number, rfl⟩, List.forall_mem_singleton.2 fun _ => ⟨.number, rfl⟩⟩
  obtain ⟨htyped, -⟩ := match_exhaustive henv hf hwritten hbodies ()
  obtain ⟨-, hperm, -⟩ := (htyped .number).1 rfl
  exact ⟨rfl, hperm⟩

end Matches

end StructuralTyping.Term
