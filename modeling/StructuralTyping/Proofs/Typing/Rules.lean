/-
The typing rules, one for each kind of node and free of any order among properties, variants and
clauses, with a rule that replaces a type by an equal one. Main statement: judging a clean term in
a clean environment decides them. What is judged is derivable, every derivable type is equal to the
judged one, and a term without a derivation is a complaint.
-/
import StructuralTyping.Proofs.Typing.Blame

namespace StructuralTyping

variable {Loc : Type}

/-- `HasType env term type`: the term has the type in the environment. -/
inductive HasType : Env → Term Loc → Ty → Prop where
  | bool {env value loc} : HasType env (.bool value loc) .boolean
  | number {env value loc} : HasType env (.number value loc) .number
  | ite {env cond thn els T loc} : HasType env cond .boolean → HasType env thn T → HasType env els T →
      HasType env (.ite cond thn els loc) T
  | add {env left right loc} : HasType env left .number → HasType env right .number →
      HasType env (.add left right loc) .number
  | var {env name T loc} : env.find? name = some T → HasType env (.var name loc) T
  | func {env params body ret loc} : HasType (env.extend params) body ret →
      HasType env (.func params body loc) (.func params ret)
  | call {env callee args params ret loc} : HasType env callee (.func params ret) → params.length = args.length →
      (∀ pair ∈ args.zip params, HasType env pair.1 pair.2.2) → HasType env (.call callee args loc) ret
  | seq {env body rest S T loc} : HasType env body S → HasType env rest T → HasType env (.seq body rest loc) T
  | const {env name init rest S T loc} : HasType env init S → HasType (env.bind name S) rest T →
      HasType env (.const name init rest loc) T
  -- within the body the function's own name wins over a parameter of that name
  | recFunc {env name params ret body rest T loc} :
      HasType ((env.extend params).bind name (.func params ret)) body ret →
      HasType (env.bind name (.func params ret)) rest T →
      HasType env (.recFunc name params ret body rest loc) T
  | objectNew {env} {props : List (String × Term Loc)} {types loc} : (Dict.names props).Nodup →
      (Dict.names types).Perm (Dict.names props) →
      (∀ p ∈ props, ∀ T, types.lookup p.1 = some T → HasType env p.2 T) →
      HasType env (.objectNew props loc) (.object types)
  | objectGet {env object props name T loc} : HasType env object (.object props) → props.lookup name = some T →
      HasType env (.objectGet object name loc) T
  | unionNew {env label} {props : List (String × Term Loc)} {variants declared loc} :
      variants.lookup label = some declared → (Dict.names props).Perm (Dict.names declared) →
      (∀ p ∈ props, ∀ T, declared.lookup p.1 = some T → HasType env p.2 T) →
      HasType env (.unionNew label props (.union variants) loc) (.union variants)
  | unionGet {env subject} {clauses : List (String × Term Loc)} {variants T loc} :
      env.find? subject = some (.union variants) → clauses ≠ [] →
      (Dict.names clauses).Perm (Dict.names variants) →
      (∀ c ∈ clauses, ∀ props, variants.lookup c.1 = some props →
        HasType (env.bind subject (.object props)) c.2 T) →
      HasType env (.unionGet subject clauses loc) T
  | convert {env term T T'} : HasType env term T → T'.WellFormed → T.equal T' = true → HasType env term T'

namespace HasType

open Term

variable {env : Env} {T : Ty}

/-! ## Soundness -/

theorem of_judge {term : Term Loc} (henv : env.Clean) (hterm : term.Clean) (h : judge env term = .ok T) :
    HasType env term T := by
  induction term using partsInduction generalizing env T with
  | step term ih =>
    have ha := hterm.annotated
    replace ih := fun part hp (env : Env) T henv => @ih part hp env T henv (hterm.part hp)
    have hclean := fun part hp (env : Env) T henv => @judge_clean _ env T part henv (hterm.part hp)
    cases term with
    | bool => cases h; exact .bool
    | number => cases h; exact .number
    | ite cond thn els =>
      obtain ⟨hc, ht, S, he, hs⟩ := judge_ite_ok.1 h
      have hT := hclean thn (by simp [parts]) env T henv ht
      have hS := hclean els (by simp [parts]) env S henv he
      refine .ite (ih cond (by simp [parts]) env _ henv hc) (ih thn (by simp [parts]) env T henv ht) ?_
      -- the branches were compared the other way round
      exact (ih els (by simp [parts]) env S henv he).convert hT.1 (hs.symm hT.1 hS.1)
    | add left right =>
      obtain ⟨hl, hr, rfl⟩ := judge_add_ok.1 h
      exact .add (ih left (by simp [parts]) env _ henv hl) (ih right (by simp [parts]) env _ henv hr)
    | var name => exact .var (judge_var_ok.1 h).1
    | func params body =>
      obtain ⟨ret, hr, -, rfl⟩ := judge_func_ok.1 h
      exact .func (ih body (by simp [parts]) _ ret (henv.extend ha.values) hr)
    | call callee args =>
      obtain ⟨params, hf, hl, hargs, -⟩ := judge_call_ok.1 h
      have hF := Ty.clean_func.1 (hclean callee (by simp [parts]) env _ henv hf)
      refine .call (ih callee (by simp [parts]) env _ henv hf) hl fun pair hp => ?_
      obtain ⟨S, hj, hs⟩ := List.forall₂_zip hargs hp
      have hm := List.of_mem_zip hp
      exact (ih pair.1 (by simp [parts, hm.1]) env S henv hj).convert (hF.1.values _ hm.2).1 hs
    | seq body rest =>
      obtain ⟨⟨S, hb⟩, hr⟩ := judge_seq_ok.1 h
      exact .seq (ih body (by simp [parts]) env S henv hb) (ih rest (by simp [parts]) env T henv hr)
    | const name init rest =>
      obtain ⟨S, hi, hr⟩ := judge_const_ok.1 h
      refine .const (ih init (by simp [parts]) env S henv hi) ?_
      exact ih rest (by simp [parts]) _ T (henv.bind (hclean init (by simp [parts]) env S henv hi)) hr
    | recFunc name params ret body rest =>
      obtain ⟨-, ⟨S, hb, hs⟩, hr⟩ := judge_recFunc_ok.1 h
      have hsig := Ty.clean_func.2 ha
      have hbody := ih body (by simp [parts]) _ S ((henv.extend ha.1.values).bind hsig) hb
      exact .recFunc (hbody.convert ha.2.1 hs) (ih rest (by simp [parts]) _ T (henv.bind hsig) hr)
    | objectNew props =>
      obtain ⟨hd, types, hp, rfl⟩ := judge_objectNew_ok.1 h
      refine .objectNew hd (by rw [names_of_forall₂ hp]) fun p hm type hl => ?_
      obtain ⟨term, ht, hj⟩ := (agree_of_forall₂ hp).of_expected hl
      rw [Dict.lookup_eq_some hd] at ht
      have heq : p = (p.1, term) := List.inj_on_of_nodup_map hd hm ht rfl
      rw [heq]
      exact ih term (List.mem_map_of_mem ht) env type henv hj
    | objectGet object name =>
      obtain ⟨props, ho, hl, -⟩ := judge_objectGet_ok.1 h
      exact .objectGet (ih object (by simp [parts]) env _ henv ho) hl
    | unionNew label props type =>
      obtain ⟨variants, declared, rfl, hl, hd, hs, hm, rfl⟩ := judge_unionNew_ok.1 h
      have hdecl := (Ty.clean_union.1 ha).of_lookup hl
      refine .unionNew hl (names_perm_of_supplied hd hdecl.nodup hs hm) fun p hp expected he => ?_
      obtain ⟨own, ho, S, hj, hsame⟩ := hs p hp
      rw [he, Option.some.injEq] at ho
      subst ho
      exact (ih p.2 (List.mem_map_of_mem hp) env S henv hj).convert (hdecl.of_lookup he).1 hsame
    | unionGet subject clauses =>
      obtain ⟨variants, clause, rest, hf, rfl, hd, hlen, hfirst, hrest⟩ := judge_unionGet_ok.1 h
      have hv := Ty.clean_union.1 (henv subject _ hf)
      have hT := judge_clean henv hterm h
      have hall : ∀ c ∈ clause :: rest, ∃ S, ClauseJudged env subject variants c S ∧ Ty.Same S T :=
        List.forall_mem_cons.2 ⟨⟨T, hfirst, hT.same_refl⟩, hrest⟩
      have hsub : Dict.names (clause :: rest) ⊆ Dict.names variants := by
        intro label hm
        obtain ⟨c, hc, rfl⟩ := List.mem_map.1 hm
        obtain ⟨_, ⟨props, hl, -⟩, -⟩ := hall c hc
        exact Dict.exists_lookup.1 ⟨props, hl⟩
      refine .unionGet hf (List.cons_ne_nil _ _) ?_ fun c hc props hl => ?_
      -- distinct known labels, as many as there are variants
      · exact (List.subperm_of_subset hd hsub).perm_of_length_le (by simp only [Dict.length_names, hlen, le_refl])
      · obtain ⟨S, ⟨own, ho, -, hj⟩, hs⟩ := hall c hc
        rw [hl, Option.some.injEq] at ho
        subst ho
        have hscope : (env.bind subject (.object props)).Clean := henv.bind (Ty.clean_object.2 (hv.of_lookup hl))
        exact (ih c.2 (List.mem_map_of_mem hc) _ S hscope hj).convert hT.1 hs

/-! ## Completeness -/

theorem clean {term : Term Loc} (h : HasType env term T) (henv : env.Clean) (hterm : term.Clean) : T.Clean := by
  induction h with
  | bool => exact Ty.clean_boolean
  | number => exact Ty.clean_number
  | ite _ _ _ _ ih _ => exact ih henv (hterm.part (by simp [parts]))
  | add => exact Ty.clean_number
  | var hf => exact henv _ _ hf
  | func _ ih =>
    have ha := hterm.annotated
    exact Ty.clean_func.2 ⟨ha, ih (henv.extend ha.values) (hterm.part (by simp [parts]))⟩
  | call _ _ _ ih _ => exact (Ty.clean_func.1 (ih henv (hterm.part (by simp [parts])))).2
  | seq _ _ _ ih => exact ih henv (hterm.part (by simp [parts]))
  | const _ _ ihi ihr =>
    exact ihr (henv.bind (ihi henv (hterm.part (by simp [parts])))) (hterm.part (by simp [parts]))
  | recFunc _ _ _ ih => exact ih (henv.bind (Ty.clean_func.2 hterm.annotated)) (hterm.part (by simp [parts]))
  | @objectNew env props types loc hd hp _ ih =>
    have hdt : (Dict.names types).Nodup := hp.nodup_iff.2 hd
    refine Ty.clean_object.2 ⟨hdt, fun typed hm => ?_⟩
    obtain ⟨prop, hprop, hname⟩ := List.mem_map.1 (hp.mem_iff.1 (Dict.mem_names hm))
    exact ih prop hprop typed.2 (by rw [hname]; exact (Dict.lookup_eq_some hdt).2 hm) henv
      (hterm.part (List.mem_map_of_mem hprop))
  | objectGet _ hl ih => exact (Ty.clean_object.1 (ih henv (hterm.part (by simp [parts])))).of_lookup hl
  | unionNew => exact hterm.annotated
  | @unionGet env subject clauses variants T loc hf hne hp _ ih =>
    have hv := Ty.clean_union.1 (henv _ _ hf)
    obtain ⟨clause, rest, rfl⟩ := List.exists_cons_of_ne_nil hne
    obtain ⟨props, hl⟩ := Dict.exists_lookup.2 (hp.mem_iff.1 (show clause.1 ∈ _ from List.mem_cons_self))
    exact ih clause List.mem_cons_self props hl (henv.bind (Ty.clean_object.2 (hv.of_lookup hl)))
      (hterm.part (by simp [parts]))
  | convert _ hw hs ih =>
    have hT := ih henv hterm
    exact ⟨hw, (Ty.Same.errorFree hT.1 hw hs).2⟩

theorem call_args {own : Env} {args : List (Term Loc)} {params ownParams : List (String × Ty)} (hown : own.Clean)
    (hargs : ∀ arg ∈ args, arg.Clean) (hparams : Dict.Proper Ty.Clean params)
    (hownParams : Dict.Proper Ty.Clean ownParams) (hl : params.length = args.length)
    (hp : List.Forall₂ (fun a e => Ty.Same a.2 e.2) ownParams params)
    (h : ∀ pair ∈ args.zip params, ∃ S, judge own pair.1 = .ok S ∧ Ty.Same S pair.2.2) :
    List.Forall₂ (fun arg p => ∃ S, judge own arg = .ok S ∧ Ty.Same S p.2) args ownParams := by
  induction hp generalizing args with
  | nil => rw [List.length_eq_zero_iff.1 hl.symm]; exact .nil
  | @cons o p ownRest rest hop _ ih =>
    cases args with
    | nil => cases hl
    | cons arg args =>
      obtain ⟨S, hj, hs⟩ := h (arg, p) (by simp)
      have hS := judge_clean hown (hargs arg List.mem_cons_self) hj
      have ho := hownParams.values o List.mem_cons_self
      have hp := hparams.values p List.mem_cons_self
      refine .cons ⟨S, hj, hs.of_common hS.1 ho.1 hp.1 hop⟩ (ih ?_ hparams.tail hownParams.tail (by simpa using hl) ?_)
      · exact fun arg ha => hargs arg (List.mem_cons_of_mem _ ha)
      · exact fun pair hm => h pair (by simp [hm])

theorem exists_types {env : Env} {props : List (String × Term Loc)} (h : ∀ p ∈ props, ∃ S, judge env p.2 = .ok S) :
    ∃ types, List.Forall₂ (PropJudged env) props types := by
  induction props with
  | nil => exact ⟨[], .nil⟩
  | cons p rest ih =>
    obtain ⟨S, hj⟩ := h p List.mem_cons_self
    obtain ⟨types, ht⟩ := ih fun p hp => h p (List.mem_cons_of_mem _ hp)
    exact ⟨(p.1, S) :: types, .cons ⟨rfl, hj⟩ ht⟩

theorem judge_same {term : Term Loc} {own : Env} (h : HasType env term T) (hs : own.Same env) (hown : own.Clean)
    (henv : env.Clean) (hterm : term.Clean) : ∃ S, judge own term = .ok S ∧ Ty.Same S T := by
  induction h generalizing own with
  | bool => exact ⟨.boolean, rfl, Ty.clean_boolean.same_refl⟩
  | number => exact ⟨.number, rfl, Ty.clean_number.same_refl⟩
  | @ite env cond thn els T loc _ ht _ ihc iht ihe =>
    obtain ⟨C, hc, hsc⟩ := ihc hs hown henv (hterm.part (by simp [parts]))
    obtain ⟨A, ha, hsa⟩ := iht hs hown henv (hterm.part (by simp [parts]))
    obtain ⟨B, hb, hsb⟩ := ihe hs hown henv (hterm.part (by simp [parts]))
    have hA := judge_clean hown (hterm.part (by simp [parts])) ha
    have hB := judge_clean hown (hterm.part (by simp [parts])) hb
    have hT := ht.clean henv (hterm.part (by simp [parts]))
    rw [Ty.same_boolean.1 hsc] at hc
    exact ⟨A, judge_ite_ok.2 ⟨hc, ha, B, hb, hsa.of_common hA.1 hB.1 hT.1 hsb⟩, hsa⟩
  | add _ _ ihl ihr =>
    obtain ⟨L, hl, hsl⟩ := ihl hs hown henv (hterm.part (by simp [parts]))
    obtain ⟨R, hr, hsr⟩ := ihr hs hown henv (hterm.part (by simp [parts]))
    rw [Ty.same_number.1 hsl] at hl
    rw [Ty.same_number.1 hsr] at hr
    exact ⟨.number, judge_add_ok.2 ⟨hl, hr, rfl⟩, Ty.clean_number.same_refl⟩
  | @var env name T loc hf =>
    obtain ⟨S, hS, hsame⟩ := Dict.rel_eq_some (hf ▸ hs name)
    exact ⟨S, judge_var_ok.2 ⟨hS, (hown name S hS).isError⟩, hsame⟩
  | func _ ih =>
    have ha := hterm.annotated
    obtain ⟨S, hj, hsame⟩ :=
      ih (hs.extend ha.values) (hown.extend ha.values) (henv.extend ha.values) (hterm.part (by simp [parts]))
    refine ⟨_, judge_func_ok.2 ⟨S, hj, ha.nodup, rfl⟩, Ty.same_func_func.2 ⟨?_, hsame⟩⟩
    exact List.forall₂_same.2 fun p hp => (ha.values p hp).same_refl
  | @call env callee args params ret loc hc hl _ ihc iha =>
    obtain ⟨F, hf, hsf⟩ := ihc hs hown henv (hterm.part (by simp [parts]))
    obtain ⟨ownParams, ownRet, rfl, hp, hr⟩ := Ty.same_func.1 hsf
    have hF := Ty.clean_func.1 (judge_clean hown (hterm.part (by simp [parts])) hf)
    have hP := Ty.clean_func.1 (hc.clean henv (hterm.part (by simp [parts])))
    have hargs := call_args hown (fun arg ha => hterm.part (by simp [parts, ha])) hP.1 hF.1 hl hp
      fun pair hm => iha pair hm hs hown henv (hterm.part (by simp [parts, (List.of_mem_zip hm).1]))
    exact ⟨ownRet, judge_call_ok.2 ⟨ownParams, hf, hp.length_eq.trans hl, hargs, hF.2.isError⟩, hr⟩
  | seq _ _ ihb ihr =>
    obtain ⟨B, hb, -⟩ := ihb hs hown henv (hterm.part (by simp [parts]))
    obtain ⟨S, hr, hsame⟩ := ihr hs hown henv (hterm.part (by simp [parts]))
    exact ⟨S, judge_seq_ok.2 ⟨⟨B, hb⟩, hr⟩, hsame⟩
  | const hi _ ihi ihr =>
    obtain ⟨I, hj, hsi⟩ := ihi hs hown henv (hterm.part (by simp [parts]))
    have hI := judge_clean hown (hterm.part (by simp [parts])) hj
    obtain ⟨S, hr, hsame⟩ := ihr (hs.bind hsi _) (hown.bind hI)
      (henv.bind (hi.clean henv (hterm.part (by simp [parts])))) (hterm.part (by simp [parts]))
    exact ⟨S, judge_const_ok.2 ⟨I, hj, hr⟩, hsame⟩
  | @recFunc env name params ret body rest T loc _ _ ihb ihr =>
    have ha := hterm.annotated
    have hsig := Ty.clean_func.2 ha
    obtain ⟨B, hb, hsb⟩ := ihb ((hs.extend ha.1.values).bind hsig.same_refl _) ((hown.extend ha.1.values).bind hsig)
      ((henv.extend ha.1.values).bind hsig) (hterm.part (by simp [parts]))
    obtain ⟨S, hr, hsame⟩ :=
      ihr (hs.bind hsig.same_refl _) (hown.bind hsig) (henv.bind hsig) (hterm.part (by simp [parts]))
    exact ⟨S, judge_recFunc_ok.2 ⟨ha.1.nodup, ⟨B, hb, hsb⟩, hr⟩, hsame⟩
  | @objectNew env props types loc hd hp _ ih =>
    have hlook : ∀ p ∈ props, ∃ T, types.lookup p.1 = some T := fun p hm =>
      Dict.exists_lookup.2 (hp.mem_iff.2 (Dict.mem_names hm))
    have hprop : ∀ p ∈ props, ∀ T, types.lookup p.1 = some T → ∃ S, judge own p.2 = .ok S ∧ Ty.Same S T :=
      fun p hm T hT => ih p hm T hT hs hown henv (hterm.part (List.mem_map_of_mem hm))
    obtain ⟨new, hnew⟩ : ∃ new, List.Forall₂ (PropJudged own) props new := by
      refine exists_types fun p hm => ?_
      obtain ⟨T, hT⟩ := hlook p hm
      exact (hprop p hm T hT).imp fun _ hS => hS.1
    refine ⟨_, judge_objectNew_ok.2 ⟨hd, new, hnew, rfl⟩, ?_⟩
    refine (Ty.same_object_object (names_of_forall₂ hnew ▸ hd) (hp.nodup_iff.2 hd)).2 fun name => ?_
    have hagree := agree_of_forall₂ hnew
    -- a name has one term in the list, and that term one judged type
    cases hT : types.lookup name with
    | none =>
      have hn := hp.mem_iff.not.1 (Dict.lookup_eq_none.1 hT)
      rw [Dict.lookup_eq_none.2 ((hagree.mem_names_iff name).not.1 hn)]
      exact .none
    | some T =>
      have hn := hp.mem_iff.1 (Dict.exists_lookup.1 ⟨T, hT⟩)
      obtain ⟨term, ht⟩ := Dict.exists_lookup.2 hn
      obtain ⟨S, hS, hj⟩ := hagree.of_own ht
      obtain ⟨S', hj', hsame⟩ := hprop _ (Dict.mem_of_lookup ht) T hT
      rw [hj, Except.ok.injEq] at hj'
      rw [hS, hj']
      exact .some hsame
  | @objectGet env object props name T loc ho hl ih =>
    obtain ⟨O, hj, hso⟩ := ih hs hown henv (hterm.part (by simp [parts]))
    have hO := judge_clean hown (hterm.part (by simp [parts])) hj
    obtain ⟨ownProps, rfl, hagree⟩ :=
      (Ty.same_object hO.1 (ho.clean henv (hterm.part (by simp [parts]))).1).1 hso
    obtain ⟨S, hS, hsame⟩ := hagree.of_expected hl
    exact ⟨S, judge_objectGet_ok.2 ⟨ownProps, hj, hS, ((Ty.clean_object.1 hO).of_lookup hS).isError⟩, hsame⟩
  | @unionNew env label props variants declared loc hl hp _ ih =>
    have hd := (Ty.clean_union.1 hterm.annotated).of_lookup hl
    refine ⟨_, judge_unionNew_ok.2 ⟨variants, declared, rfl, hl, hp.nodup_iff.2 hd.nodup, fun p hm => ?_,
      fun name hn => hp.mem_iff.2 hn, rfl⟩, Ty.Clean.same_refl hterm.annotated⟩
    obtain ⟨expected, he⟩ := Dict.exists_lookup.2 (hp.mem_iff.1 (Dict.mem_names hm))
    exact ⟨expected, he, ih p hm expected he hs hown henv (hterm.part (List.mem_map_of_mem hm))⟩
  | @unionGet env subject clauses variants T loc hf hne hp hc ih =>
    have hT := (HasType.unionGet hf hne hp hc : HasType env (.unionGet subject clauses loc) T).clean henv hterm
    have hv := henv subject _ hf
    obtain ⟨U, hU, hsU⟩ := Dict.rel_eq_some (hf ▸ hs subject)
    have hown' := hown subject U hU
    obtain ⟨ownVariants, rfl, hagree⟩ := (Ty.same_union hown'.1 hv.1).1 hsU
    have hpv := Ty.clean_union.1 hv
    have hpo := Ty.clean_union.1 hown'
    -- each clause is for a variant on both sides, and has a type equal to the common one
    have hall : ∀ c ∈ clauses, ∃ S, ClauseJudged own subject ownVariants c S ∧ Ty.Same S T := by
      intro c hm
      obtain ⟨props, hl⟩ := Dict.exists_lookup.2 (hp.mem_iff.1 (Dict.mem_names hm))
      obtain ⟨ownProps, hlo, hprops⟩ := hagree.of_expected hl
      have hcp := hpv.of_lookup hl
      have hco := hpo.of_lookup hlo
      obtain ⟨S, hj, hsame⟩ := ih c hm props hl
        (hs.bind ((Ty.same_object_object hco.nodup hcp.nodup).2 hprops) subject)
        (hown.bind (Ty.clean_object.2 hco)) (henv.bind (Ty.clean_object.2 hcp))
        (hterm.part (List.mem_map_of_mem hm))
      exact ⟨S, ⟨ownProps, hlo, hco.nodup, hj⟩, hsame⟩
    have hlen : clauses.length = ownVariants.length := by
      rw [hagree.length_eq hpo.nodup hpv.nodup, ← Dict.length_names, hp.length_eq, Dict.length_names]
    obtain ⟨clause, rest, rfl⟩ := List.exists_cons_of_ne_nil hne
    obtain ⟨S, hfirst, hsame⟩ := hall clause List.mem_cons_self
    have hS := hfirst.clean hown hown' (hterm.part (by simp [parts]))
    refine ⟨S, judge_unionGet_ok.2 ⟨ownVariants, clause, rest, hU, rfl, hp.nodup_iff.2 hpv.nodup, hlen, hfirst,
      fun c hm => ?_⟩, hsame⟩
    obtain ⟨R, hj, hsameR⟩ := hall c (List.mem_cons_of_mem _ hm)
    have hR := hj.clean hown hown' (hterm.part (List.mem_map_of_mem (List.mem_cons_of_mem _ hm)))
    exact ⟨R, hj, hsameR.of_common hR.1 hS.1 hT.1 hsame⟩
  | convert h hw hT ih =>
    obtain ⟨S, hj, hsame⟩ := ih hs hown henv hterm
    have hS := judge_clean hown hterm hj
    exact ⟨S, hj, hsame.trans hS.1 (h.clean henv hterm).1 hw hT⟩

/-! ## Decision -/

/-- Judging decides the rules. The types of a term are those equal to the one found, which is among
them, and a term is complained about if and only if it has none. -/
theorem decided_by_judge {term : Term Loc} (henv : env.Clean) (hterm : term.Clean) :
    (∀ T, HasType env term T ↔ T.WellFormed ∧ ∃ S, judge env term = .ok S ∧ S.equal T = true) ∧
    (∀ T, judge env term = .ok T → HasType env term T) ∧
    ((∃ violation guilty, judge env term = .error (.complaint violation (some guilty))) ↔
      ∀ T, ¬ HasType env term T) := by
  refine ⟨fun T => ⟨fun h => ?_, ?_⟩, fun T => of_judge henv hterm, ?_, fun h => ?_⟩
  · exact ⟨(h.clean henv hterm).1, judge_same h henv.same_refl henv henv hterm⟩
  · rintro ⟨hT, S, hj, hs⟩
    exact (of_judge henv hterm hj).convert hT hs
  · rintro ⟨violation, guilty, hj⟩ T h
    obtain ⟨S, hS, -⟩ := judge_same h henv.same_refl henv henv hterm
    rw [hj] at hS
    cases hS
  · cases hj : judge env term with
    | ok T => exact absurd (of_judge henv hterm hj) (h T)
    | error failure =>
      obtain ⟨violation, guilty, rfl, -⟩ := justified_of_judge henv hterm hj
      exact ⟨violation, guilty, rfl⟩

/-- A function has its type under any names of the parameters, and the judgment finds one of them. -/
theorem decided_by_judge_renamed :
    HasType .empty (.func [("on", .boolean)] (.ite (.var "on" ()) (.bool false ()) (.bool true ()) ()) ())
      (.func [("off", .boolean)] .boolean) :=
  ((decided_by_judge Env.clean_empty (by decide)).1 _).2 ⟨by decide, _, rfl, by decide⟩

end HasType

end StructuralTyping
