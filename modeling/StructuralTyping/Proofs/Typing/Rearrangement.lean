/-
The order in which a term is written does not matter to its type where order carries no meaning. Main
statement: of two terms that are rearranged into each other either both have a type or none has, and the
types are equal. Which failure is found first may differ.
-/
import StructuralTyping.Proofs.Term.Rearranged
import StructuralTyping.Proofs.Typing.Exchange

namespace StructuralTyping

variable {Loc : Type}

/-! ## Types written in another way -/

theorem Ty.interchangeable_object_perm {props props' : List (String × Ty)} (h : (Ty.object props).Clean)
    (hp : props.Perm props') : Ty.Interchangeable (.object props) (.object props') := by
  have hprops := Ty.clean_object.1 h
  have hd : (Dict.names props').Nodup := (hp.map Prod.fst).nodup_iff.1 hprops.nodup
  have hprops' : (Ty.object props').Clean :=
    Ty.clean_object.2 ⟨hd, fun p hm => hprops.values p (hp.mem_iff.2 hm)⟩
  refine ⟨h, hprops', (Ty.same_object_object hprops.nodup hd).2 fun name => ?_⟩
  rw [← Dict.lookup_perm hp hprops.nodup name]
  cases hl : props.lookup name with
  | none => exact .none
  | some type => exact .some (hprops.of_lookup hl).same_refl

theorem Ty.interchangeable_func {params params' : List (String × Ty)} {ret ret' : Ty}
    (hp : Dict.Proper Ty.Clean params) (hparams : RespelledParams params params') (hr : Ty.Interchangeable ret ret') :
    Ty.Interchangeable (.func params ret) (.func params' ret') := by
  refine ⟨Ty.clean_func.2 ⟨hp, hr.own⟩, Ty.clean_func.2 ⟨hparams.proper hp, hr.other⟩, ?_⟩
  exact Ty.same_func_func.2 ⟨(hparams.same hp.values).imp fun _ _ h => h.2, hr.same⟩

theorem Ty.Respelled.interchangeable {S T : Ty} (h : Ty.Respelled S T) (hS : S.Clean) : Ty.Interchangeable S T :=
  ⟨hS, h.clean hS, h.same hS⟩

namespace Term

variable {env : Env} {T : Ty} {loc : Loc}

/-! ## One change -/

section

variable {cond thn els left right body rest : Term Loc} {props props' clauses clauses' : List (String × Term Loc)}
  {params params' : List (String × Ty)} {type type' ret ret' : Ty} {name label subject : String}

theorem standsIn_branches (henv : env.Clean) (hthn : thn.Clean) (hels : els.Clean) :
    StandsIn env (.ite cond thn els loc) (.ite cond els thn loc) := by
  intro T h
  obtain ⟨hcond, hT, S, hS, hs⟩ := judge_ite_ok.1 h
  have hTS : Ty.Interchangeable T S := ⟨judge_clean henv hthn hT, judge_clean henv hels hS, hs⟩
  exact ⟨S, judge_ite_ok.2 ⟨hcond, hS, T, hT, hTS.symm.same⟩, hTS⟩

theorem standsIn_operands : StandsIn env (.add left right loc) (.add right left loc) := by
  intro T h
  obtain ⟨hleft, hright, rfl⟩ := judge_add_ok.1 h
  exact ⟨.number, judge_add_ok.2 ⟨hright, hleft, rfl⟩, Ty.clean_number.interchangeable⟩

theorem standsIn_object (henv : env.Clean) (hterm : (objectNew props loc).Clean) (hp : props.Perm props') :
    StandsIn env (.objectNew props loc) (.objectNew props' loc) := by
  intro T h
  have hT := judge_clean henv hterm h
  obtain ⟨hd, types, hj, rfl⟩ := judge_objectNew_ok.1 h
  obtain ⟨types', hj', htypes⟩ := List.perm_comp_forall₂ hp.symm hj
  have hd' : (Dict.names props').Nodup := (hp.map Prod.fst).nodup_iff.1 hd
  exact ⟨.object types', judge_objectNew_ok.2 ⟨hd', types', hj', rfl⟩, Ty.interchangeable_object_perm hT htypes.symm⟩

theorem standsIn_variant (htype : type.Clean) (hp : props.Perm props') :
    StandsIn env (.unionNew label props type loc) (.unionNew label props' type loc) := by
  intro T h
  obtain ⟨variants, declared, rfl, hl, hd, hs, hm, rfl⟩ := judge_unionNew_ok.1 h
  have hnames : (Dict.names props).Perm (Dict.names props') := hp.map Prod.fst
  refine ⟨_, judge_unionNew_ok.2 ⟨variants, declared, rfl, hl, hnames.nodup_iff.1 hd, ?_, ?_, rfl⟩,
    htype.interchangeable⟩
  · exact fun prop hprop => hs prop (hp.mem_iff.2 hprop)
  · exact fun name hname => hnames.mem_iff.1 (hm name hname)

/-- Whichever clause comes first, all the others have a type equal to its type. -/
theorem standsIn_clauses (henv : env.Clean) (hterm : (unionGet subject clauses loc).Clean)
    (hp : clauses.Perm clauses') :
    StandsIn env (.unionGet subject clauses loc) (.unionGet subject clauses' loc) := by
  intro T h
  have hT := judge_clean henv hterm h
  obtain ⟨variants, first, others, hf, rfl, hd, hl, hfirst, hothers⟩ := judge_unionGet_ok.1 h
  -- no clause is special any more: each has a type equal to that of the one that came first
  have hall : ∀ clause ∈ clauses', ∃ S, ClauseJudged env subject variants clause S ∧ Ty.Interchangeable T S := by
    intro clause hclause
    rcases List.mem_cons.1 (hp.mem_iff.2 hclause) with rfl | hm
    · exact ⟨T, hfirst, hT.interchangeable⟩
    · obtain ⟨S, hS, hs⟩ := hothers clause hm
      have hclean := hS.clean henv (henv subject _ hf) (hterm.part (List.mem_map_of_mem (List.mem_cons_of_mem _ hm)))
      exact ⟨S, hS, Ty.Interchangeable.symm ⟨hclean, hT, hs⟩⟩
  cases clauses' with
  | nil => exact absurd hp (List.not_perm_cons_nil)
  | cons first' others' =>
    obtain ⟨hfirst', hothers'⟩ := List.forall_mem_cons.1 hall
    obtain ⟨T', hT', hTT⟩ := hfirst'
    have hd' : (Dict.names (first' :: others')).Nodup := (hp.map Prod.fst).nodup_iff.1 hd
    refine ⟨T', judge_unionGet_ok.2 ⟨variants, first', others', hf, rfl, hd', hp.length_eq ▸ hl, hT', ?_⟩, hTT⟩
    intro clause hclause
    obtain ⟨S, hS, hTS⟩ := hothers' clause hclause
    exact ⟨S, hS, (hTS.symm.trans hTT).same⟩

theorem standsIn_params (henv : env.Clean) (hterm : (func params body loc).Clean)
    (hp : RespelledParams params params') : StandsIn env (.func params body loc) (.func params' body loc) := by
  intro T h
  have hparams : Dict.Proper Ty.Clean params := hterm.annotated
  have hparams' := hp.proper hparams
  obtain ⟨ret, hbody, -, rfl⟩ := judge_func_ok.1 h
  obtain ⟨ret', hbody', hret⟩ := judge_ok_of_same (henv.extend hparams.values) (henv.extend hparams'.values)
    (henv.same_refl.extend_forall₂ (hp.same hparams.values)) (hterm.part (by simp [parts])) hbody
  refine ⟨.func params' ret', judge_func_ok.2 ⟨ret', hbody', hparams'.nodup, rfl⟩, ?_⟩
  exact Ty.interchangeable_func hparams hp hret

theorem standsIn_signature (henv : env.Clean) (hterm : (recFunc name params ret body rest loc).Clean)
    (hp : RespelledParams params params') (hr : Ty.Respelled ret ret') :
    StandsIn env (.recFunc name params ret body rest loc) (.recFunc name params' ret' body rest loc) := by
  intro T h
  obtain ⟨hparams, hret⟩ : Dict.Proper Ty.Clean params ∧ ret.Clean := hterm.annotated
  have hparams' := hp.proper hparams
  have hrr := hr.interchangeable hret
  have hsig := Ty.interchangeable_func hparams hp hrr
  obtain ⟨-, ⟨S, hS, hs⟩, hT⟩ := judge_recFunc_ok.1 h
  obtain ⟨S', hS', hSS⟩ := judge_ok_of_same ((henv.extend hparams.values).bind hsig.own)
    ((henv.extend hparams'.values).bind hsig.other)
    ((henv.same_refl.extend_forall₂ (hp.same hparams.values)).bind hsig.same name) (hterm.part (by simp [parts])) hS
  obtain ⟨T', hT', hTT⟩ := judge_ok_of_same (henv.bind hsig.own) (henv.bind hsig.other)
    (henv.same_refl.bind hsig.same name) (hterm.part (by simp [parts])) hT
  exact ⟨T', judge_recFunc_ok.2 ⟨hparams'.nodup, ⟨S', hS', (hSS.same_iff hrr).1 hs⟩, hT'⟩, hTT⟩

theorem standsIn_union (henv : env.Clean) (hterm : (unionNew label props type loc).Clean)
    (ht : Ty.Respelled type type') :
    StandsIn env (.unionNew label props type loc) (.unionNew label props type' loc) := by
  intro T h
  have htt := ht.interchangeable hterm.annotated
  obtain ⟨variants, declared, rfl, hl, hd, hs, hm, rfl⟩ := judge_unionNew_ok.1 h
  cases htt.sameShape with
  | @union _ variants' _ hv =>
    obtain ⟨declared', hl', hdeclared⟩ := hv.of_own hl
    have hmissing : ∀ name ∈ Dict.names declared', name ∈ Dict.names props := fun name hname =>
      hm name ((hdeclared.declared.mem_names_iff name).2 hname)
    refine ⟨_, judge_unionNew_ok.2 ⟨variants', declared', rfl, hl', hd, fun prop hprop => ?_, hmissing, rfl⟩, htt⟩
    obtain ⟨expected, he, S, hS, hSe⟩ := hs prop hprop
    obtain ⟨expected', he', hee⟩ := hdeclared.declared.of_own he
    have hclean := judge_clean henv (hterm.part (List.mem_map_of_mem hprop)) hS
    exact ⟨expected', he', S, hS, (hclean.interchangeable.same_iff hee).1 hSe⟩

end

theorem RearrangedOnce.standsIn {term other : Term Loc} (h : RearrangedOnce term other) (henv : env.Clean)
    (hterm : term.Clean) : StandsIn env term other := by
  induction h generalizing env with
  | branches => exact standsIn_branches henv (hterm.part (by simp [parts])) (hterm.part (by simp [parts]))
  | operands => exact standsIn_operands
  | object hp => exact standsIn_object henv hterm hp
  | variant hp => exact standsIn_variant hterm.annotated hp
  | clauses hp => exact standsIn_clauses henv hterm hp
  | params hp => exact standsIn_params henv hterm hp
  | signature hp hr => exact standsIn_signature henv hterm hp hr
  | union ht => exact standsIn_union henv hterm ht
  | part hp _ ih =>
    -- the induction is on the way down to the change, and the scope changes along it
    refine standsIn_withParts henv hterm hp fun inner hinner => ?_
    exact ih (hterm.partScope henv hinner) (hterm.part (List.mem_of_getElem? hp))

/-! ## Any number of changes -/

theorem Rearranged.standsIn {term other : Term Loc} (h : Rearranged term other) (henv : env.Clean)
    (hterm : term.Clean) : StandsIn env term other ∧ StandsIn env other term := by
  induction h with
  | rel _ _ h => exact ⟨h.standsIn henv hterm, h.symm.standsIn henv (h.clean hterm)⟩
  | refl => exact ⟨.refl henv hterm, .refl henv hterm⟩
  | symm first second h ih => exact (ih ((Rearranged.clean_iff h).2 hterm)).symm
  | trans first second third h _ ih ih' =>
    obtain ⟨hforth, hback⟩ := ih hterm
    obtain ⟨hforth', hback'⟩ := ih' ((Rearranged.clean_iff h).1 hterm)
    exact ⟨hforth.trans hforth', hback'.trans hback⟩

/-- Of two terms that are rearranged into each other both have a type or none, and their types are equal. -/
theorem rearranged_judged {term other : Term Loc} (henv : env.Clean) (hterm : term.Clean)
    (h : Rearranged term other) :
    ((∃ T, judge env term = .ok T) ↔ ∃ T', judge env other = .ok T') ∧
      ∀ T T', judge env term = .ok T → judge env other = .ok T' → T.equal T' = true := by
  obtain ⟨hforth, hback⟩ := h.standsIn henv hterm
  refine ⟨⟨?_, ?_⟩, fun T T' hT hT' => ?_⟩
  · rintro ⟨T, hT⟩
    obtain ⟨T', hT', -⟩ := hforth T hT
    exact ⟨T', hT'⟩
  · rintro ⟨T', hT'⟩
    obtain ⟨T, hT, -⟩ := hback T' hT'
    exact ⟨T, hT⟩
  · obtain ⟨S, hS, hs⟩ := hforth T hT
    rw [hT'] at hS
    cases hS
    exact hs.same

/-- The variants of a parameter's type in another order, and then the clauses of the match on it. -/
theorem rearranged_judged_match :
    ∃ T', judge .empty (.func [("u", .union [("b", [("n", .number)]), ("a", [])])] (.unionGet "u"
      [("b", .objectGet (.var "u" ()) "n" ()), ("a", .number (.int 0) ())] ()) ()) = .ok T' ∧
        Ty.equal (.func [("u", .union [("a", []), ("b", [("n", .number)])])] .number) T' = true := by
  have hparams : RespelledParams [("u", .union [("a", []), ("b", [("n", .number)])])]
      [("u", .union [("b", [("n", .number)]), ("a", [])])] := List.Forall₂.cons ⟨rfl, .inr (by decide)⟩ .nil
  have hclauses : RearrangedOnce (.func [("u", .union [("b", [("n", .number)]), ("a", [])])] (.unionGet "u"
      [("a", .number (.int 0) ()), ("b", .objectGet (.var "u" ()) "n" ())] ()) ()) _ :=
    .part (i := 0) rfl (.clauses (.swap _ _ _))
  have h : Rearranged _ _ := .trans _ _ _ (.rel _ _ (.params hparams)) (.rel _ _ hclauses)
  obtain ⟨hjudged, hsame⟩ := rearranged_judged Env.clean_empty (by decide) h
  obtain ⟨T', hT'⟩ := hjudged.1 ⟨_, rfl⟩
  exact ⟨T', hT', hsame _ T' rfl hT'⟩

end Term

end StructuralTyping
