/-
Parts of a term can be exchanged. A term stands in for another if it has a type wherever that one does, and
an equal one. Main statement: in a term that has a type every part has one in its scope, and when a part is
exchanged for a term that has an equal type there, then the whole term keeps its type up to equality.
-/
import StructuralTyping.Proofs.Typing.Dependence

namespace StructuralTyping

variable {Loc : Type}

namespace Term

variable {env own other inner : Env} {T : Ty} {loc : Loc} {i : Nat}

/-- Where the old term has a type, the new one has an equal type. -/
def StandsIn (env : Env) (old new : Term Loc) : Prop :=
  ∀ S, judge env old = .ok S → ∃ S', judge env new = .ok S' ∧ Ty.Interchangeable S S'

theorem StandsIn.refl (henv : env.Clean) {term : Term Loc} (hterm : term.Clean) : StandsIn env term term :=
  fun S h => ⟨S, h, (judge_clean henv hterm h).interchangeable⟩

theorem StandsIn.trans {first second third : Term Loc} (h : StandsIn env first second)
    (h' : StandsIn env second third) : StandsIn env first third := by
  intro S hS
  obtain ⟨S', hS', hs⟩ := h S hS
  obtain ⟨S'', hS'', hs'⟩ := h' S' hS'
  exact ⟨S'', hS'', hs.trans hs'⟩

/-- A type carries over to an environment that binds equal types. -/
theorem judge_ok_of_same {term : Term Loc} (hown : own.Clean) (hother : other.Clean) (hs : own.Same other)
    (hterm : term.Clean) (h : judge own term = .ok T) :
    ∃ T', judge other term = .ok T' ∧ Ty.Interchangeable T T' := by
  have halike := alike_judge_of_same hown hother hs hterm
  rw [h] at halike
  generalize judge other term = found at halike
  cases halike with
  | ok hT => exact ⟨_, rfl, hT⟩

/-! ## Node by node -/

section

variable {cond cond' thn thn' els els' left left' right right' body body' rest rest' callee callee' : Term Loc}
  {args args' : List (Term Loc)} {props props' clauses clauses' : List (String × Term Loc)}
  {params : List (String × Ty)} {ret : Ty} {name label subject : String}

theorem standsIn_ite (hc : StandsIn env cond cond') (ht : StandsIn env thn thn') (he : StandsIn env els els') :
    StandsIn env (.ite cond thn els loc) (.ite cond' thn' els' loc) := by
  intro T h
  obtain ⟨hcond, hA, B, hB, hs⟩ := judge_ite_ok.1 h
  obtain ⟨C', hC', hC⟩ := hc _ hcond
  obtain ⟨A', hA', hAA⟩ := ht T hA
  obtain ⟨B', hB', hBB⟩ := he B hB
  cases hC.sameShape
  exact ⟨A', judge_ite_ok.2 ⟨hC', hA', B', hB', (hAA.same_iff hBB).1 hs⟩, hAA⟩

theorem standsIn_add (hl : StandsIn env left left') (hr : StandsIn env right right') :
    StandsIn env (.add left right loc) (.add left' right' loc) := by
  intro T h
  obtain ⟨hleft, hright, rfl⟩ := judge_add_ok.1 h
  obtain ⟨L', hL', hL⟩ := hl _ hleft
  obtain ⟨R', hR', hR⟩ := hr _ hright
  cases hL.sameShape
  cases hR.sameShape
  exact ⟨.number, judge_add_ok.2 ⟨hL', hR', rfl⟩, Ty.clean_number.interchangeable⟩

theorem standsIn_func (hparams : ∀ p ∈ params, p.2.Clean) (hb : StandsIn (env.extend params) body body') :
    StandsIn env (.func params body loc) (.func params body' loc) := by
  intro T h
  obtain ⟨ret, hbody, hd, rfl⟩ := judge_func_ok.1 h
  obtain ⟨ret', hbody', hret⟩ := hb ret hbody
  refine ⟨.func params ret', judge_func_ok.2 ⟨ret', hbody', hd, rfl⟩, ?_⟩
  exact Ty.congruence_interchangeable.func hd (fun p hm => (hparams p hm).interchangeable) hret

theorem checkedArgs_standIn {params' : List (String × Ty)}
    (h : List.Forall₂ (fun arg p => ∃ S, judge env arg = .ok S ∧ Ty.Same S p.2) args params)
    (ha : List.Forall₂ (StandsIn env) args args')
    (hp : List.Forall₂ (fun p q => Ty.Interchangeable p.2 q.2) params params') :
    List.Forall₂ (fun arg p => ∃ S, judge env arg = .ok S ∧ Ty.Same S p.2) args' params' := by
  induction h generalizing args' params' with
  | nil =>
    cases ha
    cases hp
    exact .nil
  | cons harg _ ih =>
    cases ha with
    | cons hin ha =>
      cases hp with
      | cons hpq hp =>
        obtain ⟨S, hS, hs⟩ := harg
        obtain ⟨S', hS', hSS⟩ := hin S hS
        exact .cons ⟨S', hS', (hSS.same_iff hpq).1 hs⟩ (ih ha hp)

theorem standsIn_call (hc : StandsIn env callee callee') (ha : List.Forall₂ (StandsIn env) args args') :
    StandsIn env (.call callee args loc) (.call callee' args' loc) := by
  intro T h
  obtain ⟨params, hcallee, hl, hargs, -⟩ := judge_call_ok.1 h
  obtain ⟨F', hF', hF⟩ := hc _ hcallee
  cases hF.sameShape with
  | @func _ params' _ ret' hp hr =>
    have hlen : params'.length = args'.length := by rw [← hp.length_eq, hl, ha.length_eq]
    exact ⟨ret', judge_call_ok.2 ⟨params', hF', hlen, checkedArgs_standIn hargs ha hp, hr.other.isError⟩, hr⟩

theorem standsIn_seq (hb : StandsIn env body body') (hr : StandsIn env rest rest') :
    StandsIn env (.seq body rest loc) (.seq body' rest' loc) := by
  intro T h
  obtain ⟨⟨S, hbody⟩, hrest⟩ := judge_seq_ok.1 h
  obtain ⟨S', hbody', -⟩ := hb S hbody
  obtain ⟨T', hrest', hT⟩ := hr T hrest
  exact ⟨T', judge_seq_ok.2 ⟨⟨S', hbody'⟩, hrest'⟩, hT⟩

/-- With another initial term the rest is judged under another type of the name. -/
theorem standsIn_const_init {init init' : Term Loc} (henv : env.Clean) (hrest : rest.Clean)
    (hi : StandsIn env init init') : StandsIn env (.const name init rest loc) (.const name init' rest loc) := by
  intro T h
  obtain ⟨S, hS, hT⟩ := judge_const_ok.1 h
  obtain ⟨S', hS', hSS⟩ := hi S hS
  obtain ⟨T', hT', hTT⟩ := judge_ok_of_same (henv.bind hSS.own) (henv.bind hSS.other)
    (henv.same_refl.bind hSS.same name) hrest hT
  exact ⟨T', judge_const_ok.2 ⟨S', hS', hT'⟩, hTT⟩

theorem standsIn_const_rest {init : Term Loc}
    (hr : ∀ S, judge env init = .ok S → StandsIn (env.bind name S) rest rest') :
    StandsIn env (.const name init rest loc) (.const name init rest' loc) := by
  intro T h
  obtain ⟨S, hS, hT⟩ := judge_const_ok.1 h
  obtain ⟨T', hT', hTT⟩ := hr S hS T hT
  exact ⟨T', judge_const_ok.2 ⟨S, hS, hT'⟩, hTT⟩

theorem standsIn_recFunc (hret : ret.Clean)
    (hb : StandsIn ((env.extend params).bind name (.func params ret)) body body')
    (hr : (∃ S, judge ((env.extend params).bind name (.func params ret)) body = .ok S ∧ Ty.Same S ret) →
      StandsIn (env.bind name (.func params ret)) rest rest') :
    StandsIn env (.recFunc name params ret body rest loc) (.recFunc name params ret body' rest' loc) := by
  intro T h
  obtain ⟨hd, ⟨S, hS, hs⟩, hT⟩ := judge_recFunc_ok.1 h
  obtain ⟨S', hS', hSS⟩ := hb S hS
  obtain ⟨T', hT', hTT⟩ := hr ⟨S, hS, hs⟩ T hT
  exact ⟨T', judge_recFunc_ok.2 ⟨hd, ⟨S', hS', (hSS.same_iff hret.interchangeable).1 hs⟩, hT'⟩, hTT⟩

theorem standsIn_objectNew
    (hp : List.Forall₂ (fun prop new => prop.1 = new.1 ∧ StandsIn env prop.2 new.2) props props') :
    StandsIn env (.objectNew props loc) (.objectNew props' loc) := by
  intro T h
  obtain ⟨hd, types, ht, rfl⟩ := judge_objectNew_ok.1 h
  obtain ⟨types', ht', hsame⟩ : ∃ types', List.Forall₂ (PropJudged env) props' types' ∧
      List.Forall₂ (fun p q => p.1 = q.1 ∧ Ty.Interchangeable p.2 q.2) types types' := by
    clear h hd
    induction ht generalizing props' with
    | nil =>
      cases hp
      exact ⟨[], .nil, .nil⟩
    | @cons _ typed _ _ hj _ ih =>
      cases hp with
      | cons hin hp =>
        obtain ⟨S', hS', hs⟩ := hin.2 _ hj.2
        obtain ⟨types', ht, hsame⟩ := ih hp
        exact ⟨(typed.1, S') :: types', .cons ⟨hin.1.symm.trans hj.1, hS'⟩ ht, .cons ⟨rfl, hs⟩ hsame⟩
  refine ⟨.object types', judge_objectNew_ok.2 ⟨Dict.names_eq_of_forall₂ hp ▸ hd, types', ht', rfl⟩, ?_⟩
  exact Ty.congruence_interchangeable.object (names_of_forall₂ ht ▸ hd) hsame

theorem standsIn_objectGet {object object' : Term Loc} (ho : StandsIn env object object') :
    StandsIn env (.objectGet object name loc) (.objectGet object' name loc) := by
  intro T h
  obtain ⟨props, hO, hl, -⟩ := judge_objectGet_ok.1 h
  obtain ⟨O', hO', hOO⟩ := ho _ hO
  cases hOO.sameShape with
  | @object _ props' hp =>
    obtain ⟨T', hl', hT⟩ := hp.of_own hl
    exact ⟨T', judge_objectGet_ok.2 ⟨props', hO', hl', hT.other.isError⟩, hT⟩

theorem standsIn_unionNew {type : Ty} (htype : type.Clean)
    (hp : List.Forall₂ (fun prop new => prop.1 = new.1 ∧ StandsIn env prop.2 new.2) props props') :
    StandsIn env (.unionNew label props type loc) (.unionNew label props' type loc) := by
  intro T h
  obtain ⟨variants, declared, rfl, hl, hd, hs, hm, rfl⟩ := judge_unionNew_ok.1 h
  have hnames := Dict.names_eq_of_forall₂ hp
  refine ⟨_, judge_unionNew_ok.2 ⟨variants, declared, rfl, hl, hnames ▸ hd, fun new hnew => ?_, hnames ▸ hm, rfl⟩,
    htype.interchangeable⟩
  obtain ⟨prop, hprop, hname, hin⟩ := exists_of_mem_right hp hnew
  obtain ⟨expected, he, S, hS, hsame⟩ := hs prop hprop
  obtain ⟨S', hS', hSS⟩ := hin S hS
  have hexpected := ((Ty.clean_union.1 htype).of_lookup hl).of_lookup he
  exact ⟨expected, hname ▸ he, S', hS', (hSS.same_iff hexpected.interchangeable).1 hsame⟩

theorem standsIn_unionGet
    (hc : List.Forall₂ (fun clause new => clause.1 = new.1 ∧ StandsIn (env.narrow subject clause.1) clause.2 new.2)
      clauses clauses') :
    StandsIn env (.unionGet subject clauses loc) (.unionGet subject clauses' loc) := by
  intro T h
  have hnames : Dict.names clauses = Dict.names clauses' :=
    Dict.names_eq_of_forall₂ (R := fun _ _ => True) (hc.imp fun _ _ h => ⟨h.1, trivial⟩)
  have hlen := hc.length_eq
  obtain ⟨variants, first, others, hf, rfl, hd, hl, hfirst, hothers⟩ := judge_unionGet_ok.1 h
  have hclause : ∀ {clause new : String × Term Loc} {S},
      clause.1 = new.1 ∧ StandsIn (env.narrow subject clause.1) clause.2 new.2 →
      ClauseJudged env subject variants clause S →
      ∃ S', ClauseJudged env subject variants new S' ∧ Ty.Interchangeable S S' := by
    rintro clause new S ⟨hname, hin⟩ ⟨props, hlook, hprops, hS⟩
    rw [Env.narrow_eq hf hlook] at hin
    obtain ⟨S', hS', hSS⟩ := hin S hS
    exact ⟨S', ⟨props, hname ▸ hlook, hprops, hS'⟩, hSS⟩
  cases hc with
  | @cons _ first' _ others' hfirst' hothers' =>
    obtain ⟨T', hT', hTT⟩ := hclause hfirst' hfirst
    refine ⟨T', judge_unionGet_ok.2 ⟨variants, first', others', hf, rfl, hnames ▸ hd, hlen ▸ hl, hT', ?_⟩, hTT⟩
    intro new hnew
    obtain ⟨clause, hclausemem, hin⟩ := exists_of_mem_right hothers' hnew
    obtain ⟨S, hS, hsame⟩ := hothers clause hclausemem
    obtain ⟨S', hS', hSS⟩ := hclause hin hS
    exact ⟨S', hS', (hSS.same_iff hTT).1 hsame⟩

end

/-! ## Position by position -/

/-- One step out: a node with a part exchanged stands in for the node. -/
theorem standsIn_withParts {term old new : Term Loc} (henv : env.Clean) (hterm : term.Clean)
    (hp : term.parts[i]? = some old) (hin : ∀ inner, partScope? env term i = some inner → StandsIn inner old new) :
    StandsIn env term (term.withParts (term.parts.set i new)) := by
  have hlen : (term.parts.set i new).length = term.parts.length := List.length_set
  -- the other parts stand in for themselves
  have hpart : ∀ j {part part' inner}, term.parts[j]? = some part → (term.parts.set i new)[j]? = some part' →
      partScope? env term j = some inner → StandsIn inner part part' := by
    intro j part part' inner hpart hpart' hinner
    by_cases hij : i = j
    · subst hij
      rw [List.getElem?_set_self (List.getElem?_eq_some_iff.1 hp).1] at hpart'
      cases hpart'
      obtain rfl := Option.some.inj (hp.symm.trans hpart)
      exact hin inner hinner
    · rw [List.getElem?_set_ne hij, hpart] at hpart'
      cases hpart'
      exact .refl (hterm.partScope henv hinner) (hterm.part (List.mem_of_getElem? hpart))
  cases term with
  | bool | number | var => cases hp
  | ite =>
    obtain ⟨cond', thn', els', ht⟩ := List.length_eq_three.1 hlen
    rw [ht] at hpart ⊢
    exact standsIn_ite (hpart 0 rfl rfl rfl) (hpart 1 rfl rfl rfl) (hpart 2 rfl rfl rfl)
  | add =>
    obtain ⟨left', right', ht⟩ := List.length_eq_two.1 hlen
    rw [ht] at hpart ⊢
    exact standsIn_add (hpart 0 rfl rfl rfl) (hpart 1 rfl rfl rfl)
  | func params =>
    obtain ⟨body', ht⟩ := List.length_eq_one_iff.1 hlen
    rw [ht] at hpart ⊢
    have hparams : Dict.Proper Ty.Clean params := hterm.annotated
    exact standsIn_func hparams.values (hpart 0 rfl rfl rfl)
  | call callee args =>
    obtain ⟨callee', args', ht⟩ := List.exists_cons_of_length_eq_add_one hlen
    rw [ht] at hpart hlen ⊢
    refine standsIn_call (hpart 0 rfl rfl rfl) (forall₂_of_getElem? (Nat.succ.inj hlen).symm fun j _ _ ha ha' => ?_)
    exact hpart (j + 1) ha ha' rfl
  | seq =>
    obtain ⟨body', rest', ht⟩ := List.length_eq_two.1 hlen
    rw [ht] at hpart ⊢
    exact standsIn_seq (hpart 0 rfl rfl rfl) (hpart 1 rfl rfl rfl)
  | const name init rest =>
    rcases i with _ | _ | i
    · exact standsIn_const_init henv (hterm.part (by simp [parts])) (hpart 0 rfl rfl rfl)
    · exact standsIn_const_rest fun S hS => hpart 1 rfl rfl (by simp only [partScope?, hS])
    · cases hp
  | recFunc =>
    obtain ⟨body', rest', ht⟩ := List.length_eq_two.1 hlen
    rw [ht] at hpart ⊢
    refine standsIn_recFunc hterm.annotated.2 (hpart 0 rfl rfl rfl) ?_
    rintro ⟨S, hS, hs⟩
    exact hpart 1 rfl rfl (by simp only [partScope?, hS, if_pos hs])
  | objectNew =>
    refine standsIn_objectNew (forall₂_renew (by simp [parts]) fun j prop _ hj hn => ?_)
    exact hpart j (by simp [parts, hj]) hn rfl
  | objectGet =>
    obtain ⟨object', ht⟩ := List.length_eq_one_iff.1 hlen
    rw [ht] at hpart ⊢
    exact standsIn_objectGet (hpart 0 rfl rfl rfl)
  | unionNew =>
    refine standsIn_unionNew hterm.annotated (forall₂_renew (by simp [parts]) fun j prop _ hj hn => ?_)
    exact hpart j (by simp [parts, hj]) hn rfl
  | unionGet subject =>
    refine standsIn_unionGet (forall₂_renew (by simp [parts]) fun j clause _ hj hn => ?_)
    exact hpart j (by simp [parts, hj]) hn (by simp [partScope?, hj])

/-- From a position all the way out. -/
theorem standsIn_put {term old new : Term Loc} {p : Position} (henv : env.Clean) (hterm : term.Clean)
    (hp : term.at? p = some old) (hin : ∀ scope, scope? env term p = some scope → StandsIn scope old new) :
    StandsIn env term (term.put p new) := by
  induction p generalizing env term with
  | nil =>
    cases hp
    exact hin env rfl
  | cons i rest ih =>
    obtain ⟨part, hpart, hrest⟩ := at?_cons.1 hp
    simp only [put, hpart]
    refine standsIn_withParts henv hterm hpart fun inner hinner => ?_
    refine ih (hterm.partScope henv hinner) (hterm.part (List.mem_of_getElem? hpart)) hrest fun scope hs => ?_
    exact hin scope (scope?_cons.2 ⟨inner, part, hinner, hpart, hs⟩)

/-- Every part of a term with a type has a type in its scope. In its place any term can be put that has an
equal type there: the whole term then has a type, equal to the one before. -/
theorem parts_exchangeable {term old : Term Loc} {p : Position} (henv : env.Clean) (hterm : term.Clean)
    (h : judge env term = .ok T) (hp : term.at? p = some old) :
    ∃ scope S, scope? env term p = some scope ∧ judge scope old = .ok S ∧
      ∀ new S', new.Written Ty.WellFormed → judge scope new = .ok S' → S.equal S' = true →
        ∃ T', judge env (term.put p new) = .ok T' ∧ T.equal T' = true := by
  obtain ⟨scope, S, hs, hS⟩ := exists_scope h hp
  obtain ⟨hscope, hold⟩ := hterm.scope henv hp hs
  refine ⟨scope, S, hs, hS, fun new S' hnew hS' hsame => ?_⟩
  have hS'wf : S'.WellFormed := judge_wellFormed (fun name type hf => (hscope name type hf).1) hnew hS'
  have hSS : Ty.Interchangeable S S' := Ty.Same.interchangeable hsame (judge_clean hscope hold hS).1 hS'wf
  have hstands : StandsIn env term (term.put p new) := by
    refine standsIn_put henv hterm hp fun scope' hscope' => ?_
    obtain rfl := Option.some.inj (hs.symm.trans hscope')
    intro R hR
    rw [hS] at hR
    cases hR
    exact ⟨S', hS', hSS⟩
  obtain ⟨T', hT', hTT⟩ := hstands T h
  exact ⟨T', hT', hTT.same⟩

/-- The properties of an object written in another order: what the constant is bound to changes, what is read
from it later does not. -/
theorem parts_exchangeable_object :
    ∃ T', judge .empty (put (.const "o" (.objectNew [("a", .number (.int 1) ()), ("b", .bool true ())] ())
      (.objectGet (.var "o" ()) "a" ()) ()) [0] (.objectNew [("b", .bool true ()), ("a", .number (.int 1) ())] ())) =
        .ok T' ∧ Ty.equal .number T' = true := by
  have h : judge .empty (.const "o" (.objectNew [("a", .number (.int 1) ()), ("b", .bool true ())] ())
      (.objectGet (.var "o" ()) "a" ()) ()) = .ok .number := rfl
  obtain ⟨scope, S, hs, hS, hnew⟩ := parts_exchangeable Env.clean_empty (by decide) h (p := [0]) rfl
  cases hs
  cases hS
  exact hnew (.objectNew [("b", .bool true ()), ("a", .number (.int 1) ())] ()) _ (by decide) rfl rfl

end Term

end StructuralTyping
