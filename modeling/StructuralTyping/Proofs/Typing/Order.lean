/-
The order of judging. In a term that has a type every position has a scope, and what is judged there
has a type. When another term is put there and fails in that scope, its failure is that of the whole
term, whatever stands at later positions.
-/
import StructuralTyping.Proofs.Typing.Loops
import StructuralTyping.Proofs.Typing.Scope

namespace StructuralTyping.Term

variable {Loc : Type} {env inner : Env} {T : Ty} {failure : Failure Loc} {i : Nat}

/-! ## Scopes in a term with a type -/

theorem exists_partScope {term part : Term Loc} (h : judge env term = .ok T) (hp : term.parts[i]? = some part) :
    ∃ inner S, partScope? env term i = some inner ∧ judge inner part = .ok S := by
  have hm := List.mem_of_getElem? hp
  cases term with
  | bool | number | var => cases hp
  | ite =>
    obtain ⟨hc, ht, S, he, -⟩ := judge_ite_ok.1 h
    simp only [parts, List.mem_cons, List.not_mem_nil, or_false] at hm
    rcases hm with rfl | rfl | rfl
    · exact ⟨env, _, rfl, hc⟩
    · exact ⟨env, T, rfl, ht⟩
    · exact ⟨env, S, rfl, he⟩
  | add =>
    obtain ⟨hl, hr, -⟩ := judge_add_ok.1 h
    simp only [parts, List.mem_cons, List.not_mem_nil, or_false] at hm
    rcases hm with rfl | rfl
    · exact ⟨env, _, rfl, hl⟩
    · exact ⟨env, _, rfl, hr⟩
  | func params =>
    obtain ⟨ret, hb, -⟩ := judge_func_ok.1 h
    rw [List.mem_singleton.1 hm]
    exact ⟨env.extend params, ret, rfl, hb⟩
  | call =>
    obtain ⟨params, hc, -, hargs, -⟩ := judge_call_ok.1 h
    rcases List.mem_cons.1 hm with rfl | hm
    · exact ⟨env, _, rfl, hc⟩
    · obtain ⟨p, -, S, hS, -⟩ := exists_of_mem_right hargs.flip hm
      exact ⟨env, S, rfl, hS⟩
  | seq =>
    obtain ⟨⟨S, hb⟩, hr⟩ := judge_seq_ok.1 h
    simp only [parts, List.mem_cons, List.not_mem_nil, or_false] at hm
    rcases hm with rfl | rfl
    · exact ⟨env, S, rfl, hb⟩
    · exact ⟨env, T, rfl, hr⟩
  | const name init rest =>
    obtain ⟨S, hi, hr⟩ := judge_const_ok.1 h
    rcases i with _ | _ | i
    · cases hp
      exact ⟨env, S, rfl, hi⟩
    · cases hp
      exact ⟨env.bind name S, T, by simp only [partScope?, hi], hr⟩
    · cases hp
  | recFunc name params ret body rest =>
    obtain ⟨-, ⟨S, hb, hs⟩, hr⟩ := judge_recFunc_ok.1 h
    rcases i with _ | _ | i
    · cases hp
      exact ⟨_, S, rfl, hb⟩
    · cases hp
      exact ⟨env.bind name (.func params ret), T, by simp only [partScope?, hb]; rw [if_pos hs], hr⟩
    · cases hp
  | objectNew =>
    obtain ⟨-, types, hprops, -⟩ := judge_objectNew_ok.1 h
    obtain ⟨prop, hprop, rfl⟩ := List.mem_map.1 hm
    obtain ⟨typed, -, -, hj⟩ := exists_of_mem_right hprops.flip hprop
    exact ⟨env, typed.2, rfl, hj⟩
  | objectGet =>
    obtain ⟨props, ho, -⟩ := judge_objectGet_ok.1 h
    rw [List.mem_singleton.1 hm]
    exact ⟨env, _, rfl, ho⟩
  | unionNew =>
    obtain ⟨_, declared, -, -, -, hs, -⟩ := judge_unionNew_ok.1 h
    obtain ⟨prop, hprop, rfl⟩ := List.mem_map.1 hm
    obtain ⟨_, -, S, hj, -⟩ := hs prop hprop
    exact ⟨env, S, rfl, hj⟩
  | unionGet subject clauses =>
    obtain ⟨variants, first, rest, hf, rfl, -, -, hfirst, hrest⟩ := judge_unionGet_ok.1 h
    obtain ⟨clause, hc, rfl⟩ := Option.map_eq_some_iff.1 (List.getElem?_map ▸ hp)
    have hall : ∀ c ∈ first :: rest, ∃ S, ClauseJudged env subject variants c S :=
      List.forall_mem_cons.2 ⟨⟨T, hfirst⟩, fun c hm => (hrest c hm).imp fun _ hS => hS.1⟩
    obtain ⟨S, props, hl, -, hj⟩ := hall clause (List.mem_of_getElem? hc)
    refine ⟨env.narrow subject clause.1, S, by simp only [partScope?, hc, Option.map_some], ?_⟩
    rw [Env.narrow_eq hf hl]
    exact hj

theorem exists_scope {term old : Term Loc} {p : Position} (h : judge env term = .ok T) (hp : term.at? p = some old) :
    ∃ scope S, scope? env term p = some scope ∧ judge scope old = .ok S := by
  induction p generalizing env term T with
  | nil =>
    cases hp
    exact ⟨env, T, rfl, h⟩
  | cons i rest ih =>
    obtain ⟨part, hpart, hrest⟩ := at?_cons.1 hp
    obtain ⟨inner, S, hinner, hj⟩ := exists_partScope h hpart
    obtain ⟨scope, R, hs, hR⟩ := ih hj hrest
    exact ⟨scope, R, scope?_cons.2 ⟨inner, part, hinner, hpart, hs⟩, hR⟩

/-! ## Loops over a list that fails at one place -/

section

variable {whole other : Term Loc} {name : String} {term part : Term Loc}

theorem judgeArgs_error_at {params : List (String × Ty)} {args others : List (Term Loc)}
    (h : judgeArgs env params args = .ok ()) (hl : params.length = args.length)
    (ht : others.take i = args.take i) (hx : args[i]? = some term) (hy : others[i]? = some part)
    (he : judge env part = .error failure) : judgeArgs env params others = .error failure := by
  rw [judgeArgs_eq] at h ⊢
  obtain ⟨hi, -⟩ := List.getElem?_eq_some_iff.1 hx
  obtain ⟨p, hp⟩ : ∃ p, params[i]? = some p := ⟨_, List.getElem?_eq_getElem (hl ▸ hi)⟩
  refine foldlM_error_of_ok h ?_ (List.getElem?_zip_eq_some.2 ⟨hx, hp⟩ : (args.zip params)[i]? = some (term, p))
    (List.getElem?_zip_eq_some.2 ⟨hy, hp⟩ : (others.zip params)[i]? = some (part, p)) (fun _ _ _ h => h) ?_
  · rw [List.zip_eq_zipWith, List.zip_eq_zipWith, List.take_zipWith, List.take_zipWith, ht]
  · intro _ _ _
    rw [checkArg, he]
    rfl

theorem judgeProps_error_at {props others : List (String × Term Loc)} {types : List (String × Ty)}
    (h : judgeProps env whole [] props = .ok types) (ht : others.take i = props.take i)
    (hx : props[i]? = some (name, term)) (hy : others[i]? = some (name, part))
    (he : judge env part = .error failure) : judgeProps env other [] others = .error failure := by
  rw [judgeProps_eq] at h ⊢
  refine foldlM_error_of_ok h ht hx hy (fun before prop next hn => ?_) fun before next hn => ?_
  · unfold addProp at hn ⊢
    split at hn
    · cases hn
    · rwa [if_neg ‹_›]
  · unfold addProp at hn ⊢
    split at hn
    · cases hn
    · rw [if_neg ‹_›, he]
      rfl

theorem judgeSupplied_error_at {declared : List (String × Ty)} {props others : List (String × Term Loc)} {done : Unit}
    (h : judgeSupplied env whole declared [] props = .ok done) (ht : others.take i = props.take i)
    (hx : props[i]? = some (name, term)) (hy : others[i]? = some (name, part))
    (he : judge env part = .error failure) : judgeSupplied env other declared [] others = .error failure := by
  rw [judgeSupplied_eq] at h ⊢
  obtain ⟨supplied, h, -⟩ := bind_eq_ok.1 h
  refine bind_error_of_error (foldlM_error_of_ok h ht hx hy (fun before prop next hn => ?_) fun before next hn => ?_)
  · unfold checkSupplied at hn ⊢
    split at hn
    · cases hn
    · rw [if_neg ‹_›]
      split at hn
      · cases hn
      · obtain ⟨S, hS, hn⟩ := bind_eq_ok.1 hn
        split at hn
        · exact bind_eq_ok.2 ⟨S, hS, by rw [if_pos ‹_›]; exact hn⟩
        · cases hn
  · unfold checkSupplied at hn ⊢
    split at hn
    · cases hn
    · rw [if_neg ‹_›]
      split at hn
      · cases hn
      · rename_i expected hd
        dsimp only at hd ⊢
        rw [hd, he]
        rfl

theorem judgeClauses_error_at {subject : String} {variants : List (String × List (String × Ty))}
    {clauses others : List (String × Term Loc)} {first : Option Ty} (hf : env.find? subject = some (.union variants))
    (h : judgeClauses env subject variants [] none clauses = .ok first) (ht : others.take i = clauses.take i)
    (hx : clauses[i]? = some (name, term)) (hy : others[i]? = some (name, part))
    (he : judge (env.narrow subject name) part = .error failure) :
    judgeClauses env subject variants [] none others = .error failure := by
  rw [judgeClauses_eq] at h ⊢
  obtain ⟨state, h, -⟩ := bind_eq_ok.1 h
  refine bind_error_of_error (foldlM_error_of_ok h ht hx hy (fun _ _ _ h => h) fun before next hn => ?_)
  unfold checkClause at hn ⊢
  split at hn
  · cases hn
  rename_i props hl
  split at hn
  · cases hn
  dsimp only at hl ⊢
  rw [hl]
  dsimp only
  rw [if_neg ‹_›]
  obtain ⟨narrowed, hm, -⟩ := bind_eq_ok.1 hn
  refine bind_error_of_ok hm ?_
  obtain ⟨-, rfl⟩ := demandDistinct_mkObject.1 hm
  rw [← Env.narrow_eq hf hl, he]
  rfl

end

/-! ## The first failure -/

/-- One step out: the failure of a part is that of the node. -/
theorem judge_withParts_error {term old part : Term Loc} {terms : List (Term Loc)} (h : judge env term = .ok T)
    (hx : term.parts[i]? = some old) (hy : terms[i]? = some part) (hl : terms.length = term.parts.length)
    (ht : terms.take i = term.parts.take i) (hs : partScope? env term i = some inner)
    (he : judge inner part = .error failure) : judge env (term.withParts terms) = .error failure := by
  cases term with
  | bool | number | var => cases hx
  | ite cond thn els =>
    obtain ⟨cond', thn', els', rfl⟩ := List.length_eq_three.1 hl
    obtain ⟨hc, hthn, -⟩ := judge_ite_ok.1 h
    cases hs
    rw [withParts, judge]
    rcases i with _ | _ | _ | i
    · cases hy
      exact bind_error_of_error he
    · cases hy
      cases ht
      exact bind_error_of_ok hc (bind_error_of_error he)
    · cases hy
      cases ht
      exact bind_error_of_ok hc (bind_error_of_ok hthn (bind_error_of_error he))
    · cases hy
  | add left right =>
    obtain ⟨left', right', rfl⟩ := List.length_eq_two.1 hl
    obtain ⟨hleft, -, -⟩ := judge_add_ok.1 h
    cases hs
    rw [withParts, judge]
    rcases i with _ | _ | i
    · cases hy
      exact bind_error_of_error he
    · cases hy
      cases ht
      exact bind_error_of_ok hleft (bind_error_of_ok rfl (bind_error_of_error he))
    · cases hy
  | func params body =>
    obtain ⟨body', rfl⟩ := List.length_eq_one_iff.1 hl
    cases hs
    rw [withParts, judge]
    rcases i with _ | i
    · cases hy
      exact bind_error_of_error he
    · cases hy
  | call callee args =>
    obtain ⟨callee', args', rfl⟩ := List.exists_cons_of_length_eq_add_one hl
    obtain ⟨params, hc, hlen, hargs, -⟩ := judge_call_ok.1 h
    cases hs
    rw [withParts, judge]
    rcases i with _ | i
    · cases hy
      exact bind_error_of_error he
    · rw [parts, List.take_succ_cons, List.take_succ_cons] at ht
      obtain ⟨rfl, htail⟩ := List.cons.inj ht
      refine bind_error_of_ok hc ?_
      -- there are as many arguments as before, so the count does not fail first
      dsimp only
      rw [if_pos (hlen.trans (by simpa [parts] using hl.symm))]
      exact bind_error_of_error (judgeArgs_error_at ((judgeArgs_ok hlen).2 hargs) hlen htail hx hy he)
  | seq body rest =>
    obtain ⟨body', rest', rfl⟩ := List.length_eq_two.1 hl
    obtain ⟨⟨S, hb⟩, -⟩ := judge_seq_ok.1 h
    cases hs
    rw [withParts, judge]
    rcases i with _ | _ | i
    · cases hy
      exact bind_error_of_error he
    · cases hy
      cases ht
      exact bind_error_of_ok hb he
    · cases hy
  | const name init rest =>
    obtain ⟨init', rest', rfl⟩ := List.length_eq_two.1 hl
    obtain ⟨S, hi, -⟩ := judge_const_ok.1 h
    rw [withParts, judge]
    rcases i with _ | _ | i
    · cases hs
      cases hy
      exact bind_error_of_error he
    · simp only [partScope?, hi, Option.some.injEq] at hs
      subst hs
      cases hy
      cases ht
      exact bind_error_of_ok hi he
    · cases hy
  | recFunc name params ret body rest =>
    obtain ⟨body', rest', rfl⟩ := List.length_eq_two.1 hl
    obtain ⟨hd, ⟨S, hb, hsame⟩, -⟩ := judge_recFunc_ok.1 h
    rw [withParts, judge]
    refine bind_error_of_ok (demandDistinct_mkFunc.2 ⟨hd, rfl⟩) ?_
    rcases i with _ | _ | i
    · cases hs
      cases hy
      exact bind_error_of_error he
    · simp only [partScope?, hb, if_pos hsame, Option.some.injEq] at hs
      subst hs
      cases hy
      cases ht
      refine bind_error_of_ok hb ?_
      rw [if_pos hsame]
      exact he
    · cases hy
  | objectNew props =>
    cases hs
    rw [judge] at h
    obtain ⟨types, hprops, -⟩ := bind_eq_ok.1 h
    obtain ⟨prop, hprop, rfl⟩ := Option.map_eq_some_iff.1 (List.getElem?_map ▸ hx)
    rw [withParts, judge]
    exact bind_error_of_error (judgeProps_error_at hprops (renew_take ht) hprop (renew_getElem? hprop hy) he)
  | objectGet object name =>
    obtain ⟨object', rfl⟩ := List.length_eq_one_iff.1 hl
    cases hs
    rw [withParts, judge]
    rcases i with _ | i
    · cases hy
      exact bind_error_of_error he
    · cases hy
  | unionNew label props type =>
    cases hs
    obtain ⟨variants, declared, rfl, hlook, -⟩ := judge_unionNew_ok.1 h
    obtain ⟨prop, hprop, rfl⟩ := Option.map_eq_some_iff.1 (List.getElem?_map ▸ hx)
    rw [judge, hlook] at h
    obtain ⟨_, hsupplied, -⟩ := bind_eq_ok.1 h
    rw [withParts, judge, hlook]
    exact bind_error_of_error (judgeSupplied_error_at hsupplied (renew_take ht) hprop (renew_getElem? hprop hy) he)
  | unionGet subject clauses =>
    obtain ⟨variants, first, rest, hf, -⟩ := judge_unionGet_ok.1 h
    obtain ⟨clause, hclause, rfl⟩ := Option.map_eq_some_iff.1 (List.getElem?_map ▸ hx)
    rw [judge, hf] at h
    obtain ⟨first, hclauses, -⟩ := bind_eq_ok.1 h
    simp only [partScope?, hclause, Option.map_some, Option.some.injEq] at hs
    subst hs
    rw [withParts, judge, hf]
    exact bind_error_of_error
      (judgeClauses_error_at hf hclauses (renew_take ht) hclause (renew_getElem? hclause hy) he)

/-- From a position all the way out. -/
theorem judge_altered {term new other : Term Loc} {p : Position} {scope : Env} (h : judge env term = .ok T)
    (ha : Altered new p term other) (hs : scope? env term p = some scope) (he : judge scope new = .error failure) :
    judge env other = .error failure := by
  induction ha generalizing env T with
  | here =>
    cases hs
    exact he
  | part hx hy hl ht _ ih =>
    obtain ⟨inner, old, hinner, hold, hs⟩ := scope?_cons.1 hs
    rw [hx, Option.some.injEq] at hold
    subst hold
    -- what stood in the part had a type in its scope, so the failure is carried that far by induction
    obtain ⟨inner', S, hinner', hj⟩ := exists_partScope h hx
    rw [hinner, Option.some.injEq] at hinner'
    subst hinner'
    exact judge_withParts_error h hx hy hl ht hinner (ih hj hs)

/-- In a term with a type, a failure put at any position is reported as it is, and what is put at later
positions makes no difference. -/
theorem first_failure_reported {term old : Term Loc} {p : Position} (h : judge env term = .ok T)
    (hp : term.at? p = some old) : ∃ scope, scope? env term p = some scope ∧
      ∀ new failure, judge scope new = .error failure →
        ∀ edits : List (Position × Term Loc), (∀ edit ∈ edits, p.Precedes edit.1) →
          judge env ((term.put p new).putAll edits) = .error failure := by
  obtain ⟨scope, _, hs, -⟩ := exists_scope h hp
  refine ⟨scope, hs, fun new failure he edits hedits => ?_⟩
  exact judge_altered h ((altered_put hp new).putAll hedits) hs he

/-- The constant is a boolean where it is added, and the unknown variable after that is not reached. -/
theorem first_failure_reported_under_const :
    judge .empty (.const "x" (.bool true ()) (.seq (.add (.var "x" ()) (.var "x" ()) ()) (.var "y" ()) ()) ()) =
      .error (.complaint .numberExpected (some (.var "x" ()))) := by
  have h : judge .empty (.const "x" (.bool true ()) (.seq (.var "x" ()) (.var "x" ()) ()) ()) = .ok .boolean := rfl
  have hp : at? (.const "x" (.bool true ()) (.seq (.var "x" ()) (.var "x" ()) ()) ()) [1, 0] = some (.var "x" ()) := rfl
  obtain ⟨scope, hs, hfirst⟩ := first_failure_reported h hp
  obtain rfl : Env.empty.bind "x" .boolean = scope := Option.some.inj hs
  exact hfirst (.add (.var "x" ()) (.var "x" ()) ()) _ rfl [([1, 1], .var "y" ())] (by decide)

end StructuralTyping.Term
