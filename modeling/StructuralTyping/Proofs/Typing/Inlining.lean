/-
A constant can be inlined: where its variable is free, the term it stands for has the same type. On the
way into the rest of the constant two environments are kept, one that binds the variable and one in
which the new term is judged; whatever a node binds is put in front of both.
-/
import StructuralTyping.Proofs.Term.Subst
import StructuralTyping.Proofs.Typing.Dependence

namespace StructuralTyping.Term

variable {Loc : Type} {env own other : Env} {T : Ty}

/-- A recorded failure is never found as a type. -/
theorem isError_of_judge_ok {term : Term Loc} (h : judge env term = .ok T) : T.isError = false := by
  induction term using partsInduction generalizing env T with
  | step term ih =>
    cases term with
    | bool | number =>
      cases h
      rfl
    | ite cond thn => exact ih thn (by simp [parts]) (judge_ite_ok.1 h).2.1
    | add =>
      obtain ⟨-, -, rfl⟩ := judge_add_ok.1 h
      rfl
    | var => exact (judge_var_ok.1 h).2
    | func =>
      obtain ⟨_, -, -, rfl⟩ := judge_func_ok.1 h
      rfl
    | call =>
      obtain ⟨_, -, -, -, he⟩ := judge_call_ok.1 h
      exact he
    | seq body rest => exact ih rest (by simp [parts]) (judge_seq_ok.1 h).2
    | const name init rest =>
      obtain ⟨_, -, hr⟩ := judge_const_ok.1 h
      exact ih rest (by simp [parts]) hr
    | recFunc name params ret body rest => exact ih rest (by simp [parts]) (judge_recFunc_ok.1 h).2.2
    | objectNew =>
      obtain ⟨-, _, -, rfl⟩ := judge_objectNew_ok.1 h
      rfl
    | objectGet =>
      obtain ⟨_, -, -, he⟩ := judge_objectGet_ok.1 h
      exact he
    | unionNew =>
      obtain ⟨_, _, rfl, -, -, -, -, rfl⟩ := judge_unionNew_ok.1 h
      rfl
    | unionGet =>
      obtain ⟨_, clause, _, -, rfl, -, -, ⟨_, -, -, hj⟩, -⟩ := judge_unionGet_ok.1 h
      exact ih clause.2 (by simp [parts]) hj

/-- In `own` the variable has the type that the new term has in `other`, if the variable is there to be
replaced; the other free names are bound alike. -/
structure Inlines (x : String) (new : Term Loc) (S : Ty) (term : Term Loc) (own other : Env) : Prop where
  bound : own.find? x = some S
  judged : x ∈ term.free → judge other new = .ok S
  others : ∀ name ∈ term.free, name ≠ x → own.find? name = other.find? name

section

variable {x : String} {new term sub : Term Loc} {S : Ty} {i : Nat} {f : Env → Env}

/-- A node that binds other names takes nothing away from the new term. -/
theorem Inlines.part (h : Inlines x new S term own other) (hi : Inlinable x new term)
    (hp : term.parts[i]? = some sub) (hf : Env.Layer (term.binders i) f) (hx : x ∉ term.binders i) :
    Inlines x new S sub (f own) (f other) := by
  constructor
  · rw [hf.outside own x hx, h.bound]
  · intro hfree
    have havoid := hi.avoids hp hx hfree
    rw [judge_congr fun name hn => hf.outside other name (havoid name hn)]
    exact h.judged (mem_free_of_part hp hfree hx)
  · intro name hn hne
    by_cases hb : name ∈ term.binders i
    · exact hf.inside own other name hb
    · rw [hf.outside own name hb, hf.outside other name hb]
      exact h.others name (mem_free_of_part hp hn hb) hne

/-- Under a node that binds the variable again nothing is to be replaced. -/
theorem Inlines.shadowed (h : Inlines x new S term own other) (hp : term.parts[i]? = some sub)
    (hf : Env.Layer (term.binders i) f) (hx : x ∈ term.binders i) :
    judge (f own) sub = judge (f other) sub := by
  refine judge_congr fun name hn => ?_
  by_cases hb : name ∈ term.binders i
  · exact hf.inside own other name hb
  · have hne : name ≠ x := fun he => hb (he ▸ hx)
    rw [hf.outside own name hb, hf.outside other name hb]
    exact h.others name (mem_free_of_part hp hn hb) hne

end

theorem forall₂_iff_of_mem {α β : Type} {R Q : α → β → Prop} {xs : List α} {ys : List β}
    (h : ∀ x ∈ xs, ∀ y, R x y ↔ Q x y) : List.Forall₂ R xs ys ↔ List.Forall₂ Q xs ys := by
  induction xs generalizing ys with
  | nil => rw [List.forall₂_nil_left_iff, List.forall₂_nil_left_iff]
  | cons x rest ih =>
    rw [List.forall_mem_cons] at h
    cases ys with
    | nil => simp
    | cons y ys => rw [List.forall₂_cons, List.forall₂_cons, h.1 y, ih h.2]

theorem judge_subst {x : String} {new term : Term Loc} {S : Ty} (h : Inlines x new S term own other)
    (hi : Inlinable x new term) (hS : S.isError = false) :
    judge own term = .ok T ↔ judge other (subst x new term) = .ok T := by
  induction term using partsInduction generalizing own other T with
  | step term ih =>
    replace ih : ∀ i part {f}, term.parts[i]? = some part → Env.Layer (term.binders i) f → ∀ T,
        judge (f own) part = .ok T ↔
          judge (f other) (if x ∈ term.binders i then part else subst x new part) = .ok T := by
      intro i part f hp hf T
      split
      · rw [h.shadowed hp hf ‹_›]
      · exact ih part (List.mem_of_getElem? hp) (h.part hi hp hf ‹_›) (hi.part hp ‹_›)
    have hpart : ∀ i part, term.parts[i]? = some part → term.binders i = [] → ∀ T,
        judge own part = .ok T ↔ judge other (subst x new part) = .ok T := by
      intro i part hp hb T
      have hj := ih i part hp (hb ▸ Env.layer_id) T
      rwa [hb, if_neg List.not_mem_nil] at hj
    cases term with
    | bool | number => exact Iff.rfl
    | ite cond thn els =>
      simp only [subst, judge_ite_ok, hpart 0 cond rfl rfl,
        hpart 1 thn rfl rfl, hpart 2 els rfl rfl]
    | add left right =>
      simp only [subst, judge_add_ok, hpart 0 left rfl rfl,
        hpart 1 right rfl rfl]
    | var name =>
      rw [subst]
      split
      · rename_i hname
        subst hname
        rw [judge_var_ok, h.bound, h.judged (by simp [free]), Option.some.injEq, Except.ok.injEq]
        exact and_iff_left_of_imp fun hT => hT ▸ hS
      · rw [judge_var_ok, judge_var_ok, h.others name (by simp [free]) ‹_›]
    | func params body =>
      simp only [subst, judge_func_ok]
      exact exists_congr fun ret => and_congr_left fun _ => ih 0 body rfl (Env.layer_extend params) ret
    | call callee args =>
      have hargs : ∀ arg ∈ args, ∀ T, judge own arg = .ok T ↔ judge other (subst x new arg) = .ok T := by
        intro arg hm
        obtain ⟨i, hget⟩ := List.getElem?_of_mem hm
        exact hpart (i + 1) arg hget rfl
      simp only [subst, substArgs_eq, judge_call_ok, hpart 0 callee rfl rfl, List.length_map,
        List.forall₂_map_left_iff]
      refine exists_congr fun params => and_congr_right fun _ => and_congr_right fun _ => and_congr_left fun _ => ?_
      exact forall₂_iff_of_mem fun arg hm p => by simp only [hargs arg hm]
    | seq body rest =>
      simp only [subst, judge_seq_ok, hpart 0 body rfl rfl,
        hpart 1 rest rfl rfl]
    | const name init rest =>
      simp only [subst, judge_const_ok, hpart 0 init rfl rfl]
      exact exists_congr fun S => and_congr_right fun _ => ih 1 rest rfl (Env.layer_bind name S) T
    | recFunc name params ret body rest =>
      have hbody := ih 0 body rfl
        ((Env.layer_bind name (.func params ret)).comp (Env.layer_extend params))
      have hrest := ih 1 rest rfl (Env.layer_bind name (.func params ret))
      simp only [subst, judge_recFunc_ok]
      refine and_congr_right fun _ => and_congr ?_ (hrest T)
      exact exists_congr fun S => and_congr_left fun _ => hbody S
    | objectNew props =>
      have hprops : ∀ prop ∈ props, ∀ T, judge own prop.2 = .ok T ↔ judge other (subst x new prop.2) = .ok T := by
        intro prop hm
        obtain ⟨i, hget⟩ := List.getElem?_of_mem hm
        exact hpart i prop.2 (by simp [parts, hget]) rfl
      simp only [subst, substProps_eq, judge_objectNew_ok, Dict.names_mapValues]
      refine and_congr_right fun _ => exists_congr fun types => and_congr_left fun _ => ?_
      rw [Dict.mapValues, List.forall₂_map_left_iff]
      exact forall₂_iff_of_mem fun prop hm typed => and_congr_right fun _ => hprops prop hm typed.2
    | objectGet object name =>
      simp only [subst, judge_objectGet_ok, hpart 0 object rfl rfl]
    | unionNew label props type =>
      have hprops : ∀ prop ∈ props, ∀ T, judge own prop.2 = .ok T ↔ judge other (subst x new prop.2) = .ok T := by
        intro prop hm
        obtain ⟨i, hget⟩ := List.getElem?_of_mem hm
        exact hpart i prop.2 (by simp [parts, hget]) rfl
      have hsupplied : ∀ declared, (∀ p ∈ props, SuppliedOk own declared p) ↔
          ∀ p ∈ Dict.mapValues (subst x new) props, SuppliedOk other declared p := by
        intro declared
        rw [Dict.mapValues, List.forall_mem_map]
        exact forall₂_congr fun prop hm => by simp only [SuppliedOk, hprops prop hm]
      simp only [subst, substProps_eq, judge_unionNew_ok, Dict.names_mapValues, hsupplied]
    | unionGet subject clauses =>
      have hne : subject ≠ x := by
        rintro rfl
        exact absurd (hi.subject [] clauses _ rfl) List.not_mem_nil
      have hclause : ∀ variants, ∀ clause ∈ clauses, ∀ T, ClauseJudged own subject variants clause T ↔
          ClauseJudged other subject variants (clause.1, subst x new clause.2) T := by
        intro variants clause hm T
        obtain ⟨i, hget⟩ := List.getElem?_of_mem hm
        refine exists_congr fun props => and_congr_right fun _ => and_congr_right fun _ => ?_
        have hj := ih i clause.2 (by simp [parts, hget]) (Env.layer_bind subject (.object props)) T
        rwa [if_neg (by simpa [binders] using hne.symm)] at hj
      rw [subst, if_neg (by simpa using hne.symm), substProps_eq, judge_unionGet_ok, judge_unionGet_ok,
        h.others subject (by simp [free]) hne, Dict.names_mapValues]
      cases clauses with
      | nil => simp [Dict.mapValues]
      | cons first rest =>
        refine exists_congr fun variants => ?_
        obtain ⟨hfirst, hrest⟩ := List.forall_mem_cons.1 (hclause variants)
        have hothers : (∀ c ∈ rest, ∃ S, ClauseJudged own subject variants c S ∧ Ty.Same S T) ↔
            ∀ c ∈ Dict.mapValues (subst x new) rest,
              ∃ S, ClauseJudged other subject variants c S ∧ Ty.Same S T := by
          rw [Dict.mapValues, List.forall_mem_map]
          exact forall₂_congr fun c hc => by simp only [hrest c hc]
        simp only [Dict.mapValues, List.map_cons, List.cons.injEq, List.length_cons, List.length_map] at hothers ⊢
        constructor
        · rintro ⟨_, _, hf, ⟨rfl, rfl⟩, hd, hl, hj, hall⟩
          exact ⟨_, _, hf, ⟨rfl, rfl⟩, hd, hl, (hfirst T).1 hj, hothers.1 hall⟩
        · rintro ⟨_, _, hf, ⟨rfl, rfl⟩, hd, hl, hj, hall⟩
          exact ⟨_, _, hf, ⟨rfl, rfl⟩, hd, hl, (hfirst T).2 hj, hothers.2 hall⟩

/-- A constant has the type of its rest with the constant inlined. -/
theorem const_inlined {x : String} {init rest : Term Loc} {loc : Loc} {S : Ty} (h : judge env init = .ok S)
    (hrest : Inlinable x init rest) (T : Ty) :
    judge env (.const x init rest loc) = .ok T ↔ judge env (subst x init rest) = .ok T := by
  have hinlines : Inlines x init S rest (env.bind x S) env := by
    constructor
    · simp
    · exact fun _ => h
    · intro name _ hne
      rw [Env.find?_bind, if_neg hne]
  rw [judge_const_ok, ← judge_subst hinlines hrest (isError_of_judge_ok h)]
  simp [h]

/-- A boolean that is taken under the binder of a number. -/
theorem const_inlined_under_func :
    judge (Env.empty.bind "dark" .boolean)
      (.func [("size", .number)] (.ite (.var "dark" ()) (.var "size" ()) (.number (.int 0) ()) ()) ()) =
        .ok (.func [("size", .number)] .number) := by
  have hrest : Inlinable "flag" (.var "dark" ())
      (.func [("size", .number)] (.ite (.var "flag" ()) (.var "size" ()) (.number (.int 0) ()) ()) ()) := by
    -- the positions of the rest, one by one
    constructor
    · intro p clauses loc hp
      rcases p with _ | ⟨_ | i, _ | ⟨_ | _ | _ | j, _ | ⟨k, p⟩⟩⟩ <;> cases hp
    · intro p loc hp _ name hn
      obtain rfl := List.mem_singleton.1 hn
      rcases p with _ | ⟨_ | i, _ | ⟨_ | _ | _ | j, _ | ⟨k, p⟩⟩⟩ <;> simp [at?, parts] at hp
      decide
  have hinit : judge (Env.empty.bind "dark" .boolean) (.var "dark" ()) = .ok .boolean := rfl
  exact (@const_inlined _ _ _ _ _ () _ hinit hrest _).1 rfl

end StructuralTyping.Term
