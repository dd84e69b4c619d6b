/-
Two judgments of one term, side by side, in environments that bind related types to the names that are
free in the term. If the relation keeps the shape of types and what equality says about them, the two
judgments take the same way: they find related types, or they fail with one and the same failure.
Equality of types, as such and up to structure, are relations of this kind.
-/
import StructuralTyping.Proofs.Term.Free
import StructuralTyping.Proofs.Typing.Success

namespace StructuralTyping

/-! ## Relations between types that judging keeps -/

namespace Ty

/-- Two variants of one label: their properties are related, and so are the objects they make, if names
are distinct. -/
structure SameVariant (R : Ty → Ty → Prop) (props props' : List (String × Ty)) : Prop where
  declared : Dict.Agree R props props'
  narrowed : Alike R (mkObject props) (mkObject props')

/-- Types of one kind, made of related types. -/
inductive SameShape (R : Ty → Ty → Prop) : Ty → Ty → Prop where
  | boolean : SameShape R .boolean .boolean
  | number : SameShape R .number .number
  | func {params params' ret ret'} : List.Forall₂ (fun p q => R p.2 q.2) params params' → R ret ret' →
      SameShape R (.func params ret) (.func params' ret')
  | object {props props'} : Dict.Agree R props props' → SameShape R (.object props) (.object props')
  | union {variants variants' : List (String × List (String × Ty))} : variants.length = variants'.length →
      Dict.Agree (SameVariant R) variants variants' → SameShape R (.union variants) (.union variants')
  | error {nature} : SameShape R (.error nature) (.error nature)

/-- A relation that judging does not leave: related types have one shape and are treated alike by
equality, and what judging makes of related types is related. -/
structure Congruence (R : Ty → Ty → Prop) : Prop where
  boolean : R .boolean .boolean
  number : R .number .number
  func : ∀ {params ret ret'}, (Dict.names params).Nodup → (∀ p ∈ params, R p.2 p.2) → R ret ret' →
    R (.func params ret) (.func params ret')
  object : ∀ {props props'}, (Dict.names props).Nodup →
    List.Forall₂ (fun p q => p.1 = q.1 ∧ R p.2 q.2) props props' → R (.object props) (.object props')
  shape : ∀ {S T}, R S T → SameShape R S T
  equal : ∀ {A A' B B'}, R A A' → R B B' → A.equal B = A'.equal B'

/-- Equality as such. -/
theorem congruence_eq : Congruence Eq where
  boolean := rfl
  number := rfl
  func := by
    rintro _ _ _ - - rfl
    rfl
  object := by
    intro props props' _ h
    rw [(List.forall₂_eq_eq_eq ▸ h.imp fun _ _ hpq => Prod.ext hpq.1 hpq.2 : props = props')]
  shape := by
    rintro S _ rfl
    have hrefl : ∀ {α : Type} (x : Option α), Option.Rel Eq x x := fun x => by
      cases x with
      | none => exact .none
      | some => exact .some rfl
    cases S with
    | boolean => exact .boolean
    | number => exact .number
    | func params ret => exact .func (List.forall₂_same.2 fun _ _ => rfl) rfl
    | object props => exact .object fun name => hrefl _
    | union variants =>
      refine .union rfl fun label => ?_
      cases variants.lookup label with
      | none => exact .none
      | some props => exact .some ⟨fun name => hrefl _, Alike.refl _⟩
    | error nature => exact .error
  equal := by
    rintro _ _ _ _ rfl rfl
    rfl

/-- Clean types that are the same structure. -/
structure Interchangeable (S T : Ty) : Prop where
  own : S.Clean
  other : T.Clean
  same : Same S T

theorem Clean.interchangeable {T : Ty} (h : T.Clean) : Interchangeable T T := ⟨h, h, h.same_refl⟩

section

variable {S T U : Ty}

/-- What is equal to something is free of errors, on either side. -/
theorem Same.interchangeable (hs : Same S T) (hS : S.WellFormed) (hT : T.WellFormed) : Interchangeable S T :=
  have hfree := hs.errorFree hS hT
  ⟨⟨hS, hfree.1⟩, ⟨hT, hfree.2⟩, hs⟩

theorem Interchangeable.symm (h : Interchangeable S T) : Interchangeable T S :=
  ⟨h.other, h.own, h.same.symm h.own.1 h.other.1⟩

theorem Interchangeable.trans (h : Interchangeable S T) (h' : Interchangeable T U) : Interchangeable S U :=
  ⟨h.own, h'.other, h.same.trans h.own.1 h.other.1 h'.other.1 h'.same⟩

/-- Interchangeable types are equal to the same types. -/
theorem Interchangeable.same_iff {S' T' : Ty} (hS : Interchangeable S S') (hT : Interchangeable T T') :
    Same S T ↔ Same S' T' := by
  constructor
  · intro h
    exact (hS.symm.trans (Interchangeable.trans ⟨hS.own, hT.own, h⟩ hT)).same
  · intro h
    exact (hS.trans (Interchangeable.trans ⟨hS.other, hT.other, h⟩ hT.symm)).same

end

theorem forall₂_interchangeable {params params' : List (String × Ty)} (ho : Dict.Proper Clean params)
    (he : Dict.Proper Clean params') (h : List.Forall₂ (fun p q => Same p.2 q.2) params params') :
    List.Forall₂ (fun p q => Interchangeable p.2 q.2) params params' := by
  induction h with
  | nil => exact .nil
  | cons hpq _ ih =>
    refine .cons ⟨ho.values _ List.mem_cons_self, he.values _ List.mem_cons_self, hpq⟩ (ih ho.tail he.tail)

theorem agree_interchangeable {props props' : List (String × Ty)} (ho : Dict.Proper Clean props)
    (he : Dict.Proper Clean props') (h : Dict.Agree Same props props') :
    Dict.Agree Interchangeable props props' := by
  intro name
  cases hl : props.lookup name with
  | none =>
    have hn := (h.mem_names_iff name).not.1 (Dict.lookup_eq_none.1 hl)
    rw [Dict.lookup_eq_none.2 hn]
    exact .none
  | some S =>
    obtain ⟨T, hT, hs⟩ := h.of_own hl
    rw [hT]
    exact .some ⟨ho.of_lookup hl, he.of_lookup hT, hs⟩

theorem Interchangeable.sameShape {S T : Ty} (h : Interchangeable S T) : SameShape Interchangeable S T := by
  obtain ⟨hS, hT, hs⟩ := h
  cases T with
  | boolean =>
    rw [same_boolean.1 hs]
    exact .boolean
  | number =>
    rw [same_number.1 hs]
    exact .number
  | func params ret =>
    obtain ⟨own, ownRet, rfl, hp, hr⟩ := same_func.1 hs
    obtain ⟨hown, hownRet⟩ := clean_func.1 hS
    obtain ⟨hparams, hret⟩ := clean_func.1 hT
    exact .func (forall₂_interchangeable hown hparams hp) ⟨hownRet, hret, hr⟩
  | object props =>
    obtain ⟨own, rfl, hp⟩ := (same_object hS.1 hT.1).1 hs
    exact .object (agree_interchangeable (clean_object.1 hS) (clean_object.1 hT) hp)
  | union variants =>
    obtain ⟨own, rfl, hv⟩ := (same_union hS.1 hT.1).1 hs
    have hown := clean_union.1 hS
    have hvariants := clean_union.1 hT
    refine .union (hv.length_eq hown.nodup hvariants.nodup) fun label => ?_
    cases hl : own.lookup label with
    | none =>
      have hn := (hv.mem_names_iff label).not.1 (Dict.lookup_eq_none.1 hl)
      rw [Dict.lookup_eq_none.2 hn]
      exact .none
    | some props =>
      obtain ⟨props', hl', hp⟩ := hv.of_own hl
      have ho := hown.of_lookup hl
      have he := hvariants.of_lookup hl'
      rw [hl']
      refine .some ⟨agree_interchangeable ho he hp, ?_⟩
      rw [mkObject, mkObject, requireDistinct_eq_ok.2 ho.nodup, requireDistinct_eq_ok.2 he.nodup]
      refine .ok ⟨clean_object.2 ho, clean_object.2 he, ?_⟩
      exact (same_object_object ho.nodup he.nodup).2 hp
  | error nature => exact absurd hT (not_clean_error nature)

/-- Equality up to structure, of clean types. -/
theorem congruence_interchangeable : Congruence Interchangeable where
  boolean := clean_boolean.interchangeable
  number := clean_number.interchangeable
  func := by
    intro params ret ret' hd hp hr
    have hparams : Dict.Proper Clean params := ⟨hd, fun p hm => (hp p hm).own⟩
    refine ⟨clean_func.2 ⟨hparams, hr.own⟩, clean_func.2 ⟨hparams, hr.other⟩, ?_⟩
    exact same_func_func.2 ⟨List.forall₂_same.2 fun p hm => (hp p hm).same, hr.same⟩
  object := by
    intro props props' hd h
    have hd' : (Dict.names props').Nodup := Dict.names_eq_of_forall₂ h ▸ hd
    have hown : Dict.Proper Clean props := by
      refine ⟨hd, fun p hm => ?_⟩
      obtain ⟨q, -, hpq⟩ := Term.exists_of_mem_right h.flip hm
      exact hpq.2.own
    have hother : Dict.Proper Clean props' := by
      refine ⟨hd', fun q hm => ?_⟩
      obtain ⟨p, -, hpq⟩ := Term.exists_of_mem_right h hm
      exact hpq.2.other
    refine ⟨clean_object.2 hown, clean_object.2 hother, (same_object_object hd hd').2 ?_⟩
    exact Dict.agree_of_forall₂ (h.imp fun _ _ hpq => ⟨hpq.1, hpq.2.same⟩)
  shape := Interchangeable.sameShape
  equal := fun hA hB => Bool.eq_iff_iff.2 (hA.same_iff hB)

end Ty

section

variable {Loc : Type} {R : Ty → Ty → Prop}

theorem Ty.Congruence.judged (hR : Ty.Congruence R) {S T : Ty} (h : R S T) :
    Alike R (S.judged : Judgment Loc Ty) T.judged := by
  cases hR.shape h with
  | error => exact .error
  | _ => exact .ok h

theorem alike_demandDistinct {α β : Type} {Q : α → β → Prop} {x : Except RepeatedNames α}
    {y : Except RepeatedNames β} (h : Alike Q x y) :
    Alike Q (demandDistinct x : Judgment Loc α) (demandDistinct y) := by
  cases h with
  | ok hr => exact .ok hr
  | error => exact .error

theorem alike_mkFunc (hR : Ty.Congruence R) {params : List (String × Ty)} {ret ret' : Ty}
    (hp : ∀ p ∈ params, R p.2 p.2) (hr : R ret ret') : Alike R (Ty.mkFunc params ret) (Ty.mkFunc params ret') := by
  by_cases hd : (Dict.names params).Nodup
  · rw [Ty.mkFunc, Ty.mkFunc, Ty.requireDistinct_eq_ok.2 hd]
    exact .ok (hR.func hd hp hr)
  · rw [Ty.mkFunc, Ty.mkFunc, Ty.requireDistinct, if_neg hd]
    exact .error

theorem alike_mkObject (hR : Ty.Congruence R) {props props' : List (String × Ty)}
    (h : List.Forall₂ (fun p q => p.1 = q.1 ∧ R p.2 q.2) props props') :
    Alike R (Ty.mkObject props) (Ty.mkObject props') := by
  have hn := Dict.names_eq_of_forall₂ h
  by_cases hd : (Dict.names props).Nodup
  · rw [Ty.mkObject, Ty.mkObject, Ty.requireDistinct_eq_ok.2 hd, Ty.requireDistinct_eq_ok.2 (hn ▸ hd)]
    exact .ok (hR.object hd h)
  · rw [Ty.mkObject, Ty.mkObject, Ty.requireDistinct, Ty.requireDistinct, ← hn, if_neg hd]
    exact .error

theorem alike_requireNumber (hR : Ty.Congruence R) (operand : Term Loc) {S T : Ty} (h : R S T) :
    Alike Eq (requireNumber operand S) (requireNumber operand T) := by
  cases hR.shape h with
  | number => exact .ok rfl
  | _ => exact .error

end

namespace Term

variable {Loc : Type} {R : Ty → Ty → Prop} {own other : Env}

/-! ## The loops -/

theorem alike_judgeArgs (hR : Ty.Congruence R) {params params' : List (String × Ty)} {args : List (Term Loc)}
    (hp : List.Forall₂ (fun p q => R p.2 q.2) params params')
    (hargs : ∀ arg ∈ args, Alike R (judge own arg) (judge other arg)) :
    Alike Eq (judgeArgs own params args) (judgeArgs other params' args) := by
  induction args generalizing params params' with
  | nil => exact .ok rfl
  | cons arg rest ih =>
    rw [List.forall_mem_cons] at hargs
    cases hp with
    | nil => exact .ok rfl
    | cons hpq hp =>
      rw [judgeArgs, judgeArgs]
      refine hargs.1.bind fun S T hST => ?_
      rw [hR.equal hST hpq]
      split
      · exact ih hp hargs.2
      · exact .error

theorem alike_judgeProps {whole : Term Loc} {done done' : List (String × Ty)} {props : List (String × Term Loc)}
    (hd : List.Forall₂ (fun p q => p.1 = q.1 ∧ R p.2 q.2) done done')
    (hprops : ∀ prop ∈ props, Alike R (judge own prop.2) (judge other prop.2)) :
    Alike (List.Forall₂ fun p q => p.1 = q.1 ∧ R p.2 q.2) (judgeProps own whole done props)
      (judgeProps other whole done' props) := by
  induction props generalizing done done' with
  | nil => exact .ok hd
  | cons prop rest ih =>
    rw [List.forall_mem_cons] at hprops
    rw [judgeProps, judgeProps, Dict.names_eq_of_forall₂ hd]
    split
    · exact .error
    · refine hprops.1.bind fun S T hST => ih ?_ hprops.2
      exact List.rel_append hd (.cons ⟨rfl, hST⟩ .nil)

theorem alike_judgeSupplied (hR : Ty.Congruence R) {whole : Term Loc} {declared : List (String × Ty)}
    {supplied : List String} {props : List (String × Term Loc)} (hd : Dict.Agree R declared declared)
    (hprops : ∀ prop ∈ props, Alike R (judge own prop.2) (judge other prop.2)) :
    Alike Eq (judgeSupplied own whole declared supplied props)
      (judgeSupplied other whole declared supplied props) := by
  induction props generalizing supplied with
  | nil => exact .ok rfl
  | cons prop rest ih =>
    rw [List.forall_mem_cons] at hprops
    rw [judgeSupplied, judgeSupplied]
    split
    · exact .error
    · cases hl : declared.lookup prop.1 with
      | none => exact .error
      | some expected =>
        obtain ⟨_, he, hexpected⟩ := hd.of_own hl
        obtain rfl := Option.some.inj (hl.symm.trans he)
        refine hprops.1.bind fun S T hST => ?_
        rw [hR.equal hST hexpected]
        split
        · exact ih hprops.2
        · exact .error

theorem alike_judgeClauses (hR : Ty.Congruence R) {subject : String}
    {variants variants' : List (String × List (String × Ty))} {seen : List String} {first first' : Option Ty}
    {clauses : List (String × Term Loc)}
    (hv : Dict.Agree (Ty.SameVariant R) variants variants') (hfirst : Option.Rel R first first')
    (hclauses : ∀ clause ∈ clauses, ∀ S T, R S T →
      Alike R (judge (own.bind subject S) clause.2) (judge (other.bind subject T) clause.2)) :
    Alike (Option.Rel R) (judgeClauses own subject variants seen first clauses)
      (judgeClauses other subject variants' seen first' clauses) := by
  induction clauses generalizing seen first first' with
  | nil => exact .ok hfirst
  | cons clause rest ih =>
    rw [List.forall_mem_cons] at hclauses
    rw [judgeClauses, judgeClauses]
    have hl := hv clause.1
    generalize variants.lookup clause.1 = props at hl
    generalize variants'.lookup clause.1 = props' at hl
    cases hl with
    | none => exact .error
    | some hprops =>
      dsimp only
      split
      · exact .error
      · refine (alike_demandDistinct hprops.narrowed).bind fun S T hST => ?_
        refine (hclauses.1 S T hST).bind fun A B hAB => ?_
        cases hfirst with
        | none => exact ih (.some hAB) hclauses.2
        | some hseed =>
          dsimp only
          rw [hR.equal hAB hseed]
          split
          · exact ih (.some hseed) hclauses.2
          · exact .error

/-! ## Terms -/

/-- Judgments of a term in environments that are related on its free names take the same way. -/
theorem alike_judge (hR : Ty.Congruence R) {term : Term Loc} (henv : Env.RelOn R (· ∈ term.free) own other)
    (hterm : term.Written fun type => R type type) : Alike R (judge own term) (judge other term) := by
  induction term using partsInduction generalizing own other with
  | step term ih =>
    have hw := hterm.here
    -- the names free in a part are those free in the node and those the node binds for it
    have hfree : ∀ i {part name}, term.parts[i]? = some part → name ∈ part.free → name ∉ term.binders i →
        name ∈ term.free := fun _ => mem_free_of_part
    replace ih : ∀ i {part own other}, term.parts[i]? = some part → Env.RelOn R (· ∈ part.free) own other →
        Alike R (judge own part) (judge other part) := fun _ _ _ _ hp hrel =>
      have hm := List.mem_of_getElem? hp
      ih _ hm hrel (hterm.part hm)
    have hpart : ∀ i {part}, term.parts[i]? = some part → term.binders i = [] →
        Alike R (judge own part) (judge other part) := fun i _ hp hb =>
      ih i hp (henv.mono fun _ h => hfree i hp h (hb ▸ List.not_mem_nil))
    cases term with
    | bool => exact .ok hR.boolean
    | number => exact .ok hR.number
    | ite cond thn els =>
      rw [judge, judge]
      refine (hpart 0 rfl rfl).bind fun C C' hC => ?_
      cases hR.shape hC with
      | boolean =>
        refine (hpart 1 rfl rfl).bind fun A A' hA => (hpart 2 rfl rfl).bind fun B B' hB => ?_
        rw [hR.equal hA hB]
        split
        · exact .ok hA
        · exact .error
      | _ => exact .error
    | add left right =>
      rw [judge, judge]
      refine (hpart 0 rfl rfl).bind fun A A' hA => (alike_requireNumber hR left hA).bind fun _ _ _ => ?_
      refine (hpart 1 rfl rfl).bind fun B B' hB => (alike_requireNumber hR right hB).bind fun _ _ _ => ?_
      exact .ok hR.number
    | var name =>
      have hf := henv name (by simp [free])
      rw [judge, judge]
      generalize own.find? name = S at hf
      generalize other.find? name = T at hf
      cases hf with
      | none => exact .error
      | some hST => exact hR.judged hST
    | func params body =>
      have hparams : ∀ p ∈ params, R p.2 p.2 := fun p hp => hw p.2 (List.mem_map_of_mem hp)
      rw [judge, judge]
      refine (ih 0 rfl ?_).bind fun ret ret' hret => alike_demandDistinct (alike_mkFunc hR hparams hret)
      exact henv.extend hparams fun name hm hn => hfree 0 rfl hm hn
    | call callee args =>
      have hargs : ∀ arg ∈ args, Alike R (judge own arg) (judge other arg) := by
        intro arg hm
        obtain ⟨i, hi⟩ := List.getElem?_of_mem hm
        exact hpart (i + 1) hi rfl
      rw [judge, judge]
      refine (hpart 0 rfl rfl).bind fun F F' hF => ?_
      cases hR.shape hF with
      | func hp hr =>
        dsimp only
        rw [hp.length_eq]
        split
        · exact (alike_judgeArgs hR hp hargs).bind fun _ _ _ => hR.judged hr
        · exact .error
      | _ => exact .error
    | seq body rest =>
      rw [judge, judge]
      exact (hpart 0 rfl rfl).bind fun _ _ _ => hpart 1 rfl rfl
    | const name init rest =>
      rw [judge, judge]
      refine (hpart 0 rfl rfl).bind fun S T hST => ih 1 rfl (henv.bind hST fun key hm hn => ?_)
      exact hfree 1 rfl hm (by simpa [binders] using hn)
    | recFunc name params ret body rest =>
      have hparams : ∀ p ∈ params, R p.2 p.2 := fun p hp =>
        hw p.2 (List.mem_cons_of_mem _ (List.mem_map_of_mem hp))
      have hret : R ret ret := hw ret List.mem_cons_self
      rw [judge, judge]
      refine (alike_demandDistinct (alike_mkFunc hR hparams hret)).bind fun S T hST => ?_
      have hbody : Env.RelOn R (· ∈ body.free) ((own.extend params).bind name S)
          ((other.extend params).bind name T) := by
        -- between the two layers the function's name is still looked up outside
        refine Env.RelOn.bind (N := fun key => key ∈ body.free ∧ key ≠ name) ?_ hST fun key hm hn => ⟨hm, hn⟩
        refine henv.extend hparams fun key hm hn => hfree 0 rfl hm.1 ?_
        simp [binders, hm.2, hn]
      refine (ih 0 rfl hbody).bind fun A A' hA => ?_
      rw [hR.equal hA hret]
      split
      · refine ih 1 rfl (henv.bind hST fun key hm hn => ?_)
        exact hfree 1 rfl hm (by simpa [binders] using hn)
      · exact .error
    | objectNew props =>
      rw [judge, judge]
      refine (alike_judgeProps .nil fun prop hm => ?_).bind fun types types' ht =>
        alike_demandDistinct (alike_mkObject hR ht)
      obtain ⟨i, hi⟩ := List.getElem?_of_mem hm
      exact hpart i (by simp [parts, hi]) rfl
    | objectGet object name =>
      rw [judge, judge]
      refine (hpart 0 rfl rfl).bind fun O O' hO => ?_
      cases hR.shape hO with
      | @object props props' hp =>
        have hl := hp name
        dsimp only
        generalize props.lookup name = S at hl
        generalize props'.lookup name = T at hl
        cases hl with
        | none => exact .error
        | some hST => exact hR.judged hST
      | _ => exact .error
    | unionNew label props type =>
      have hshape := hR.shape (hw type List.mem_cons_self)
      cases type with
      | union variants =>
        cases hshape with
        | union _ hv =>
          rw [judge, judge]
          cases hl : variants.lookup label with
          | none => exact .error
          | some declared =>
            obtain ⟨_, hl', hdeclared⟩ := hv.of_own hl
            obtain rfl := Option.some.inj (hl.symm.trans hl')
            refine (alike_judgeSupplied hR hdeclared.declared fun prop hm => ?_).bind fun _ _ _ => ?_
            · obtain ⟨i, hi⟩ := List.getElem?_of_mem hm
              exact hpart i (by simp [parts, hi]) rfl
            · split
              · exact .error
              · exact .ok (hw _ List.mem_cons_self)
      | _ => exact .error
    | unionGet subject clauses =>
      have hf := henv subject (by simp [free])
      rw [judge, judge]
      generalize own.find? subject = S at hf
      generalize other.find? subject = T at hf
      cases hf with
      | none => exact .error
      | some hST =>
        cases hR.shape hST with
        | union hlen hv =>
          dsimp only
          refine (alike_judgeClauses hR hv .none fun clause hm A B hAB => ?_).bind fun first first' hfirst => ?_
          · obtain ⟨i, hi⟩ := List.getElem?_of_mem hm
            refine ih i (by simp [parts, hi]) (henv.bind hAB fun key hk hn => ?_)
            exact hfree i (by simp [parts, hi]) hk (by simpa [binders] using hn)
          · rw [hlen]
            split
            · cases hfirst with
              | none => exact .error
              | some h => exact .ok h
            · exact .error
        | _ => exact .error

end Term

end StructuralTyping
