/-
The names of what a term binds do not matter. Two terms that are the same up to names are judged side by
side, in environments that bind equal types to the names that mean the same: the judgments take the same
way, and where one blames a node the other blames the node at the same position. Main statement: when a
binder and all that it binds are renamed, the type is the same up to equality, and so is the complaint up
to the name that it shows.
-/
import StructuralTyping.Proofs.Term.Renaming
import StructuralTyping.Proofs.Typing.Parallel

namespace StructuralTyping

variable {Loc : Type}

/-! ## Environments and names that mean the same -/

/-- Names that mean the same are bound to equal types or not at all, and one that has another name on the
other side is bound. -/
def Env.Paired (ρ : Term.Pairing) (own other : Env) : Prop :=
  ∀ name name', ρ name name' → Option.Rel Ty.Interchangeable (own.find? name) (other.find? name') ∧
    (name ≠ name' → own.contains name = true)

section

variable {ρ : Term.Pairing} {own other : Env} {name name' : String}

theorem Env.Clean.paired {env : Env} (h : env.Clean) : env.Paired Eq env := by
  rintro name _ rfl
  refine ⟨?_, fun hne => absurd rfl hne⟩
  cases hf : env.find? name with
  | none => exact .none
  | some type => exact .some (h name type hf).interchangeable

/-- Names that mean the same are bound to types that can be exchanged, or they are one name that is not bound. -/
theorem Env.Paired.resolved (h : own.Paired ρ other) (hρ : ρ name name') :
    (name = name' ∧ own.find? name = none ∧ other.find? name' = none) ∨
      ∃ S T, own.find? name = some S ∧ other.find? name' = some T ∧ Ty.Interchangeable S T := by
  obtain ⟨hrel, hbound⟩ := h name name' hρ
  cases hown : own.find? name with
  | none =>
    have hname : name = name' := by
      by_contra hne
      simpa [contains, hown] using hbound hne
    rw [hown] at hrel
    generalize other.find? name' = found at hrel
    cases hrel
    exact .inl ⟨hname, rfl, rfl⟩
  | some S =>
    rw [hown] at hrel
    obtain ⟨T, hother, hST⟩ := Dict.rel_some_eq hrel
    exact .inr ⟨S, T, rfl, hother, hST⟩

theorem Env.Paired.bind (h : own.Paired ρ other) {S T : Ty} (hST : Ty.Interchangeable S T) (x y : String) :
    (own.bind x S).Paired (ρ.extend [x] [y]) (other.bind y T) := by
  rintro name name' (hm | ⟨hx, hy, hρ⟩)
  · obtain ⟨rfl, rfl⟩ := Prod.mk.inj (List.mem_singleton.1 hm)
    rw [find?_bind, find?_bind, if_pos rfl, if_pos rfl]
    exact ⟨.some hST, fun _ => contains_bind.2 (.inl rfl)⟩
  · obtain ⟨hrel, hbound⟩ := h name name' hρ
    rw [find?_bind, find?_bind, if_neg (List.mem_singleton.not.1 hx), if_neg (List.mem_singleton.not.1 hy)]
    exact ⟨hrel, fun hne => contains_bind.2 (.inr (hbound hne))⟩

/-- Parameters in one place have one type. -/
theorem Dict.exists_of_mem_zip {α : Type} {entries others : List (String × α)}
    (h : entries.map Prod.snd = others.map Prod.snd) (hm : (name, name') ∈ (names entries).zip (names others)) :
    ∃ value, (name, value) ∈ entries ∧ (name', value) ∈ others := by
  obtain ⟨i, hi⟩ := List.mem_iff_getElem?.1 hm
  obtain ⟨hown, hother⟩ := List.getElem?_zip_eq_some.1 hi
  rw [names, List.getElem?_map, Option.map_eq_some_iff] at hown hother
  obtain ⟨⟨_, value⟩, he, rfl⟩ := hown
  obtain ⟨⟨_, value'⟩, he', rfl⟩ := hother
  have hv := congrArg (·[i]?) h
  simp only [List.getElem?_map, he, he', Option.map_some, Option.some.injEq] at hv
  subst hv
  exact ⟨value, List.mem_of_getElem? he, List.mem_of_getElem? he'⟩

theorem Env.Paired.extend (h : own.Paired ρ other) {params params' : List (String × Ty)}
    (hparams : Dict.Proper Ty.Clean params) (ht : params.map Prod.snd = params'.map Prod.snd)
    (hd : (Dict.names params').Nodup) :
    (own.extend params).Paired (ρ.extend (Dict.names params) (Dict.names params')) (other.extend params') := by
  rintro name name' (hm | ⟨hx, hy, hρ⟩)
  · obtain ⟨type, hown, hother⟩ := Dict.exists_of_mem_zip ht hm
    rw [find?_extend_of_mem hparams.nodup hown, find?_extend_of_mem hd hother]
    exact ⟨.some (hparams.values _ hown).interchangeable, fun _ => contains_extend.2 (.inl (Dict.mem_names hown))⟩
  · obtain ⟨hrel, hbound⟩ := h name name' hρ
    rw [find?_extend_of_notMem hx, find?_extend_of_notMem hy]
    exact ⟨hrel, fun hne => contains_extend.2 (.inr (hbound hne))⟩

end

theorem Ty.interchangeable_func_of_types {params params' : List (String × Ty)} {ret ret' : Ty}
    (hp : Dict.Proper Clean params) (ht : params.map Prod.snd = params'.map Prod.snd)
    (hd : (Dict.names params').Nodup) (hr : Interchangeable ret ret') :
    Interchangeable (.func params ret) (.func params' ret') := by
  have htypes : List.Forall₂ (fun p q => p.2 = q.2) params params' := by
    rwa [← List.forall₂_map_right_iff (f := Prod.snd), ← List.forall₂_map_left_iff, List.forall₂_eq_eq_eq]
  have hclean : ∀ q ∈ params', q.2.Clean := by
    intro q hq
    obtain ⟨p, hm, he⟩ := Term.exists_of_mem_right htypes hq
    exact he ▸ hp.values p hm
  refine ⟨clean_func.2 ⟨hp, hr.own⟩, clean_func.2 ⟨⟨hd, hclean⟩, hr.other⟩, ?_⟩
  refine same_func_func.2 ⟨?_, hr.same⟩
  exact List.forall₂_iff_get.2 ⟨htypes.length_eq, fun i hi hi' => by
    have he := htypes.get hi hi'
    rw [← he]
    exact (hp.values _ (List.get_mem ..)).same_refl⟩

theorem Ty.Interchangeable.equal_eq {A A' B B' : Ty} (hA : Interchangeable A A') (hB : Interchangeable B B') :
    A.equal B = A'.equal B' :=
  congruence_interchangeable.equal hA hB

/-! ## Judgments side by side -/

/-- The same violation, up to the name of a subject. -/
inductive Violation.UpTo (N : Term.Pairing) : Violation → Violation → Prop where
  | same {violation} : UpTo N violation violation
  | subject {name name'} : N name name' → UpTo N (.subjectNotUnion name) (.subjectNotUnion name')

namespace Term

/-- Two nodes stand at one position of two terms. -/
def Beside (whole whole' node node' : Term Loc) : Prop := ∃ p, whole.at? p = some node ∧ whole'.at? p = some node'

/-- Both judgments find something, and the findings are related, or both blame the node at one position. -/
inductive Echo {α β : Type} (N : Pairing) (whole whole' : Term Loc) (R : α → β → Prop) :
    Judgment Loc α → Judgment Loc β → Prop where
  | ok {a b} : R a b → Echo N whole whole' R (.ok a) (.ok b)
  | blame {violation violation' node node'} : Violation.UpTo N violation violation' →
      Beside whole whole' node node' → Echo N whole whole' R (blame violation node) (blame violation' node')

section

variable {α β α' β' : Type} {N : Pairing} {R : α → β → Prop} {Q : α' → β' → Prop} {whole whole' node node' : Term Loc}
  {own other : Env} {violation : Violation} {i : Nat}

theorem beside_here : Beside whole whole' whole whole' := ⟨[], rfl, rfl⟩

theorem Beside.part {sub sub' : Term Loc} (h : Beside node node' sub sub') (hp : whole.parts[i]? = some node)
    (hp' : whole'.parts[i]? = some node') : Beside whole whole' sub sub' := by
  obtain ⟨p, hs, hs'⟩ := h
  exact ⟨i :: p, at?_cons.2 ⟨node, hp, hs⟩, at?_cons.2 ⟨node', hp', hs'⟩⟩

theorem Echo.part {x : Judgment Loc α} {y : Judgment Loc β} (h : Echo N node node' R x y)
    (hp : whole.parts[i]? = some node) (hp' : whole'.parts[i]? = some node') : Echo N whole whole' R x y := by
  cases h with
  | ok hr => exact .ok hr
  | blame hv hb => exact .blame hv (hb.part hp hp')

theorem Echo.bind {x : Judgment Loc α} {y : Judgment Loc β} {f : α → Judgment Loc α'} {g : β → Judgment Loc β'}
    (h : Echo N whole whole' R x y) (hf : ∀ a b, R a b → Echo N whole whole' Q (f a) (g b)) :
    Echo N whole whole' Q (x >>= f) (y >>= g) := by
  cases h with
  | ok hr => exact hf _ _ hr
  | blame hv hb => exact .blame hv hb

theorem Echo.at (hb : Beside whole whole' node node') :
    Echo N whole whole' R (StructuralTyping.blame violation node) (StructuralTyping.blame violation node') :=
  .blame .same hb

theorem echo_judged {S T : Ty} (h : Ty.Interchangeable S T) :
    Echo N whole whole' Ty.Interchangeable S.judged T.judged := by
  rw [judged_eq_ok.2 ⟨rfl, h.own.isError⟩, judged_eq_ok.2 ⟨rfl, h.other.isError⟩]
  exact .ok h

theorem echo_requireNumber {S T : Ty} (hb : Beside whole whole' node node') (h : Ty.Interchangeable S T) :
    Echo N whole whole' Eq (requireNumber node S) (requireNumber node' T) := by
  cases h.sameShape with
  | number => exact .ok rfl
  | _ => exact .at hb

/-! ## The loops -/

theorem echo_judgeArgs {params params' : List (String × Ty)} {args args' : List (Term Loc)}
    (hp : List.Forall₂ (fun p q => Ty.Interchangeable p.2 q.2) params params')
    (hargs : List.Forall₂ (fun arg arg' => Beside whole whole' arg arg' ∧
      Echo N whole whole' Ty.Interchangeable (judge own arg) (judge other arg')) args args') :
    Echo N whole whole' Eq (judgeArgs own params args) (judgeArgs other params' args') := by
  induction hargs generalizing params params' with
  | nil => exact .ok rfl
  | cons harg _ ih =>
    cases hp with
    | nil => exact .ok rfl
    | cons hpq hp =>
      rw [judgeArgs, judgeArgs]
      refine harg.2.bind fun S T hST => ?_
      rw [hST.equal_eq hpq]
      split
      · exact ih hp
      · exact .at harg.1

/-- Types found for properties, in order and under distinct names. -/
structure Found (done done' : List (String × Ty)) : Prop where
  nodup : (Dict.names done).Nodup
  types : List.Forall₂ (fun p q => p.1 = q.1 ∧ Ty.Interchangeable p.2 q.2) done done'

theorem echo_judgeProps {done done' : List (String × Ty)} {props props' : List (String × Term Loc)}
    (hd : Found done done')
    (hprops : List.Forall₂ (fun prop prop' => prop.1 = prop'.1 ∧
      Echo N whole whole' Ty.Interchangeable (judge own prop.2) (judge other prop'.2)) props props') :
    Echo N whole whole' Found (judgeProps own whole done props) (judgeProps other whole' done' props') := by
  induction hprops generalizing done done' with
  | nil => exact .ok hd
  | @cons prop prop' rest rest' hprop _ ih =>
    obtain ⟨hname, hprop⟩ := hprop
    rw [judgeProps, judgeProps, ← hname, Dict.names_eq_of_forall₂ hd.types]
    split
    · exact .at beside_here
    · rename_i hnew
      refine hprop.bind fun S T hST => ih ⟨?_, List.rel_append hd.types (.cons ⟨rfl, hST⟩ .nil)⟩
      rw [← Dict.names_eq_of_forall₂ hd.types, List.contains_iff_mem] at hnew
      rw [Dict.names_append]
      exact hd.nodup.append (List.nodup_singleton _) (List.disjoint_singleton.2 hnew)

theorem echo_judgeSupplied {declared : List (String × Ty)} {supplied : List String}
    {props props' : List (String × Term Loc)} (hd : Dict.Proper Ty.Clean declared)
    (hprops : List.Forall₂ (fun prop prop' => prop.1 = prop'.1 ∧
      Echo N whole whole' Ty.Interchangeable (judge own prop.2) (judge other prop'.2)) props props') :
    Echo N whole whole' Eq (judgeSupplied own whole declared supplied props)
      (judgeSupplied other whole' declared supplied props') := by
  induction hprops generalizing supplied with
  | nil => exact .ok rfl
  | @cons prop prop' rest rest' hprop _ ih =>
    obtain ⟨hname, hprop⟩ := hprop
    rw [judgeSupplied, judgeSupplied, ← hname]
    split
    · exact .at beside_here
    · cases hl : declared.lookup prop.1 with
      | none => exact .at beside_here
      | some expected =>
        refine hprop.bind fun S T hST => ?_
        rw [hST.equal_eq (hd.of_lookup hl).interchangeable]
        split
        · exact ih
        · exact .at beside_here

theorem echo_judgeClauses {subject subject' : String} {variants variants' : List (String × List (String × Ty))}
    {seen : List String} {first first' : Option Ty} {clauses clauses' : List (String × Term Loc)}
    (hproper : Dict.Proper (Dict.Proper Ty.Clean) variants)
    (hv : Dict.Agree (Ty.SameVariant Ty.Interchangeable) variants variants')
    (hfirst : Option.Rel Ty.Interchangeable first first')
    (hclauses : List.Forall₂ (fun clause clause' => clause.1 = clause'.1 ∧ Beside whole whole' clause.2 clause'.2 ∧
      ∀ S T, Ty.Interchangeable S T → Echo N whole whole' Ty.Interchangeable
        (judge (own.bind subject S) clause.2) (judge (other.bind subject' T) clause'.2)) clauses clauses') :
    Echo N whole whole' (Option.Rel Ty.Interchangeable) (judgeClauses own subject variants seen first clauses)
      (judgeClauses other subject' variants' seen first' clauses') := by
  induction hclauses generalizing seen first first' with
  | nil => exact .ok hfirst
  | @cons clause clause' rest rest' hclause _ ih =>
    obtain ⟨hlabel, hbeside, hjudged⟩ := hclause
    rw [judgeClauses, judgeClauses, ← hlabel]
    have hl := hv clause.1
    cases ho : variants.lookup clause.1 with
    | none =>
      rw [ho] at hl
      generalize variants'.lookup clause.1 = props' at hl
      cases hl
      exact .at hbeside
    | some props =>
      rw [ho] at hl
      generalize variants'.lookup clause.1 = props' at hl
      cases hl with
      | some hprops =>
        dsimp only
        split
        · exact .at hbeside
        · have hmade : Ty.mkObject props = .ok (.object props) := by
            rw [Ty.mkObject, Ty.requireDistinct_eq_ok.2 (hproper.of_lookup ho).nodup]
            rfl
          have hnarrowed := hprops.narrowed
          rw [hmade] at hnarrowed ⊢
          generalize Ty.mkObject _ = narrowed at hnarrowed ⊢
          cases hnarrowed with
          | ok hST =>
            refine (hjudged _ _ hST).bind fun A B hAB => ?_
            cases hfirst with
            | none => exact ih (.some hAB)
            | some hseed =>
              dsimp only
              rw [hAB.equal_eq hseed]
              split
              · exact ih (.some hseed)
              · exact .at hbeside

end

/-- What holds of the parts in each place holds of the properties there. -/
theorem forall₂_props {props props' : List (String × Term Loc)} {P : Term Loc → Term Loc → Prop}
    (hn : Dict.names props = Dict.names props')
    (h : ∀ (i : Nat) (part part' : Term Loc), (props.map Prod.snd)[i]? = some part →
      (props'.map Prod.snd)[i]? = some part' → P part part') :
    List.Forall₂ (fun prop prop' => prop.1 = prop'.1 ∧ P prop.2 prop'.2) props props' := by
  have hl : props.length = props'.length := by simpa [Dict.names] using congrArg List.length hn
  refine forall₂_of_getElem? hl fun i prop prop' hp hp' => ⟨?_, h i _ _ (by simp [hp]) (by simp [hp'])⟩
  simpa [Dict.names, hp, hp'] using congrArg (·[i]?) hn

/-! ## Terms -/

/-- Terms that are the same up to names are judged side by side. -/
theorem echo_judge {N ρ : Pairing} {own other : Env} {term term' : Term Loc} (h : Renamed N ρ term term')
    (henv : own.Paired ρ other) (hterm : term.Clean) :
    Echo N term term' Ty.Interchangeable (judge own term) (judge other term') := by
  induction term using partsInduction generalizing ρ own other term' with
  | step term ih =>
    obtain ⟨hhead, hlen, hparts⟩ := h
    rename_i inner
    have ha := hterm.annotated
    have hbeside : ∀ i part part', term.parts[i]? = some part → term'.parts[i]? = some part' →
        Beside term term' part part' := fun i part part' hp hp' => beside_here.part hp hp'
    -- in each part the scopes are paired as the node's binders say
    replace ih : ∀ i part part' {own' other'}, term.parts[i]? = some part → term'.parts[i]? = some part' →
        own'.Paired (inner i) other' →
        Echo N term term' Ty.Interchangeable (judge own' part) (judge other' part') := by
      intro i part part' own' other' hp hp' hpaired
      have hm := List.mem_of_getElem? hp
      exact (ih part hm (hparts i part part' hp hp') hpaired (hterm.part hm)).part hp hp'
    clear hparts
    cases hhead with
    | bool => exact .ok Ty.clean_boolean.interchangeable
    | number => exact .ok Ty.clean_number.interchangeable
    | @ite cond cond' thn thn' els els' =>
      rw [judge, judge]
      refine (ih 0 cond cond' rfl rfl henv).bind fun C C' hC => ?_
      cases hC.sameShape with
      | boolean =>
        refine (ih 1 thn thn' rfl rfl henv).bind fun A A' hA => ?_
        refine (ih 2 els els' rfl rfl henv).bind fun B B' hB => ?_
        rw [hA.equal_eq hB]
        split
        · exact .ok hA
        · exact .at beside_here
      | _ => exact .at (hbeside 0 cond cond' rfl rfl)
    | @add left left' right right' =>
      rw [judge, judge]
      refine (ih 0 left left' rfl rfl henv).bind fun A A' hA => ?_
      refine (echo_requireNumber (hbeside 0 left left' rfl rfl) hA).bind fun _ _ _ => ?_
      refine (ih 1 right right' rfl rfl henv).bind fun B B' hB => ?_
      refine (echo_requireNumber (hbeside 1 right right' rfl rfl) hB).bind fun _ _ _ => ?_
      exact .ok Ty.clean_number.interchangeable
    | @var name name' loc hname =>
      rw [judge, judge]
      obtain ⟨rfl, hown, hother⟩ | ⟨S, T, hown, hother, hST⟩ := henv.resolved hname
      · rw [hown, hother]
        exact .at beside_here
      · rw [hown, hother]
        exact echo_judged hST
    | @func params params' body body' loc ht hd =>
      have hparams : Dict.Proper Ty.Clean params := ha
      have hd' := hd hparams.nodup
      rw [judge, judge]
      refine (ih 0 body body' rfl rfl (henv.extend hparams ht hd')).bind fun ret ret' hret => ?_
      rw [demandDistinct_mkFunc.2 ⟨hparams.nodup, rfl⟩, demandDistinct_mkFunc.2 ⟨hd', rfl⟩]
      exact .ok (Ty.interchangeable_func_of_types hparams ht hd' hret)
    | @call callee callee' args args' =>
      have hl : args.length = args'.length := by simpa [parts] using hlen
      have hargs : List.Forall₂ (fun arg arg' => Beside (.call callee args ‹Loc›) (.call callee' args' ‹Loc›) arg arg' ∧
          Echo N (.call callee args ‹Loc›) (.call callee' args' ‹Loc›) Ty.Interchangeable (judge own arg)
            (judge other arg')) args args' :=
        forall₂_of_getElem? hl fun i arg arg' hi hi' =>
          ⟨hbeside (i + 1) arg arg' hi hi', ih (i + 1) arg arg' hi hi' henv⟩
      rw [judge, judge]
      refine (ih 0 callee callee' rfl rfl henv).bind fun F F' hF => ?_
      cases hF.sameShape with
      | func hp hr =>
        dsimp only
        rw [hp.length_eq, hl]
        split
        · exact (echo_judgeArgs hp hargs).bind fun _ _ _ => echo_judged hr
        · exact .at beside_here
      | _ => exact .at (hbeside 0 callee callee' rfl rfl)
    | @seq body body' rest rest' =>
      rw [judge, judge]
      exact (ih 0 body body' rfl rfl henv).bind fun _ _ _ => ih 1 rest rest' rfl rfl henv
    | @const name name' init init' rest rest' =>
      rw [judge, judge]
      refine (ih 0 init init' rfl rfl henv).bind fun S T hST => ?_
      exact ih 1 rest rest' rfl rfl (henv.bind hST name name')
    | @recFunc name name' ret body body' rest rest' loc params params' ht hd =>
      obtain ⟨hparams, hret⟩ : Dict.Proper Ty.Clean params ∧ ret.Clean := ha
      have hd' := hd hparams.nodup
      have hsig := Ty.interchangeable_func_of_types hparams ht hd' hret.interchangeable
      rw [judge, judge, demandDistinct_mkFunc.2 ⟨hparams.nodup, rfl⟩, demandDistinct_mkFunc.2 ⟨hd', rfl⟩]
      refine (ih 0 body body' rfl rfl ((henv.extend hparams ht hd').bind hsig name name')).bind fun A A' hA => ?_
      rw [hA.equal_eq hret.interchangeable]
      split
      · exact ih 1 rest rest' rfl rfl (henv.bind hsig name name')
      · exact .at beside_here
    | @objectNew props props' loc hn =>
      rw [judge, judge]
      have hnone : Found [] [] := ⟨List.nodup_nil, .nil⟩
      refine (echo_judgeProps hnone (forall₂_props hn fun i part part' hp hp' =>
        ih i part part' hp hp' henv)).bind fun types types' hfound => ?_
      have hd' := Dict.names_eq_of_forall₂ hfound.types ▸ hfound.nodup
      rw [demandDistinct_mkObject.2 ⟨hfound.nodup, rfl⟩, demandDistinct_mkObject.2 ⟨hd', rfl⟩]
      exact .ok (Ty.congruence_interchangeable.object hfound.nodup hfound.types)
    | @objectGet object object' name =>
      rw [judge, judge]
      refine (ih 0 object object' rfl rfl henv).bind fun O O' hO => ?_
      cases hO.sameShape with
      | @object props props' hp =>
        have hl := hp name
        dsimp only
        generalize props.lookup name = S at hl
        generalize props'.lookup name = T at hl
        cases hl with
        | none => exact .at beside_here
        | some hST => exact echo_judged hST
      | _ => exact .at (hbeside 0 object object' rfl rfl)
    | @unionNew label type loc props props' hn =>
      have htype : type.Clean := ha
      cases type with
      | union variants =>
        rw [judge, judge]
        cases hl : variants.lookup label with
        | none => exact .at beside_here
        | some declared =>
          have hdeclared := (Ty.clean_union.1 htype).of_lookup hl
          refine (echo_judgeSupplied hdeclared (forall₂_props hn fun i part part' hp hp' =>
            ih i part part' hp hp' henv)).bind fun _ _ _ => ?_
          rw [hn]
          split
          · exact .at beside_here
          · exact .ok htype.interchangeable
      | _ => exact .at beside_here
    | @unionGet subject subject' loc clauses clauses' hsubject hN hn =>
      have hl : clauses.length = clauses'.length := by simpa [Dict.names] using congrArg List.length hn
      rw [judge, judge]
      obtain ⟨rfl, hown, hother⟩ | ⟨S, T, hown, hother, hST⟩ := henv.resolved hsubject
      · rw [hown, hother]
        exact .at beside_here
      · have hS := hST.own
        rw [hown, hother]
        cases hST.sameShape with
        | union hlen hv =>
          have hclauses := forall₂_props (P := fun clause clause' =>
            Beside (.unionGet subject clauses loc) (.unionGet subject' clauses' loc) clause clause' ∧
              ∀ A B, Ty.Interchangeable A B → Echo N _ _ Ty.Interchangeable (judge (own.bind subject A) clause)
                (judge (other.bind subject' B) clause')) hn fun i clause clause' hp hp' =>
            ⟨hbeside i clause clause' hp hp', fun A B hAB => ih i clause clause' hp hp' (henv.bind hAB _ _)⟩
          dsimp only
          refine (echo_judgeClauses (Ty.clean_union.1 hS) hv .none hclauses).bind fun first first' hfirst => ?_
          rw [hlen, hl]
          split
          · cases hfirst with
            | none => exact .at beside_here
            | some h => exact .ok h
          · exact .at beside_here
        | _ => exact .blame (.subject hN) beside_here

/-- A binder is renamed, with all that it binds, to a name that the term does not use. Both terms have a type,
and the types are equal, or in both the node at one position is blamed for the same violation, up to the
name of a subject. -/
theorem bound_names_exchangeable {env : Env} {term node : Term Loc} {p : Position} {binder : Binder}
    {old new : String} (henv : env.Clean) (hterm : term.Clean) (hp : term.at? p = some node)
    (ho : old ∈ node.bound binder) (hnew : ¬ Occurs new term) :
    (∃ S T, judge env term = .ok S ∧ judge env (term.put p (node.renameBound binder old new)) = .ok T ∧
      S.equal T = true) ∨
    ∃ violation violation' guilty guilty' q, judge env term = blame violation guilty ∧
      judge env (term.put p (node.renameBound binder old new)) = blame violation' guilty' ∧
      term.at? q = some guilty ∧ (term.put p (node.renameBound binder old new)).at? q = some guilty' ∧
      (violation' = violation ∨ violation = .subjectNotUnion old ∧ violation' = .subjectNotUnion new) := by
  -- around the term each name means itself, and a name is shown as it is or in place of the old one
  let N : Pairing := fun name name' => name = name' ∨ name = old ∧ name' = new
  have hrenamed : Renamed N Eq term (term.put p (node.renameBound binder old new)) :=
    .put (fun _ => .inl rfl) (fun _ _ => rfl) hp fun σ hσ =>
      .renameBound (fun _ => .inl rfl) (.inr ⟨rfl, rfl⟩) hσ (fun h => hnew (h.of_at hp)) ho
  have h := echo_judge hrenamed henv.paired hterm
  generalize judge env term = own at h
  generalize judge env (term.put p (node.renameBound binder old new)) = other at h
  cases h with
  | ok hST => exact .inl ⟨_, _, rfl, rfl, hST.same⟩
  | blame hv hb =>
    obtain ⟨q, hg, hg'⟩ := hb
    refine .inr ⟨_, _, _, _, q, rfl, rfl, hg, hg', ?_⟩
    cases hv with
    | same => exact .inl rfl
    | subject hN =>
      rcases hN with rfl | ⟨rfl, rfl⟩
      · exact .inl rfl
      · exact .inr ⟨rfl, rfl⟩

/-- A parameter under another name: it is matched on, and used in the clause that narrows it. -/
theorem bound_names_exchangeable_in_match :
    ∃ S T, judge .empty (.func [("u", .union [("a", [("n", .number)])])]
        (.unionGet "u" [("a", .objectGet (.var "u" ()) "n" ())] ()) ()) = .ok S ∧
      judge .empty (.func [("v", .union [("a", [("n", .number)])])]
        (.unionGet "v" [("a", .objectGet (.var "v" ()) "n" ())] ()) ()) = .ok T ∧ S.equal T = true := by
  have h := @bound_names_exchangeable Unit .empty (.func [("u", .union [("a", [("n", .number)])])]
    (.unionGet "u" [("a", .objectGet (.var "u" ()) "n" ())] ()) ()) _ [] .param "u" "v" Env.clean_empty (by decide) rfl
      (by decide) (by decide)
  rcases h with ⟨S, T, hS, hT, he⟩ | ⟨_, _, _, _, _, h, -⟩
  · exact ⟨S, T, hS, hT, he⟩
  · cases h

end Term

end StructuralTyping
