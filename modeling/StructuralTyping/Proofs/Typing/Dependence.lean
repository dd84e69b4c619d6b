/-
What a judgment takes from its environment. Types up to structure are enough: in environments that bind
equal types to the same names a term has equal types or one and the same complaint. Only the free names
of a term are looked up, they are all bound if the term has a type, and as long as they are all bound
no complaint is about an unknown variable.
-/
import StructuralTyping.Proofs.Typing.Blame
import StructuralTyping.Proofs.Typing.Order
import StructuralTyping.Proofs.Typing.Parallel
import Mathlib.Data.String.Basic

namespace StructuralTyping

variable {Loc α β : Type}

/-! ## Equal environments -/

theorem Env.Same.relOn_interchangeable {own expected : Env} (hs : own.Same expected) (hown : own.Clean)
    (hexpected : expected.Clean) : Env.RelOn Ty.Interchangeable (fun _ => True) own expected := by
  intro name _
  cases ho : own.find? name with
  | none =>
    have hname := hs name
    rw [ho] at hname
    generalize expected.find? name = found at hname
    cases hname
    exact .none
  | some S =>
    obtain ⟨T, hT, hsame⟩ := Dict.rel_some_eq (ho ▸ hs name)
    rw [hT]
    exact .some ⟨hown name S ho, hexpected name T hT, hsame⟩

namespace Term

theorem alike_judge_of_same {own expected : Env} {term : Term Loc} (hown : own.Clean) (hexpected : expected.Clean)
    (hs : own.Same expected) (hterm : term.Clean) :
    Alike Ty.Interchangeable (judge own term) (judge expected term) := by
  have henv : Env.RelOn Ty.Interchangeable (· ∈ term.free) own expected :=
    (hs.relOn_interchangeable hown hexpected).mono fun _ _ => trivial
  exact alike_judge Ty.congruence_interchangeable henv (hterm.written.mono fun _ ht => ht.interchangeable)

/-- In environments that bind equal clean types to the same names, a clean term has equal types or it is
complained about in the same way: the violation and the guilty node are the same. -/
theorem same_or_same_complaint {own expected : Env} {term : Term Loc} (hown : own.Clean) (hexpected : expected.Clean)
    (hs : own.Same expected) (hterm : term.Clean) :
    (∃ S T, judge own term = .ok S ∧ judge expected term = .ok T ∧ S.equal T = true) ∨
    ∃ violation guilty, judge own term = .error (.complaint violation (some guilty)) ∧
      judge expected term = .error (.complaint violation (some guilty)) := by
  have halike := alike_judge_of_same hown hexpected hs hterm
  generalize hO : judge own term = x at halike
  generalize hE : judge expected term = y at halike
  cases halike with
  | ok hST => exact .inl ⟨_, _, rfl, rfl, hST.same⟩
  | error =>
    obtain ⟨violation, guilty, rfl, -⟩ := justified_of_judge hown hterm hO
    exact .inr ⟨violation, guilty, rfl, rfl⟩

/-- The subject is no number in its clause, whichever way round its variants are bound. -/
theorem same_or_same_complaint_reordered :
    judge (Env.empty.bind "s" (.union [("B", [("f", .boolean), ("n", .number)]), ("A", [])]))
        (.unionGet "s" [("B", .add (.var "s" ()) (.objectGet (.var "s" ()) "n" ()) ()), ("A", .bool true ())] ()) =
      .error (.complaint .numberExpected (some (.var "s" ()))) := by
  have hown : (Env.empty.bind "s" (.union [("A", []), ("B", [("n", .number), ("f", .boolean)])])).Clean :=
    Env.clean_empty.bind (by decide)
  have hexpected : (Env.empty.bind "s" (.union [("B", [("f", .boolean), ("n", .number)]), ("A", [])])).Clean :=
    Env.clean_empty.bind (by decide)
  have hfails : judge (Env.empty.bind "s" (.union [("A", []), ("B", [("n", .number), ("f", .boolean)])]))
      (.unionGet "s" [("B", .add (.var "s" ()) (.objectGet (.var "s" ()) "n" ()) ()), ("A", .bool true ())] ()) =
        .error (.complaint .numberExpected (some (.var "s" ()))) := rfl
  have hterm : (Term.unionGet "s"
      [("B", .add (.var "s" ()) (.objectGet (.var "s" ()) "n" ()) ()), ("A", .bool true ())] ()).Clean := by
    decide
  rcases same_or_same_complaint hown hexpected (Env.clean_empty.same_refl.bind (by decide) "s") hterm with
    ⟨S, _, hS, -⟩ | ⟨violation, guilty, h, hsame⟩
  · cases hfails.symm.trans hS
  · cases hfails.symm.trans h
    exact hsame

/-! ## Free names -/

variable {env inner : Env} {T : Ty}

/-- A judgment depends only on what the free names are bound to. -/
theorem judge_congr {own other : Env} {term : Term Loc} (h : ∀ name ∈ term.free, own.find? name = other.find? name) :
    judge own term = judge other term := by
  have henv : Env.RelOn Eq (· ∈ term.free) own other := by
    intro name hn
    rw [h name hn]
    cases other.find? name with
    | none => exact .none
    | some T => exact .some rfl
  exact (alike_judge Ty.congruence_eq henv fun _ _ _ _ => rfl).eq

/-- A binding that is not used is not seen. -/
theorem judge_bind_of_notMem {term : Term Loc} {name : String} (hn : name ∉ term.free) (type : Ty) :
    judge (env.bind name type) term = judge env term := by
  refine judge_congr fun key hk => ?_
  have hne : key ≠ name := fun he => hn (he ▸ hk)
  rw [Env.find?_bind, if_neg hne]

/-- A part is judged in an environment that differs only in what the node binds. -/
theorem find?_partScope {term : Term Loc} {i : Nat} {name : String} (h : partScope? env term i = some inner)
    (hn : name ∉ term.binders i) : inner.find? name = env.find? name := by
  cases term with
  | bool | number | ite | add | var | call | seq | objectNew | objectGet | unionNew =>
    cases h
    rfl
  | func params =>
    cases h
    exact (Env.layer_extend params).outside env name hn
  | const own init rest =>
    cases i with
    | zero =>
      cases h
      rfl
    | succ i =>
      rw [partScope?] at h
      split at h
      · cases h
        exact (Env.layer_bind own _).outside env name hn
      · cases h
  | recFunc own params ret body rest =>
    cases i with
    | zero =>
      cases h
      exact ((Env.layer_bind own _).comp (Env.layer_extend params)).outside env name hn
    | succ i =>
      rw [partScope?] at h
      split at h
      · split at h
        · cases h
          exact (Env.layer_bind own _).outside env name hn
        · cases h
      · cases h
  | unionGet subject clauses =>
    obtain ⟨clause, -, rfl⟩ := Option.map_eq_some_iff.1 h
    unfold Env.narrow
    split
    · split
      · exact (Env.layer_bind subject _).outside env name hn
      · rfl
    · rfl

/-- The free names of a term that has a type are bound. -/
theorem contains_of_judge_ok {term : Term Loc} (h : judge env term = .ok T) :
    ∀ name ∈ term.free, env.contains name = true := by
  induction term using partsInduction generalizing env T with
  | step term ih =>
    intro name hn
    rcases mem_free_iff.1 hn with hm | ⟨i, part, hp, hfree, hb⟩
    · cases term with
      | var own =>
        rw [List.mem_singleton.1 hm]
        exact Env.contains_iff.2 ⟨T, (judge_var_ok.1 h).1⟩
      | unionGet subject clauses =>
        obtain ⟨variants, _, _, hf, -⟩ := judge_unionGet_ok.1 h
        rw [List.mem_singleton.1 hm]
        exact Env.contains_iff.2 ⟨_, hf⟩
      | _ => cases hm
    · obtain ⟨inner, S, hs, hj⟩ := exists_partScope h hp
      have hc := ih part (List.mem_of_getElem? hp) hj name hfree
      rwa [Env.contains, find?_partScope hs hb] at hc

end Term

/-! ## Unknown variables -/

/-- Violations that are put into words as that of an unknown variable. -/
theorem Violation.eq_of_nature {violation : Violation} {name : String}
    (h : violation.nature = (Violation.unknownVariable name).nature) :
    violation = .unknownVariable name ∨ ∃ nature, violation = .recorded nature := by
  have hl := congrArg String.toList h
  unfold nature at hl
  cases violation with
  | unknownVariable own =>
    rw [String.toList_append, String.toList_append] at hl
    exact .inl (congrArg _ (String.toList_injective (List.append_cancel_left hl)))
  | recorded nature => exact .inr ⟨nature, rfl⟩
  | _ => simp at hl

/-- Neither about an unknown variable nor recorded, in which case it could be about anything. -/
def Failure.NamesKnown : Failure Loc → Prop
  | .complaint (.unknownVariable _) _ | .complaint (.recorded _) _ => False
  | _ => True

theorem Failure.NamesKnown.nature_ne {violation : Violation} {guilty : Option (Term Loc)}
    (h : (Failure.complaint violation guilty).NamesKnown) (name : String) :
    violation.nature ≠ (Violation.unknownVariable name).nature := by
  intro he
  rcases Violation.eq_of_nature he with rfl | ⟨nature, rfl⟩
  · exact h
  · exact h

theorem failsWith_demandDistinct (x : Except RepeatedNames α) :
    FailsWith Failure.NamesKnown (demandDistinct x : Judgment Loc α) := by
  cases x with
  | ok value => exact .ok value
  | error fault => exact .error trivial

theorem failsWith_requireNumber (operand : Term Loc) (type : Ty) :
    FailsWith Failure.NamesKnown (requireNumber operand type) := by
  cases type with
  | number => exact .ok ()
  | _ => exact .error trivial

theorem Ty.ErrorFree.failsWith_judged {type : Ty} (h : type.ErrorFree) :
    FailsWith Failure.NamesKnown (type.judged : Judgment Loc Ty) := by
  cases type with
  | error nature => exact absurd h (Ty.not_errorFree_error nature)
  | _ => exact .ok _

namespace Term

section

variable {env : Env} {whole : Term Loc}

theorem failsWith_judgeArgs {params : List (String × Ty)} {args : List (Term Loc)}
    (h : ∀ arg ∈ args, FailsWith Failure.NamesKnown (judge env arg)) :
    FailsWith Failure.NamesKnown (judgeArgs env params args) := by
  rw [judgeArgs_eq]
  refine .foldlM fun pair hm _ => (h pair.1 (List.of_mem_zip hm).1).bind fun S _ => ?_
  split
  · exact .ok _
  · exact .error trivial

variable {props clauses : List (String × Term Loc)}

theorem failsWith_judgeProps (h : ∀ prop ∈ props, FailsWith Failure.NamesKnown (judge env prop.2)) :
    FailsWith Failure.NamesKnown (judgeProps env whole [] props) := by
  rw [judgeProps_eq]
  refine .foldlM fun prop hm done => ?_
  unfold addProp
  split
  · exact .error trivial
  · exact (h prop hm).bind fun S _ => .ok _

theorem failsWith_judgeSupplied {declared : List (String × Ty)}
    (h : ∀ prop ∈ props, FailsWith Failure.NamesKnown (judge env prop.2)) :
    FailsWith Failure.NamesKnown (judgeSupplied env whole declared [] props) := by
  rw [judgeSupplied_eq]
  refine .bind (.foldlM fun prop hm supplied => ?_) fun _ _ => .ok ()
  unfold checkSupplied
  split
  · exact .error trivial
  · split
    · exact .error trivial
    · refine (h prop hm).bind fun S _ => ?_
      split
      · exact .ok _
      · exact .error trivial

theorem failsWith_judgeClauses {subject : String} {variants : List (String × List (String × Ty))}
    (h : ∀ clause ∈ clauses, ∀ props, variants.lookup clause.1 = some props →
      FailsWith Failure.NamesKnown (judge (env.bind subject (.object props)) clause.2)) :
    FailsWith Failure.NamesKnown (judgeClauses env subject variants [] none clauses) := by
  rw [judgeClauses_eq]
  refine .bind (.foldlM fun clause hm state => ?_) fun _ _ => .ok _
  unfold checkClause
  split
  · exact .error trivial
  · rename_i props hl
    split
    · exact .error trivial
    · refine (failsWith_demandDistinct _).bind fun narrowed hn => ?_
      obtain ⟨-, rfl⟩ := demandDistinct_mkObject.1 hn
      refine (h clause hm props hl).bind fun S _ => ?_
      split
      · exact .ok _
      · split
        · exact .ok _
        · exact .error trivial

end

/-- If all free names are bound, no complaint is about an unknown variable. -/
theorem failsWith_namesKnown {env : Env} {term : Term Loc} (henv : env.All Ty.ErrorFree)
    (hterm : term.Written Ty.ErrorFree) (hbound : ∀ name ∈ term.free, env.contains name = true) :
    FailsWith Failure.NamesKnown (judge env term) := by
  induction term using partsInduction generalizing env with
  | step term ih =>
    have hw := hterm.here
    have hfound : ∀ {part S}, part ∈ term.parts → judge env part = .ok S → S.ErrorFree := fun hp hj =>
      judge_errorFree henv (hterm.part hp) hj
    -- what is free in a part is bound, by the node or around it
    replace ih : ∀ i {part inner}, term.parts[i]? = some part → inner.All Ty.ErrorFree →
        (∀ name, name ∈ term.binders i ∨ env.contains name = true → inner.contains name = true) →
        FailsWith Failure.NamesKnown (judge inner part) := by
      intro i part inner hp hinner hnames
      have hm := List.mem_of_getElem? hp
      refine ih part hm hinner (hterm.part hm) fun name hn => hnames name ?_
      by_cases hb : name ∈ term.binders i
      · exact .inl hb
      · exact .inr (hbound name (mem_free_of_part hp hn hb))
    have hpart : ∀ i {part}, term.parts[i]? = some part → term.binders i = [] →
        FailsWith Failure.NamesKnown (judge env part) := fun i _ hp hb =>
      ih i hp henv fun _ h => h.resolve_left (hb ▸ List.not_mem_nil)
    cases term with
    | bool => exact .ok _
    | number => exact .ok _
    | ite =>
      rw [judge]
      refine (hpart 0 rfl rfl).bind fun C _ => ?_
      split
      · refine (hpart 1 rfl rfl).bind fun A _ => (hpart 2 rfl rfl).bind fun B _ => ?_
        split
        · exact .ok _
        · exact .error trivial
      · exact .error trivial
    | add left right =>
      rw [judge]
      refine (hpart 0 rfl rfl).bind fun A _ => (failsWith_requireNumber left A).bind fun _ _ => ?_
      refine (hpart 1 rfl rfl).bind fun B _ => (failsWith_requireNumber right B).bind fun _ _ => ?_
      exact .ok _
    | var name =>
      obtain ⟨T, hf⟩ := Env.contains_iff.1 (hbound name (by simp [free]))
      rw [judge, hf]
      exact (henv name T hf).failsWith_judged
    | func params =>
      rw [judge]
      have hparams : ∀ p ∈ params, p.2.ErrorFree := fun p hp => hw p.2 (List.mem_map_of_mem hp)
      refine (ih 0 rfl (henv.extend hparams) fun name h => Env.contains_extend.2 h).bind fun ret _ => ?_
      exact failsWith_demandDistinct _
    | call callee args =>
      rw [judge]
      refine (hpart 0 rfl rfl).bind fun F hF => ?_
      split
      · split
        · refine (failsWith_judgeArgs fun arg hm => ?_).bind fun _ _ => ?_
          · obtain ⟨i, hi⟩ := List.getElem?_of_mem hm
            exact hpart (i + 1) hi rfl
          · exact (Ty.errorFree_func.1 (hfound List.mem_cons_self hF)).2.failsWith_judged
        · exact .error trivial
      · exact .error trivial
    | seq =>
      rw [judge]
      exact (hpart 0 rfl rfl).bind fun _ _ => hpart 1 rfl rfl
    | const name init rest =>
      rw [judge]
      refine (hpart 0 rfl rfl).bind fun S hS => ?_
      have hinner : (env.bind name S).All Ty.ErrorFree := henv.bind (hfound List.mem_cons_self hS)
      exact ih 1 rfl hinner fun key h => Env.contains_bind.2 (h.imp_left List.mem_singleton.1)
    | recFunc name params ret =>
      have hparams : ∀ p ∈ params, p.2.ErrorFree := fun p hp =>
        hw p.2 (List.mem_cons_of_mem _ (List.mem_map_of_mem hp))
      have hsig := Ty.errorFree_func.2 ⟨hparams, hw ret List.mem_cons_self⟩
      rw [judge]
      refine (failsWith_demandDistinct _).bind fun signature hd => ?_
      obtain ⟨-, rfl⟩ := demandDistinct_mkFunc.1 hd
      refine (ih 0 rfl ((henv.extend hparams).bind hsig) fun key h => ?_).bind fun S _ => ?_
      · rw [Env.contains_bind, Env.contains_extend]
        simpa [binders, or_assoc] using h
      · split
        · exact ih 1 rfl (henv.bind hsig) fun key h =>
            Env.contains_bind.2 (h.imp_left List.mem_singleton.1)
        · exact .error trivial
    | objectNew props =>
      rw [judge]
      refine (failsWith_judgeProps fun prop hm => ?_).bind fun types _ => failsWith_demandDistinct _
      obtain ⟨i, hi⟩ := List.getElem?_of_mem hm
      exact hpart i (by simp [parts, hi]) rfl
    | objectGet object name =>
      rw [judge]
      refine (hpart 0 rfl rfl).bind fun O hO => ?_
      split
      · rename_i props
        split
        · rename_i T hl
          have hprops := Ty.errorFree_object.1 (hfound List.mem_cons_self hO)
          exact (hprops _ (Dict.mem_of_lookup hl)).failsWith_judged
        · exact .error trivial
      · exact .error trivial
    | unionNew label props type =>
      cases type with
      | union variants =>
        rw [judge]
        split
        · refine (failsWith_judgeSupplied fun prop hm => ?_).bind fun _ _ => ?_
          · obtain ⟨i, hi⟩ := List.getElem?_of_mem hm
            exact hpart i (by simp [parts, hi]) rfl
          · split
            · exact .error trivial
            · exact .ok _
        · exact .error trivial
      | _ => exact .error trivial
    | unionGet subject clauses =>
      obtain ⟨T, hf⟩ := Env.contains_iff.1 (hbound subject (by simp [free]))
      rw [judge, hf]
      cases T with
      | union variants =>
        dsimp only
        refine (failsWith_judgeClauses fun clause hm props hl => ?_).bind fun first _ => ?_
        · obtain ⟨i, hi⟩ := List.getElem?_of_mem hm
          have hprops := Ty.errorFree_union.1 (henv subject _ hf) _ (Dict.mem_of_lookup hl)
          have hinner : (env.bind subject (.object props)).All Ty.ErrorFree :=
            henv.bind (Ty.errorFree_object.2 hprops)
          exact ih i (by simp [parts, hi]) hinner fun key h =>
            Env.contains_bind.2 (h.imp_left List.mem_singleton.1)
        · split
          · split
            · exact .ok _
            · exact .error trivial
          · exact .error trivial
      | _ => exact .error trivial

/-- Scoping is lexical and exact. A judgment depends only on what the free names are bound to; without
recorded failures around, a term that has a type has all its free names bound, and if they are all bound
no complaint says that a variable is unknown. -/
theorem lexical_scope (term : Term Loc) :
    (∀ own other : Env, (∀ name ∈ term.free, own.resolve name = other.resolve name) →
      judge own term = judge other term) ∧
    ∀ env : Env, env.All Ty.ErrorFree → term.Written Ty.ErrorFree →
      (∀ T, judge env term = .ok T → ∀ name ∈ term.free, env.contains name = true) ∧
      ((∀ name ∈ term.free, env.contains name = true) →
        ∀ violation guilty, judge env term = .error (.complaint violation guilty) →
          ∀ name, violation.nature ≠ (Violation.unknownVariable name).nature) := by
  constructor
  · intro own other h
    exact judge_congr fun name hn => Env.resolve_eq_iff.1 (h name hn)
  · intro env henv hterm
    constructor
    · intro T h
      exact contains_of_judge_ok h
    · intro hbound violation guilty h
      exact (failsWith_namesKnown henv hterm hbound _ h).nature_ne

/-- The boolean outside is shadowed by the constant, and the variable that is missing decides what is
found: a number, or a complaint about a boolean. -/
theorem lexical_scope_shadowed :
    judge ((Env.empty.bind "x" .boolean).bind "y" .number)
        (.const "x" (.number (.int 1) ()) (.add (.var "x" ()) (.var "y" ()) ()) ()) =
      judge (Env.empty.bind "y" .number)
        (.const "x" (.number (.int 1) ()) (.add (.var "x" ()) (.var "y" ()) ()) ()) ∧
    (Env.empty.bind "y" .number).contains "y" = true ∧
    Violation.numberExpected.nature ≠ (Violation.unknownVariable "y").nature := by
  obtain ⟨hsame, henv⟩ := lexical_scope (.const "x" (.number (.int 1) ()) (.add (.var "x" ()) (.var "y" ()) ()) ())
  have hfree : ∀ type : Ty, type.ErrorFree → (Env.empty.bind "y" type).All Ty.ErrorFree := fun type ht =>
    Env.All.bind (by simp [Env.All]) ht
  refine ⟨hsame _ _ fun name hn => ?_, ?_, ?_⟩
  · rw [List.mem_singleton.1 (hn : name ∈ ["y"])]
    rfl
  · exact (henv _ (hfree .number (by decide)) (by decide)).1 .number rfl "y" (by decide)
  · exact (henv _ (hfree .boolean (by decide)) (by decide)).2 (by decide) .numberExpected _ rfl "y"

end Term

end StructuralTyping
