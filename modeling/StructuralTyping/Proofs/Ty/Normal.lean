/-
The canonical form of a type: properties in the order of their names and variants in the order of
their labels at every depth, parameters by their place alone. Main statement: well-formed types are
equal exactly if both are free of errors and have one canonical form. So equality is symmetric and
transitive, and reflexive on just the types free of errors.
-/
import StructuralTyping.Proofs.Ty.Equality

namespace StructuralTyping.Ty

mutual

/-- The canonical form of a type. The blank name stands for every parameter name. -/
def normal : Ty → Ty
  | .boolean => .boolean
  | .number => .number
  | .func params ret => .func (normalParams params) (normal ret)
  | .object props => .object (Dict.sortByName (normalProps props))
  | .union variants => .union (Dict.sortByName (normalVariants variants))
  | .error nature => .error nature

/-- Parameters keep their order and lose their names. -/
def normalParams : List (String × Ty) → List (String × Ty)
  | [] => []
  | (_, type) :: rest => ("", normal type) :: normalParams rest

/-- Properties in canonical form, in the order in which they are written. -/
def normalProps : List (String × Ty) → List (String × Ty)
  | [] => []
  | (name, type) :: rest => (name, normal type) :: normalProps rest

/-- Variants in the order in which they are written, the properties of each in the order of their
names. -/
def normalVariants : List (String × List (String × Ty)) → List (String × List (String × Ty))
  | [] => []
  | (label, props) :: rest => (label, Dict.sortByName (normalProps props)) :: normalVariants rest

end

theorem normalProps_eq (props : List (String × Ty)) : normalProps props = Dict.mapValues normal props := by
  induction props with
  | nil => rfl
  | cons p rest ih => rw [normalProps, ih]; rfl

theorem normalVariants_eq (variants : List (String × List (String × Ty))) :
    normalVariants variants =
      Dict.mapValues (fun props => Dict.sortByName (Dict.mapValues normal props)) variants := by
  induction variants with
  | nil => rfl
  | cons v rest ih => rw [normalVariants, ih, normalProps_eq]; rfl

/-! ## Equality is equality of canonical forms -/

/-- What equality of an actual and an expected type should amount to. -/
def SameForm (actual expected : Ty) : Prop :=
  actual.ErrorFree ∧ expected.ErrorFree ∧ actual.normal = expected.normal

theorem forall₂_same_iff {own expected : List (String × Ty)}
    (h : ∀ e ∈ expected, ∀ a ∈ own, Same a.2 e.2 ↔ SameForm a.2 e.2) :
    List.Forall₂ (fun a e => Same a.2 e.2) own expected ↔
      (∀ a ∈ own, a.2.ErrorFree) ∧ (∀ e ∈ expected, e.2.ErrorFree) ∧ normalParams own = normalParams expected := by
  induction own generalizing expected with
  | nil => cases expected <;> simp [normalParams]
  | cons a rest ih =>
    cases expected with
    | nil => simp [normalParams]
    | cons e others =>
      have hrest := @ih others fun e he a ha =>
        h e (List.mem_cons_of_mem _ he) a (List.mem_cons_of_mem _ ha)
      rw [List.forall₂_cons, h e List.mem_cons_self a List.mem_cons_self, hrest]
      simp only [SameForm, List.forall_mem_cons, normalParams, List.cons.injEq, Prod.mk.injEq, true_and]
      tauto

theorem agree_same_iff {own expected : List (String × Ty)} (ho : (Dict.names own).Nodup)
    (he : (Dict.names expected).Nodup) (h : ∀ e ∈ expected, ∀ a ∈ own, Same a.2 e.2 ↔ SameForm a.2 e.2) :
    Dict.Agree Same own expected ↔ (∀ a ∈ own, a.2.ErrorFree) ∧ (∀ e ∈ expected, e.2.ErrorFree) ∧
      Dict.sortByName (normalProps own) = Dict.sortByName (normalProps expected) := by
  rw [normalProps_eq, normalProps_eq]
  exact Dict.agree_iff_sortByName ho he fun a ha e he => h e he a ha

theorem same_iff_sameForm {actual expected : Ty} (ha : actual.WellFormed) (he : expected.WellFormed) :
    Same actual expected ↔ SameForm actual expected := by
  induction expected generalizing actual with
  | boolean => cases actual <;> simp [Same, equal, SameForm, normal, errorFree_boolean]
  | number => cases actual <;> simp [Same, equal, SameForm, normal, errorFree_number]
  | func params ret hparams hret =>
    cases actual with
    | func own ownRet =>
      obtain ⟨hown, hownRet⟩ := wellFormed_func.1 ha
      obtain ⟨hp, hr⟩ := wellFormed_func.1 he
      rw [same_func_func, hret hownRet hr,
        forall₂_same_iff fun e he a ha => hparams e he (hown.values a ha) (hp.values e he)]
      simp only [SameForm, errorFree_func, normal, func.injEq]
      tauto
    | _ => simp [Same, equal, SameForm, normal]
  | object props hprops =>
    cases actual with
    | object own =>
      have ho := wellFormed_object.1 ha
      have hp := wellFormed_object.1 he
      rw [same_object_object ho.nodup hp.nodup, agree_same_iff ho.nodup hp.nodup fun e he a ha =>
        hprops e he (ho.values a ha) (hp.values e he)]
      simp only [SameForm, errorFree_object, normal, object.injEq]
    | _ => simp [Same, equal, SameForm, normal]
  | union variants hvariants =>
    cases actual with
    | union own =>
      have ho := wellFormed_union.1 ha
      have hv := wellFormed_union.1 he
      simp only [same_union ha he, union.injEq, exists_eq_left', SameForm, errorFree_union, normal,
        normalVariants_eq]
      refine Dict.agree_iff_sortByName (P := fun props => ∀ p ∈ props, p.2.ErrorFree) ho.nodup hv.nodup
        fun a ha e he => ?_
      have hown := ho.values a ha
      have hexp := hv.values e he
      rw [agree_same_iff hown.nodup hexp.nodup fun q hq p hp =>
        hvariants e he q hq (hown.values p hp) (hexp.values q hq), normalProps_eq, normalProps_eq]
    | _ => simp [Same, equal, SameForm, normal]
  | error nature =>
    simp [Same, equal, SameForm, not_errorFree_error]

/-! ## Laws -/

section Laws

variable {a b c : Ty}

theorem same_self_iff (ha : a.WellFormed) : Same a a ↔ a.ErrorFree := by
  rw [same_iff_sameForm ha ha]
  exact ⟨fun h => h.1, fun h => ⟨h, h, rfl⟩⟩

theorem Clean.same_refl (ha : a.Clean) : Same a a := (same_self_iff ha.1).2 ha.2

theorem Same.symm (ha : a.WellFormed) (hb : b.WellFormed) (h : Same a b) : Same b a := by
  obtain ⟨hae, hbe, hn⟩ := (same_iff_sameForm ha hb).1 h
  exact (same_iff_sameForm hb ha).2 ⟨hbe, hae, hn.symm⟩

theorem Same.trans (ha : a.WellFormed) (hb : b.WellFormed) (hc : c.WellFormed) (h : Same a b)
    (h' : Same b c) : Same a c := by
  obtain ⟨hae, -, hab⟩ := (same_iff_sameForm ha hb).1 h
  obtain ⟨-, hce, hbc⟩ := (same_iff_sameForm hb hc).1 h'
  exact (same_iff_sameForm ha hc).2 ⟨hae, hce, hab.trans hbc⟩

theorem Same.of_common (ha : a.WellFormed) (hb : b.WellFormed) (hc : c.WellFormed) (h : Same a c)
    (h' : Same b c) : Same a b :=
  h.trans ha hc hb (h'.symm hb hc)

theorem Same.errorFree (ha : a.WellFormed) (hb : b.WellFormed) (h : Same a b) : a.ErrorFree ∧ b.ErrorFree :=
  have hf := (same_iff_sameForm ha hb).1 h
  ⟨hf.1, hf.2.1⟩

/-- Equality of well-formed types is equality of canonical forms, and a recorded failure at any depth
is equal to nothing. Hence equality is symmetric and transitive, and a type equals itself exactly if
it is free of errors. -/
theorem equal_iff_normal_eq (ha : a.WellFormed) (hb : b.WellFormed) (hc : c.WellFormed) :
    (a.equal b = true ↔ a.ErrorFree ∧ b.ErrorFree ∧ a.normal = b.normal) ∧
    a.equal b = b.equal a ∧
    (a.equal b = true → b.equal c = true → a.equal c = true) ∧
    (a.equal a = true ↔ a.ErrorFree) := by
  refine ⟨same_iff_sameForm ha hb, ?_, Same.trans ha hb hc, same_self_iff ha⟩
  rw [Bool.eq_iff_iff]
  exact ⟨Same.symm ha hb, Same.symm hb ha⟩

/-- Variants and properties in another order are equal, and a failure inside a variant is not. -/
theorem equal_iff_normal_eq_reordered :
    (union [("A", [("x", .number), ("y", .object [])]), ("B", [])]).equal
      (union [("B", []), ("A", [("y", .object []), ("x", .number)])]) = true ∧
    ((union [("B", [("z", .error "late")])]).equal (union [("B", [("z", .error "late")])]) = true ↔
      (union [("B", [("z", .error "late")])]).ErrorFree) :=
  ⟨(equal_iff_normal_eq (a := union [("A", [("x", .number), ("y", .object [])]), ("B", [])])
      (b := union [("B", []), ("A", [("y", .object []), ("x", .number)])]) (c := .number)
      (by decide) (by decide) (by decide)).1.2 ⟨by decide, by decide, by rfl⟩,
    (equal_iff_normal_eq (a := union [("B", [("z", .error "late")])]) (b := .boolean) (c := .boolean)
      (by decide) (by decide) (by decide)).2.2.2⟩

end Laws

end StructuralTyping.Ty
