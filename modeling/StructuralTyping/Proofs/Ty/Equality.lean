/-
Equality of types, read as a relation. The rules of `Ty.equal` are given by place for parameters
and by name for properties and variants: for well-formed types the look-up of each expected name
amounts to agreement on all names.
-/
import StructuralTyping.Proofs.Ty.Basic
import StructuralTyping.Ty.Equality

namespace StructuralTyping.Ty

/-- The actual type is the same structure as the expected one. -/
abbrev Same (actual expected : Ty) : Prop := actual.equal expected = true

/-! ## Lists -/

theorem equalParams_iff {own expected : List (String × Ty)} :
    equalParams own expected = true ↔ List.Forall₂ (fun a e => Same a.2 e.2) own expected := by
  induction expected generalizing own with
  | nil => cases own <;> simp [equalParams]
  | cons e rest ih =>
    cases own with
    | nil => simp [equalParams]
    | cons a others => simp [equalParams, ih]

theorem equalProps_iff {own expected : List (String × Ty)} :
    equalProps own expected = true ↔ ∀ e ∈ expected, ∃ a, own.lookup e.1 = some a ∧ Same a e.2 := by
  induction expected with
  | nil => simp [equalProps]
  | cons e rest ih =>
    rw [equalProps, Bool.and_eq_true, ih, List.forall_mem_cons]
    refine and_congr_left fun _ => ?_
    cases own.lookup e.1 <;> simp

theorem equalVariants_iff {own expected : List (String × List (String × Ty))} :
    equalVariants own expected = true ↔ ∀ e ∈ expected, ∃ a, own.lookup e.1 = some a ∧
      a.length = e.2.length ∧ equalProps a e.2 = true := by
  induction expected with
  | nil => simp [equalVariants]
  | cons e rest ih =>
    rw [equalVariants, Bool.and_eq_true, ih, List.forall_mem_cons]
    refine and_congr_left fun _ => ?_
    cases own.lookup e.1 <;> simp

/-! ## Rules -/

section Rules

variable {actual : Ty} {params props own : List (String × Ty)} {ret : Ty}
  {variants ownVariants : List (String × List (String × Ty))}

theorem same_boolean : Same actual .boolean ↔ actual = .boolean := by
  cases actual <;> simp [Same, equal]

theorem same_number : Same actual .number ↔ actual = .number := by
  cases actual <;> simp [Same, equal]

theorem same_func_func {ownRet : Ty} : Same (.func own ownRet) (.func params ret) ↔
    List.Forall₂ (fun a e => Same a.2 e.2) own params ∧ Same ownRet ret := by
  rw [Same, equal, Bool.and_eq_true, equalParams_iff]

theorem same_func : Same actual (.func params ret) ↔ ∃ own ownRet, actual = .func own ownRet ∧
    List.Forall₂ (fun a e => Same a.2 e.2) own params ∧ Same ownRet ret := by
  cases actual with
  | func own ownRet => simp [same_func_func]
  | _ => simp [Same, equal]

theorem same_object_object (ho : (Dict.names own).Nodup) (h : (Dict.names props).Nodup) :
    Same (.object own) (.object props) ↔ Dict.Agree Same own props := by
  rw [Dict.agree_iff ho h, Same, equal, Bool.and_eq_true, beq_iff_eq, equalProps_iff]

theorem same_object (ha : actual.WellFormed) (h : (object props).WellFormed) :
    Same actual (.object props) ↔ ∃ own, actual = .object own ∧ Dict.Agree Same own props := by
  cases actual with
  | object own => simp [same_object_object (wellFormed_object.1 ha).nodup (wellFormed_object.1 h).nodup]
  | _ => simp [Same, equal]

theorem same_union (ha : actual.WellFormed) (h : (union variants).WellFormed) :
    Same actual (.union variants) ↔
      ∃ own, actual = .union own ∧ Dict.Agree (Dict.Agree Same) own variants := by
  cases actual with
  | union own =>
    have ho := wellFormed_union.1 ha
    have hv := wellFormed_union.1 h
    have hvariant : ∀ v ∈ variants, ∀ props, own.lookup v.1 = some props →
        (props.length = v.2.length ∧ equalProps props v.2 = true ↔ Dict.Agree Same props v.2) := by
      intro v hm props hl
      rw [Dict.agree_iff (ho.of_lookup hl).nodup (hv.values v hm).nodup, equalProps_iff]
    simp only [union.injEq, exists_eq_left', Dict.agree_iff ho.nodup hv.nodup, Same, equal, Bool.and_eq_true,
      beq_iff_eq, equalVariants_iff]
    refine and_congr_right fun _ => forall₂_congr fun v hm => exists_congr fun props => ?_
    exact and_congr_right fun hl => hvariant v hm props hl
  | _ => simp [Same, equal]

end Rules

end StructuralTyping.Ty
