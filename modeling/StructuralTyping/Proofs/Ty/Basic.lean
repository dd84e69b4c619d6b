/-
What holds of a type at every depth. A type is well-formed if the demands of its makers hold all
the way down: names are distinct in each list of parameters or properties, and labels in each union.
It is free of errors if no recorded failure is in it, and clean if it is both.
-/
import StructuralTyping.Proofs.Dict
import StructuralTyping.Ty.Basic

namespace StructuralTyping.Ty

/-! ## Induction -/

section Induction

variable {motive : Ty → Prop} (boolean : motive .boolean) (number : motive .number)
  (func : ∀ params ret, (∀ p ∈ params, motive p.2) → motive ret → motive (.func params ret))
  (object : ∀ props, (∀ p ∈ props, motive p.2) → motive (.object props))
  (union : ∀ variants, (∀ v ∈ variants, ∀ p ∈ v.2, motive p.2) → motive (.union variants))
  (error : ∀ nature, motive (.error nature))

include boolean number func object union error

/-- Types are built from the types in their lists. -/
@[elab_as_elim, induction_eliminator]
theorem induction : ∀ type, motive type
  | .boolean => boolean
  | .number => number
  | .func params ret => func params ret (fun p _ => induction p.2) (induction ret)
  | .object props => object props fun p _ => induction p.2
  | .union variants => union variants fun v _ p _ => induction p.2
  | .error nature => error nature
termination_by type => sizeOf type
decreasing_by
  · simp only [Ty.func.sizeOf_spec]
    have := Dict.sizeOf_lt_of_mem ‹p ∈ params›
    omega
  · simp only [Ty.func.sizeOf_spec]
    omega
  · simp only [Ty.object.sizeOf_spec]
    have := Dict.sizeOf_lt_of_mem ‹p ∈ props›
    omega
  · simp only [Ty.union.sizeOf_spec]
    have := Dict.sizeOf_lt_of_mem ‹v ∈ variants›
    have := Dict.sizeOf_lt_of_mem ‹p ∈ v.2›
    omega

end Induction

/-! ## Properties at every depth -/

mutual

/-- A type and all the types in it. -/
def nodes : Ty → List Ty
  | .boolean => [.boolean]
  | .number => [.number]
  | .func params ret => .func params ret :: (nodesProps params ++ nodes ret)
  | .object props => .object props :: nodesProps props
  | .union variants => .union variants :: nodesVariants variants
  | .error nature => [.error nature]

/-- All the types in a list of parameters or properties. -/
def nodesProps : List (String × Ty) → List Ty
  | [] => []
  | (_, type) :: rest => nodes type ++ nodesProps rest

/-- All the types in a list of variants. -/
def nodesVariants : List (String × List (String × Ty)) → List Ty
  | [] => []
  | (_, props) :: rest => nodesProps props ++ nodesVariants rest

end

theorem mem_nodesProps {type : Ty} {props : List (String × Ty)} :
    type ∈ nodesProps props ↔ ∃ p ∈ props, type ∈ p.2.nodes := by
  induction props with
  | nil => simp [nodesProps]
  | cons p rest ih => simp [nodesProps, ih]

theorem mem_nodesVariants {type : Ty} {variants : List (String × List (String × Ty))} :
    type ∈ nodesVariants variants ↔ ∃ v ∈ variants, ∃ p ∈ v.2, type ∈ p.2.nodes := by
  induction variants with
  | nil => simp [nodesVariants]
  | cons v rest ih => simp [nodesVariants, mem_nodesProps, ih]

/-- A property of a type and of all the types in it. -/
def Everywhere (P : Ty → Prop) (type : Ty) : Prop := ∀ node ∈ type.nodes, P node

instance (P : Ty → Prop) [DecidablePred P] (type : Ty) : Decidable (type.Everywhere P) :=
  inferInstanceAs (Decidable (∀ node ∈ type.nodes, P node))

section Everywhere

variable {P : Ty → Prop}

theorem everywhere_func {params : List (String × Ty)} {ret : Ty} :
    (func params ret).Everywhere P ↔
      P (.func params ret) ∧ (∀ p ∈ params, p.2.Everywhere P) ∧ ret.Everywhere P := by
  simp only [Everywhere, nodes, List.forall_mem_cons, List.forall_mem_append, mem_nodesProps]
  refine and_congr_right fun _ => and_congr_left fun _ => ?_
  exact ⟨fun h p hp node hn => h node ⟨p, hp, hn⟩, fun h node ⟨p, hp, hn⟩ => h p hp node hn⟩

theorem everywhere_object {props : List (String × Ty)} :
    (object props).Everywhere P ↔ P (.object props) ∧ ∀ p ∈ props, p.2.Everywhere P := by
  simp only [Everywhere, nodes, List.forall_mem_cons, mem_nodesProps]
  refine and_congr_right fun _ => ?_
  exact ⟨fun h p hp node hn => h node ⟨p, hp, hn⟩, fun h node ⟨p, hp, hn⟩ => h p hp node hn⟩

theorem everywhere_union {variants : List (String × List (String × Ty))} :
    (union variants).Everywhere P ↔ P (.union variants) ∧ ∀ v ∈ variants, ∀ p ∈ v.2, p.2.Everywhere P := by
  simp only [Everywhere, nodes, List.forall_mem_cons, mem_nodesVariants]
  refine and_congr_right fun _ => ?_
  exact ⟨fun h v hv p hp node hn => h node ⟨v, hv, p, hp, hn⟩,
    fun h node ⟨v, hv, p, hp, hn⟩ => h v hv p hp node hn⟩

end Everywhere

/-! ## Well-formed types -/

/-- The lists of a type, as far as they are its own, repeat no name and no label. -/
def DistinctNames : Ty → Prop
  | .func params _ => (Dict.names params).Nodup
  | .object props => (Dict.names props).Nodup
  | .union variants => (Dict.names variants).Nodup ∧ ∀ v ∈ variants, (Dict.names v.2).Nodup
  | _ => True

instance : DecidablePred DistinctNames
  | .boolean | .number | .error _ => inferInstanceAs (Decidable True)
  | .func params _ => inferInstanceAs (Decidable (Dict.names params).Nodup)
  | .object props => inferInstanceAs (Decidable (Dict.names props).Nodup)
  | .union variants =>
    inferInstanceAs (Decidable ((Dict.names variants).Nodup ∧ ∀ v ∈ variants, (Dict.names v.2).Nodup))

/-- Names are distinct at every depth. -/
def WellFormed (type : Ty) : Prop := type.Everywhere DistinctNames

/-- There is no recorded failure at any depth. -/
def ErrorFree (type : Ty) : Prop := type.Everywhere fun node => node.isError = false

/-- A type that is well-formed and free of errors. -/
def Clean (type : Ty) : Prop := type.WellFormed ∧ type.ErrorFree

instance : DecidablePred WellFormed := fun type => inferInstanceAs (Decidable (type.Everywhere DistinctNames))

instance : DecidablePred ErrorFree := fun type =>
  inferInstanceAs (Decidable (type.Everywhere fun node => node.isError = false))

instance : DecidablePred Clean := fun type => inferInstanceAs (Decidable (type.WellFormed ∧ type.ErrorFree))

section

variable {params props : List (String × Ty)} {ret : Ty} {variants : List (String × List (String × Ty))}

theorem wellFormed_func : (func params ret).WellFormed ↔ Dict.Proper WellFormed params ∧ ret.WellFormed := by
  rw [WellFormed, everywhere_func, ← and_assoc]
  exact and_congr_left fun _ => ⟨fun h => ⟨h.1, h.2⟩, fun h => ⟨h.nodup, h.values⟩⟩

theorem wellFormed_object : (object props).WellFormed ↔ Dict.Proper WellFormed props := by
  rw [WellFormed, everywhere_object]
  exact ⟨fun h => ⟨h.1, h.2⟩, fun h => ⟨h.nodup, h.values⟩⟩

theorem wellFormed_union : (union variants).WellFormed ↔ Dict.Proper (Dict.Proper WellFormed) variants := by
  rw [WellFormed, everywhere_union]
  constructor
  · rintro ⟨⟨hd, hv⟩, h⟩
    exact ⟨hd, fun v hm => ⟨hv v hm, h v hm⟩⟩
  · intro h
    exact ⟨⟨h.nodup, fun v hm => (h.values v hm).nodup⟩, fun v hm => (h.values v hm).values⟩

theorem errorFree_func : (func params ret).ErrorFree ↔ (∀ p ∈ params, p.2.ErrorFree) ∧ ret.ErrorFree := by
  rw [ErrorFree, everywhere_func]
  exact and_iff_right rfl

theorem errorFree_object : (object props).ErrorFree ↔ ∀ p ∈ props, p.2.ErrorFree := by
  rw [ErrorFree, everywhere_object]
  exact and_iff_right rfl

theorem errorFree_union : (union variants).ErrorFree ↔ ∀ v ∈ variants, ∀ p ∈ v.2, p.2.ErrorFree := by
  rw [ErrorFree, everywhere_union]
  exact and_iff_right rfl

theorem errorFree_boolean : boolean.ErrorFree := by decide

theorem errorFree_number : number.ErrorFree := by decide

theorem not_errorFree_error (nature : String) : ¬ (error nature).ErrorFree := by
  simp [ErrorFree, Everywhere, nodes, isError]

theorem clean_boolean : boolean.Clean := by decide

theorem clean_number : number.Clean := by decide

theorem not_clean_error (nature : String) : ¬ (error nature).Clean := fun h => not_errorFree_error nature h.2

theorem Clean.isError {type : Ty} (h : type.Clean) : type.isError = false := by
  cases type with
  | error nature => exact absurd h (not_clean_error nature)
  | _ => rfl

theorem proper_clean {entries : List (String × Ty)} :
    Dict.Proper Clean entries ↔ Dict.Proper WellFormed entries ∧ ∀ entry ∈ entries, entry.2.ErrorFree :=
  Dict.proper_and

theorem clean_func : (func params ret).Clean ↔ Dict.Proper Clean params ∧ ret.Clean := by
  rw [Clean, wellFormed_func, errorFree_func, proper_clean]
  exact and_and_and_comm

theorem clean_object : (object props).Clean ↔ Dict.Proper Clean props := by
  rw [Clean, wellFormed_object, errorFree_object, proper_clean]

theorem clean_union : (union variants).Clean ↔ Dict.Proper (Dict.Proper Clean) variants := by
  rw [Clean, wellFormed_union, errorFree_union, Dict.proper_congr fun _ => proper_clean, Dict.proper_and]

end

end StructuralTyping.Ty
