/-
Terms that say the same in another order. What has no order in the calculus can be written in any: the
properties of an object or a variant, the clauses of a match, the operands of an addition, the branches of a
conditional. And a written type can be replaced by an equal one. One such change at one node is a step;
terms are rearranged into each other if steps, forwards or backwards, lead from one to the other.
-/
import Mathlib.Logic.Relation
import StructuralTyping.Proofs.Term.Position
import StructuralTyping.Proofs.Ty.Normal

namespace StructuralTyping

/-! ## Written types -/

/-- What can be written for a type: the type itself, or any well-formed type that is equal to it. -/
def Ty.Respelled (S T : Ty) : Prop := S = T ∨ (S.WellFormed ∧ T.WellFormed) ∧ Ty.Same S T

/-- Parameters with the names they had, some of their types respelled. -/
def RespelledParams (params params' : List (String × Ty)) : Prop :=
  List.Forall₂ (fun p q => p.1 = q.1 ∧ Ty.Respelled p.2 q.2) params params'

namespace Ty

variable {S T : Ty} {params params' : List (String × Ty)}

theorem Respelled.symm (h : Respelled S T) : Respelled T S := by
  rcases h with rfl | ⟨⟨hS, hT⟩, hs⟩
  · exact .inl rfl
  · exact .inr ⟨⟨hT, hS⟩, hs.symm hS hT⟩

theorem Respelled.clean (h : Respelled S T) (hS : S.Clean) : T.Clean := by
  rcases h with rfl | ⟨⟨hS, hT⟩, hs⟩
  · exact hS
  · exact ⟨hT, (hs.errorFree hS hT).2⟩

theorem Respelled.same (h : Respelled S T) (hS : S.Clean) : Same S T := by
  rcases h with rfl | ⟨-, hs⟩
  · exact hS.same_refl
  · exact hs

end Ty

section

variable {params params' : List (String × Ty)}

theorem RespelledParams.symm (h : RespelledParams params params') : RespelledParams params' params :=
  h.flip.imp fun _ _ hpq => ⟨hpq.1.symm, hpq.2.symm⟩

theorem RespelledParams.proper (h : RespelledParams params params') (hp : Dict.Proper Ty.Clean params) :
    Dict.Proper Ty.Clean params' := by
  refine ⟨Dict.names_eq_of_forall₂ h ▸ hp.nodup, ?_⟩
  have hvalues := hp.values
  clear hp
  induction h with
  | nil => exact hvalues
  | cons hpq _ ih =>
    rw [List.forall_mem_cons] at hvalues
    exact List.forall_mem_cons.2 ⟨hpq.2.clean hvalues.1, ih hvalues.2⟩

theorem RespelledParams.same (h : RespelledParams params params') (hp : ∀ p ∈ params, p.2.Clean) :
    List.Forall₂ (fun p q => p.1 = q.1 ∧ Ty.Same p.2 q.2) params params' := by
  induction h with
  | nil => exact .nil
  | cons hpq _ ih =>
    rw [List.forall_mem_cons] at hp
    exact .cons ⟨hpq.1, hpq.2.same hp.1⟩ (ih hp.2)

end

/-! ## Rearranged terms -/

namespace Term

variable {Loc : Type}

/-- One change in the writing, at one node. -/
inductive RearrangedOnce : Term Loc → Term Loc → Prop where
  | branches {cond thn els loc} : RearrangedOnce (.ite cond thn els loc) (.ite cond els thn loc)
  | operands {left right loc} : RearrangedOnce (.add left right loc) (.add right left loc)
  | object {props props' loc} : props.Perm props' → RearrangedOnce (.objectNew props loc) (.objectNew props' loc)
  | variant {label props props' type loc} : props.Perm props' →
      RearrangedOnce (.unionNew label props type loc) (.unionNew label props' type loc)
  | clauses {subject clauses clauses' loc} : clauses.Perm clauses' →
      RearrangedOnce (.unionGet subject clauses loc) (.unionGet subject clauses' loc)
  | params {params params' body loc} : RespelledParams params params' →
      RearrangedOnce (.func params body loc) (.func params' body loc)
  | signature {name params params' ret ret' body rest loc} : RespelledParams params params' → Ty.Respelled ret ret' →
      RearrangedOnce (.recFunc name params ret body rest loc) (.recFunc name params' ret' body rest loc)
  | union {label props type type' loc} : Ty.Respelled type type' →
      RearrangedOnce (.unionNew label props type loc) (.unionNew label props type' loc)
  | part {term old new : Term Loc} {i} : term.parts[i]? = some old → RearrangedOnce old new →
      RearrangedOnce term (term.withParts (term.parts.set i new))

/-- The congruence that the changes generate. -/
def Rearranged : Term Loc → Term Loc → Prop := Relation.EqvGen RearrangedOnce

section

variable {term other third old new : Term Loc} {i : Nat}

theorem RearrangedOnce.symm (h : RearrangedOnce term other) : RearrangedOnce other term := by
  induction h with
  | branches => exact .branches
  | operands => exact .operands
  | object hp => exact .object hp.symm
  | variant hp => exact .variant hp.symm
  | clauses hp => exact .clauses hp.symm
  | params hp => exact .params hp.symm
  | signature hp hr => exact .signature hp.symm hr.symm
  | union ht => exact .union ht.symm
  | @part term old new i hp _ ih =>
    obtain ⟨hi, rfl⟩ := List.getElem?_eq_some_iff.1 hp
    have hparts : (term.withParts (term.parts.set i new)).parts = term.parts.set i new :=
      parts_withParts List.length_set
    -- the part that was there is put back
    have hback := RearrangedOnce.part (hparts ▸ List.getElem?_set_self hi) ih
    rwa [hparts, withParts_withParts List.length_set (by simp), List.set_set, List.set_getElem_self,
      withParts_parts] at hback

theorem wellAnnotated_withParts {terms : List (Term Loc)} :
    (term.withParts terms).WellAnnotated ↔ term.WellAnnotated := by
  unfold withParts
  split <;> exact Iff.rfl

theorem Clean.withParts_set (hterm : term.Clean) (hnew : new.Clean) :
    (term.withParts (term.parts.set i new)).Clean := by
  rw [clean_iff, wellAnnotated_withParts, parts_withParts List.length_set]
  refine ⟨hterm.annotated, fun part hm => ?_⟩
  rcases List.mem_or_eq_of_mem_set hm with hm | rfl
  · exact hterm.part hm
  · exact hnew

theorem RearrangedOnce.clean (h : RearrangedOnce term other) (hterm : term.Clean) : other.Clean := by
  induction h with
  | branches | operands =>
    refine clean_iff.2 ⟨trivial, fun part hm => hterm.part ?_⟩
    simp only [parts, List.mem_cons, List.not_mem_nil, or_false] at hm ⊢
    tauto
  | object hp | clauses hp =>
    exact clean_iff.2 ⟨trivial, fun part hm => hterm.part ((hp.map Prod.snd).mem_iff.2 hm)⟩
  | variant hp => exact clean_iff.2 ⟨hterm.annotated, fun part hm => hterm.part ((hp.map Prod.snd).mem_iff.2 hm)⟩
  | params hp => exact clean_iff.2 ⟨hp.proper hterm.annotated, fun _ hm => hterm.part hm⟩
  | signature hp hr =>
    exact clean_iff.2 ⟨⟨hp.proper hterm.annotated.1, hr.clean hterm.annotated.2⟩, fun _ hm => hterm.part hm⟩
  | union ht => exact clean_iff.2 ⟨ht.clean hterm.annotated, fun _ hm => hterm.part hm⟩
  | part hp _ ih => exact hterm.withParts_set (ih (hterm.part (List.mem_of_getElem? hp)))

theorem Rearranged.clean_iff (h : Rearranged term other) : term.Clean ↔ other.Clean := by
  induction h with
  | rel _ _ h => exact ⟨h.clean, h.symm.clean⟩
  | refl => exact Iff.rfl
  | symm _ _ _ ih => exact ih.symm
  | trans _ _ _ _ _ ih ih' => exact ih.trans ih'

end

end Term

end StructuralTyping
