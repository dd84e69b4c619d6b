/-
The scope of a position: the environment in which the term there is judged. On the way down the
environment is extended by parameters, by the types of constants, by the signatures of recursive
functions and, in a clause, by the variant that the subject is known to be.
-/
import StructuralTyping.Proofs.Typing.Success
import StructuralTyping.Proofs.Term.Position

namespace StructuralTyping

variable {Loc : Type}

/-- The subject bound to the object of its variant of that label. Without such a variant nothing
is known about the subject. -/
def Env.narrow (env : Env) (subject label : String) : Env :=
  match env.find? subject with
  | some (.union variants) =>
    match variants.lookup label with
    | some props => env.bind subject (.object props)
    | none => env
  | _ => env

theorem Env.narrow_eq {env : Env} {subject label : String} {variants : List (String × List (String × Ty))}
    {props : List (String × Ty)} (hf : env.find? subject = some (.union variants))
    (hl : variants.lookup label = some props) : env.narrow subject label = env.bind subject (.object props) := by
  simp only [narrow, hf, hl]

theorem Env.Clean.narrow {env : Env} (h : env.Clean) (subject label : String) : (env.narrow subject label).Clean := by
  unfold Env.narrow
  split
  · rename_i variants hf
    split
    · rename_i props hl
      exact h.bind (Ty.clean_object.2 ((Ty.clean_union.1 (h subject _ hf)).of_lookup hl))
    · exact h
  · exact h

namespace Term

variable {env : Env} {T : Ty}

/-- The environment in which a part of a node is judged. What the node binds for the part has to
have a type, and the body of a recursive function the type it declares. -/
def partScope? (env : Env) : Term Loc → Nat → Option Env
  | .func params _ _, _ => some (env.extend params)
  | .const _ _ _ _, 0 => some env
  | .const name init _ _, _ + 1 =>
    match judge env init with
    | .ok type => some (env.bind name type)
    | .error _ => none
  | .recFunc name params ret _ _ _, 0 => some ((env.extend params).bind name (.func params ret))
  | .recFunc name params ret body _ _, _ + 1 =>
    match judge ((env.extend params).bind name (.func params ret)) body with
    | .ok type => if type.equal ret then some (env.bind name (.func params ret)) else none
    | .error _ => none
  | .unionGet subject clauses _, i => clauses[i]?.map fun clause => env.narrow subject clause.1
  | _, _ => some env

/-- The environment in which the term at a position is judged. -/
def scope? (env : Env) (term : Term Loc) : Position → Option Env
  | [] => some env
  | i :: rest => (partScope? env term i).bind fun inner => term.parts[i]?.bind fun part => scope? inner part rest

theorem scope?_cons {term : Term Loc} {i : Nat} {rest : Position} {scope : Env} :
    scope? env term (i :: rest) = some scope ↔ ∃ inner part,
      partScope? env term i = some inner ∧ term.parts[i]? = some part ∧ scope? inner part rest = some scope := by
  simp only [scope?, Option.bind_eq_some_iff, exists_and_left]

theorem Clean.partScope {term : Term Loc} (hterm : term.Clean) (henv : env.Clean) {i : Nat} {inner : Env}
    (h : partScope? env term i = some inner) : inner.Clean := by
  have ha := hterm.annotated
  cases term with
  | bool | number | ite | add | var | call | seq | objectNew | objectGet | unionNew => cases h; exact henv
  | func => cases h; exact henv.extend ha.values
  | const name init rest =>
    cases i with
    | zero => cases h; exact henv
    | succ i =>
      rw [partScope?] at h
      split at h
      · rename_i type hj
        cases h
        exact henv.bind (judge_clean henv (hterm.part (by simp [parts])) hj)
      · cases h
  | recFunc =>
    have hsig := Ty.clean_func.2 ha
    cases i with
    | zero => cases h; exact (henv.extend ha.1.values).bind hsig
    | succ i =>
      rw [partScope?] at h
      split at h
      · split at h
        · cases h
          exact henv.bind hsig
        · cases h
      · cases h
  | unionGet subject clauses =>
    obtain ⟨clause, -, rfl⟩ := Option.map_eq_some_iff.1 h
    exact henv.narrow subject clause.1

theorem Clean.scope {term old : Term Loc} {p : Position} {scope : Env} (hterm : term.Clean) (henv : env.Clean)
    (hp : term.at? p = some old) (hs : scope? env term p = some scope) : scope.Clean ∧ old.Clean := by
  induction p generalizing env term with
  | nil =>
    cases hp
    cases hs
    exact ⟨henv, hterm⟩
  | cons i rest ih =>
    obtain ⟨part, hpart, hrest⟩ := at?_cons.1 hp
    obtain ⟨inner, part', hinner, hpart', hs⟩ := scope?_cons.1 hs
    obtain rfl := Option.some.inj (hpart.symm.trans hpart')
    exact ih (hterm.part (List.mem_of_getElem? hpart)) (hterm.partScope henv hinner) hrest hs

end Term

end StructuralTyping
