/-
Positions in a term: which part to go to at each node on the way down. What stands at a position can
be replaced; the rest of the term stays, with its names and labels. One position precedes another
if it lies in an earlier part of the node at which their ways part.
-/
import StructuralTyping.Proofs.Term.Parts

namespace StructuralTyping

/-- The numbers of the parts to go to, from the root down. -/
abbrev Position := List Nat

/-- The second position lies wholly after the first: it is in a later part of a common node. -/
def Position.Precedes : Position → Position → Prop
  | i :: p, j :: q => i < j ∨ i = j ∧ Precedes p q
  | _, _ => False

instance Position.decidablePrecedes : (p q : Position) → Decidable (p.Precedes q)
  | [], _ => inferInstanceAs (Decidable False)
  | _ :: _, [] => inferInstanceAs (Decidable False)
  | i :: p, j :: q =>
    have := decidablePrecedes p q
    inferInstanceAs (Decidable (i < j ∨ i = j ∧ Precedes p q))

namespace Term

variable {Loc : Type}

/-- The term at a position. -/
def at? (term : Term Loc) : Position → Option (Term Loc)
  | [] => some term
  | i :: rest => term.parts[i]?.bind fun part => part.at? rest

theorem at?_cons {term node : Term Loc} {i : Nat} {rest : Position} :
    term.at? (i :: rest) = some node ↔ ∃ part, term.parts[i]? = some part ∧ part.at? rest = some node := by
  rw [at?, Option.bind_eq_some_iff]

/-! ## Other parts -/

/-- Other terms under the same names. -/
def renew (props : List (String × Term Loc)) (terms : List (Term Loc)) : List (String × Term Loc) :=
  (Dict.names props).zip terms

variable {props : List (String × Term Loc)} {terms : List (Term Loc)}

theorem map_snd_renew (h : terms.length = props.length) : (renew props terms).map Prod.snd = terms :=
  List.map_snd_zip (by rw [Dict.length_names, h])

theorem renew_take {i : Nat} (h : terms.take i = (props.map Prod.snd).take i) :
    (renew props terms).take i = props.take i := by
  rw [renew, List.zip, List.take_zipWith, h, Dict.names, ← List.map_take, ← List.map_take]
  exact (List.zip_of_prod rfl rfl).symm

theorem renew_getElem? {i : Nat} {prop : String × Term Loc} {term : Term Loc} (hp : props[i]? = some prop)
    (ht : terms[i]? = some term) : (renew props terms)[i]? = some (prop.1, term) :=
  List.getElem?_zip_eq_some.2 ⟨by simp [Dict.names, hp], ht⟩

theorem forall₂_of_getElem? {α β : Type} {R : α → β → Prop} {xs : List α} {ys : List β} (hl : xs.length = ys.length)
    (h : ∀ (i : Nat) (x : α) (y : β), xs[i]? = some x → ys[i]? = some y → R x y) : List.Forall₂ R xs ys :=
  List.forall₂_iff_get.2 ⟨hl, fun i hx hy => h i _ _ (List.getElem?_eq_getElem hx) (List.getElem?_eq_getElem hy)⟩

/-- Related terms under the names that were there. -/
theorem forall₂_renew {R : String × Term Loc → Term Loc → Prop} (hl : terms.length = props.length)
    (h : ∀ (i : Nat) (prop : String × Term Loc) (term : Term Loc), props[i]? = some prop → terms[i]? = some term →
      R prop term) :
    List.Forall₂ (fun prop new => prop.1 = new.1 ∧ R prop new.2) props (renew props terms) := by
  refine forall₂_of_getElem? (by simp [renew, hl]) fun i prop new hp hn => ?_
  have hi : i < terms.length := hl ▸ (List.getElem?_eq_some_iff.1 hp).1
  rw [renew_getElem? hp (List.getElem?_eq_getElem hi)] at hn
  cases hn
  exact ⟨rfl, h i prop _ hp (List.getElem?_eq_getElem hi)⟩

/-- A node with other parts, as many as it has. Names, labels and written types stay. -/
def withParts : Term Loc → List (Term Loc) → Term Loc
  | .ite _ _ _ loc, [cond, thn, els] => .ite cond thn els loc
  | .add _ _ loc, [left, right] => .add left right loc
  | .func params _ loc, [body] => .func params body loc
  | .call _ _ loc, callee :: args => .call callee args loc
  | .seq _ _ loc, [body, rest] => .seq body rest loc
  | .const name _ _ loc, [init, rest] => .const name init rest loc
  | .recFunc name params ret _ _ loc, [body, rest] => .recFunc name params ret body rest loc
  | .objectNew props loc, terms => .objectNew (renew props terms) loc
  | .objectGet _ name loc, [object] => .objectGet object name loc
  | .unionNew label props type loc, terms => .unionNew label (renew props terms) type loc
  | .unionGet subject clauses loc, terms => .unionGet subject (renew clauses terms) loc
  | term, _ => term

theorem parts_withParts {term : Term Loc} {terms : List (Term Loc)} (h : terms.length = term.parts.length) :
    (term.withParts terms).parts = terms := by
  cases term with
  | bool | number | var => exact (List.length_eq_zero_iff.1 h).symm
  | ite => obtain ⟨_, _, _, rfl⟩ := List.length_eq_three.1 h; rfl
  | add | seq | const | recFunc => obtain ⟨_, _, rfl⟩ := List.length_eq_two.1 h; rfl
  | func | objectGet => obtain ⟨_, rfl⟩ := List.length_eq_one_iff.1 h; rfl
  | call => obtain ⟨_, _, rfl⟩ := List.exists_cons_of_length_eq_add_one h; rfl
  | objectNew | unionNew | unionGet => exact map_snd_renew (by simpa [parts] using h)

theorem withParts_parts (term : Term Loc) : term.withParts term.parts = term := by
  cases term with
  | objectNew props | unionNew _ props | unionGet _ props =>
    have hprops : renew props (props.map Prod.snd) = props := (List.zip_of_prod rfl rfl).symm
    simp only [withParts, parts, hprops]
  | _ => rfl

theorem withParts_withParts {term : Term Loc} {terms others : List (Term Loc)}
    (h : terms.length = term.parts.length) (ho : others.length = term.parts.length) :
    (term.withParts terms).withParts others = term.withParts others := by
  cases term with
  | bool | number | var => rfl
  | ite =>
    obtain ⟨_, _, _, rfl⟩ := List.length_eq_three.1 h
    obtain ⟨_, _, _, rfl⟩ := List.length_eq_three.1 ho
    rfl
  | add | seq | const | recFunc =>
    obtain ⟨_, _, rfl⟩ := List.length_eq_two.1 h
    obtain ⟨_, _, rfl⟩ := List.length_eq_two.1 ho
    rfl
  | func | objectGet =>
    obtain ⟨_, rfl⟩ := List.length_eq_one_iff.1 h
    obtain ⟨_, rfl⟩ := List.length_eq_one_iff.1 ho
    rfl
  | call =>
    obtain ⟨_, _, rfl⟩ := List.exists_cons_of_length_eq_add_one h
    obtain ⟨_, _, rfl⟩ := List.exists_cons_of_length_eq_add_one ho
    rfl
  | objectNew | unionNew | unionGet =>
    simp only [withParts, renew, Dict.names]
    rw [List.map_fst_zip (by simpa [parts] using h.ge)]

/-! ## Replacement -/

/-- The term with another one put at a position, if there is such a position. -/
def put (term : Term Loc) : Position → Term Loc → Term Loc
  | [], new => new
  | i :: rest, new =>
    match term.parts[i]? with
    | some part => term.withParts (term.parts.set i (part.put rest new))
    | none => term

/-- Several replacements, one after the other. -/
def putAll (term : Term Loc) (edits : List (Position × Term Loc)) : Term Loc :=
  edits.foldl (fun other edit => other.put edit.1 edit.2) term

/-- `Altered new p term other`: the other term has `new` at `p`. It is like the first one before `p`;
what comes after `p` does not matter. -/
inductive Altered (new : Term Loc) : Position → Term Loc → Term Loc → Prop where
  | here {term} : Altered new [] term new
  | part {i p} {term old part : Term Loc} {terms} : term.parts[i]? = some old → terms[i]? = some part →
      terms.length = term.parts.length → terms.take i = term.parts.take i → Altered new p old part →
      Altered new (i :: p) term (term.withParts terms)

theorem altered_put {term old : Term Loc} {p : Position} (h : term.at? p = some old) (new : Term Loc) :
    Altered new p term (term.put p new) := by
  induction p generalizing term with
  | nil => exact .here
  | cons i rest ih =>
    obtain ⟨part, hp, hrest⟩ := at?_cons.1 h
    have hi := (List.getElem?_eq_some_iff.1 hp).1
    simp only [put, hp]
    exact .part hp (List.getElem?_set_self hi) List.length_set (List.take_set_of_le le_rfl) (ih hrest)

theorem Altered.put {new term other : Term Loc} {p q : Position} (h : Altered new p term other) (hq : p.Precedes q)
    (later : Term Loc) : Altered new p term (other.put q later) := by
  induction h generalizing q with
  | here => cases hq
  | @part i p term old part terms ho hp hl ht h ih =>
    cases q with
    | nil => cases hq
    | cons j q =>
      rw [Term.put, parts_withParts hl]
      cases hj : terms[j]? with
      | none => exact .part ho hp hl ht h
      | some next =>
        have hset : ∀ x, (terms.set j x).length = term.parts.length := fun x => by rw [List.length_set, hl]
        dsimp only
        rw [withParts_withParts hl (hset _)]
        rcases hq with hij | ⟨rfl, hpq⟩
        -- a later part of this node, then a later position in the same part
        · refine .part ho ?_ (hset _) ?_ h
          · rw [List.getElem?_set_ne hij.ne', hp]
          · rw [List.take_set_of_le hij.le, ht]
        · rw [hp, Option.some.injEq] at hj
          subst hj
          refine .part ho (List.getElem?_set_self (List.getElem?_eq_some_iff.1 hp).1) (hset _) ?_ (ih hpq)
          rw [List.take_set_of_le le_rfl, ht]

theorem Altered.putAll {new term other : Term Loc} {p : Position} (h : Altered new p term other)
    {edits : List (Position × Term Loc)} (he : ∀ edit ∈ edits, p.Precedes edit.1) :
    Altered new p term (other.putAll edits) := by
  induction edits generalizing other with
  | nil => exact h
  | cons edit rest ih =>
    rw [List.forall_mem_cons] at he
    exact ih (h.put he.1 edit.2) he.2

end Term

end StructuralTyping
