/-
Scopes, as far as names go. A function binds its parameters for its body, a constant its name for the
rest, a recursive function its name for body and rest and its parameters for the body alone, and a match
binds its subject again for every clause. What is mentioned outside all scopes of its name is free.
Laws: free names part by part, and as the names mentioned at positions above which nothing binds them.
-/
import StructuralTyping.Proofs.Term.Position

namespace StructuralTyping.Term

variable {Loc : Type}

mutual

/-- The names that a term takes from its environment. -/
def free : Term Loc → List String
  | .bool .. | .number .. => []
  | .ite cond thn els _ => free cond ++ (free thn ++ free els)
  | .add left right _ => free left ++ free right
  | .var name _ => [name]
  | .func params body _ => (free body).filter (· ∉ Dict.names params)
  | .call callee args _ => free callee ++ freeArgs args
  | .seq body rest _ => free body ++ free rest
  | .const name init rest _ => free init ++ (free rest).filter (· ∉ [name])
  | .recFunc name params _ body rest _ =>
    (free body).filter (· ∉ name :: Dict.names params) ++ (free rest).filter (· ∉ [name])
  | .objectNew props _ => freeProps props
  | .objectGet object _ _ => free object
  | .unionNew _ props _ _ => freeProps props
  | .unionGet subject clauses _ => subject :: (freeProps clauses).filter (· ∉ [subject])

/-- The names that are free in some argument. -/
def freeArgs : List (Term Loc) → List String
  | [] => []
  | arg :: rest => free arg ++ freeArgs rest

/-- The names that are free in some property or clause. -/
def freeProps : List (String × Term Loc) → List String
  | [] => []
  | (_, term) :: rest => free term ++ freeProps rest

end

theorem freeArgs_eq (args : List (Term Loc)) : freeArgs args = args.flatMap free := by
  induction args with
  | nil => rfl
  | cons arg rest ih => rw [freeArgs, ih]; rfl

theorem freeProps_eq (props : List (String × Term Loc)) : freeProps props = (props.map Prod.snd).flatMap free := by
  induction props with
  | nil => rfl
  | cons prop rest ih => rw [freeProps, ih]; rfl

/-- The names that a node looks up itself. -/
def mentions : Term Loc → List String
  | .var name _ => [name]
  | .unionGet subject _ _ => [subject]
  | _ => []

/-- The names that a node binds for one of its parts. -/
def binders : Term Loc → Nat → List String
  | .func params _ _, _ => Dict.names params
  | .const name _ _ _, _ + 1 => [name]
  | .recFunc name params _ _ _ _, 0 => name :: Dict.names params
  | .recFunc name _ _ _ _ _, _ + 1 => [name]
  | .unionGet subject _ _, _ => [subject]
  | _, _ => []

/-! ## Part by part -/

section

variable {P : Nat → Term Loc → Prop}

theorem exists_part_cons {first : Term Loc} {rest : List (Term Loc)} :
    (∃ (i : Nat) (part : Term Loc), (first :: rest)[i]? = some part ∧ P i part) ↔
      P 0 first ∨ ∃ (i : Nat) (part : Term Loc), rest[i]? = some part ∧ P (i + 1) part := by
  constructor
  · rintro ⟨i, part, hp, h⟩
    cases i with
    | zero =>
      cases hp
      exact .inl h
    | succ i => exact .inr ⟨i, part, hp, h⟩
  · rintro (h | ⟨i, part, hp, h⟩)
    · exact ⟨0, first, rfl, h⟩
    · exact ⟨i + 1, part, hp, h⟩

theorem exists_part_mem {terms : List (Term Loc)} {Q : Term Loc → Prop} :
    (∃ (i : Nat) (part : Term Loc), terms[i]? = some part ∧ Q part) ↔ ∃ part ∈ terms, Q part := by
  simp only [List.mem_iff_getElem?]
  exact ⟨fun ⟨i, part, hp, h⟩ => ⟨part, ⟨i, hp⟩, h⟩, fun ⟨part, ⟨i, hp⟩, h⟩ => ⟨i, part, hp, h⟩⟩

end

theorem mem_free_iff {term : Term Loc} {name : String} : name ∈ term.free ↔ name ∈ term.mentions ∨
    ∃ (i : Nat) (part : Term Loc), term.parts[i]? = some part ∧ name ∈ part.free ∧ name ∉ term.binders i := by
  cases term with
  | bool | number | var => simp [free, mentions, parts]
  | ite | add | func | seq | const | recFunc | objectGet =>
    simp [free, mentions, parts, binders, exists_part_cons]
  | call => simp [free, freeArgs_eq, mentions, parts, binders, exists_part_cons, exists_part_mem]
  | objectNew | unionNew =>
    simp only [free, freeProps_eq, mentions, parts, binders, exists_part_mem]
    simp
  | unionGet =>
    simp only [free, freeProps_eq, mentions, parts, binders, exists_part_mem, ← and_assoc, exists_and_right]
    simp

/-- What is free in a part is free in the node, unless the node binds it there. -/
theorem mem_free_of_part {term part : Term Loc} {i : Nat} {name : String} (hp : term.parts[i]? = some part)
    (h : name ∈ part.free) (hb : name ∉ term.binders i) : name ∈ term.free :=
  mem_free_iff.2 (.inr ⟨i, part, hp, h, hb⟩)

/-! ## By positions -/

/-- The names that are bound on the way to a position. -/
def boundAt (term : Term Loc) : Position → List String
  | [] => []
  | i :: rest =>
    term.binders i ++
      match term.parts[i]? with
      | some part => part.boundAt rest
      | none => []

theorem boundAt_cons {term part : Term Loc} {i : Nat} (hp : term.parts[i]? = some part) (rest : Position) :
    term.boundAt (i :: rest) = term.binders i ++ part.boundAt rest := by
  rw [boundAt, hp]

/-- A name is free exactly if it is mentioned somewhere outside of its scopes. -/
theorem mem_free_iff_at {term : Term Loc} {name : String} : name ∈ term.free ↔
    ∃ p node, term.at? p = some node ∧ name ∈ node.mentions ∧ name ∉ term.boundAt p := by
  induction term using partsInduction with
  | step term ih =>
    rw [mem_free_iff]
    constructor
    · rintro (h | ⟨i, part, hp, h, hb⟩)
      · exact ⟨[], term, rfl, h, List.not_mem_nil⟩
      · obtain ⟨p, node, hn, hm, hf⟩ := (ih part (List.mem_of_getElem? hp)).1 h
        refine ⟨i :: p, node, at?_cons.2 ⟨part, hp, hn⟩, hm, ?_⟩
        rw [boundAt_cons hp, List.mem_append, not_or]
        exact ⟨hb, hf⟩
    · rintro ⟨p, node, hn, hm, hf⟩
      cases p with
      | nil =>
        cases hn
        exact .inl hm
      | cons i p =>
        obtain ⟨part, hp, hn⟩ := at?_cons.1 hn
        rw [boundAt_cons hp, List.mem_append, not_or] at hf
        exact .inr ⟨i, part, hp, (ih part (List.mem_of_getElem? hp)).2 ⟨p, node, hn, hm, hf.2⟩, hf.1⟩

/-- In a clause the subject is bound, so it is the match itself that takes it from outside. -/
example : free (.unionGet "shape" [("Dot", .var "shape" ()), ("Ring", .var "width" ())] ()) = ["shape", "width"] := by
  decide

end StructuralTyping.Term
