/-
Putting a term in the place of a variable, where the variable is free. The subject of a match is a name
and stays. When the variable is the subject of no match and no binder on the way captures a free name
of the new term, the variable can be inlined.
-/
import StructuralTyping.Proofs.Term.Free

namespace StructuralTyping.Term

variable {Loc : Type}

mutual

/-- The term with a new one for every free occurrence of a variable. -/
def subst (x : String) (new : Term Loc) : Term Loc → Term Loc
  | .bool value loc => .bool value loc
  | .number value loc => .number value loc
  | .ite cond thn els loc => .ite (subst x new cond) (subst x new thn) (subst x new els) loc
  | .add left right loc => .add (subst x new left) (subst x new right) loc
  | .var name loc => if name = x then new else .var name loc
  | .func params body loc => .func params (if x ∈ Dict.names params then body else subst x new body) loc
  | .call callee args loc => .call (subst x new callee) (substArgs x new args) loc
  | .seq body rest loc => .seq (subst x new body) (subst x new rest) loc
  | .const name init rest loc =>
    .const name (subst x new init) (if x ∈ [name] then rest else subst x new rest) loc
  | .recFunc name params ret body rest loc =>
    .recFunc name params ret (if x ∈ name :: Dict.names params then body else subst x new body)
      (if x ∈ [name] then rest else subst x new rest) loc
  | .objectNew props loc => .objectNew (substProps x new props) loc
  | .objectGet object name loc => .objectGet (subst x new object) name loc
  | .unionNew label props type loc => .unionNew label (substProps x new props) type loc
  | .unionGet subject clauses loc =>
    .unionGet subject (if x ∈ [subject] then clauses else substProps x new clauses) loc

/-- In every argument. -/
def substArgs (x : String) (new : Term Loc) : List (Term Loc) → List (Term Loc)
  | [] => []
  | arg :: rest => subst x new arg :: substArgs x new rest

/-- In every property or clause. -/
def substProps (x : String) (new : Term Loc) : List (String × Term Loc) → List (String × Term Loc)
  | [] => []
  | (name, term) :: rest => (name, subst x new term) :: substProps x new rest

end

variable {x : String} {new : Term Loc}

theorem substArgs_eq (args : List (Term Loc)) : substArgs x new args = args.map (subst x new) := by
  induction args with
  | nil => rfl
  | cons arg rest ih => rw [substArgs, ih]; rfl

theorem substProps_eq (props : List (String × Term Loc)) :
    substProps x new props = Dict.mapValues (subst x new) props := by
  induction props with
  | nil => rfl
  | cons prop rest ih => rw [substProps, ih]; rfl

/-- Where the variable is free it is the subject of no match, and nothing that is bound on the way there
is free in the new term. -/
structure Inlinable (x : String) (new term : Term Loc) : Prop where
  subject : ∀ p clauses loc, term.at? p = some (.unionGet x clauses loc) → x ∈ term.boundAt p
  capture : ∀ p loc, term.at? p = some (.var x loc) → x ∉ term.boundAt p →
    ∀ name ∈ new.free, name ∉ term.boundAt p

namespace Inlinable

variable {term sub : Term Loc} {i : Nat}

theorem part (h : Inlinable x new term) (hp : term.parts[i]? = some sub) (hx : x ∉ term.binders i) :
    Inlinable x new sub := by
  constructor
  · intro p clauses loc hn
    have hb := h.subject (i :: p) clauses loc (at?_cons.2 ⟨sub, hp, hn⟩)
    rw [boundAt_cons hp, List.mem_append] at hb
    exact hb.resolve_left hx
  · intro p loc hn hb name hm
    have hc := h.capture (i :: p) loc (at?_cons.2 ⟨sub, hp, hn⟩)
    simp only [boundAt_cons hp, List.mem_append, not_or] at hc
    exact (hc ⟨hx, hb⟩ name hm).2

/-- What a node binds for a part in which the variable is free is not free in the new term. -/
theorem avoids (h : Inlinable x new term) (hp : term.parts[i]? = some sub) (hx : x ∉ term.binders i)
    (hfree : x ∈ sub.free) : ∀ name ∈ new.free, name ∉ term.binders i := by
  obtain ⟨p, node, hn, hm, hb⟩ := mem_free_iff_at.1 hfree
  have hnode := at?_cons.2 ⟨sub, hp, hn⟩
  have hbound : x ∉ term.boundAt (i :: p) := by
    rw [boundAt_cons hp, List.mem_append, not_or]
    exact ⟨hx, hb⟩
  cases node with
  | var own loc =>
    obtain rfl := List.mem_singleton.1 hm
    intro name hname
    have hc := h.capture (i :: p) loc hnode hbound name hname
    rw [boundAt_cons hp, List.mem_append, not_or] at hc
    exact hc.1
  | unionGet subject clauses loc =>
    obtain rfl := List.mem_singleton.1 hm
    exact absurd (h.subject (i :: p) clauses loc hnode) hbound
  | _ => cases hm

end Inlinable

/-- The variable is replaced outside the function whose parameter has its name, and not inside. -/
example : subst "x" (.number (.int 1) ()) (.call (.func [("x", .number)] (.var "x" ()) ()) [.var "x" ()] ()) =
    .call (.func [("x", .number)] (.var "x" ()) ()) [.number (.int 1) ()] () := by
  rfl

end StructuralTyping.Term
