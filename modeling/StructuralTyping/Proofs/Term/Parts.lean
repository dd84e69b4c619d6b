/-
The parts of a node, in the order in which they are judged, and induction over them. A term is clean
if the types written in it are clean and each function names its parameters apart.
-/
import StructuralTyping.Proofs.Ty.Basic
import StructuralTyping.Term

namespace StructuralTyping.Term

variable {Loc : Type}

/-- The parts of a node in the order of evaluation. -/
def parts : Term Loc → List (Term Loc)
  | .bool .. | .number .. | .var .. => []
  | .ite cond thn els _ => [cond, thn, els]
  | .add left right _ => [left, right]
  | .func _ body _ => [body]
  | .call callee args _ => callee :: args
  | .seq body rest _ | .recFunc _ _ _ body rest _ => [body, rest]
  | .const _ init rest _ => [init, rest]
  | .objectNew props _ | .unionNew _ props _ _ => props.map Prod.snd
  | .objectGet object _ _ => [object]
  | .unionGet _ clauses _ => clauses.map Prod.snd

theorem sizeOf_lt_of_mem_parts {part term : Term Loc} (h : part ∈ term.parts) : sizeOf part < sizeOf term := by
  cases term with
  | bool | number | var => simp [parts] at h
  | ite | add | func | seq | const | recFunc | objectGet =>
    simp only [parts, List.mem_cons, List.not_mem_nil, or_false] at h
    rcases h with rfl | rfl | rfl <;> simp <;> omega
  | call callee args loc =>
    rcases List.mem_cons.1 h with rfl | h
    · simp; omega
    · have := List.sizeOf_lt_of_mem h
      simp; omega
  | objectNew | unionNew | unionGet =>
    obtain ⟨entry, hm, rfl⟩ := List.mem_map.1 h
    have := Dict.sizeOf_lt_of_mem hm
    simp; omega

/-- Terms are built from their parts. -/
@[elab_as_elim]
theorem partsInduction {motive : Term Loc → Prop}
    (step : ∀ term, (∀ part ∈ term.parts, motive part) → motive term) (term : Term Loc) : motive term :=
  step term fun part _ => partsInduction step part
termination_by sizeOf term
decreasing_by exact sizeOf_lt_of_mem_parts ‹part ∈ term.parts›

/-! ## Clean terms -/

mutual

/-- A term and all the terms in it. -/
def nodes : Term Loc → List (Term Loc)
  | .bool value loc => [.bool value loc]
  | .number value loc => [.number value loc]
  | .ite cond thn els loc => .ite cond thn els loc :: (nodes cond ++ nodes thn ++ nodes els)
  | .add left right loc => .add left right loc :: (nodes left ++ nodes right)
  | .var name loc => [.var name loc]
  | .func params body loc => .func params body loc :: nodes body
  | .call callee args loc => .call callee args loc :: (nodes callee ++ nodesArgs args)
  | .seq body rest loc => .seq body rest loc :: (nodes body ++ nodes rest)
  | .const name init rest loc => .const name init rest loc :: (nodes init ++ nodes rest)
  | .recFunc name params ret body rest loc =>
    .recFunc name params ret body rest loc :: (nodes body ++ nodes rest)
  | .objectNew props loc => .objectNew props loc :: nodesProps props
  | .objectGet object name loc => .objectGet object name loc :: nodes object
  | .unionNew label props type loc => .unionNew label props type loc :: nodesProps props
  | .unionGet subject clauses loc => .unionGet subject clauses loc :: nodesProps clauses

/-- All the terms in a list of arguments. -/
def nodesArgs : List (Term Loc) → List (Term Loc)
  | [] => []
  | arg :: rest => nodes arg ++ nodesArgs rest

/-- All the terms in a list of properties or clauses. -/
def nodesProps : List (String × Term Loc) → List (Term Loc)
  | [] => []
  | (_, term) :: rest => nodes term ++ nodesProps rest

end

theorem nodesArgs_eq (args : List (Term Loc)) : nodesArgs args = args.flatMap nodes := by
  induction args with
  | nil => rfl
  | cons arg rest ih => rw [nodesArgs, ih]; rfl

theorem nodesProps_eq (props : List (String × Term Loc)) : nodesProps props = (props.map Prod.snd).flatMap nodes := by
  induction props with
  | nil => rfl
  | cons prop rest ih => rw [nodesProps, ih]; rfl

theorem nodes_eq (term : Term Loc) : term.nodes = term :: term.parts.flatMap nodes := by
  cases term <;> simp [nodes, parts, nodesArgs_eq, nodesProps_eq]

theorem forall_nodes_iff {P : Term Loc → Prop} {term : Term Loc} :
    (∀ node ∈ term.nodes, P node) ↔ P term ∧ ∀ part ∈ term.parts, ∀ node ∈ part.nodes, P node := by
  rw [nodes_eq, List.forall_mem_cons]
  refine and_congr_right fun _ => ?_
  simp only [List.mem_flatMap]
  exact ⟨fun h part hp node hn => h node ⟨part, hp, hn⟩, fun h node ⟨part, hp, hn⟩ => h part hp node hn⟩

/-- The types written at a node. -/
def written : Term Loc → List Ty
  | .func params _ _ => params.map Prod.snd
  | .recFunc _ params ret _ _ _ => ret :: params.map Prod.snd
  | .unionNew _ _ type _ => [type]
  | _ => []

/-- All types written in a term have a property. -/
def Written (P : Ty → Prop) (term : Term Loc) : Prop := ∀ node ∈ term.nodes, ∀ type ∈ node.written, P type

instance (P : Ty → Prop) [DecidablePred P] (term : Term Loc) : Decidable (term.Written P) :=
  inferInstanceAs (Decidable (∀ node ∈ term.nodes, ∀ type ∈ node.written, P type))

theorem Written.here {P : Ty → Prop} {term : Term Loc} (h : term.Written P) : ∀ type ∈ term.written, P type :=
  (forall_nodes_iff.1 h).1

theorem Written.part {P : Ty → Prop} {part term : Term Loc} (h : term.Written P) (hp : part ∈ term.parts) :
    part.Written P :=
  (forall_nodes_iff.1 h).2 part hp

theorem Written.mono {P Q : Ty → Prop} {term : Term Loc} (h : term.Written P) (hPQ : ∀ type, P type → Q type) :
    term.Written Q :=
  fun node hn type ht => hPQ type (h node hn type ht)

/-- The types written at a node are clean, and the parameters of a function have distinct names. -/
def WellAnnotated : Term Loc → Prop
  | .func params _ _ => Dict.Proper Ty.Clean params
  | .recFunc _ params ret _ _ _ => Dict.Proper Ty.Clean params ∧ ret.Clean
  | .unionNew _ _ type _ => type.Clean
  | _ => True

instance : DecidablePred (@WellAnnotated Loc)
  | .func params _ _ => inferInstanceAs (Decidable (Dict.Proper Ty.Clean params))
  | .recFunc _ params ret _ _ _ => inferInstanceAs (Decidable (Dict.Proper Ty.Clean params ∧ ret.Clean))
  | .unionNew _ _ type _ => inferInstanceAs (Decidable type.Clean)
  | .bool .. | .number .. | .ite .. | .add .. | .var .. | .call .. | .seq .. | .const .. | .objectNew ..
  | .objectGet .. | .unionGet .. => inferInstanceAs (Decidable True)

/-- All nodes are well annotated. -/
def Clean (term : Term Loc) : Prop := ∀ node ∈ term.nodes, node.WellAnnotated

instance : DecidablePred (@Clean Loc) := fun term =>
  inferInstanceAs (Decidable (∀ node ∈ term.nodes, node.WellAnnotated))

theorem clean_iff {term : Term Loc} : term.Clean ↔ term.WellAnnotated ∧ ∀ part ∈ term.parts, part.Clean :=
  forall_nodes_iff

theorem Clean.annotated {term : Term Loc} (h : term.Clean) : term.WellAnnotated := (clean_iff.1 h).1

theorem Clean.part {part term : Term Loc} (h : term.Clean) (hp : part ∈ term.parts) : part.Clean :=
  (clean_iff.1 h).2 part hp

theorem Clean.written {term : Term Loc} (h : term.Clean) : term.Written Ty.Clean := by
  intro node hn type ht
  have ha := h node hn
  cases node with
  | func =>
    obtain ⟨p, hp, rfl⟩ := List.mem_map.1 ht
    exact ha.values p hp
  | recFunc =>
    rcases List.mem_cons.1 ht with rfl | ht
    · exact ha.2
    · obtain ⟨p, hp, rfl⟩ := List.mem_map.1 ht
      exact ha.1.values p hp
  | unionNew =>
    rw [List.mem_singleton.1 ht]
    exact ha
  | _ => cases ht

end StructuralTyping.Term
