/-
Judging cannot go wrong on terms whose functions name their parameters apart: there is a type or a complaint,
and no demand for distinct names fails. Of a term in which some function repeats a parameter no type is ever
found, since a judgment that finds a type has visited every node. And the types that are found are clean.
-/
import StructuralTyping.Proofs.Tree.Reading
import StructuralTyping.Proofs.Typing.Blame
import StructuralTyping.Proofs.Typing.Order

namespace StructuralTyping

variable {Loc : Type}

namespace Term

variable {env : Env} {T : Ty} {term : Term Loc}

/-! ## Functions that name their parameters apart -/

/-- If the node is a function then no two of its parameters have one name. -/
def DistinctParams : Term Loc → Prop
  | .func params _ _ | .recFunc _ params _ _ _ _ => (Dict.names params).Nodup
  | _ => True

theorem wellAnnotated_iff :
    term.WellAnnotated ↔ (∀ type ∈ term.written, type.Clean) ∧ term.DistinctParams := by
  have hproper : ∀ params : List (String × Ty), Dict.Proper Ty.Clean params ↔
      (∀ type ∈ params.map Prod.snd, type.Clean) ∧ (Dict.names params).Nodup := by
    intro params
    rw [List.forall_mem_map]
    exact ⟨fun h => ⟨h.values, h.nodup⟩, fun h => ⟨h.2, h.1⟩⟩
  cases term with
  | func params => exact hproper params
  | recFunc name params ret =>
    rw [WellAnnotated, hproper, written, List.forall_mem_cons, DistinctParams]
    tauto
  | _ => simp [WellAnnotated, written, DistinctParams]

theorem clean_iff_written :
    term.Clean ↔ term.Written Ty.Clean ∧ ∀ node ∈ term.nodes, node.DistinctParams := by
  simp only [Clean, Written, wellAnnotated_iff]
  exact forall₂_and

/-- A node whose parts all have types is judged with a demand for distinct names. -/
theorem distinctParams_of_judge (h : judge env term = .ok T) : term.DistinctParams := by
  cases term with
  | func =>
    obtain ⟨-, -, hd, -⟩ := judge_func_ok.1 h
    exact hd
  | recFunc => exact (judge_recFunc_ok.1 h).1
  | _ => trivial

theorem distinctParams_nodes_of_judge (h : judge env term = .ok T) : ∀ node ∈ term.nodes, node.DistinctParams := by
  induction term using partsInduction generalizing env T with
  | step term ih =>
    refine forall_nodes_iff.2 ⟨distinctParams_of_judge h, fun part hm => ?_⟩
    obtain ⟨i, hp⟩ := List.mem_iff_getElem?.1 hm
    obtain ⟨inner, S, -, hj⟩ := exists_partScope h hp
    exact ih part hm hj

/-! ## Outcomes -/

/-- What is read from a tree names the parameters of functions apart. If a term does, then judging it finds a
type or a node to complain about; otherwise it finds no type. The types that are found hold no recorded failure
and repeat no name at any depth, and they are equal to themselves. -/
theorem judge_outcomes (henv : env.Clean) (hterm : term.Written Ty.Clean) :
    (∀ (reader : Tree.Reader) (value : Json) (read : Term (Option Span)), (reader.term value).2 = .ok read →
      read.Written Ty.Clean ∧ ∀ node ∈ read.nodes, node.DistinctParams) ∧
    ((∀ node ∈ term.nodes, node.DistinctParams) → (∃ T, judge env term = .ok T) ∨
      ∃ violation guilty, judge env term = .error (.complaint violation (some guilty))) ∧
    ((∃ node ∈ term.nodes, ¬ node.DistinctParams) → ∀ T, judge env term ≠ .ok T) ∧
    ∀ T, judge env term = .ok T → T.ErrorFree ∧ T.WellFormed ∧ T.equal T = true := by
  refine ⟨fun reader value read h => clean_iff_written.1 (Tree.Reader.clean_of_term h), fun hd => ?_, ?_,
    fun T h => ?_⟩
  · have hclean : term.Clean := clean_iff_written.2 ⟨hterm, hd⟩
    cases hj : judge env term with
    | ok T => exact .inl ⟨T, rfl⟩
    | error failure =>
      obtain ⟨violation, guilty, rfl, -⟩ := justified_of_judge henv hclean hj
      exact .inr ⟨violation, guilty, rfl⟩
  · rintro ⟨node, hm, hn⟩ T h
    exact hn (distinctParams_nodes_of_judge h node hm)
  · have hclean := judge_clean henv (clean_iff_written.2 ⟨hterm, distinctParams_nodes_of_judge h⟩) h
    exact ⟨hclean.2, hclean.1, hclean.same_refl⟩

/-- A parameter is repeated in a function that is never called. -/
theorem judge_outcomes_repeated :
    ¬ ∃ T, judge .empty (.const "f" (.func [("x", .number), ("x", .boolean)] (.var "x" ()) ())
      (.number (.int 1) ()) ()) = .ok T := by
  have hterm : (Term.const "f" (.func [("x", .number), ("x", .boolean)] (.var "x" ()) ())
    (.number (.int 1) ()) ()).Written Ty.Clean := by decide
  obtain ⟨-, -, hnone, -⟩ := judge_outcomes Env.clean_empty hterm
  rintro ⟨T, hT⟩
  refine hnone ⟨.func [("x", .number), ("x", .boolean)] (.var "x" ()) (), ?_, ?_⟩ T hT
  · simp [nodes]
  · simp [DistinctParams, Dict.names]

end Term

end StructuralTyping
