/-
Trails: where a part stands within a written tree, as the steps that lead to it. Law: a trail
followed from a value selects one part of it or none.
-/
import StructuralTyping.Json.Basic

namespace StructuralTyping.Tree

/-- A step into an object: to a field, or to an item of the list in a field. -/
inductive Step where
  | field (key : String)
  | item (key : String) (index : Nat)
  deriving Repr, DecidableEq

/-- The text of a step. -/
def Step.text : Step → String
  | .field key => key
  | .item key index => key ++ "[" ++ toString index ++ "]"

/-- The part that a step selects. -/
def Step.follow (value : Json) : Step → Option Json
  | .field key => value.field? key
  | .item key index =>
    match value.field? key with
    | some (.array items) => items[index]?
    | _ => none

/-- The steps from the outermost value to a part. -/
abbrev Trail := List Step

/-- The text of a trail; without steps it is the top. -/
def Trail.text (trail : Trail) : String :=
  if trail.isEmpty then "the top" else "/".intercalate (trail.map Step.text)

/-- The part that a trail selects. -/
def Trail.follow (value : Json) : Trail → Option Json
  | [] => some value
  | step :: rest => (step.follow value).bind (Trail.follow · rest)

theorem Trail.follow_append (value : Json) (trail rest : Trail) :
    Trail.follow value (trail ++ rest) = (Trail.follow value trail).bind (Trail.follow · rest) := by
  induction trail generalizing value with
  | nil => rfl
  | cons step trail ih =>
    simp only [List.cons_append, Trail.follow]
    cases step.follow value with
    | none => rfl
    | some part => exact ih part

end StructuralTyping.Tree
