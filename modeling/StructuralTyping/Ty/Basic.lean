/-
The types of the language. Names are distinct within each list of parameters or properties and
labels within each union: the `mk` functions are the way in and refuse anything else. A type may
hold recorded failures (`Ty.error`) at any depth; they arrive only from outside.
-/
import StructuralTyping.Dict

namespace StructuralTyping

/-- Structural types. Parameters and properties are written in order, with their names. -/
inductive Ty where
  | boolean
  | number
  | func (params : List (String × Ty)) (ret : Ty)
  | object (props : List (String × Ty))
  | union (variants : List (String × List (String × Ty)))
  | error (nature : String)
  deriving Repr, Inhabited

/-- A list of names that should have been distinct, as it was written. -/
structure RepeatedNames where
  names : List String
  deriving Repr, DecidableEq

namespace Ty

/-- Whether a type is a recorded failure itself. What it holds deeper down does not count. -/
def isError : Ty → Bool
  | .error _ => true
  | _ => false

/-- Refuses a list of pairs whose names repeat. -/
def requireDistinct {α : Type} (entries : List (String × α)) : Except RepeatedNames Unit :=
  if (Dict.names entries).Nodup then .ok () else .error ⟨Dict.names entries⟩

/-- Refuses the first variant whose property names repeat. -/
def requireDistinctEach : List (String × List (String × Ty)) → Except RepeatedNames Unit
  | [] => .ok ()
  | (_, props) :: rest => do
    requireDistinct props
    requireDistinctEach rest

/-- A function type; its parameter names are distinct. -/
def mkFunc (params : List (String × Ty)) (ret : Ty) : Except RepeatedNames Ty := do
  requireDistinct params
  return .func params ret

/-- An object type; its property names are distinct. -/
def mkObject (props : List (String × Ty)) : Except RepeatedNames Ty := do
  requireDistinct props
  return .object props

/-- A union type; each variant's names are distinct, looked at in order, and then the labels. -/
def mkUnion (variants : List (String × List (String × Ty))) : Except RepeatedNames Ty := do
  requireDistinctEach variants
  requireDistinct variants
  return .union variants

theorem requireDistinct_eq_ok {α : Type} {entries : List (String × α)} :
    requireDistinct entries = .ok () ↔ (Dict.names entries).Nodup := by
  unfold requireDistinct
  split
  · simp_all
  · simp_all

end Ty

end StructuralTyping
