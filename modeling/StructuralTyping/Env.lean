/-
Type environments: layers of dictionaries, innermost first. Extending puts a new layer on top and
leaves the old environment as it was. Laws: what `find?` finds after `bind`; a history of steps
(`Env.Step`) names each environment it makes by a number, the empty one being number 0.
-/
import StructuralTyping.Ty.Basic

namespace StructuralTyping

/-- Layers of bindings, innermost first. Within a layer names are distinct. -/
structure Env where
  layers : List (List (String × Ty))
  deriving Repr, Inhabited

/-- The name that an environment does not bind. -/
structure Absent where
  name : String
  deriving Repr, DecidableEq

namespace Env

/-- Nothing is bound. -/
def empty : Env := ⟨[]⟩

/-- A new layer of pairs, of which the last of equal names wins. -/
def extend (env : Env) (pairs : List (String × Ty)) : Env := ⟨Dict.ofPairs pairs :: env.layers⟩

/-- A new layer that binds one name. -/
def bind (env : Env) (name : String) (type : Ty) : Env := ⟨[(name, type)] :: env.layers⟩

/-- The environment of a mapping, if one is given. -/
def ofMapping : Option (List (String × Ty)) → Env
  | none => empty
  | some pairs => empty.extend pairs

/-- The innermost layer that knows the name decides. -/
def find? (env : Env) (name : String) : Option Ty := env.layers.findSome? (·.lookup name)

/-- The type bound to a name, or the very name if there is none. -/
def resolve (env : Env) (name : String) : Except Absent Ty :=
  match env.find? name with
  | some type => .ok type
  | none => .error ⟨name⟩

/-- Whether a name is bound. -/
def contains (env : Env) (name : String) : Bool := (env.find? name).isSome

@[simp] theorem find?_empty (name : String) : empty.find? name = none := rfl

@[simp] theorem find?_bind (env : Env) (name key : String) (type : Ty) :
    (env.bind name type).find? key = if key = name then some type else env.find? key := by
  by_cases h : key = name
  · simp [find?, bind, h]
  · have hb : (key == name) = false := by simp [h]
    simp [find?, bind, List.lookup_cons, h, hb]

/-! ## Histories -/

/-- One way to make an environment, from nothing or from an earlier one named by its number. -/
inductive Step where
  | mapping (pairs : Option (List (String × Ty)))
  | bind (on : Nat) (name : String) (type : Ty)
  | extend (on : Nat) (pairs : List (String × Ty))
  | same (on : Nat)
  deriving Repr

/-- The environment that a step makes, if the one it builds on has been made. -/
def Step.make (made : List Env) : Step → Option Env
  | .mapping pairs => some (ofMapping pairs)
  | .bind on name type => made[on]?.map (·.bind name type)
  | .extend on pairs => made[on]?.map (·.extend pairs)
  | .same on => made[on]?

/-- The environments after one more step; a step on a number not yet made adds none. -/
def Step.run (made : List Env) (step : Step) : List Env :=
  match step.make made with
  | some env => made ++ [env]
  | none => made

/-- The environments of a whole history, numbered from the empty one. -/
def history (steps : List Step) : List Env := steps.foldl Step.run [empty]

end Env

end StructuralTyping
