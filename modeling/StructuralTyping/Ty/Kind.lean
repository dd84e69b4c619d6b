/-
The five kinds of type that can be written in a tree, each with its tag.
-/
namespace StructuralTyping.Ty

/-- The kinds of type that can be written. -/
inductive Kind where
  | boolean | number | func | object | union
  deriving Repr, DecidableEq

namespace Kind

/-- Every kind once. -/
def all : List Kind := [.boolean, .number, .func, .object, .union]

/-- The tag of a kind in a written tree. -/
def tag : Kind → String
  | .boolean => "Boolean"
  | .number => "Number"
  | .func => "Func"
  | .object => "Object"
  | .union => "TaggedUnion"

/-- The kind that a tag stands for. -/
def ofTag? (tag : String) : Option Kind := all.find? (·.tag == tag)

theorem ofTag?_tag (kind : Kind) : ofTag? kind.tag = some kind := by cases kind <;> decide

theorem tag_of_ofTag? {text : String} {kind : Kind} (h : ofTag? text = some kind) :
    kind.tag = text := by
  simpa using List.find?_some h

end Kind

end StructuralTyping.Ty
