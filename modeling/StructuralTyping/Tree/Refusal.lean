/-
Why a written tree is refused, and where. A hint says what is wrong with a part of the tree. An
item of a list of named parts that is no object is not described by a hint: it is a stray, and
what is done about it depends on whether it could have held the key that was looked for.
-/
import StructuralTyping.Json.Printer
import StructuralTyping.Tree.Trail

namespace StructuralTyping.Tree

/-- What is wrong with a part of a tree. -/
inductive Hint where
  | noTag (got : Json)
  | unknownTypeTag (tag : String)
  | unknownTermTag (tag : String)
  | missingField (tag : Json) (key : String)
  | notList (key : String)
  | notName (key : String)
  | repeatedName (name : String)
  | repeatedVariant (label : String)
  | notNumber
  | malformedLocation (tag : Json)
  deriving Repr

/-- A hint in words. -/
def Hint.message : Hint → String
  | .noTag got => "Expected a node with a tag, got " ++ got.quoted ++ "."
  | .unknownTypeTag tag => "Unknown type tag " ++ Text.quoted tag ++ "."
  | .unknownTermTag tag => "Unknown term tag " ++ Text.quoted tag ++ "."
  | .missingField tag key =>
    "A " ++ tag.quoted ++ " node needs a " ++ Text.quoted key ++ " field."
  | .notList key => "Field " ++ Text.quoted key ++ " should be a list."
  | .notName key => "Field " ++ Text.quoted key ++ " should be a name."
  | .repeatedName name => "The name " ++ Text.quoted name ++ " appears twice."
  | .repeatedVariant label => "Variant " ++ Text.quoted label ++ " appears twice."
  | .notNumber => "A number literal needs a number."
  | .malformedLocation tag => "Malformed location tag " ++ tag.quoted ++ "."

/-- A value where an object should be: it has no contents to look a key up in, or it is a text or
an array and the key is among its contents or not. -/
inductive Stray where
  | plain
  | holdsKey
  | lacksKey
  deriving Repr, DecidableEq

/-- Whether a text stands somewhere within another. -/
def occursIn (part : List Char) : List Char → Bool
  | [] => part.isEmpty
  | c :: rest => part.isPrefixOf (c :: rest) || occursIn part rest

/-- Which stray a value is when a key is looked for. -/
def Stray.of (value : Json) (key : String) : Stray :=
  match value with
  | .text text => if occursIn key.toList text.toList then .holdsKey else .lacksKey
  | .array items =>
    let isKey : Json → Bool := fun item =>
      match item with
      | .text text => text == key
      | _ => false
    if items.any isKey then .holdsKey else .lacksKey
  | _ => .plain

/-- Why reading stops. -/
inductive Cause where
  | hint (hint : Hint)
  | stray (stray : Stray)
  deriving Repr

/-- A refusal: where reading stops, and why. -/
structure Refusal where
  trail : Trail
  cause : Cause
  deriving Repr

/-- What is read from a part of a tree. -/
abbrev Reading := Except Refusal

/-- Stops reading at a place with a hint. -/
def refuse {α : Type} (trail : Trail) (hint : Hint) : Reading α := .error ⟨trail, .hint hint⟩

/-! ## Fields -/

/-- A field that has to be there. -/
def field (trail : Trail) (node : Json) (key : String) :
    Reading { part : Json // sizeOf part < sizeOf node } :=
  match h : node.field? key with
  | some part => .ok ⟨part, Json.sizeOf_field? h⟩
  | none =>
    match node with
    | .object _ => refuse trail (.missingField ((node.field? "tag").getD .null) key)
    | _ => .error ⟨trail, .stray (.of node key)⟩

/-- A field that has to hold a list. -/
def list (trail : Trail) (node : Json) (key : String) :
    Reading { items : List Json // sizeOf items < sizeOf node } := do
  match ← field trail node key with
  | ⟨.array items, h⟩ => return ⟨items, by simp only [Json.array.sizeOf_spec] at h; omega⟩
  | _ => refuse trail (.notList key)

/-- A field that has to hold a name. -/
def name (trail : Trail) (node : Json) (key : String) : Reading String := do
  match ← field trail node key with
  | ⟨.text text, _⟩ => return text
  | _ => refuse trail (.notName key)

/-- The tag of a node. -/
def tagOf (trail : Trail) (node : Json) : Reading String :=
  match node.field? "tag" with
  | some (.text tag) => .ok tag
  | _ => refuse trail (.noTag node)

end StructuralTyping.Tree
