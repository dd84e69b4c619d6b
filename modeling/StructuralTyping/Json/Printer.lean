/-
Values as messages quote them: constants by name, numbers by their text, texts in quotes, and
arrays and objects in brackets in written order.
-/
import StructuralTyping.Json.Basic
import StructuralTyping.Text.Quoted

namespace StructuralTyping

mutual

/-- A value as messages quote it. -/
def Json.quoted : Json → String
  | .null => "None"
  | .bool value => if value then "True" else "False"
  | .number value => value.text
  | .text value => Text.quoted value
  | .array items => "[" ++ ", ".intercalate (Json.quotedItems items) ++ "]"
  | .object fields => "\x7b" ++ ", ".intercalate (Json.quotedFields fields) ++ "\x7d"

/-- Each item as messages quote it. -/
def Json.quotedItems : List Json → List String
  | [] => []
  | item :: rest => Json.quoted item :: Json.quotedItems rest

/-- Each field as messages quote it, the name in quotes before its value. -/
def Json.quotedFields : List (String × Json) → List String
  | [] => []
  | (name, value) :: rest =>
    (Text.quoted name ++ ": " ++ Json.quoted value) :: Json.quotedFields rest

end

end StructuralTyping
