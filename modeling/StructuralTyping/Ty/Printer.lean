/-
The written form of types, and the message for names that repeat. A union is its variants joined by
bars, or `never` if it has none; an object without properties is a pair of braces.
-/
import StructuralTyping.Ty.Basic
import StructuralTyping.Text.Quoted

namespace StructuralTyping

mutual

/-- The written form of a type. -/
def Ty.render : Ty → String
  | .boolean => "boolean"
  | .number => "number"
  | .func params ret =>
    "(" ++ ", ".intercalate (Ty.renderProps params) ++ ") => " ++ Ty.render ret
  | .object props =>
    if props.isEmpty then "\x7b\x7d"
    else "\x7b " ++ "; ".intercalate (Ty.renderProps props) ++ " \x7d"
  | .union variants =>
    if variants.isEmpty then "never" else " | ".intercalate (Ty.renderVariants variants)
  | .error nature => "-/error: " ++ nature ++ "/-"

/-- Each name with its type. -/
def Ty.renderProps : List (String × Ty) → List String
  | [] => []
  | (name, type) :: rest => (name ++ ": " ++ Ty.render type) :: Ty.renderProps rest

/-- Each variant as an object whose first property is its label. -/
def Ty.renderVariants : List (String × List (String × Ty)) → List String
  | [] => []
  | (label, props) :: rest =>
    ("\x7b " ++ "; ".intercalate (("tag: \"" ++ label ++ "\"") :: Ty.renderProps props) ++ " \x7d") ::
      Ty.renderVariants rest

end

/-- The message for repeated names lists all the names, as written. -/
def RepeatedNames.message (fault : RepeatedNames) : String := Text.quotedList fault.names

end StructuralTyping
