/-
Reading types. Names are distinct within each list of parameters or properties and labels within
each union; the first that comes again is refused. Fields that a type does not need are passed over.
-/
import StructuralTyping.Tree.Refusal
import StructuralTyping.Ty.Basic
import StructuralTyping.Ty.Kind

namespace StructuralTyping.Tree

mutual

/-- Reads a type. -/
def readType (trail : Trail) (node : Json) : Reading Ty := do
  let tag ← tagOf trail node
  match Ty.Kind.ofTag? tag with
  | none => refuse trail (.unknownTypeTag tag)
  | some .boolean => return .boolean
  | some .number => return .number
  | some .func =>
    let params ← readParams trail node "params"
    let ⟨part, _⟩ ← field trail node "retType"
    let ret ← readType (trail ++ [.field "retType"]) part
    return .func params ret
  | some .object =>
    let props ← readParams trail node "props"
    return .object props
  | some .union =>
    let ⟨items, _⟩ ← list trail node "variants"
    let variants ← readVariants trail [] items
    return .union variants
termination_by (sizeOf node, 1)

/-- Reads the list of names and types in a field. -/
def readParams (trail : Trail) (node : Json) (key : String) : Reading (List (String × Ty)) := do
  let ⟨items, _⟩ ← list trail node key
  readParamItems trail key [] items
termination_by (sizeOf node, 0)

/-- Reads names and types, after those in `done`. -/
def readParamItems (trail : Trail) (key : String) (done : List (String × Ty)) (items : List Json) :
    Reading (List (String × Ty)) := do
  match items with
  | [] => return done
  | item :: rest =>
    let here := trail ++ [.item key done.length]
    let name ← name here item "name"
    if (Dict.names done).contains name then refuse here (.repeatedName name)
    else
      let ⟨part, _⟩ ← field here item "type"
      let type ← readType (here ++ [.field "type"]) part
      readParamItems trail key (done ++ [(name, type)]) rest
termination_by (sizeOf items, 0)

/-- Reads variants, after those in `done`. -/
def readVariants (trail : Trail) (done : List (String × List (String × Ty))) (items : List Json) :
    Reading (List (String × List (String × Ty))) := do
  match items with
  | [] => return done
  | item :: rest =>
    let here := trail ++ [.item "variants" done.length]
    let label ← name here item "tagLabel"
    if (Dict.names done).contains label then refuse here (.repeatedVariant label)
    else
      let props ← readParams here item "props"
      readVariants trail (done ++ [(label, props)]) rest
termination_by (sizeOf items, 0)

end

end StructuralTyping.Tree
