/-
JSON values. Objects keep their fields in written order with distinct names; integers and
double-precision numbers are told apart. A value that is empty, zero, false or null is blank.
-/
import StructuralTyping.Dict
import StructuralTyping.Decimal.Numeral

namespace StructuralTyping

/-- JSON values. -/
inductive Json where
  | null
  | bool (value : Bool)
  | number (value : Numeral)
  | text (value : String)
  | array (items : List Json)
  | object (fields : List (String × Json))
  deriving Repr, Inhabited

namespace Json

/-- Whether a value holds nothing: null, false, zero, or an empty text, array or object. -/
def isBlank : Json → Bool
  | .null => true
  | .bool value => !value
  | .number value => value.isZero
  | .text value => value.isEmpty
  | .array items => items.isEmpty
  | .object fields => fields.isEmpty

/-- The field of an object. -/
def field? (value : Json) (key : String) : Option Json :=
  match value with
  | .object fields => fields.lookup key
  | _ => none

theorem sizeOf_lookup {fields : List (String × Json)} {key : String} {value : Json}
    (h : fields.lookup key = some value) : sizeOf value < sizeOf fields := by
  induction fields with
  | nil => simp at h
  | cons entry rest ih =>
    obtain ⟨k, v⟩ := entry
    rw [List.lookup_cons] at h
    split at h
    · cases h
      simp only [List.cons.sizeOf_spec, Prod.mk.sizeOf_spec]
      omega
    · have := ih h
      simp only [List.cons.sizeOf_spec, Prod.mk.sizeOf_spec]
      omega

/-- A field is smaller than its object. -/
theorem sizeOf_field? {value part : Json} {key : String} (h : value.field? key = some part) :
    sizeOf part < sizeOf value := by
  unfold field? at h
  split at h
  · have := sizeOf_lookup h
    simp only [Json.object.sizeOf_spec]
    omega
  · cases h

end Json

end StructuralTyping
