/-
Structural equality of types. The shape of the expected type picks the rule and the actual type
rides along. The order of properties and of variants is free, parameter names are free, and a
recorded failure equals nothing.
-/
import StructuralTyping.Ty.Basic

namespace StructuralTyping

mutual

/-- Whether an actual type is the same structure as the expected one. -/
def Ty.equal (actual : Ty) : Ty → Bool
  | .boolean =>
    match actual with
    | .boolean => true
    | _ => false
  | .number =>
    match actual with
    | .number => true
    | _ => false
  | .func params ret =>
    match actual with
    | .func ownParams ownRet => Ty.equalParams ownParams params && Ty.equal ownRet ret
    | _ => false
  | .object props =>
    match actual with
    | .object ownProps => ownProps.length == props.length && Ty.equalProps ownProps props
    | _ => false
  | .union variants =>
    match actual with
    | .union ownVariants =>
      ownVariants.length == variants.length && Ty.equalVariants ownVariants variants
    | _ => false
  | .error _ => false
termination_by structural expected => expected

/-- Parameters agree one for one, by place; their names do not matter. -/
def Ty.equalParams (actual : List (String × Ty)) : List (String × Ty) → Bool
  | [] => actual.isEmpty
  | (_, expected) :: rest =>
    match actual with
    | [] => false
    | (_, own) :: others => Ty.equal own expected && Ty.equalParams others rest
termination_by structural expected => expected

/-- Every expected property finds its namesake among the actual ones. -/
def Ty.equalProps (actual : List (String × Ty)) : List (String × Ty) → Bool
  | [] => true
  | (name, expected) :: rest =>
    (match actual.lookup name with
      | some own => Ty.equal own expected
      | none => false) && Ty.equalProps actual rest
termination_by structural expected => expected

/-- Every expected variant finds its namesake, with the same properties. -/
def Ty.equalVariants (actual : List (String × List (String × Ty))) :
    List (String × List (String × Ty)) → Bool
  | [] => true
  | (label, expected) :: rest =>
    (match actual.lookup label with
      | some own => own.length == expected.length && Ty.equalProps own expected
      | none => false) && Ty.equalVariants actual rest
termination_by structural expected => expected

end

/-- A recorded failure is equal to no expected type. -/
theorem Ty.error_equal (nature : String) (expected : Ty) : (Ty.error nature).equal expected = false := by
  cases expected <;> simp [Ty.equal]

/-- No type is equal to an expected failure. -/
theorem Ty.equal_error (actual : Ty) (nature : String) : actual.equal (.error nature) = false := by
  simp [Ty.equal]

example : (Ty.error "lost").equal (.error "lost") = false := by cbv

end StructuralTyping
