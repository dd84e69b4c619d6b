/-
What can be wrong with a term, and the words for it. A violation names the rule that is broken; a
thing that the rule is about is named after a colon.
-/
namespace StructuralTyping

/-- The ways in which a term fails to be well-typed. `recorded` is a failure that a type brought
along from outside. -/
inductive Violation where
  | booleanExpected
  | branchesDiffer
  | numberExpected
  | unknownVariable (name : String)
  | wrongReturnType
  | functionExpected
  | wrongArgumentCount
  | argumentMismatch
  | duplicateProperty (name : String)
  | objectExpected
  | unknownProperty (name : String)
  | unionRequired
  | unknownVariant (label : String)
  | propertyMismatch (name : String)
  | missingProperty (name : String)
  | subjectNotUnion (name : String)
  | noSuchCase (label : String)
  | duplicateCase (label : String)
  | clausesDiffer
  | notExhaustive
  | noClauses
  | recorded (nature : String)
  deriving Repr, DecidableEq

/-- The nature of a violation, in words. -/
def Violation.nature : Violation → String
  | .booleanExpected => "boolean type expected"
  | .branchesDiffer => "then and else have different types"
  | .numberExpected => "number expected"
  | .unknownVariable name => "unknown variable: " ++ name
  | .wrongReturnType => "wrong return type"
  | .functionExpected => "function type expected"
  | .wrongArgumentCount => "wrong number of arguments"
  | .argumentMismatch => "parameter type mismatch"
  | .duplicateProperty name => "duplicate property name: " ++ name
  | .objectExpected => "object type expected"
  | .unknownProperty name => "unknown property name: " ++ name
  | .unionRequired => "\"as\" must have a tagged union type"
  | .unknownVariant label => "unknown variant label: " ++ label
  | .propertyMismatch name => "property type mismatch for property: " ++ name
  | .missingProperty name => "missing property name: " ++ name
  | .subjectNotUnion name => "variable " ++ name ++ " must have a tagged union type"
  | .noSuchCase label => "tagged union has no case: " ++ label
  | .duplicateCase label => "duplicate case: " ++ label
  | .clausesDiffer => "clauses has different type"
  | .notExhaustive => "switch case is not exhaustive"
  | .noClauses => "switch has no clauses"
  | .recorded nature => nature

end StructuralTyping
