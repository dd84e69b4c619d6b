/-
The judgment of terms. There is one rule for each kind of node, parts are judged from left to
right, and the first failure met is the answer. Types agree when `Ty.equal` says so.
-/
import StructuralTyping.Ty.Equality
import StructuralTyping.Env
import StructuralTyping.Term
import StructuralTyping.Typing.Violation

namespace StructuralTyping

/-- Why a term has no type: a violation and the node it is blamed on, or names that had to be
distinct. A recorded failure is blamed on no node. -/
inductive Failure (Loc : Type) where
  | complaint (violation : Violation) (guilty : Option (Term Loc))
  | repeatedNames (fault : RepeatedNames)

/-- What is found about a term, or why it has no type. -/
abbrev Judgment (Loc : Type) := Except (Failure Loc)

variable {Loc α : Type}

/-- A violation blamed on a node. -/
def blame (violation : Violation) (guilty : Term Loc) : Judgment Loc α :=
  .error (.complaint violation (some guilty))

/-- A type made with a demand for distinct names. -/
def demandDistinct : Except RepeatedNames α → Judgment Loc α
  | .ok value => .ok value
  | .error fault => .error (.repeatedNames fault)

/-- A type that was looked up: a recorded failure fails again. -/
def Ty.judged : Ty → Judgment Loc Ty
  | .error nature => .error (.complaint (.recorded nature) none)
  | type => .ok type

/-- Accepts the type of an operand if it is a number. -/
def requireNumber (operand : Term Loc) : Ty → Judgment Loc Unit
  | .number => .ok ()
  | _ => blame .numberExpected operand

/-- The first declared name that is not among the supplied ones. -/
def firstMissing (declared supplied : List String) : Option String :=
  declared.find? fun name => !supplied.contains name

mutual

/-- The judgment of a term in an environment. -/
def Term.judge (env : Env) : Term Loc → Judgment Loc Ty
  | .bool _ _ => .ok .boolean
  | .number _ _ => .ok .number
  | .ite cond thn els loc => do
    match ← Term.judge env cond with
    | .boolean =>
      let thnType ← Term.judge env thn
      let elsType ← Term.judge env els
      if thnType.equal elsType then .ok thnType
      else blame .branchesDiffer (.ite cond thn els loc)
    | _ => blame .booleanExpected cond
  | .add left right _ => do
    requireNumber left (← Term.judge env left)
    requireNumber right (← Term.judge env right)
    .ok .number
  | .var name loc =>
    match env.find? name with
    | some type => type.judged
    | none => blame (.unknownVariable name) (.var name loc)
  | .func params body _ => do
    let ret ← Term.judge (env.extend params) body
    demandDistinct (Ty.mkFunc params ret)
  | .call callee args loc => do
    match ← Term.judge env callee with
    | .func params ret =>
      if params.length = args.length then
        Term.judgeArgs env params args
        ret.judged
      else blame .wrongArgumentCount (.call callee args loc)
    | _ => blame .functionExpected callee
  | .seq body rest _ => do
    let _ ← Term.judge env body
    Term.judge env rest
  | .const name init rest _ => do
    let type ← Term.judge env init
    Term.judge (env.bind name type) rest
  | .recFunc name params ret body rest loc => do
    let signature ← demandDistinct (Ty.mkFunc params ret)
    let bodyType ← Term.judge ((env.extend params).bind name signature) body
    if bodyType.equal ret then Term.judge (env.bind name signature) rest
    else blame .wrongReturnType (.recFunc name params ret body rest loc)
  | .objectNew props loc => do
    let types ← Term.judgeProps env (.objectNew props loc) [] props
    demandDistinct (Ty.mkObject types)
  | .objectGet object name loc => do
    match ← Term.judge env object with
    | .object props =>
      match props.lookup name with
      | some type => type.judged
      | none => blame (.unknownProperty name) (.objectGet object name loc)
    | _ => blame .objectExpected object
  | .unionNew label props type loc =>
    match type with
    | .union variants =>
      match variants.lookup label with
      | some declared => do
        Term.judgeSupplied env (.unionNew label props type loc) declared [] props
        match firstMissing (Dict.names declared) (Dict.names props) with
        | some name => blame (.missingProperty name) (.unionNew label props type loc)
        | none => .ok type
      | none => blame (.unknownVariant label) (.unionNew label props type loc)
    | _ => blame .unionRequired (.unionNew label props type loc)
  | .unionGet subject clauses loc =>
    match env.find? subject with
    | none => blame (.unknownVariable subject) (.unionGet subject clauses loc)
    | some (.union variants) => do
      let first ← Term.judgeClauses env subject variants [] none clauses
      if clauses.length = variants.length then
        match first with
        | some type => .ok type
        | none => blame .noClauses (.unionGet subject clauses loc)
      else blame .notExhaustive (.unionGet subject clauses loc)
    | some _ => blame (.subjectNotUnion subject) (.unionGet subject clauses loc)
termination_by structural term => term

/-- Each argument has the type of the parameter in its place. -/
def Term.judgeArgs (env : Env) (params : List (String × Ty)) :
    List (Term Loc) → Judgment Loc Unit
  | [] => .ok ()
  | arg :: args =>
    match params with
    | [] => .ok ()
    | (_, expected) :: others => do
      let type ← Term.judge env arg
      if type.equal expected then Term.judgeArgs env others args
      else blame .argumentMismatch arg
termination_by structural args => args

/-- The types of the properties of a new object, after those in `done`. A name may not come
twice. -/
def Term.judgeProps (env : Env) (whole : Term Loc) (done : List (String × Ty)) :
    List (String × Term Loc) → Judgment Loc (List (String × Ty))
  | [] => .ok done
  | (name, term) :: rest =>
    if (Dict.names done).contains name then blame (.duplicateProperty name) whole
    else do
      let type ← Term.judge env term
      Term.judgeProps env whole (done ++ [(name, type)]) rest
termination_by structural props => props

/-- Each property supplied to a variant is new, declared, and of the declared type. -/
def Term.judgeSupplied (env : Env) (whole : Term Loc) (declared : List (String × Ty))
    (supplied : List String) : List (String × Term Loc) → Judgment Loc Unit
  | [] => .ok ()
  | (name, term) :: rest =>
    if supplied.contains name then blame (.duplicateProperty name) whole
    else
      match declared.lookup name with
      | none => blame (.unknownProperty name) whole
      | some expected => do
        let type ← Term.judge env term
        if type.equal expected then
          Term.judgeSupplied env whole declared (supplied ++ [name]) rest
        else blame (.propertyMismatch name) whole
termination_by structural props => props

/-- The type of the first clause, with which all others agree. Within a clause the subject is an
object with the properties of the clause's variant. -/
def Term.judgeClauses (env : Env) (subject : String)
    (variants : List (String × List (String × Ty))) (seen : List String) (first : Option Ty) :
    List (String × Term Loc) → Judgment Loc (Option Ty)
  | [] => .ok first
  | (label, term) :: rest =>
    match variants.lookup label with
    | none => blame (.noSuchCase label) term
    | some props =>
      if seen.contains label then blame (.duplicateCase label) term
      else do
        let narrowed ← demandDistinct (Ty.mkObject props)
        let type ← Term.judge (env.bind subject narrowed) term
        match first with
        | none => Term.judgeClauses env subject variants (seen ++ [label]) (some type) rest
        | some seed =>
          if type.equal seed then
            Term.judgeClauses env subject variants (seen ++ [label]) (some seed) rest
          else blame .clausesDiffer term
termination_by structural clauses => clauses

end

end StructuralTyping
