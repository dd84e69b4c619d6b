/-
The loops of the judgment as folds, each over one step, so that what is known of folds that can fail is
known of them.
-/
import StructuralTyping.Proofs.Typing.Success

namespace StructuralTyping.Term

variable {Loc : Type} (env : Env)

/-! ## The steps -/

/-- An argument has the type of its parameter. -/
def checkArg (arg : Term Loc) (expected : Ty) : Judgment Loc Unit := do
  let type ← judge env arg
  if type.equal expected then .ok () else blame .argumentMismatch arg

/-- A property of a new object joins those before it. -/
def addProp (whole : Term Loc) (done : List (String × Ty)) (prop : String × Term Loc) :
    Judgment Loc (List (String × Ty)) :=
  if (Dict.names done).contains prop.1 then blame (.duplicateProperty prop.1) whole
  else do
    let type ← judge env prop.2
    .ok (done ++ [(prop.1, type)])

/-- A property supplied to a variant is new, declared, and of the declared type. -/
def checkSupplied (whole : Term Loc) (declared : List (String × Ty)) (supplied : List String)
    (prop : String × Term Loc) : Judgment Loc (List String) :=
  if supplied.contains prop.1 then blame (.duplicateProperty prop.1) whole
  else
    match declared.lookup prop.1 with
    | none => blame (.unknownProperty prop.1) whole
    | some expected => do
      let type ← judge env prop.2
      if type.equal expected then .ok (supplied ++ [prop.1]) else blame (.propertyMismatch prop.1) whole

/-- A clause is for a new variant of the union, and its type is that of the first clause. -/
def checkClause (subject : String) (variants : List (String × List (String × Ty)))
    (state : List String × Option Ty) (clause : String × Term Loc) : Judgment Loc (List String × Option Ty) :=
  match variants.lookup clause.1 with
  | none => blame (.noSuchCase clause.1) clause.2
  | some props =>
    if state.1.contains clause.1 then blame (.duplicateCase clause.1) clause.2
    else do
      let narrowed ← demandDistinct (Ty.mkObject props)
      let type ← judge (env.bind subject narrowed) clause.2
      match state.2 with
      | none => .ok (state.1 ++ [clause.1], some type)
      | some seed =>
        if type.equal seed then .ok (state.1 ++ [clause.1], some seed) else blame .clausesDiffer clause.2

theorem judgeArgs_eq (params : List (String × Ty)) (args : List (Term Loc)) :
    judgeArgs env params args = (args.zip params).foldlM (fun _ pair => checkArg env pair.1 pair.2.2) () := by
  induction args generalizing params with
  | nil => rfl
  | cons arg rest ih =>
    cases params with
    | nil => rfl
    | cons p others =>
      rw [judgeArgs, List.zip_cons_cons, List.foldlM_cons, checkArg, bind_assoc]
      congr
      funext type
      split
      · exact ih others
      · rfl

theorem judgeProps_eq (whole : Term Loc) (done : List (String × Ty)) (props : List (String × Term Loc)) :
    judgeProps env whole done props = props.foldlM (addProp env whole) done := by
  induction props generalizing done with
  | nil => rfl
  | cons prop rest ih =>
    rw [judgeProps, List.foldlM_cons, addProp]
    split
    · rfl
    · rw [bind_assoc]
      congr
      funext type
      exact ih _

theorem judgeSupplied_eq (whole : Term Loc) (declared : List (String × Ty)) (supplied : List String)
    (props : List (String × Term Loc)) :
    judgeSupplied env whole declared supplied props =
      props.foldlM (checkSupplied env whole declared) supplied >>= fun _ => .ok () := by
  induction props generalizing supplied with
  | nil => rfl
  | cons prop rest ih =>
    rw [judgeSupplied, List.foldlM_cons, checkSupplied]
    split
    · rfl
    · cases declared.lookup prop.1 with
      | none => rfl
      | some expected =>
        dsimp only
        rw [bind_assoc, bind_assoc]
        congr
        funext type
        split
        · exact ih _
        · rfl

theorem judgeClauses_eq (subject : String) (variants : List (String × List (String × Ty))) (seen : List String)
    (first : Option Ty) (clauses : List (String × Term Loc)) :
    judgeClauses env subject variants seen first clauses =
      clauses.foldlM (checkClause env subject variants) (seen, first) >>= fun state => .ok state.2 := by
  induction clauses generalizing seen first with
  | nil => rfl
  | cons clause rest ih =>
    rw [judgeClauses, List.foldlM_cons, checkClause]
    cases variants.lookup clause.1 with
    | none => rfl
    | some props =>
      dsimp only
      split
      · rfl
      · simp only [bind_assoc]
        congr
        funext narrowed
        congr
        funext type
        cases first with
        | none => exact ih _ _
        | some seed =>
          dsimp only
          split
          · exact ih _ _
          · rfl

end StructuralTyping.Term
