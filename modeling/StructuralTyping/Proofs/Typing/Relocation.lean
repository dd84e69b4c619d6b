/-
Locations do not influence the judgment. Main statement: judging a term with other locations finds the same
type, or it fails in the same way and blames the same node, with its other location.
-/
import StructuralTyping.Proofs.Term.Parts
import StructuralTyping.Proofs.Term.Relocation
import StructuralTyping.Typing.Judge

namespace StructuralTyping

variable {α β γ δ : Type} {f : α → β}

/-- The failure, with the locations of the guilty node mapped. -/
def Failure.mapLoc (f : α → β) : Failure α → Failure β
  | .complaint violation guilty => .complaint violation (guilty.map (Term.mapLoc f))
  | .repeatedNames fault => .repeatedNames fault

/-- The judgment, with the locations of the guilty node mapped. -/
def relocate (f : α → β) : Judgment α γ → Judgment β γ
  | .ok found => .ok found
  | .error failure => .error (failure.mapLoc f)

theorem relocate_bind {x : Judgment α γ} {y : Judgment β γ} {g : γ → Judgment α δ} {h : γ → Judgment β δ}
    (hxy : y = relocate f x) (hgh : ∀ found, h found = relocate f (g found)) : y >>= h = relocate f (x >>= g) := by
  subst hxy
  cases x with
  | ok found => exact hgh found
  | error => rfl

theorem blame_mapLoc (f : α → β) (violation : Violation) (node : Term α) :
    (blame violation (node.mapLoc f) : Judgment β γ) = relocate f (blame violation node) := rfl

theorem demandDistinct_relocate (f : α → β) (made : Except RepeatedNames γ) :
    (demandDistinct made : Judgment β γ) = relocate f (demandDistinct made) := by
  cases made <;> rfl

theorem judged_relocate (f : α → β) (type : Ty) : (type.judged : Judgment β Ty) = relocate f type.judged := by
  cases type <;> rfl

theorem requireNumber_mapLoc (f : α → β) (operand : Term α) (type : Ty) :
    requireNumber (operand.mapLoc f) type = relocate f (requireNumber operand type) := by
  cases type <;> rfl

namespace Term

variable {env : Env}

/-! ## The loops -/

theorem judgeArgs_mapLoc {params : List (String × Ty)} {args : List (Term α)}
    (h : ∀ arg ∈ args, ∀ env, judge env (arg.mapLoc f) = relocate f (judge env arg)) :
    judgeArgs env params (args.map (mapLoc f)) = relocate f (judgeArgs env params args) := by
  induction args generalizing params with
  | nil => rfl
  | cons arg rest ih =>
    rw [List.forall_mem_cons] at h
    cases params with
    | nil => rfl
    | cons p others =>
      rw [List.map_cons, judgeArgs, judgeArgs]
      refine relocate_bind (h.1 env) fun type => ?_
      split
      · exact ih h.2
      · rfl

theorem judgeProps_mapLoc {whole : Term α} {done : List (String × Ty)} {props : List (String × Term α)}
    (h : ∀ prop ∈ props, ∀ env, judge env (prop.2.mapLoc f) = relocate f (judge env prop.2)) :
    judgeProps env (whole.mapLoc f) done (Dict.mapValues (mapLoc f) props) =
      relocate f (judgeProps env whole done props) := by
  induction props generalizing done with
  | nil => rfl
  | cons prop rest ih =>
    rw [List.forall_mem_cons] at h
    rw [Dict.mapValues, List.map_cons, judgeProps, judgeProps]
    split
    · rfl
    · exact relocate_bind (h.1 env) fun type => ih h.2

theorem judgeSupplied_mapLoc {whole : Term α} {declared : List (String × Ty)} {supplied : List String}
    {props : List (String × Term α)}
    (h : ∀ prop ∈ props, ∀ env, judge env (prop.2.mapLoc f) = relocate f (judge env prop.2)) :
    judgeSupplied env (whole.mapLoc f) declared supplied (Dict.mapValues (mapLoc f) props) =
      relocate f (judgeSupplied env whole declared supplied props) := by
  induction props generalizing supplied with
  | nil => rfl
  | cons prop rest ih =>
    rw [List.forall_mem_cons] at h
    rw [Dict.mapValues, List.map_cons, judgeSupplied, judgeSupplied]
    split
    · rfl
    · cases declared.lookup prop.1 with
      | none => rfl
      | some expected =>
        refine relocate_bind (h.1 env) fun type => ?_
        split
        · exact ih h.2
        · rfl

theorem judgeClauses_mapLoc {subject : String} {variants : List (String × List (String × Ty))} {seen : List String}
    {first : Option Ty} {clauses : List (String × Term α)}
    (h : ∀ clause ∈ clauses, ∀ env, judge env (clause.2.mapLoc f) = relocate f (judge env clause.2)) :
    judgeClauses env subject variants seen first (Dict.mapValues (mapLoc f) clauses) =
      relocate f (judgeClauses env subject variants seen first clauses) := by
  induction clauses generalizing seen first with
  | nil => rfl
  | cons clause rest ih =>
    rw [List.forall_mem_cons] at h
    rw [Dict.mapValues, List.map_cons, judgeClauses, judgeClauses]
    cases variants.lookup clause.1 with
    | none => rfl
    | some props =>
      dsimp only
      split
      · rfl
      · refine relocate_bind (demandDistinct_relocate f _) fun narrowed => ?_
        refine relocate_bind (h.1 _) fun type => ?_
        cases first with
        | none => exact ih h.2
        | some seed =>
          dsimp only
          split
          · exact ih h.2
          · rfl

/-! ## Terms -/

/-- Judging commutes with a change of locations. -/
theorem judge_mapLoc (f : α → β) (env : Env) (term : Term α) :
    judge env (term.mapLoc f) = relocate f (judge env term) := by
  induction term using partsInduction generalizing env with
  | step term ih =>
    have hprops : ∀ {props : List (String × Term α)}, term.parts = props.map Prod.snd →
        ∀ prop ∈ props, ∀ env, judge env (prop.2.mapLoc f) = relocate f (judge env prop.2) := fun h prop hm env =>
      ih prop.2 (h ▸ List.mem_map_of_mem hm) env
    cases term with
    | bool => rfl
    | number => rfl
    | ite cond thn els loc =>
      rw [mapLoc, judge, judge]
      refine relocate_bind (ih cond (by simp [parts]) env) fun C => ?_
      cases C with
      | boolean =>
        refine relocate_bind (ih thn (by simp [parts]) env) fun A => ?_
        refine relocate_bind (ih els (by simp [parts]) env) fun B => ?_
        split
        · rfl
        · exact blame_mapLoc f _ (.ite cond thn els loc)
      | _ => rfl
    | add left right =>
      rw [mapLoc, judge, judge]
      refine relocate_bind (ih left (by simp [parts]) env) fun A => ?_
      refine relocate_bind (requireNumber_mapLoc f left A) fun _ => ?_
      refine relocate_bind (ih right (by simp [parts]) env) fun B => ?_
      exact relocate_bind (requireNumber_mapLoc f right B) fun _ => rfl
    | var name =>
      rw [mapLoc, judge, judge]
      cases env.find? name with
      | none => rfl
      | some type => exact judged_relocate f type
    | func params body =>
      rw [mapLoc, judge, judge]
      exact relocate_bind (ih body (by simp [parts]) _) fun ret => demandDistinct_relocate f _
    | call callee args loc =>
      rw [mapLoc, mapLocArgs_eq, judge, judge]
      refine relocate_bind (ih callee (by simp [parts]) env) fun F => ?_
      cases F with
      | func params ret =>
        dsimp only
        rw [List.length_map]
        split
        · refine relocate_bind (judgeArgs_mapLoc fun arg hm env => ih arg (by simp [parts, hm]) env) fun _ => ?_
          exact judged_relocate f ret
        · rw [← blame_mapLoc, mapLoc, mapLocArgs_eq]
      | _ => rfl
    | seq body rest =>
      rw [mapLoc, judge, judge]
      exact relocate_bind (ih body (by simp [parts]) env) fun _ => ih rest (by simp [parts]) env
    | const name init rest =>
      rw [mapLoc, judge, judge]
      exact relocate_bind (ih init (by simp [parts]) env) fun type => ih rest (by simp [parts]) _
    | recFunc name params ret body rest loc =>
      rw [mapLoc, judge, judge]
      refine relocate_bind (demandDistinct_relocate f _) fun signature => ?_
      refine relocate_bind (ih body (by simp [parts]) _) fun S => ?_
      split
      · exact ih rest (by simp [parts]) _
      · exact blame_mapLoc f _ (.recFunc name params ret body rest loc)
    | objectNew props loc =>
      have hjudged : judgeProps env ((objectNew props loc).mapLoc f) [] (Dict.mapValues (mapLoc f) props) =
        relocate f (judgeProps env (.objectNew props loc) [] props) := judgeProps_mapLoc (hprops rfl)
      rw [mapLoc, mapLocProps_eq] at hjudged ⊢
      rw [judge, judge]
      exact relocate_bind hjudged fun types => demandDistinct_relocate f _
    | objectGet object name loc =>
      rw [mapLoc, judge, judge]
      refine relocate_bind (ih object (by simp [parts]) env) fun O => ?_
      cases O with
      | object props =>
        dsimp only
        cases props.lookup name with
        | none => exact blame_mapLoc f _ (.objectGet object name loc)
        | some type => exact judged_relocate f type
      | _ => rfl
    | unionNew label props type loc =>
      have hblame : ∀ violation, (blame violation ((unionNew label props type loc).mapLoc f) : Judgment β Ty) =
        relocate f (blame violation (.unionNew label props type loc)) := fun violation => blame_mapLoc f violation _
      have hjudged : ∀ declared, judgeSupplied env ((unionNew label props type loc).mapLoc f) declared []
          (Dict.mapValues (mapLoc f) props) =
        relocate f (judgeSupplied env (.unionNew label props type loc) declared [] props) := fun declared =>
          judgeSupplied_mapLoc (hprops rfl)
      rw [mapLoc, mapLocProps_eq] at hblame hjudged ⊢
      cases type with
      | union variants =>
        rw [judge, judge]
        cases variants.lookup label with
        | none => exact hblame _
        | some declared =>
          refine relocate_bind (hjudged declared) fun _ => ?_
          rw [Dict.names_mapValues]
          split
          · exact hblame _
          · rfl
      | _ => exact hblame _
    | unionGet subject clauses loc =>
      have hblame : ∀ violation, (blame violation ((unionGet subject clauses loc).mapLoc f) : Judgment β Ty) =
        relocate f (blame violation (.unionGet subject clauses loc)) := fun violation => blame_mapLoc f violation _
      rw [mapLoc, mapLocProps_eq] at hblame ⊢
      rw [judge, judge]
      cases env.find? subject with
      | none => exact hblame _
      | some S =>
        cases S with
        | union variants =>
          refine relocate_bind (judgeClauses_mapLoc (hprops rfl)) fun first => ?_
          rw [Dict.mapValues, List.length_map]
          split
          · cases first with
            | none => exact hblame _
            | some type => rfl
          · exact hblame _
        | _ => exact hblame _

end Term

end StructuralTyping
