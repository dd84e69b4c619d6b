/-
Two ways to bind a name to a type. A function puts its parameters into one layer, as they are annotated; a
constant puts one name into a layer of its own, with the type that was found for it. Main statements: calling a
function literal is like constants for its parameters, and a recursive function that does not use itself is like
a constant for a function literal.
-/
import StructuralTyping.Proofs.Typing.Inlining

namespace StructuralTyping

variable {Loc : Type}

/-- Two judgments find equal types, or they make the same complaint about the same node. -/
inductive SameVerdict : Judgment Loc Ty → Judgment Loc Ty → Prop where
  | typed {S T} : Ty.Same S T → SameVerdict (.ok S) (.ok T)
  | complaint {violation guilty} : SameVerdict (.error (.complaint violation (some guilty)))
      (.error (.complaint violation (some guilty)))

namespace Term

variable {env own other : Env} {body : Term Loc}

theorem sameVerdict_judge {term : Term Loc} (hs : own.Same other) (hown : own.Clean) (hother : other.Clean)
    (hterm : term.Clean) : SameVerdict (judge own term) (judge other term) := by
  have halike := alike_judge_of_same hown hother hs hterm
  generalize hj : judge own term = verdict at halike
  generalize judge other term = verdict' at halike
  cases halike with
  | ok hST => exact .typed hST.same
  | error =>
    obtain ⟨violation, guilty, rfl, -⟩ := justified_of_judge hown hterm hj
    exact .complaint

/-! ## Calls and constants -/

/-- A parameter and the argument it stands for, with the place of a constant that binds it. -/
structure Bound (Loc : Type) where
  name : String
  type : Ty
  arg : Term Loc
  loc : Loc

/-- The parameter as a function writes it. -/
def Bound.param (bound : Bound Loc) : String × Ty := (bound.name, bound.type)

/-- The parameters as constants, one around the other. -/
def constants (bounds : List (Bound Loc)) (body : Term Loc) : Term Loc :=
  bounds.foldr (fun bound rest => .const bound.name bound.arg rest bound.loc) body

/-- Each argument is of the type of its parameter, and no parameter is free in an argument. -/
structure Bindable (env : Env) (bounds : List (Bound Loc)) : Prop where
  params : Dict.Proper Ty.Clean (bounds.map Bound.param)
  args : ∀ bound ∈ bounds, bound.arg.Clean
  judged : ∀ bound ∈ bounds, ∃ S, judge env bound.arg = .ok S ∧ Ty.Same S bound.type
  apart : ∀ bound ∈ bounds, ∀ other ∈ bounds, bound.name ∉ other.arg.free

section

variable {bound : Bound Loc} {bounds : List (Bound Loc)}

/-- Under the constant for the first parameter the others are judged as before. -/
theorem Bindable.tail (h : Bindable env (bound :: bounds)) (type : Ty) :
    Bindable (env.bind bound.name type) bounds := by
  constructor
  · exact h.params.tail
  · exact fun next hm => h.args next (List.mem_cons_of_mem _ hm)
  · intro next hm
    rw [judge_bind_of_notMem (h.apart bound List.mem_cons_self next (List.mem_cons_of_mem _ hm))]
    exact h.judged next (List.mem_cons_of_mem _ hm)
  · exact fun next hm last hl => h.apart next (List.mem_cons_of_mem _ hm) last (List.mem_cons_of_mem _ hl)

/-- The parameters are bound in one layer on the one side, one by one on the other. -/
theorem sameVerdict_constants (hs : own.Same other) (hown : own.Clean) (hother : other.Clean)
    (h : Bindable other bounds) (hbody : body.Clean) :
    SameVerdict (judge (own.extend (bounds.map Bound.param)) body) (judge other (constants bounds body)) := by
  induction bounds generalizing own other with
  | nil =>
    have hnil : (own.extend []).Same other := by simpa [Env.Same] using hs
    exact sameVerdict_judge hnil (hown.extend nofun) hother hbody
  | cons bound bounds ih =>
    obtain ⟨S, hj, hST⟩ := h.judged bound List.mem_cons_self
    have hS : S.Clean := judge_clean hother (h.args bound List.mem_cons_self) hj
    have hT : bound.type.Clean := h.params.values bound.param List.mem_cons_self
    have hlayers : judge (own.extend (bound.param :: bounds.map Bound.param)) body =
        judge ((own.bind bound.name bound.type).extend (bounds.map Bound.param)) body :=
      judge_congr fun name _ => Env.find?_extend_cons own bound.param _ name
    have hconst : judge other (constants (bound :: bounds) body) =
        judge (other.bind bound.name S) (constants bounds body) := by
      rw [constants, List.foldr_cons, judge, hj]
      rfl
    rw [List.map_cons, hlayers, hconst]
    -- with the first parameter bound on either side the environments still bind equal types
    exact ih (hs.bind (hST.symm hS.1 hT.1) _) (hown.bind hT) (hother.bind hS) (h.tail S)

end

/-- A call of a function literal is judged as its body is. -/
theorem judge_call_func {params : List (String × Ty)} {args : List (Term Loc)} (hd : (Dict.names params).Nodup)
    (hargs : List.Forall₂ (fun arg p => ∃ S, judge env arg = .ok S ∧ Ty.Same S p.2) args params) (loc fnLoc : Loc) :
    judge env (.call (.func params body fnLoc) args loc) = judge (env.extend params) body := by
  cases hbody : judge (env.extend params) body with
  | ok T =>
    have hfunc : judge env (.func params body fnLoc) = .ok (.func params T) := judge_func_ok.2 ⟨T, hbody, hd, rfl⟩
    exact judge_call_ok.2 ⟨params, hfunc, hargs.length_eq.symm, hargs, isError_of_judge_ok hbody⟩
  | error failure =>
    rw [judge, judge, hbody]
    rfl

/-- To call a function literal with arguments of its parameters' types is to bind its parameters as constants:
either way the types are equal, or the complaint is the same. -/
theorem call_like_constants {bounds : List (Bound Loc)} (henv : env.Clean) (h : Bindable env bounds)
    (hbody : body.Clean) (loc fnLoc : Loc) :
    SameVerdict (judge env (.call (.func (bounds.map Bound.param) body fnLoc) (bounds.map Bound.arg) loc))
      (judge env (constants bounds body)) := by
  have hargs : List.Forall₂ (fun arg p => ∃ S, judge env arg = .ok S ∧ Ty.Same S p.2)
      (bounds.map Bound.arg) (bounds.map Bound.param) := by
    rw [List.forall₂_map_left_iff, List.forall₂_map_right_iff, List.forall₂_same]
    exact h.judged
  rw [judge_call_func h.params.nodup hargs]
  exact sameVerdict_constants henv.same_refl henv henv h hbody

/-- The box is found as it is annotated, or as it is made. -/
theorem call_like_constants_reordered :
    SameVerdict
      (judge (Env.empty.bind "n" .number)
        (.call (.func [("m", .number), ("box", .object [("w", .number), ("open", .boolean)])]
            (.seq (.var "m" ()) (.var "box" ()) ()) ())
          [.var "n" (), .objectNew [("open", .bool true ()), ("w", .var "n" ())] ()] ()))
      (judge (Env.empty.bind "n" .number)
        (.const "m" (.var "n" ()) (.const "box" (.objectNew [("open", .bool true ()), ("w", .var "n" ())] ())
          (.seq (.var "m" ()) (.var "box" ()) ()) ()) ())) := by
  have henv : (Env.empty.bind "n" .number).Clean := Env.clean_empty.bind Ty.clean_number
  have hbind : Bindable (Env.empty.bind "n" .number)
      [⟨"m", .number, .var "n" (), ()⟩,
        ⟨"box", .object [("w", .number), ("open", .boolean)],
          .objectNew [("open", .bool true ()), ("w", .var "n" ())] (), ()⟩] := by
    constructor
    · decide
    · decide
    · exact List.forall_mem_cons.2 ⟨⟨.number, rfl, rfl⟩,
        List.forall_mem_singleton.2 ⟨.object [("open", .boolean), ("w", .number)], rfl, rfl⟩⟩
    · decide
  have hbody : (Term.seq (.var "m" ()) (.var "box" ()) () : Term Unit).Clean := by decide
  exact call_like_constants henv hbind hbody () ()

/-! ## Recursive functions and constants -/

section

variable {name : String} {params : List (String × Ty)} {ret : Ty} {rest : Term Loc} {loc : Loc}

theorem judge_recFunc_unused (hd : (Dict.names params).Nodup) (hname : name ∉ body.free) :
    judge env (.recFunc name params ret body rest loc) = (do
      let type ← judge (env.extend params) body
      if type.equal ret then judge (env.bind name (.func params ret)) rest
      else blame .wrongReturnType (.recFunc name params ret body rest loc)) := by
  rw [judge, demandDistinct_mkFunc.2 ⟨hd, rfl⟩, ← judge_bind_of_notMem hname (.func params ret)]
  rfl

theorem judge_const_func {fnLoc : Loc} (hd : (Dict.names params).Nodup) :
    judge env (.const name (.func params body fnLoc) rest loc) = (do
      let type ← judge (env.extend params) body
      judge (env.bind name (.func params type)) rest) := by
  rw [judge, judge]
  cases judge (env.extend params) body with
  | ok type =>
    simp only [bind, Except.bind, demandDistinct_mkFunc.2 ⟨hd, rfl⟩]
  | error failure => rfl

/-- A recursive function that does not use itself is like a constant for a function literal, unless its body has
another type than it returns: then it is itself complained about, whatever comes after it. -/
theorem recFunc_like_constant (henv : env.Clean) (hparams : Dict.Proper Ty.Clean params) (hret : ret.Clean)
    (hbody : body.Clean) (hname : name ∉ body.free) (loc fnLoc constLoc : Loc) :
    ((∀ S, judge (env.extend params) body = .ok S → Ty.Same S ret) → ∀ rest : Term Loc, rest.Clean →
      SameVerdict (judge env (.recFunc name params ret body rest loc))
        (judge env (.const name (.func params body fnLoc) rest constLoc))) ∧
    ∀ S, judge (env.extend params) body = .ok S → ¬ Ty.Same S ret → ∀ rest : Term Loc,
      judge env (.recFunc name params ret body rest loc) =
        .error (.complaint .wrongReturnType (some (.recFunc name params ret body rest loc))) := by
  have hscope : (env.extend params).Clean := henv.extend hparams.values
  constructor
  · intro hsame rest hrest
    rw [judge_recFunc_unused hparams.nodup hname, judge_const_func hparams.nodup]
    cases hj : judge (env.extend params) body with
    | error failure =>
      obtain ⟨violation, guilty, rfl, -⟩ := justified_of_judge hscope hbody hj
      exact .complaint
    | ok S =>
      have hS : S.Clean := judge_clean hscope hbody hj
      have hown : (Ty.func params ret).Clean := Ty.clean_func.2 ⟨hparams, hret⟩
      have hfound : (Ty.func params S).Clean := Ty.clean_func.2 ⟨hparams, hS⟩
      have hfunc : Ty.Same (.func params ret) (.func params S) := by
        refine Ty.same_func_func.2 ⟨List.forall₂_same.2 fun p hp => (hparams.values p hp).same_refl, ?_⟩
        exact (hsame S hj).symm hS.1 hret.1
      simp only [bind, Except.bind]
      rw [if_pos (hsame S hj)]
      exact sameVerdict_judge (henv.same_refl.bind hfunc name) (henv.bind hown) (henv.bind hfound) hrest
  · intro S hj hne rest
    rw [judge_recFunc_unused hparams.nodup hname, hj]
    exact if_neg hne

/-- The parameter has the function's name, and neither is used in the body. -/
theorem recFunc_like_constant_shadowed :
    SameVerdict
      (judge .empty (.recFunc "f" [("f", .boolean)] .number (.number (.int 1) ())
        (.call (.var "f" ()) [.bool true ()] ()) ()))
      (judge .empty (.const "f" (.func [("f", .boolean)] (.number (.int 1) ()) ())
        (.call (.var "f" ()) [.bool true ()] ()) ())) ∧
    judge .empty (.recFunc "f" [("f", .boolean)] .boolean (.number (.int 1) ()) (.var "g" ()) ()) =
      .error (.complaint .wrongReturnType
        (some (.recFunc "f" [("f", .boolean)] .boolean (.number (.int 1) ()) (.var "g" ()) ()))) := by
  have hparams : Dict.Proper Ty.Clean [("f", .boolean)] := by decide
  have hbody : (Term.number (.int 1) () : Term Unit).Clean := by decide
  have hname : "f" ∉ (Term.number (.int 1) () : Term Unit).free := by decide
  constructor
  · have hsame : ∀ S, judge (Env.empty.extend [("f", .boolean)]) (.number (.int 1) () : Term Unit) = .ok S →
        Ty.Same S .number := by
      rintro _ ⟨⟩
      rfl
    exact (recFunc_like_constant Env.clean_empty hparams Ty.clean_number hbody hname () () ()).1 hsame _ (by decide)
  · have hne : ¬ Ty.Same .number .boolean := by decide
    exact (recFunc_like_constant Env.clean_empty hparams Ty.clean_boolean hbody hname () () ()).2 .number rfl hne _

end

end Term

end StructuralTyping
