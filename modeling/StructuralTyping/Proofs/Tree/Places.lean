/-
The places of nodes. Each node of a term that has been read stands at a place in the tree, to which a trail
leads; which trail that is depends on the shape of the term alone. Main statement: in two trees that differ
only in the locations of terms, the same type is found, or the nodes that stand at one place are blamed for the
same violation, each with the location that is written there.
-/
import StructuralTyping.Proofs.Tree.Unlocated
import StructuralTyping.Proofs.Typing.Blame
import StructuralTyping.Proofs.Typing.Relocation

namespace StructuralTyping

open StructuralTyping.Tree

variable {Loc Loc' : Type}

/-! ## Terms with the places of their nodes -/

/-- The way from a node in a tree to one of its parts, which are numbered in the order of evaluation. -/
def Term.Kind.wayTo : Term.Kind → Nat → Trail
  | .ite, 0 => [.field "cond"]
  | .ite, 1 => [.field "thn"]
  | .ite, 2 => [.field "els"]
  | .add, 0 => [.field "left"]
  | .add, 1 => [.field "right"]
  | .func, 0 | .seq, 0 | .recFunc, 0 => [.field "body"]
  | .seq, 1 | .const, 1 | .recFunc, 1 => [.field "rest"]
  | .const, 0 => [.field "init"]
  | .call, 0 => [.field "func"]
  | .call, i + 1 => [.item "args" i]
  | .objectNew, i | .unionNew, i => [.item "props" i, .field "term"]
  | .objectGet, 0 => [.field "obj"]
  | .unionGet, i => [.item "clauses" i, .field "term"]
  | _, _ => []

namespace Term

mutual

/-- The term with the place of each node beside its location. The term itself stands at `place`. -/
def placed (place : Trail) : Term Loc → Term (Trail × Loc)
  | .bool value loc => .bool value (place, loc)
  | .number value loc => .number value (place, loc)
  | .ite cond thn els loc =>
    .ite (placed (place ++ [.field "cond"]) cond) (placed (place ++ [.field "thn"]) thn)
      (placed (place ++ [.field "els"]) els) (place, loc)
  | .add left right loc =>
    .add (placed (place ++ [.field "left"]) left) (placed (place ++ [.field "right"]) right) (place, loc)
  | .var name loc => .var name (place, loc)
  | .func params body loc => .func params (placed (place ++ [.field "body"]) body) (place, loc)
  | .call callee args loc =>
    .call (placed (place ++ [.field "func"]) callee) (placedArgs place 0 args) (place, loc)
  | .seq body rest loc =>
    .seq (placed (place ++ [.field "body"]) body) (placed (place ++ [.field "rest"]) rest) (place, loc)
  | .const name init rest loc =>
    .const name (placed (place ++ [.field "init"]) init) (placed (place ++ [.field "rest"]) rest) (place, loc)
  | .recFunc name params ret body rest loc =>
    .recFunc name params ret (placed (place ++ [.field "body"]) body) (placed (place ++ [.field "rest"]) rest)
      (place, loc)
  | .objectNew props loc => .objectNew (placedProps place "props" 0 props) (place, loc)
  | .objectGet object name loc => .objectGet (placed (place ++ [.field "obj"]) object) name (place, loc)
  | .unionNew label props type loc => .unionNew label (placedProps place "props" 0 props) type (place, loc)
  | .unionGet subject clauses loc => .unionGet subject (placedProps place "clauses" 0 clauses) (place, loc)

/-- Arguments, of which the first is number `i`. -/
def placedArgs (place : Trail) (i : Nat) : List (Term Loc) → List (Term (Trail × Loc))
  | [] => []
  | arg :: rest => placed (place ++ [.item "args" i]) arg :: placedArgs place (i + 1) rest

/-- Properties or clauses in the field `key`, of which the first is number `i`. -/
def placedProps (place : Trail) (key : String) (i : Nat) :
    List (String × Term Loc) → List (String × Term (Trail × Loc))
  | [] => []
  | (name, term) :: rest =>
    (name, placed (place ++ [.item key i, .field "term"]) term) :: placedProps place key (i + 1) rest

end

mutual

/-- Without its places, the term is as before. -/
theorem mapLoc_snd_placed (place : Trail) : ∀ term : Term Loc, (term.placed place).mapLoc Prod.snd = term
  | .bool .. | .number .. | .var .. => rfl
  | .ite cond thn els _ => by
    simp only [placed, mapLoc, mapLoc_snd_placed _ cond, mapLoc_snd_placed _ thn, mapLoc_snd_placed _ els]
  | .add left right _ | .seq left right _ | .const _ left right _ | .recFunc _ _ _ left right _ => by
    simp only [placed, mapLoc, mapLoc_snd_placed _ left, mapLoc_snd_placed _ right]
  | .func _ part _ | .objectGet part _ _ => by simp only [placed, mapLoc, mapLoc_snd_placed _ part]
  | .call callee args _ => by simp only [placed, mapLoc, mapLoc_snd_placed _ callee, mapLocArgs_snd_placed _ _ args]
  | .objectNew props _ | .unionNew _ props _ _ | .unionGet _ props _ => by
    simp only [placed, mapLoc, mapLocProps_snd_placed _ _ _ props]

theorem mapLocArgs_snd_placed (place : Trail) (i : Nat) :
    ∀ args : List (Term Loc), mapLocArgs Prod.snd (placedArgs place i args) = args
  | [] => rfl
  | arg :: rest => by simp only [placedArgs, mapLocArgs, mapLoc_snd_placed _ arg, mapLocArgs_snd_placed _ _ rest]

theorem mapLocProps_snd_placed (place : Trail) (key : String) (i : Nat) :
    ∀ props : List (String × Term Loc), mapLocProps Prod.snd (placedProps place key i props) = props
  | [] => rfl
  | (name, term) :: rest => by
    simp only [placedProps, mapLocProps, mapLoc_snd_placed _ term, mapLocProps_snd_placed _ _ _ rest]

end

mutual

/-- The places depend on the shape of the term, and not on its locations. -/
theorem mapLoc_fst_placed (f : Loc → Loc') (place : Trail) :
    ∀ term : Term Loc, ((term.mapLoc f).placed place).mapLoc Prod.fst = (term.placed place).mapLoc Prod.fst
  | .bool .. | .number .. | .var .. => rfl
  | .ite cond thn els _ => by
    simp only [placed, mapLoc, mapLoc_fst_placed f _ cond, mapLoc_fst_placed f _ thn, mapLoc_fst_placed f _ els]
  | .add left right _ | .seq left right _ | .const _ left right _ | .recFunc _ _ _ left right _ => by
    simp only [placed, mapLoc, mapLoc_fst_placed f _ left, mapLoc_fst_placed f _ right]
  | .func _ part _ | .objectGet part _ _ => by simp only [placed, mapLoc, mapLoc_fst_placed f _ part]
  | .call callee args _ => by simp only [placed, mapLoc, mapLoc_fst_placed f _ callee, mapLocArgs_fst_placed f _ _ args]
  | .objectNew props _ | .unionNew _ props _ _ | .unionGet _ props _ => by
    simp only [placed, mapLoc, mapLocProps_fst_placed f _ _ _ props]

theorem mapLocArgs_fst_placed (f : Loc → Loc') (place : Trail) (i : Nat) : ∀ args : List (Term Loc),
    mapLocArgs Prod.fst (placedArgs place i (mapLocArgs f args)) = mapLocArgs Prod.fst (placedArgs place i args)
  | [] => rfl
  | arg :: rest => by
    simp only [placedArgs, mapLocArgs, mapLoc_fst_placed f _ arg, mapLocArgs_fst_placed f _ _ rest]

theorem mapLocProps_fst_placed (f : Loc → Loc') (place : Trail) (key : String) (i : Nat) :
    ∀ props : List (String × Term Loc), mapLocProps Prod.fst (placedProps place key i (mapLocProps f props)) =
      mapLocProps Prod.fst (placedProps place key i props)
  | [] => rfl
  | (name, term) :: rest => by
    simp only [placedProps, mapLocProps, mapLoc_fst_placed f _ term, mapLocProps_fst_placed f _ _ _ rest]

end

theorem loc_placed (place : Trail) (term : Term Loc) : (term.placed place).loc = (place, term.loc) := by
  cases term <;> rfl

/-! ## Parts -/

theorem getElem?_placedArgs (place : Trail) (k : Nat) (args : List (Term Loc)) (i : Nat) :
    (placedArgs place k args)[i]? = args[i]?.map fun arg => arg.placed (place ++ [.item "args" (k + i)]) := by
  induction args generalizing k i with
  | nil => rfl
  | cons arg rest ih =>
    cases i with
    | zero => rfl
    | succ i =>
      rw [placedArgs, List.getElem?_cons_succ, List.getElem?_cons_succ, ih]
      simp only [Nat.add_assoc, Nat.add_comm 1]

theorem getElem?_placedProps (place : Trail) (key : String) (k : Nat) (props : List (String × Term Loc)) (i : Nat) :
    ((placedProps place key k props).map Prod.snd)[i]? =
      (props.map Prod.snd)[i]?.map fun term => term.placed (place ++ [.item key (k + i), .field "term"]) := by
  induction props generalizing k i with
  | nil => rfl
  | cons prop rest ih =>
    cases i with
    | zero => rfl
    | succ i =>
      rw [placedProps, List.map_cons, List.getElem?_cons_succ, List.map_cons, List.getElem?_cons_succ, ih]
      simp only [Nat.add_assoc, Nat.add_comm 1]

theorem getElem?_parts_placed (place : Trail) (term : Term Loc) (i : Nat) :
    (term.placed place).parts[i]? = term.parts[i]?.map fun part => part.placed (place ++ term.kind.wayTo i) := by
  cases term with
  | bool value => cases value <;> rfl
  | number | var => rfl
  | ite => rcases i with _ | _ | _ | i <;> rfl
  | add | seq | const | recFunc => rcases i with _ | _ | i <;> rfl
  | func | objectGet => rcases i with _ | i <;> rfl
  | call callee args =>
    cases i with
    | zero => rfl
    | succ i =>
      have h := getElem?_placedArgs place 0 args i
      rw [Nat.zero_add] at h
      exact h
  | objectNew props | unionNew _ props =>
    have h := getElem?_placedProps place "props" 0 props i
    rw [Nat.zero_add] at h
    exact h
  | unionGet _ clauses =>
    have h := getElem?_placedProps place "clauses" 0 clauses i
    rw [Nat.zero_add] at h
    exact h

/-- A part of a term with places is a part with places. -/
theorem exists_part_of_placed {place : Trail} {term : Term Loc} {i : Nat} {marked : Term (Trail × Loc)}
    (h : (term.placed place).parts[i]? = some marked) :
    ∃ part, term.parts[i]? = some part ∧ part.placed (place ++ term.kind.wayTo i) = marked := by
  rw [getElem?_parts_placed] at h
  exact Option.map_eq_some_iff.1 h

theorem Clean.placed {term : Term Loc} (h : term.Clean) (place : Trail) : (term.placed place).Clean := by
  induction term using partsInduction generalizing place with
  | step term ih =>
    refine clean_iff.2 ⟨?_, fun marked hm => ?_⟩
    · have ha := h.annotated
      cases term <;> exact ha
    · obtain ⟨i, hi⟩ := List.mem_iff_getElem?.1 hm
      obtain ⟨part, hp, rfl⟩ := exists_part_of_placed hi
      have hmem := List.mem_of_getElem? hp
      exact ih part hmem (h.part hmem) _

end Term

/-! ## Where the parts of a node are read -/

namespace Tree

section

variable {source : Option Path} {node : Json} {key nameKey : String} {items : List Json}
  {term part : Term (Option Span)} {args : List (Term (Option Span))} {props : List (String × Term (Option Span))}

/-- A term is read from where a way leads to. -/
def ReadAt (source : Option Path) (node : Json) (way : Trail) (term : Term (Option Span)) : Prop :=
  ∃ sub, Trail.follow node way = some sub ∧ TermTree source sub term

theorem TermTree.located (h : TermTree source node term) : Located source node term.loc := by
  cases h <;> assumption

theorem PartTree.readAt (h : PartTree source node key term) : ReadAt source node [.field key] term := by
  obtain ⟨hp, ht⟩ := h
  exact ⟨_, by rw [Trail.follow, Step.follow, hp]; rfl, ht⟩

theorem ArgTrees.getElem? (h : ArgTrees source items args) {i : Nat} (hp : args[i]? = some part) :
    ∃ item, items[i]? = some item ∧ TermTree source item part := by
  induction i generalizing items args with
  | zero =>
    cases h with
    | nil => cases hp
    | cons ha =>
      cases hp
      exact ⟨_, rfl, ha⟩
  | succ i ih =>
    cases h with
    | nil => cases hp
    | cons _ hrest => exact ih hrest hp

theorem ArgTrees.readAt (h : ArgTrees source items args) (hi : node.field? key = some (.array items)) {i : Nat}
    (hp : args[i]? = some part) : ReadAt source node [.item key i] part := by
  obtain ⟨item, hitem, ht⟩ := h.getElem? hp
  exact ⟨item, by simp [Trail.follow, Step.follow, hi, hitem], ht⟩

theorem NamedTrees.getElem? (h : NamedTrees source nameKey items props) {i : Nat}
    (hp : (props.map Prod.snd)[i]? = some part) :
    ∃ item, items[i]? = some item ∧ PartTree source item "term" part := by
  induction i generalizing items props with
  | zero =>
    cases h with
    | nil => cases hp
    | cons _ ht =>
      cases hp
      exact ⟨_, rfl, ht⟩
  | succ i ih =>
    cases h with
    | nil => cases hp
    | cons _ _ hrest => exact ih hrest hp

theorem NamedTrees.readAt (h : NamedTrees source nameKey items props) (hi : node.field? key = some (.array items))
    {i : Nat} (hp : (props.map Prod.snd)[i]? = some part) : ReadAt source node [.item key i, .field "term"] part := by
  obtain ⟨item, hitem, ht⟩ := h.getElem? hp
  obtain ⟨sub, hs, ht⟩ := ht.readAt
  refine ⟨sub, ?_, ht⟩
  simpa [Trail.follow, Step.follow, hi, hitem] using hs

/-- Each part of a term is read from where the way to it leads. -/
theorem TermTree.readAt (h : TermTree source node term) {i : Nat} (hp : term.parts[i]? = some part) :
    ReadAt source node (term.kind.wayTo i) part := by
  cases h with
  | litTrue | litFalse | number | var => cases hp
  | ite _ _ hcond hthn hels =>
    rcases i with _ | _ | _ | i <;> cases hp
    · exact hcond.readAt
    · exact hthn.readAt
    · exact hels.readAt
  | add _ _ hleft hright =>
    rcases i with _ | _ | i <;> cases hp
    · exact hleft.readAt
    · exact hright.readAt
  | func _ _ _ hbody =>
    rcases i with _ | i <;> cases hp
    exact hbody.readAt
  | call _ _ hcallee hi ha =>
    cases i with
    | zero =>
      cases hp
      exact hcallee.readAt
    | succ i => exact ha.readAt hi hp
  | seq _ _ hbody hrest =>
    rcases i with _ | _ | i <;> cases hp
    · exact hbody.readAt
    · exact hrest.readAt
  | const _ _ _ hinit hrest =>
    rcases i with _ | _ | i <;> cases hp
    · exact hinit.readAt
    · exact hrest.readAt
  | recFunc _ _ _ _ _ _ hbody hrest =>
    rcases i with _ | _ | i <;> cases hp
    · exact hbody.readAt
    · exact hrest.readAt
  | objectNew _ _ hi hprops => exact hprops.readAt hi hp
  | objectGet _ _ hobject =>
    rcases i with _ | i <;> cases hp
    exact hobject.readAt
  | unionNew _ _ _ hi hprops => exact hprops.readAt hi hp
  | unionGet _ _ hi hclauses => exact hclauses.readAt hi hp

/-- What stands at a position of a term with places: it is a part of the term, read from its place. -/
theorem TermTree.at?_placed (h : TermTree source node term) {place : Trail} {p : Position}
    {marked : Term (Trail × Option Span)} (hm : (term.placed place).at? p = some marked) :
    ∃ way sub, marked = sub.placed (place ++ way) ∧ ReadAt source node way sub := by
  induction p generalizing node term place with
  | nil =>
    cases hm
    exact ⟨[], term, by rw [List.append_nil], node, rfl, h⟩
  | cons i rest ih =>
    obtain ⟨own, hown, hm⟩ := Term.at?_cons.1 hm
    obtain ⟨part, hp, rfl⟩ := Term.exists_part_of_placed hown
    obtain ⟨inner, hinner, ht⟩ := h.readAt hp
    obtain ⟨way, sub, rfl, found, hfound, hsub⟩ := ih ht hm
    refine ⟨term.kind.wayTo i ++ way, sub, by rw [List.append_assoc], found, ?_, hsub⟩
    rw [Trail.follow_append, hinner]
    exact hfound

end

end Tree

/-! ## Blame without regard to locations -/

/-- Judging a term that has been read from a tree blames the part of it that is read from a place in the tree. -/
structure BlamesAt (source : Option Path) (tree : Json) (env : Env) (term : Term (Option Span))
    (violation : Violation) (place : Trail) (guilty : Term (Option Span)) : Prop where
  judged : (term.judge env : Judgment (Option Span) Ty) = blame violation guilty
  /-- Also when every node has its place beside its location, and can be told from all others. -/
  placed : ((term.placed []).judge env : Judgment (Trail × Option Span) Ty) = blame violation (guilty.placed place)
  read : ReadAt source tree place guilty
  /-- The location of the guilty node is the one that is written at its place. -/
  located : ∃ node, Trail.follow tree place = some node ∧ Located source node guilty.loc

section

variable {source other : Option Path} {tree tree' : Json} {term term' : Term (Option Span)} {env : Env}

theorem Term.judge_placed (env : Env) (term : Term (Option Span)) :
    term.judge env = relocate Prod.snd ((term.placed []).judge env) := by
  rw [← judge_mapLoc, mapLoc_snd_placed]

/-- A term that has been read has a type, or a part of it is blamed that is read from some place. -/
theorem Tree.TermTree.judged (h : TermTree source tree term) (henv : env.Clean) :
    (∃ type, (term.placed []).judge env = .ok type ∧ term.judge env = .ok type) ∨
      ∃ violation place guilty, BlamesAt source tree env term violation place guilty := by
  have hjudged := Term.judge_placed env term
  cases hj : (term.placed []).judge env with
  | ok type =>
    rw [hj] at hjudged
    exact .inl ⟨type, rfl, hjudged⟩
  | error failure =>
    -- the node is looked for among those with places, where no two are the same
    obtain ⟨violation, marked, rfl, site, _, _, blamed, _, -, -, -, hm, -⟩ :=
      Term.justified_of_judge henv (h.clean.placed []) hj
    obtain ⟨place, guilty, rfl, hread⟩ := h.at?_placed hm
    refine .inr ⟨violation, place, guilty, ?_, hj, hread, hread.imp fun node hn => ⟨hn.1, hn.2.located⟩⟩
    have hguilty : (guilty.placed place).mapLoc Prod.snd = guilty := Term.mapLoc_snd_placed place guilty
    rw [hjudged, hj, List.nil_append]
    exact congrArg (blame violation) hguilty

/-- Terms that are the same but for their locations are the same with places in place of locations. -/
theorem Term.judge_fst_placed (env : Env)
    (h : (term.mapLoc fun _ => (none : Option Span)) = term'.mapLoc fun _ => none) :
    relocate Prod.fst ((term.placed []).judge env) = relocate Prod.fst ((term'.placed []).judge env) := by
  rw [← judge_mapLoc, ← judge_mapLoc, ← mapLoc_fst_placed (fun _ => (none : Option Span)), h, mapLoc_fst_placed]

/-- Locations do not influence the judgment. Of two trees that differ only in the locations of terms the same type
is found, or what stands at one place of both is blamed for the same violation: in each the part that is read
there, with the location that is written there. -/
theorem judge_unlocated (hread : readTerm source [] tree = .ok term) (hread' : readTerm other [] tree' = .ok term')
    (h : unlocated .term tree = unlocated .term tree') (henv : env.Clean) :
    (∃ type, term.judge env = .ok type ∧ term'.judge env = .ok type) ∨
      ∃ violation place guilty guilty', BlamesAt source tree env term violation place guilty ∧
        BlamesAt other tree' env term' violation place guilty' := by
  have ht : TermTree source tree term := readTerm_eq_ok.1 hread
  have ht' : TermTree other tree' term' := readTerm_eq_ok.1 hread'
  have hsame := Term.judge_fst_placed env (ht.same_without_locations ht' h)
  rcases ht.judged henv with ⟨type, hj, htype⟩ | ⟨violation, place, guilty, hb⟩
  · rcases ht'.judged henv with ⟨type', hj', htype'⟩ | ⟨violation', place', guilty', hb'⟩
    · rw [hj, hj'] at hsame
      cases hsame
      exact .inl ⟨type, htype, htype'⟩
    · rw [hj, hb'.placed] at hsame
      cases hsame
  · rcases ht'.judged henv with ⟨type', hj', htype'⟩ | ⟨violation', place', guilty', hb'⟩
    · rw [hb.placed, hj'] at hsame
      cases hsame
    · rw [hb.placed, hb'.placed, ← blame_mapLoc, ← blame_mapLoc] at hsame
      simp only [blame, Except.error.injEq, Failure.complaint.injEq, Option.some.injEq] at hsame
      obtain ⟨rfl, hguilty⟩ := hsame
      -- the guilty nodes agree in all but their locations, and so in the places that they carry
      have hplace : place = place' := by simpa [Term.loc_mapLoc, Term.loc_placed] using congrArg Term.loc hguilty
      subst hplace
      exact .inr ⟨violation, place, guilty, guilty', hb, hb'⟩

end

/-- A sum of two truths, of which the first has a location in one tree and none in the other. -/
theorem judge_unlocated_operand :
    ∃ violation place guilty guilty',
      BlamesAt none (.object [("tag", .text "add"), ("left", .object [("tag", .text "true")]),
          ("right", .object [("tag", .text "true")])]) .empty
        (.add (.bool true none) (.bool true none) none) violation place guilty ∧
      BlamesAt none (.object [("tag", .text "add"), ("left", .object [("tag", .text "true"), ("loc", .object [("start",
          .object [("line", .number (.int 1)), ("column", .number (.int 4))])])]),
          ("right", .object [("tag", .text "true")])]) .empty
        (.add (.bool true (some ⟨none, ⟨1, 4⟩, ⟨1, 4⟩⟩)) (.bool true none) none) violation place guilty' ∧
      guilty.loc = none ∧ guilty'.loc = some ⟨none, ⟨1, 4⟩, ⟨1, 4⟩⟩ := by
  have hread : readTerm none [] (.object [("tag", .text "add"), ("left", .object [("tag", .text "true")]),
      ("right", .object [("tag", .text "true")])]) = .ok (.add (.bool true none) (.bool true none) none) :=
    readTerm_eq_ok.2 (.add rfl (.absent rfl) (.mk rfl (.litTrue rfl (.absent rfl)))
      (.mk rfl (.litTrue rfl (.absent rfl))))
  have hread' : readTerm none [] (.object [("tag", .text "add"), ("left", .object [("tag", .text "true"),
      ("loc", .object [("start", .object [("line", .number (.int 1)), ("column", .number (.int 4))])])]),
      ("right", .object [("tag", .text "true")])]) =
        .ok (.add (.bool true (some ⟨none, ⟨1, 4⟩, ⟨1, 4⟩⟩)) (.bool true none) none) :=
    readTerm_eq_ok.2 (.add rfl (.absent rfl) (.mk rfl (.litTrue rfl (.point rfl rfl ⟨rfl, rfl⟩ rfl)))
      (.mk rfl (.litTrue rfl (.absent rfl))))
  rcases judge_unlocated hread hread' rfl Env.clean_empty with
    ⟨type, hj, -⟩ | ⟨violation, place, guilty, guilty', hb, hb'⟩
  · cases hj
  · refine ⟨violation, place, guilty, guilty', hb, hb', ?_, ?_⟩
    · cases hb.judged
      rfl
    · cases hb'.judged
      rfl

end StructuralTyping
