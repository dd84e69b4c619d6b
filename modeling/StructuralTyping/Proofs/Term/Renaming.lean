/-
Other names for what a term binds. A node binds its own name or its parameters; renaming one of them puts a
new name in its place, and at every variable and every subject that means it. A match binds its subject
again under its own name, so the renaming goes on in the clauses. What comes of it is the same term up to
names: node by node, with the names that mean the same paired on the way down.
-/
import StructuralTyping.Proofs.Term.Free

namespace StructuralTyping.Term

variable {Loc : Type}

/-! ## Renaming -/

/-- The new name in place of the old one, and any other name as it is. -/
def renamed (old new name : String) : String := if name = old then new else name

@[simp] theorem renamed_self (old new : String) : renamed old new old = new := if_pos rfl

theorem renamed_of_ne {old new name : String} (h : name ≠ old) : renamed old new name = name := if_neg h

mutual

/-- The term with a new name for every free occurrence of a variable. -/
def renameFree (old new : String) : Term Loc → Term Loc
  | .bool value loc => .bool value loc
  | .number value loc => .number value loc
  | .ite cond thn els loc => .ite (renameFree old new cond) (renameFree old new thn) (renameFree old new els) loc
  | .add left right loc => .add (renameFree old new left) (renameFree old new right) loc
  | .var name loc => .var (renamed old new name) loc
  | .func params body loc => .func params (if old ∈ Dict.names params then body else renameFree old new body) loc
  | .call callee args loc => .call (renameFree old new callee) (renameFreeArgs old new args) loc
  | .seq body rest loc => .seq (renameFree old new body) (renameFree old new rest) loc
  | .const name init rest loc =>
    .const name (renameFree old new init) (if old ∈ [name] then rest else renameFree old new rest) loc
  | .recFunc name params ret body rest loc =>
    .recFunc name params ret (if old ∈ name :: Dict.names params then body else renameFree old new body)
      (if old ∈ [name] then rest else renameFree old new rest) loc
  | .objectNew props loc => .objectNew (renameFreeProps old new props) loc
  | .objectGet object name loc => .objectGet (renameFree old new object) name loc
  | .unionNew label props type loc => .unionNew label (renameFreeProps old new props) type loc
  | .unionGet subject clauses loc =>
    .unionGet (renamed old new subject) (renameFreeProps old new clauses) loc

/-- In every argument. -/
def renameFreeArgs (old new : String) : List (Term Loc) → List (Term Loc)
  | [] => []
  | arg :: rest => renameFree old new arg :: renameFreeArgs old new rest

/-- In every property or clause. -/
def renameFreeProps (old new : String) : List (String × Term Loc) → List (String × Term Loc)
  | [] => []
  | (name, term) :: rest => (name, renameFree old new term) :: renameFreeProps old new rest

end

theorem renameFreeArgs_eq (old new : String) (args : List (Term Loc)) :
    renameFreeArgs old new args = args.map (renameFree old new) := by
  induction args with
  | nil => rfl
  | cons arg rest ih => rw [renameFreeArgs, ih]; rfl

theorem renameFreeProps_eq (old new : String) (props : List (String × Term Loc)) :
    renameFreeProps old new props = Dict.mapValues (renameFree old new) props := by
  induction props with
  | nil => rfl
  | cons prop rest ih => rw [renameFreeProps, ih]; rfl

/-- The two ways in which a node binds: its own name, and parameters. -/
inductive Binder where
  | itself
  | param
  deriving Repr, DecidableEq

/-- The names that a node binds in one of the two ways. -/
def bound : Term Loc → Binder → List String
  | .const name _ _ _, .itself | .recFunc name _ _ _ _ _, .itself => [name]
  | .func params _ _, .param | .recFunc _ params _ _ _ _, .param => Dict.names params
  | _, _ => []

/-- Parameters, one of them renamed. -/
def renameParam (old new : String) (params : List (String × Ty)) : List (String × Ty) :=
  params.map fun p => (renamed old new p.1, p.2)

/-- The node with a new name for what it binds under the old one, and for all that means it. The name of a
recursive function hides a parameter of that name. -/
def renameBound (binder : Binder) (old new : String) : Term Loc → Term Loc
  | .const name init rest loc =>
    match binder with
    | .itself => .const new init (renameFree old new rest) loc
    | .param => .const name init rest loc
  | .func params body loc =>
    match binder with
    | .itself => .func params body loc
    | .param => .func (renameParam old new params) (renameFree old new body) loc
  | .recFunc name params ret body rest loc =>
    match binder with
    | .itself => .recFunc new params ret (renameFree old new body) (renameFree old new rest) loc
    | .param =>
      .recFunc name (renameParam old new params) ret (if old ∈ [name] then body else renameFree old new body) rest loc
  | term => term

/-- The names of variables that a node writes: what it looks up and what it binds. -/
def ownNames : Term Loc → List String
  | .var name _ | .const name _ _ _ => [name]
  | .func params _ _ => Dict.names params
  | .recFunc name params _ _ _ _ => name :: Dict.names params
  | .unionGet subject _ _ => [subject]
  | _ => []

/-- A name is written for a variable somewhere in the term. -/
def Occurs (name : String) (term : Term Loc) : Prop := ∃ node ∈ term.nodes, name ∈ node.ownNames

instance (name : String) (term : Term Loc) : Decidable (Occurs name term) :=
  inferInstanceAs (Decidable (∃ node ∈ term.nodes, name ∈ node.ownNames))

theorem occurs_iff {name : String} {term : Term Loc} :
    Occurs name term ↔ name ∈ term.ownNames ∨ ∃ part ∈ term.parts, Occurs name part := by
  simp only [Occurs]
  rw [nodes_eq]
  simp only [List.mem_cons, exists_eq_or_imp, List.mem_flatMap]
  refine or_congr_right ⟨?_, ?_⟩
  · rintro ⟨node, ⟨part, hp, hn⟩, hm⟩
    exact ⟨part, hp, node, hn, hm⟩
  · rintro ⟨part, hp, node, hn, hm⟩
    exact ⟨node, ⟨part, hp, hn⟩, hm⟩

theorem Occurs.own {name : String} {term : Term Loc} (h : name ∈ term.ownNames) : Occurs name term :=
  occurs_iff.2 (.inl h)

theorem Occurs.part {name : String} {part term : Term Loc} (h : Occurs name part) (hp : part ∈ term.parts) :
    Occurs name term :=
  occurs_iff.2 (.inr ⟨part, hp, h⟩)

theorem Occurs.of_at {name : String} {term node : Term Loc} {p : Position} (h : Occurs name node)
    (hp : term.at? p = some node) : Occurs name term := by
  induction p generalizing term with
  | nil =>
    cases hp
    exact h
  | cons i p ih =>
    obtain ⟨part, hpart, hrest⟩ := at?_cons.1 hp
    exact (ih hrest).part (List.mem_of_getElem? hpart)

/-! ## Names that mean the same -/

/-- Which names mean the same in two terms. -/
abbrev Pairing := String → String → Prop

namespace Pairing

variable {ρ : Pairing} {old new : String} {K : String → Prop} {xs : List String}

/-- The pairing under binders: what is bound is paired by place and hides what was there. -/
def extend (ρ : Pairing) (xs ys : List String) : Pairing :=
  fun a b => (a, b) ∈ xs.zip ys ∨ a ∉ xs ∧ b ∉ ys ∧ ρ a b

/-- The names of a kind mean themselves. -/
def Keeps (ρ : Pairing) (K : String → Prop) : Prop := ∀ name, K name → ρ name name

/-- The old name means the new one, and the other names of a kind mean themselves. -/
structure Moves (ρ : Pairing) (old new : String) (K : String → Prop) : Prop where
  moved : ρ old new
  kept : ∀ name, K name → name ≠ old → ρ name name

theorem mem_zip_map {name : String} (f : String → String) (h : name ∈ xs) : (name, f name) ∈ xs.zip (xs.map f) := by
  have hzip : (xs.map id).zip (xs.map f) = xs.map fun x => (x, f x) := List.zip_map'
  rw [List.map_id] at hzip
  rw [hzip]
  exact List.mem_map.2 ⟨name, h, rfl⟩

theorem extend_self {name : String} (h : name ∉ xs → ρ name name) : ρ.extend xs xs name name := by
  by_cases hm : name ∈ xs
  · exact .inl (by simpa using mem_zip_map id hm)
  · exact .inr ⟨hm, hm, h hm⟩

theorem Keeps.mono {M : String → Prop} (h : ρ.Keeps K) (hM : ∀ name, M name → K name) : ρ.Keeps M :=
  fun name hm => h name (hM name hm)

theorem Keeps.extend (h : ρ.Keeps K) (xs : List String) : (ρ.extend xs xs).Keeps K :=
  fun name hk => extend_self fun _ => h name hk

theorem Moves.mono {M : String → Prop} (h : ρ.Moves old new K) (hM : ∀ name, M name → K name) : ρ.Moves old new M :=
  ⟨h.moved, fun name hm => h.kept name (hM name hm)⟩

/-- A binder of the old name hides what is renamed. -/
theorem Moves.hide (h : ρ.Moves old new K) (ho : old ∈ xs) : (ρ.extend xs xs).Keeps K := by
  refine fun name hk => extend_self fun hm => h.kept name hk ?_
  rintro rfl
  exact hm ho

theorem Moves.extend (h : ρ.Moves old new K) (ho : old ∉ xs) (hn : new ∉ xs) : (ρ.extend xs xs).Moves old new K :=
  ⟨.inr ⟨ho, hn, h.moved⟩, fun name hk hne => extend_self fun _ => h.kept name hk hne⟩

/-- A binder that is renamed along with what it binds. -/
theorem Moves.rebind (h : ρ.Moves old new K) (hn : ¬ K new) : (ρ.extend [old] [new]).Moves old new K := by
  refine ⟨.inl List.mem_cons_self, fun name hk hne => .inr ⟨List.mem_singleton.not.2 hne, ?_, h.kept name hk hne⟩⟩
  rw [List.mem_singleton]
  rintro rfl
  exact hn hk

/-- Where the old name is bound and the new one stands for it, it is renamed. -/
theorem Keeps.move (h : ρ.Keeps K) (ho : old ∈ xs) (hn : ¬ K new) :
    (ρ.extend xs (xs.map (renamed old new))).Moves old new K := by
  constructor
  · have hmoved := mem_zip_map (renamed old new) ho
    rw [renamed_self] at hmoved
    exact .inl hmoved
  · intro name hk hne
    by_cases hm : name ∈ xs
    · have hkept := mem_zip_map (renamed old new) hm
      rw [renamed_of_ne hne] at hkept
      exact .inl hkept
    · refine .inr ⟨hm, fun hm' => ?_, h name hk⟩
      -- no renamed binder has this name, since the new name is not of the kind
      obtain ⟨own, hown, rfl⟩ := List.mem_map.1 hm'
      by_cases he : own = old
      · rw [he, renamed_self] at hk
        exact hn hk
      · rw [renamed_of_ne he] at hm
        exact hm hown

end Pairing

/-! ## The same up to names -/

/-- Nodes that differ at most in names of variables, and how names are paired for each of their parts. The
subject of a match may be renamed as `N` allows. -/
inductive SameHead (N : Pairing) (ρ : Pairing) : Term Loc → Term Loc → (Nat → Pairing) → Prop where
  | bool {value loc} : SameHead N ρ (.bool value loc) (.bool value loc) fun _ => ρ
  | number {value loc} : SameHead N ρ (.number value loc) (.number value loc) fun _ => ρ
  | ite {cond cond' thn thn' els els' loc} :
      SameHead N ρ (.ite cond thn els loc) (.ite cond' thn' els' loc) fun _ => ρ
  | add {left left' right right' loc} : SameHead N ρ (.add left right loc) (.add left' right' loc) fun _ => ρ
  | var {name name' loc} : ρ name name' → SameHead N ρ (.var name loc) (.var name' loc) fun _ => ρ
  | func {params params' : List (String × Ty)} {body body' loc} : params.map Prod.snd = params'.map Prod.snd →
      ((Dict.names params).Nodup → (Dict.names params').Nodup) →
      SameHead N ρ (.func params body loc) (.func params' body' loc) fun _ =>
        ρ.extend (Dict.names params) (Dict.names params')
  | call {callee callee' args args' loc} : SameHead N ρ (.call callee args loc) (.call callee' args' loc) fun _ => ρ
  | seq {body body' rest rest' loc} : SameHead N ρ (.seq body rest loc) (.seq body' rest' loc) fun _ => ρ
  | const {name name' init init' rest rest' loc} :
      SameHead N ρ (.const name init rest loc) (.const name' init' rest' loc) fun
        | 0 => ρ
        | _ + 1 => ρ.extend [name] [name']
  | recFunc {name name' ret body body' rest rest' loc} {params params' : List (String × Ty)} :
      params.map Prod.snd = params'.map Prod.snd → ((Dict.names params).Nodup → (Dict.names params').Nodup) →
      SameHead N ρ (.recFunc name params ret body rest loc) (.recFunc name' params' ret body' rest' loc) fun
        | 0 => (ρ.extend (Dict.names params) (Dict.names params')).extend [name] [name']
        | _ + 1 => ρ.extend [name] [name']
  | objectNew {props props' : List (String × Term Loc)} {loc} : Dict.names props = Dict.names props' →
      SameHead N ρ (.objectNew props loc) (.objectNew props' loc) fun _ => ρ
  | objectGet {object object' name loc} :
      SameHead N ρ (.objectGet object name loc) (.objectGet object' name loc) fun _ => ρ
  | unionNew {label type loc} {props props' : List (String × Term Loc)} : Dict.names props = Dict.names props' →
      SameHead N ρ (.unionNew label props type loc) (.unionNew label props' type loc) fun _ => ρ
  | unionGet {subject subject' loc} {clauses clauses' : List (String × Term Loc)} : ρ subject subject' →
      N subject subject' → Dict.names clauses = Dict.names clauses' →
      SameHead N ρ (.unionGet subject clauses loc) (.unionGet subject' clauses' loc) fun _ =>
        ρ.extend [subject] [subject']

/-- Terms that are the same up to names, where names are paired by `ρ` around them. -/
inductive Renamed (N : Pairing) : Pairing → Term Loc → Term Loc → Prop where
  | node {ρ : Pairing} {term other : Term Loc} {inner : Nat → Pairing} : SameHead N ρ term other inner →
      term.parts.length = other.parts.length →
      (∀ (i : Nat) (part part' : Term Loc), term.parts[i]? = some part → other.parts[i]? = some part' →
        Renamed N (inner i) part part') →
      Renamed N ρ term other

section

variable {N ρ : Pairing} {old new : String} {term node : Term Loc}

theorem forall_part {P : Nat → Term Loc → Term Loc → Prop} {part part' : Term Loc} (h : P 0 part part') :
    ∀ i sub sub', [part][i]? = some sub → [part'][i]? = some sub' → P i sub sub' := by
  intro i sub sub' hs hs'
  cases i with
  | zero =>
    cases hs
    cases hs'
    exact h
  | succ => cases hs

theorem forall_two_parts {P : Nat → Term Loc → Term Loc → Prop} {first first' second second' : Term Loc}
    (h : P 0 first first') (h' : P 1 second second') :
    ∀ i sub sub', [first, second][i]? = some sub → [first', second'][i]? = some sub' → P i sub sub' := by
  intro i sub sub' hs hs'
  match i with
  | 0 =>
    cases hs
    cases hs'
    exact h
  | 1 =>
    cases hs
    cases hs'
    exact h'
  | _ + 2 => cases hs

theorem names_renew {props : List (String × Term Loc)} {terms : List (Term Loc)} (h : terms.length = props.length) :
    Dict.names (renew props terms) = Dict.names props :=
  List.map_fst_zip (by simp [h])

/-- A node with other parts has the head it had. -/
theorem sameHead_withParts {terms : List (Term Loc)} (hN : ∀ name, N name name) (hρ : ρ.Keeps (Occurs · term))
    (h : terms.length = term.parts.length) :
    ∃ inner, SameHead N ρ term (term.withParts terms) inner ∧ ∀ i, (inner i).Keeps (Occurs · term) := by
  cases term with
  | bool => exact ⟨_, .bool, fun _ => hρ⟩
  | number => exact ⟨_, .number, fun _ => hρ⟩
  | ite =>
    obtain ⟨_, _, _, rfl⟩ := List.length_eq_three.1 h
    exact ⟨_, .ite, fun _ => hρ⟩
  | add =>
    obtain ⟨_, _, rfl⟩ := List.length_eq_two.1 h
    exact ⟨_, .add, fun _ => hρ⟩
  | var name => exact ⟨_, .var (hρ name (.own List.mem_cons_self)), fun _ => hρ⟩
  | func params =>
    obtain ⟨_, rfl⟩ := List.length_eq_one_iff.1 h
    exact ⟨_, .func rfl id, fun _ => hρ.extend _⟩
  | call =>
    obtain ⟨_, _, rfl⟩ := List.exists_cons_of_length_eq_add_one h
    exact ⟨_, .call, fun _ => hρ⟩
  | seq =>
    obtain ⟨_, _, rfl⟩ := List.length_eq_two.1 h
    exact ⟨_, .seq, fun _ => hρ⟩
  | const =>
    obtain ⟨_, _, rfl⟩ := List.length_eq_two.1 h
    refine ⟨_, .const, fun i => ?_⟩
    cases i with
    | zero => exact hρ
    | succ => exact hρ.extend _
  | recFunc =>
    obtain ⟨_, _, rfl⟩ := List.length_eq_two.1 h
    refine ⟨_, .recFunc rfl id, fun i => ?_⟩
    cases i with
    | zero => exact (hρ.extend _).extend _
    | succ => exact hρ.extend _
  | objectNew props => exact ⟨_, .objectNew (names_renew (by simpa [parts] using h)).symm, fun _ => hρ⟩
  | objectGet =>
    obtain ⟨_, rfl⟩ := List.length_eq_one_iff.1 h
    exact ⟨_, .objectGet, fun _ => hρ⟩
  | unionNew label props => exact ⟨_, .unionNew (names_renew (by simpa [parts] using h)).symm, fun _ => hρ⟩
  | unionGet subject clauses =>
    have hs : Occurs subject (.unionGet subject clauses ‹Loc›) := .own List.mem_cons_self
    refine ⟨_, .unionGet (hρ subject hs) (hN subject) (names_renew ?_).symm, fun _ => hρ.extend _⟩
    simpa [parts] using h

theorem Renamed.withParts {terms : List (Term Loc)} (hN : ∀ name, N name name) (hρ : ρ.Keeps (Occurs · term))
    (h : terms.length = term.parts.length)
    (hparts : ∀ (i : Nat) (part part' : Term Loc) (σ : Pairing), term.parts[i]? = some part → terms[i]? = some part' →
      σ.Keeps (Occurs · part) → Renamed N σ part part') : Renamed N ρ term (term.withParts terms) := by
  obtain ⟨inner, hhead, hinner⟩ := sameHead_withParts hN hρ h
  refine .node hhead (by rw [parts_withParts h, h]) fun i part part' hp hp' => ?_
  rw [parts_withParts h] at hp'
  exact hparts i part part' _ hp hp' ((hinner i).mono fun name ho => ho.part (List.mem_of_getElem? hp))

theorem Renamed.refl (hN : ∀ name, N name name) (hρ : ρ.Keeps (Occurs · term)) : Renamed N ρ term term := by
  induction term using partsInduction generalizing ρ with
  | step term ih =>
    have hself := Renamed.withParts hN hρ rfl fun i part part' σ hp hp' hσ => by
      obtain rfl := Option.some.inj (hp.symm.trans hp')
      exact ih part (List.mem_of_getElem? hp) hσ
    rwa [withParts_parts] at hself

/-- What is renamed at a position stays within the same term. -/
theorem Renamed.put {p : Position} (hN : ∀ name, N name name) (hρ : ρ.Keeps (Occurs · term))
    (hp : term.at? p = some node) {other : Term Loc}
    (h : ∀ σ : Pairing, σ.Keeps (Occurs · node) → Renamed N σ node other) : Renamed N ρ term (term.put p other) := by
  induction p generalizing term ρ with
  | nil =>
    cases hp
    exact h ρ hρ
  | cons i p ih =>
    obtain ⟨part, hpart, hrest⟩ := at?_cons.1 hp
    rw [Term.put, hpart]
    refine .withParts hN hρ List.length_set fun j old' new' σ ho hn hσ => ?_
    by_cases hij : i = j
    · subst hij
      obtain rfl := Option.some.inj (hpart.symm.trans ho)
      rw [List.getElem?_set_self (List.getElem?_eq_some_iff.1 ho).1, Option.some.injEq] at hn
      subst hn
      exact ih hσ hrest
    · rw [List.getElem?_set_ne hij, ho, Option.some.injEq] at hn
      subst hn
      exact .refl hN hσ

theorem Renamed.renameFree (hN : ∀ name, N name name) (hon : N old new) (hρ : ρ.Moves old new (Occurs · term))
    (hnew : ¬ Occurs new term) : Renamed N ρ term (renameFree old new term) := by
  induction term using partsInduction generalizing ρ with
  | step term ih =>
    replace ih : ∀ part ∈ term.parts, ∀ {σ : Pairing}, σ.Moves old new (Occurs · term) →
        Renamed N σ part (Term.renameFree old new part) := fun part hm _ hσ =>
      ih part hm (hσ.mono fun _ ho => ho.part hm) fun ho => hnew (ho.part hm)
    have hkept : ∀ part ∈ term.parts, ∀ {σ : Pairing}, σ.Keeps (Occurs · term) → Renamed N σ part part :=
      fun part hm _ hσ => .refl hN (hσ.mono fun _ ho => ho.part hm)
    -- a node that binds other names, or none, is renamed in all its parts
    have hall : ∀ {other inner}, SameHead N ρ term other inner →
        other.parts = term.parts.map (Term.renameFree old new) →
        (∀ i, (inner i).Moves old new (Occurs · term)) → Renamed N ρ term other := by
      intro other inner hhead hparts hinner
      refine .node hhead (by rw [hparts, List.length_map]) fun i part part' hp hp' => ?_
      rw [hparts, List.getElem?_map, hp] at hp'
      cases hp'
      exact ih part (List.mem_of_getElem? hp) (hinner i)
    -- a node that binds the old name hides it, in the parts for which it does
    have hunder : ∀ part ∈ term.parts, ∀ {σ : Pairing} {xs : List String}, σ.Moves old new (Occurs · term) →
        new ∉ xs → Renamed N (σ.extend xs xs) part (if old ∈ xs then part else Term.renameFree old new part) := by
      intro part hm σ xs hσ hn
      split
      · exact hkept part hm (hσ.hide ‹_›)
      · exact ih part hm (hσ.extend ‹_› hn)
    have hown : new ∉ term.ownNames := fun hm => hnew (.own hm)
    cases term with
    | bool => exact hall .bool rfl fun _ => hρ
    | number => exact hall .number rfl fun _ => hρ
    | ite => exact hall .ite rfl fun _ => hρ
    | add => exact hall .add rfl fun _ => hρ
    | var name =>
      refine hall (.var ?_) rfl fun _ => hρ
      by_cases he : name = old
      · rw [he, renamed_self]
        exact hρ.moved
      · rw [renamed_of_ne he]
        exact hρ.kept name (.own List.mem_cons_self) he
    | func params body =>
      exact .node (.func rfl id) rfl (forall_part (hunder body List.mem_cons_self hρ hown))
    | call callee args => exact hall .call (by simp [Term.renameFree, renameFreeArgs_eq, parts]) fun _ => hρ
    | seq => exact hall .seq rfl fun _ => hρ
    | const name init rest =>
      exact .node .const rfl (forall_two_parts (ih init (by simp [parts]) hρ) (hunder rest (by simp [parts]) hρ hown))
    | recFunc name params ret body rest =>
      rw [ownNames, List.mem_cons, not_or] at hown
      have hn : new ∉ [name] := List.mem_singleton.not.2 hown.1
      have hbody : body ∈ (Term.recFunc name params ret body rest ‹Loc›).parts := by simp [parts]
      refine .node (.recFunc rfl id) rfl (forall_two_parts ?_ (hunder rest (by simp [parts]) hρ hn))
      -- the parameters hide the old name, or else the function's own name may do so
      by_cases hp : old ∈ Dict.names params
      · rw [if_pos (List.mem_cons_of_mem _ hp)]
        exact hkept body hbody ((hρ.hide hp).extend _)
      · have hinner := hunder body hbody (hρ.extend hp hown.2) hn
        simpa [hp] using hinner
    | objectNew props =>
      refine hall (.objectNew ?_) ?_ fun _ => hρ
      · rw [renameFreeProps_eq, Dict.names_mapValues]
      · simp [Term.renameFree, renameFreeProps_eq, parts, Dict.mapValues]
    | objectGet => exact hall .objectGet rfl fun _ => hρ
    | unionNew label props =>
      refine hall (.unionNew ?_) ?_ fun _ => hρ
      · rw [renameFreeProps_eq, Dict.names_mapValues]
      · simp [Term.renameFree, renameFreeProps_eq, parts, Dict.mapValues]
    | unionGet subject clauses =>
      have hs : Occurs subject (.unionGet subject clauses ‹Loc›) := .own List.mem_cons_self
      have hnames : Dict.names clauses = Dict.names (renameFreeProps old new clauses) := by
        rw [renameFreeProps_eq, Dict.names_mapValues]
      have hparts : (Term.renameFree old new (.unionGet subject clauses ‹Loc›)).parts =
          (Term.unionGet subject clauses ‹Loc›).parts.map (Term.renameFree old new) := by
        simp [Term.renameFree, renameFreeProps_eq, parts, Dict.mapValues]
      rw [Term.renameFree] at hparts ⊢
      -- the subject is bound again under its own name, so in the clauses the renaming goes on
      by_cases he : subject = old
      · subst he
        rw [renamed_self] at hparts ⊢
        exact hall (.unionGet hρ.moved hon hnames) hparts fun _ => hρ.rebind hnew
      · rw [renamed_of_ne he] at hparts ⊢
        refine hall (.unionGet (hρ.kept subject hs he) (hN subject) hnames) hparts fun _ => ?_
        exact hρ.extend (List.mem_singleton.not.2 (Ne.symm he)) hown

theorem names_renameParam (params : List (String × Ty)) :
    Dict.names (renameParam old new params) = (Dict.names params).map (renamed old new) := by
  simp [renameParam, Dict.names]

theorem nodup_renameParam {params : List (String × Ty)} (hn : new ∉ Dict.names params)
    (hd : (Dict.names params).Nodup) : (Dict.names (renameParam old new params)).Nodup := by
  rw [names_renameParam]
  refine hd.map_on fun x hx y hy he => ?_
  by_cases hxo : x = old <;> by_cases hyo : y = old
  · rw [hxo, hyo]
  · rw [hxo, renamed_self, renamed_of_ne hyo] at he
    exact absurd (he ▸ hy) hn
  · rw [hyo, renamed_self, renamed_of_ne hxo] at he
    exact absurd (he ▸ hx) hn
  · rwa [renamed_of_ne hxo, renamed_of_ne hyo] at he

/-- Renaming what a node binds leaves it the same up to names. -/
theorem Renamed.renameBound {binder : Binder} (hN : ∀ name, N name name) (hon : N old new)
    (hρ : ρ.Keeps (Occurs · term)) (hnew : ¬ Occurs new term) (ho : old ∈ term.bound binder) :
    Renamed N ρ term (term.renameBound binder old new) := by
  have hown : new ∉ term.ownNames := fun hm => hnew (.own hm)
  have hmoved : ∀ part ∈ term.parts, ∀ {σ : Pairing}, σ.Moves old new (Occurs · term) →
      Renamed N σ part (Term.renameFree old new part) := fun part hm _ hσ =>
    .renameFree hN hon (hσ.mono fun _ h => h.part hm) fun h => hnew (h.part hm)
  have hkept : ∀ part ∈ term.parts, ∀ {σ : Pairing}, σ.Keeps (Occurs · term) → Renamed N σ part part :=
    fun part hm _ hσ => .refl hN (hσ.mono fun _ h => h.part hm)
  have hitself : ∀ {σ : Pairing}, σ.Keeps (Occurs · term) → (σ.extend [old] [new]).Moves old new (Occurs · term) := by
    intro σ hσ
    simpa using hσ.move (List.mem_singleton_self old) hnew
  cases term with
  | const name init rest =>
    cases binder with
    | param => cases ho
    | itself =>
      obtain rfl := List.mem_singleton.1 ho
      refine .node .const rfl (forall_two_parts (hkept init (by simp [parts]) hρ) ?_)
      exact hmoved rest (by simp [parts]) (hitself hρ)
  | func params body =>
    cases binder with
    | itself => cases ho
    | param =>
      refine .node (.func (by simp [renameParam]) (nodup_renameParam hown)) rfl (forall_part ?_)
      rw [names_renameParam]
      exact hmoved body List.mem_cons_self (hρ.move ho hnew)
  | recFunc name params ret body rest =>
    rw [ownNames, List.mem_cons, not_or] at hown
    have hbody : body ∈ (Term.recFunc name params ret body rest ‹Loc›).parts := by simp [parts]
    have hrest : rest ∈ (Term.recFunc name params ret body rest ‹Loc›).parts := by simp [parts]
    cases binder with
    | itself =>
      obtain rfl := List.mem_singleton.1 ho
      refine .node (.recFunc rfl id) rfl (forall_two_parts ?_ (hmoved rest hrest (hitself hρ)))
      exact hmoved body hbody (hitself (hρ.extend _))
    | param =>
      refine .node (.recFunc (by simp [renameParam]) (nodup_renameParam hown.2)) rfl
        (forall_two_parts ?_ (hkept rest hrest (hρ.extend _)))
      have hparam := hρ.move ho hnew
      rw [names_renameParam]
      -- the function's own name hides a parameter of that name
      by_cases hn : old ∈ [name]
      · rw [if_pos hn]
        exact hkept body hbody (hparam.hide hn)
      · rw [if_neg hn]
        exact hmoved body hbody (hparam.extend hn (List.mem_singleton.not.2 hown.1))
  | _ => cases ho

end

end StructuralTyping.Term
