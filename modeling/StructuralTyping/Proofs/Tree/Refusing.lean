/-
Refusals are justified. Wherever a reader stops in a tree, the trail leads to a part of the tree, and what
the refusal says of that part is so. Only an item of a list of named parts can be a stray, and only if it is
no object: anywhere else a value of the wrong kind is refused with a hint.
-/
import StructuralTyping.Proofs.Tree.Reading

namespace StructuralTyping.Tree

/-! ## Places -/

/-- The trail leads to the part of a tree that is read from the trail `base` on. -/
def Stands (base : Trail) (root : Json) (trail : Trail) (part : Json) : Prop :=
  ∃ way, trail = base ++ way ∧ Trail.follow root way = some part

/-- The lists whose items have names. -/
def namedLists : List String := ["params", "props", "variants", "clauses"]

/-- The trail leads to an item of a list of named parts. -/
def Trail.ToNamed (trail : Trail) : Prop := ∃ owner key index, key ∈ namedLists ∧ trail = owner ++ [.item key index]

/-- Where types and terms are: at the start, in a field, and among arguments. -/
inductive NodePlace (base : Trail) : Trail → Prop where
  | start : NodePlace base base
  | field {owner key} : NodePlace base (owner ++ [.field key])
  | arg {owner index} : NodePlace base (owner ++ [.item "args" index])

section

variable {base trail : Trail} {root node part : Json} {next : Step}

theorem Stands.start : Stands base root base root := ⟨[], (List.append_nil base).symm, rfl⟩

theorem Stands.step (h : Stands base root trail node) (hs : next.follow node = some part) :
    Stands base root (trail ++ [next]) part := by
  obtain ⟨way, rfl, hway⟩ := h
  refine ⟨way ++ [next], List.append_assoc .., ?_⟩
  rw [Trail.follow_append, hway]
  simp [Trail.follow, hs]

theorem Stands.field {key : String} (h : Stands base root trail node) (hp : node.field? key = some part) :
    Stands base root (trail ++ [.field key]) part :=
  h.step hp

theorem Stands.item {key : String} {items : List Json} {index : Nat} (h : Stands base root trail node)
    (hl : node.field? key = some (.array items)) (hi : items[index]? = some part) :
    Stands base root (trail ++ [.item key index]) part :=
  h.step (by simp only [Step.follow, hl, hi])

theorem Trail.toNamed_item {key : String} {index : Nat} (hk : key ∈ namedLists) :
    Trail.ToNamed (trail ++ [.item key index]) :=
  ⟨trail, key, index, hk, rfl⟩

/-- No whole node is expected where a named part is. -/
theorem NodePlace.not_toNamed (h : NodePlace [] trail) : ¬ trail.ToNamed := by
  rintro ⟨owner, key, index, hk, ht⟩
  cases h with
  | start => simp at ht
  | field => simp at ht
  | arg =>
    obtain ⟨-, hstep⟩ := List.append_singleton_inj.1 ht
    cases hstep
    simp [namedLists] at hk

end

/-! ## Faults -/

/-- What is wrong with a tree: the trail leads to a part of which the cause is true. -/
inductive Fault (source : Option Path) (base : Trail) (root : Json) : Refusal → Prop where
  | noTag {trail node} : Stands base root trail node → NodePlace base trail →
      (∀ tag, node.field? "tag" ≠ some (.text tag)) → Fault source base root ⟨trail, .hint (.noTag node)⟩
  | unknownTypeTag {trail node tag} : Stands base root trail node → node.field? "tag" = some (.text tag) →
      Ty.Kind.ofTag? tag = none → Fault source base root ⟨trail, .hint (.unknownTypeTag tag)⟩
  | unknownTermTag {trail node tag} : Stands base root trail node → node.field? "tag" = some (.text tag) →
      Term.Kind.ofTag? tag = none → Fault source base root ⟨trail, .hint (.unknownTermTag tag)⟩
  | missingField {trail fields key} : Stands base root trail (.object fields) → fields.lookup key = none →
      Fault source base root ⟨trail, .hint (.missingField ((fields.lookup "tag").getD .null) key)⟩
  | notList {trail node key part} : Stands base root trail node → node.field? key = some part →
      (∀ items, part ≠ .array items) → Fault source base root ⟨trail, .hint (.notList key)⟩
  | notName {trail node key part} : Stands base root trail node → node.field? key = some part →
      (∀ text, part ≠ .text text) → Fault source base root ⟨trail, .hint (.notName key)⟩
  | repeatedName {trail key i j item other name} : j < i → Stands base root (trail ++ [.item key i]) item →
      Stands base root (trail ++ [.item key j]) other → item.field? "name" = some (.text name) →
      other.field? "name" = some (.text name) →
      Fault source base root ⟨trail ++ [.item key i], .hint (.repeatedName name)⟩
  | repeatedVariant {trail key i j item other label} : j < i → Stands base root (trail ++ [.item key i]) item →
      Stands base root (trail ++ [.item key j]) other → item.field? "tagLabel" = some (.text label) →
      other.field? "tagLabel" = some (.text label) →
      Fault source base root ⟨trail ++ [.item key i], .hint (.repeatedVariant label)⟩
  | notNumber {trail node part} : Stands base root trail node → node.field? "n" = some part →
      (∀ value, part ≠ .number value) → Fault source base root ⟨trail, .hint .notNumber⟩
  | malformedLocation {trail node tag} : Stands base root trail node → node.field? "loc" = some tag →
      (∀ loc, ¬ Located source node loc) → Fault source base root ⟨trail, .hint (.malformedLocation tag)⟩
  | stray {trail value key} : Stands base root trail value → trail.ToNamed → (∀ fields, value ≠ .object fields) →
      Fault source base root ⟨trail, .stray (.of value key)⟩

/-- Objects have fields, and of other values only named parts are asked for them. -/
def MayHaveFields (trail : Trail) (node : Json) : Prop := (∃ fields, node = .object fields) ∨ trail.ToNamed

section

variable {source : Option Path} {base trail : Trail} {root node : Json} {key : String}

theorem field_fault (h : Stands base root trail node) (hn : MayHaveFields trail node) :
    FailsWith (Fault source base root) (field trail node key) := by
  unfold field
  split
  · exact .ok _
  · cases node with
    | object fields => exact .error (.missingField h ‹_›)
    | _ => exact .error (.stray h (hn.resolve_left nofun) nofun)

section

variable {β : Type}

theorem field_bind_fault {f : { part : Json // sizeOf part < sizeOf node } → Reading β}
    (h : Stands base root trail node) (hn : MayHaveFields trail node)
    (hf : ∀ part, ∀ hpart : node.field? key = some part,
      FailsWith (Fault source base root) (f ⟨part, Json.sizeOf_field? hpart⟩)) :
    FailsWith (Fault source base root) (field trail node key >>= f) :=
  (field_fault h hn).bind fun part hpart => hf part.1 (field_eq_ok.1 hpart)

theorem list_bind_fault {f : { items : List Json // sizeOf items < sizeOf node } → Reading β}
    (h : Stands base root trail node) (hn : MayHaveFields trail node)
    (hf : ∀ items, ∀ hl : node.field? key = some (.array items),
      FailsWith (Fault source base root) (f ⟨items, sizeOf_items_lt hl⟩)) :
    FailsWith (Fault source base root) (list trail node key >>= f) := by
  unfold list
  rw [bind_assoc]
  refine field_bind_fault h hn fun part hpart => ?_
  cases part with
  | array items => exact hf items hpart
  | _ => exact .error (.notList h hpart nofun)

end

theorem name_fault (h : Stands base root trail node) (hn : MayHaveFields trail node) :
    FailsWith (Fault source base root) (name trail node key) := by
  refine field_bind_fault h hn fun part hpart => ?_
  cases part with
  | text => exact .ok _
  | _ => exact .error (.notName h hpart nofun)

theorem numeral_fault (h : Stands base root trail node) (hn : MayHaveFields trail node) :
    FailsWith (Fault source base root) (numeral trail node) := by
  refine field_bind_fault h hn fun part hpart => ?_
  cases part with
  | number => exact .ok _
  | _ => exact .error (.notNumber h hpart nofun)

theorem tagOf_fault (h : Stands base root trail node) (hp : NodePlace base trail) :
    FailsWith (Fault source base root) (tagOf trail node) := by
  unfold tagOf
  split
  · exact .ok _
  · exact .error (.noTag h hp ‹_›)

theorem location_fault (h : Stands base root trail node) :
    FailsWith (Fault source base root) (location source trail node) := by
  intro refusal he
  have hmalformed : ∀ loc, ¬ Located source node loc := fun loc hl => by
    rw [location_eq_ok.2 hl] at he
    cases he
  unfold location at he
  cases htag : node.field? "loc" with
  | none => exact absurd (.absent htag) (hmalformed none)
  | some tag =>
    rw [htag] at he
    dsimp only [Option.getD_some] at he
    split at he
    · cases he
    · cases he
      exact .malformedLocation h htag hmalformed

/-- A name that was read before is the name of an earlier item. -/
theorem exists_earlier {α : Type} {nameKey name : String} {behind items : List Json} {done : List (String × α)}
    (h : Stands base root trail node) (hl : node.field? key = some (.array (behind ++ items)))
    (hd : List.Forall₂ (fun item entry => item.field? nameKey = some (.text entry.1)) behind done)
    (hn : (Dict.names done).contains name = true) : ∃ j < behind.length, ∃ other,
      Stands base root (trail ++ [.item key j]) other ∧ other.field? nameKey = some (.text name) := by
  obtain ⟨entry, hm, rfl⟩ := List.mem_map.1 (List.contains_iff_mem.1 hn)
  obtain ⟨j, hj, rfl⟩ := List.mem_iff_getElem.1 hm
  have hbehind : j < behind.length := hd.length_eq ▸ hj
  refine ⟨j, hbehind, behind[j], h.item hl ?_, hd.get hbehind hj⟩
  rw [List.getElem?_append_left hbehind, List.getElem?_eq_getElem hbehind]

theorem forall₂_snoc {α : Type} {nameKey name : String} {behind : List Json} {done : List (String × α)} {item : Json}
    {value : α} (hd : List.Forall₂ (fun item entry => item.field? nameKey = some (.text entry.1)) behind done)
    (hi : item.field? nameKey = some (.text name)) :
    List.Forall₂ (fun item entry => item.field? nameKey = some (.text entry.1)) (behind ++ [item])
      (done ++ [(name, value)]) :=
  List.rel_append hd (.cons hi .nil)

end

/-! ## Whatever is read -/

section

variable {source : Option Path} {base : Trail} {root : Json}

-- In a list the reader has the items `behind` read already: as many as there are in `done`, whose names they have.

mutual

theorem readType_fault (trail : Trail) (node : Json) (h : Stands base root trail node) (hp : NodePlace base trail) :
    FailsWith (Fault source base root) (readType trail node) := by
  rw [readType]
  refine (tagOf_fault h hp).bind fun tag ht => ?_
  rw [tagOf_eq_ok] at ht
  have hobj : MayHaveFields trail node := .inl (Json.eq_object_of_field? ht)
  cases hk : Ty.Kind.ofTag? tag with
  | none => exact .error (.unknownTypeTag h ht hk)
  | some kind =>
    cases kind with
    | boolean | number => exact .ok _
    | func =>
      refine (readParams_fault trail node "params" h hobj (by decide)).bind fun params _ => ?_
      refine field_bind_fault h hobj fun part hpart => ?_
      have := Json.sizeOf_field? hpart
      exact (readType_fault _ part (h.field hpart) .field).bind fun ret _ => .ok _
    | object => exact (readParams_fault trail node "props" h hobj (by decide)).bind fun props _ => .ok _
    | union =>
      refine list_bind_fault h hobj fun items hl => ?_
      have := sizeOf_items_lt hl
      exact (readVariants_fault trail node [] [] items h .nil hl).bind fun variants _ => .ok _
termination_by (sizeOf node, 1)

theorem readParams_fault (trail : Trail) (node : Json) (key : String) (h : Stands base root trail node)
    (hn : MayHaveFields trail node) (hk : key ∈ namedLists) :
    FailsWith (Fault source base root) (readParams trail node key) := by
  rw [readParams]
  refine list_bind_fault h hn fun items hl => ?_
  have := sizeOf_items_lt hl
  exact readParamItems_fault trail node key [] [] items h hk .nil hl
termination_by (sizeOf node, 0)

theorem readParamItems_fault (trail : Trail) (node : Json) (key : String) (behind : List Json)
    (done : List (String × Ty)) (items : List Json) (h : Stands base root trail node) (hk : key ∈ namedLists)
    (hd : List.Forall₂ (fun item entry => item.field? "name" = some (.text entry.1)) behind done) :
    node.field? key = some (.array (behind ++ items)) →
      FailsWith (Fault source base root) (readParamItems trail key done items) := by
  cases items with
  | nil =>
    intro _
    rw [readParamItems]
    exact .ok _
  | cons item rest =>
    intro hl
    have hitem : Stands base root (trail ++ [.item key behind.length]) item := h.item hl (by simp)
    have hn : MayHaveFields (trail ++ [.item key behind.length]) item := .inr (Trail.toNamed_item hk)
    rw [readParamItems, ← hd.length_eq]
    refine (name_fault hitem hn).bind fun name hname => ?_
    rw [name_eq_ok] at hname
    split
    · obtain ⟨j, hj, other, hother, hsame⟩ := exists_earlier h hl hd ‹_›
      exact .error (.repeatedName hj hitem hother hname hsame)
    · refine field_bind_fault hitem hn fun part hpart => ?_
      have := Json.sizeOf_field? hpart
      refine (readType_fault _ part (hitem.field hpart) .field).bind fun type _ => ?_
      have hl' : node.field? key = some (.array (behind ++ [item] ++ rest)) := by simpa using hl
      exact readParamItems_fault trail node key (behind ++ [item]) _ rest h hk (forall₂_snoc hd hname) hl'
termination_by (sizeOf items, 0)

theorem readVariants_fault (trail : Trail) (node : Json) (behind : List Json)
    (done : List (String × List (String × Ty))) (items : List Json) (h : Stands base root trail node)
    (hd : List.Forall₂ (fun item entry => item.field? "tagLabel" = some (.text entry.1)) behind done) :
    node.field? "variants" = some (.array (behind ++ items)) →
      FailsWith (Fault source base root) (readVariants trail done items) := by
  cases items with
  | nil =>
    intro _
    rw [readVariants]
    exact .ok _
  | cons item rest =>
    intro hl
    have hitem : Stands base root (trail ++ [.item "variants" behind.length]) item := h.item hl (by simp)
    have hn : MayHaveFields (trail ++ [.item "variants" behind.length]) item := .inr (Trail.toNamed_item (by decide))
    rw [readVariants, ← hd.length_eq]
    refine (name_fault hitem hn).bind fun label hlabel => ?_
    rw [name_eq_ok] at hlabel
    split
    · obtain ⟨j, hj, other, hother, hsame⟩ := exists_earlier h hl hd ‹_›
      exact .error (.repeatedVariant hj hitem hother hlabel hsame)
    · refine (readParams_fault _ item "props" hitem hn (by decide)).bind fun props _ => ?_
      exact readVariants_fault trail node (behind ++ [item]) _ rest h (forall₂_snoc hd hlabel) (by simpa using hl)
termination_by (sizeOf items, 0)

end

mutual

theorem readTerm_fault (trail : Trail) (node : Json) (h : Stands base root trail node) (hp : NodePlace base trail) :
    FailsWith (Fault source base root) (readTerm source trail node) := by
  rw [readTerm]
  refine (tagOf_fault h hp).bind fun tag ht => ?_
  rw [tagOf_eq_ok] at ht
  have hobj : MayHaveFields trail node := .inl (Json.eq_object_of_field? ht)
  have hpart : ∀ key, FailsWith (Fault source base root) (readPart source trail node key) := fun key =>
    readPart_fault trail node key h hobj
  have hparams : FailsWith (Fault source base root) (readParams trail node "params") :=
    readParams_fault trail node "params" h hobj (by decide)
  have hname : ∀ key, FailsWith (Fault source base root) (name trail node key) := fun key => name_fault h hobj
  have hnamed : ∀ {β : Type} {key nameKey} {f : List (String × Term (Option Span)) → Reading β}, key ∈ namedLists →
      (∀ props, FailsWith (Fault source base root) (f props)) →
      FailsWith (Fault source base root)
        (list trail node key >>= fun x => readNamed source trail key nameKey [] x.1 >>= f) := by
    intro β key nameKey f hk hf
    refine list_bind_fault h hobj fun items hl => ?_
    have := sizeOf_items_lt hl
    exact (readNamed_fault trail node key nameKey [] [] items h hk rfl hl).bind fun props _ => hf props
  cases hk : Term.Kind.ofTag? tag with
  | none => exact .error (.unknownTermTag h ht hk)
  | some kind =>
    refine (location_fault h).bind fun loc _ => ?_
    cases kind with
    | litTrue | litFalse => exact .ok _
    | number => exact (numeral_fault h hobj).bind fun value _ => .ok _
    | ite =>
      refine (hpart "cond").bind fun cond _ => ?_
      refine (hpart "thn").bind fun thn _ => ?_
      exact (hpart "els").bind fun els _ => .ok _
    | add =>
      refine (hpart "left").bind fun left _ => ?_
      exact (hpart "right").bind fun right _ => .ok _
    | var => exact (hname "name").bind fun name _ => .ok _
    | func =>
      refine hparams.bind fun params _ => ?_
      exact (hpart "body").bind fun body _ => .ok _
    | call =>
      refine (hpart "func").bind fun callee _ => ?_
      refine list_bind_fault h hobj fun items hl => ?_
      have := sizeOf_items_lt hl
      exact (readArgs_fault trail node [] [] items h rfl hl).bind fun args _ => .ok _
    | seq =>
      refine (hpart "body").bind fun body _ => ?_
      exact (hpart "rest").bind fun rest _ => .ok _
    | const =>
      refine (hname "name").bind fun name _ => ?_
      refine (hpart "init").bind fun init _ => ?_
      exact (hpart "rest").bind fun rest _ => .ok _
    | recFunc =>
      refine (hname "funcName").bind fun name _ => ?_
      refine hparams.bind fun params _ => ?_
      refine field_bind_fault h hobj fun part hret => ?_
      refine (readType_fault _ part (h.field hret) .field).bind fun ret _ => ?_
      refine (hpart "body").bind fun body _ => ?_
      exact (hpart "rest").bind fun rest _ => .ok _
    | objectNew => exact hnamed (by decide) fun props => .ok _
    | objectGet =>
      refine (hpart "obj").bind fun object _ => ?_
      exact (hname "propName").bind fun name _ => .ok _
    | unionNew =>
      refine (hname "tagLabel").bind fun label _ => ?_
      refine hnamed (by decide) fun props => ?_
      refine field_bind_fault h hobj fun part has => ?_
      exact (readType_fault _ part (h.field has) .field).bind fun type _ => .ok _
    | unionGet =>
      refine hnamed (by decide) fun clauses => ?_
      exact (hname "varName").bind fun subject _ => .ok _
termination_by (sizeOf node, 1)

theorem readPart_fault (trail : Trail) (node : Json) (key : String) (h : Stands base root trail node)
    (hn : MayHaveFields trail node) : FailsWith (Fault source base root) (readPart source trail node key) := by
  rw [readPart]
  refine field_bind_fault h hn fun part hpart => ?_
  have := Json.sizeOf_field? hpart
  exact readTerm_fault _ part (h.field hpart) .field
termination_by (sizeOf node, 0)

theorem readArgs_fault (trail : Trail) (node : Json) (behind : List Json) (done : List (Term (Option Span)))
    (items : List Json) (h : Stands base root trail node) (hd : behind.length = done.length) :
    node.field? "args" = some (.array (behind ++ items)) →
      FailsWith (Fault source base root) (readArgs source trail done items) := by
  cases items with
  | nil =>
    intro _
    rw [readArgs]
    exact .ok _
  | cons item rest =>
    intro hl
    have hitem : Stands base root (trail ++ [.item "args" behind.length]) item := h.item hl (by simp)
    rw [readArgs, ← hd]
    refine (readTerm_fault _ item hitem .arg).bind fun arg _ => ?_
    exact readArgs_fault trail node (behind ++ [item]) _ rest h (by simp [hd]) (by simpa using hl)
termination_by (sizeOf items, 0)

theorem readNamed_fault (trail : Trail) (node : Json) (key nameKey : String) (behind : List Json)
    (done : List (String × Term (Option Span))) (items : List Json) (h : Stands base root trail node)
    (hk : key ∈ namedLists) (hd : behind.length = done.length) :
    node.field? key = some (.array (behind ++ items)) →
      FailsWith (Fault source base root) (readNamed source trail key nameKey done items) := by
  cases items with
  | nil =>
    intro _
    rw [readNamed]
    exact .ok _
  | cons item rest =>
    intro hl
    have hitem : Stands base root (trail ++ [.item key behind.length]) item := h.item hl (by simp)
    have hn : MayHaveFields (trail ++ [.item key behind.length]) item := .inr (Trail.toNamed_item hk)
    rw [readNamed, ← hd]
    refine (name_fault hitem hn).bind fun name _ => ?_
    refine (readPart_fault _ item "term" hitem hn).bind fun term _ => ?_
    exact readNamed_fault trail node key nameKey (behind ++ [item]) _ rest h hk (by simp [hd]) (by simpa using hl)
termination_by (sizeOf items, 0)

end

end

end StructuralTyping.Tree
