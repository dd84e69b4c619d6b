/-
The roles in which the values of a tree are read. The role of a value says which of its fields are read, and
in which order, and what it takes for the value to be well-formed. A trail to a place in the tree, with the
field that is to be read there, divides the tree: on the way down, all fields and items before it have been
read. Law: whatever is read within a well-formed value is well-formed.
-/
import StructuralTyping.Proofs.Tree.Reading

namespace StructuralTyping.Tree

/-! ## Roles -/

/-- What a value is read as. A named term has its name in the given field. -/
inductive Role where
  | typeTag | termTag | loc | name | number
  | type | term
  | param | variant | namedTerm (nameKey : String)
  | params | variants | terms | namedTerms (nameKey : String)
  deriving Repr, DecidableEq

namespace Role

/-- What the items of a list are read as. -/
def item? : Role → Option Role
  | .params => some .param
  | .variants => some .variant
  | .terms => some .term
  | .namedTerms nameKey => some (.namedTerm nameKey)
  | _ => none

/-- The fields of a type, in the order in which they are read. -/
def ofType : Ty.Kind → List (String × Role)
  | .boolean | .number => []
  | .func => [("params", .params), ("retType", .type)]
  | .object => [("props", .params)]
  | .union => [("variants", .variants)]

/-- The fields of a term, in the order in which they are read. -/
def ofTerm : Term.Kind → List (String × Role)
  | .litTrue | .litFalse => []
  | .number => [("n", .number)]
  | .ite => [("cond", .term), ("thn", .term), ("els", .term)]
  | .add => [("left", .term), ("right", .term)]
  | .var => [("name", .name)]
  | .func => [("params", .params), ("body", .term)]
  | .call => [("func", .term), ("args", .terms)]
  | .seq => [("body", .term), ("rest", .term)]
  | .const => [("name", .name), ("init", .term), ("rest", .term)]
  | .recFunc => [("funcName", .name), ("params", .params), ("retType", .type), ("body", .term), ("rest", .term)]
  | .objectNew => [("props", .namedTerms "name")]
  | .objectGet => [("obj", .term), ("propName", .name)]
  | .unionNew => [("tagLabel", .name), ("props", .namedTerms "name"), ("as", .type)]
  | .unionGet => [("clauses", .namedTerms "tagLabel"), ("varName", .name)]

/-- The text in the tag of a node. -/
def tag? (node : Json) : Option String :=
  match node.field? "tag" with
  | some (.text tag) => some tag
  | _ => none

/-- The fields of a value that are read, in order. Without a tag that is known there are no more of them. -/
def fields (node : Json) : Role → List (String × Role)
  | .type => ("tag", .typeTag) :: (((tag? node).bind Ty.Kind.ofTag?).elim [] ofType)
  | .term => ("tag", .termTag) :: (((tag? node).bind Term.Kind.ofTag?).elim [] fun kind => ("loc", .loc) :: ofTerm kind)
  | .param => [("name", .name), ("type", .type)]
  | .variant => [("tagLabel", .name), ("props", .params)]
  | .namedTerm nameKey => [(nameKey, .name), ("term", .term)]
  | _ => []

/-- What a step leads to is read as. -/
def at? (node : Json) (role : Role) : Step → Option Role
  | .field key => (role.fields node).lookup key
  | .item key _ => ((role.fields node).lookup key).bind item?

/-- What it takes for a value to be what it is read as. -/
def WellFormed (source : Option Path) (value : Json) : Role → Prop
  | .typeTag => ∃ kind : Ty.Kind, value = .text kind.tag
  | .termTag => ∃ kind : Term.Kind, value = .text kind.tag
  | .loc => ∃ loc, Located source (.object [("loc", value)]) loc
  | .name => ∃ text, value = .text text
  | .number => ∃ number, value = .number number
  | .type => ∃ type, TypeTree value type
  | .term => ∃ term, TermTree source value term
  | .param => ∃ p, TypedTrees [value] [p]
  | .variant => ∃ v, VariantTrees [value] [v]
  | .namedTerm nameKey => ∃ p, NamedTrees source nameKey [value] [p]
  | .params => ∃ items params, value = .array items ∧ TypedTrees items params ∧ (Dict.names params).Nodup
  | .variants => ∃ items variants, value = .array items ∧ VariantTrees items variants ∧ (Dict.names variants).Nodup
  | .terms => ∃ items args, value = .array items ∧ ArgTrees source items args
  | .namedTerms nameKey => ∃ items props, value = .array items ∧ NamedTrees source nameKey items props

end Role

/-! ## What is finished -/

/-- The key of the field that a step goes to or through. -/
def Step.key : Step → String
  | .field key | .item key _ => key

/-- One step comes before another one if its field does, or its item of the same list. -/
def Step.Before (keys : List String) (step next : Step) : Prop :=
  step.key ∈ keys.takeWhile (· != next.key) ∨ ∃ key i j, i < j ∧ step = .item key i ∧ next = .item key j

/-- A way down along what is read. -/
inductive Leads : Role → Json → Trail → Role → Json → Prop where
  | here {role value} : Leads role value [] role value
  | step {role node next inner part way last value} : role.at? node next = some inner → next.follow node = some part →
      Leads inner part way last value → Leads role node (next :: way) last value

/-- What is finished when reading has come to the last step of a way: whatever is read before a step of it. -/
inductive Finished : Role → Json → Trail → Role → Json → Prop where
  | earlier {role node next rest step inner part way last value} :
      step.Before (Dict.names (role.fields node)) next → role.at? node step = some inner →
      step.follow node = some part → Leads inner part way last value → Finished role node (next :: rest) last value
  | inside {role node next rest inner part last value} : role.at? node next = some inner →
      next.follow node = some part → Finished inner part rest last value → Finished role node (next :: rest) last value

/-- The step to what was to be read when the hint was given. -/
def Hint.step : Hint → Step
  | .noTag _ | .unknownTypeTag _ | .unknownTermTag _ => .field "tag"
  | .missingField _ key | .notList key | .notName key => .field key
  | .repeatedName _ => .field "name"
  | .repeatedVariant _ => .field "tagLabel"
  | .notNumber => .field "n"
  | .malformedLocation _ => .field "loc"

namespace Role

variable {source : Option Path} {node value : Json} {key : String} {role : Role}

theorem tag?_eq_some {tag : String} : tag? node = some tag ↔ node.field? "tag" = some (.text tag) := by
  unfold tag?
  split
  · simp [*]
  · rename_i hn
    exact iff_of_false (Option.some_ne_none tag).symm (hn tag)

theorem fields_type (kind : Ty.Kind) (h : node.field? "tag" = some (.text kind.tag)) :
    Role.type.fields node = ("tag", .typeTag) :: ofType kind := by
  rw [fields, tag?_eq_some.2 h, Option.bind_some, Ty.Kind.ofTag?_tag]
  rfl

theorem fields_term (kind : Term.Kind) (h : node.field? "tag" = some (.text kind.tag)) :
    Role.term.fields node = ("tag", .termTag) :: ("loc", .loc) :: ofTerm kind := by
  rw [fields, tag?_eq_some.2 h, Option.bind_some, Term.Kind.ofTag?_tag]
  rfl

/-! ## Parts of what is well-formed -/

/-- A field is not there or it is what it is read as. -/
def Holds (source : Option Path) (node : Json) (entry : String × Role) : Prop :=
  ∀ value, node.field? entry.1 = some value → entry.2.WellFormed source value

theorem Holds.of (h : node.field? key = some value) (hw : role.WellFormed source value) :
    Holds source node (key, role) := by
  intro found hf
  obtain rfl := Option.some.inj (h.symm.trans hf)
  exact hw

theorem holds_name {text : String} (h : node.field? key = some (.text text)) : Holds source node (key, .name) :=
  .of h ⟨text, rfl⟩

theorem holds_loc {loc : Option Span} (h : Located source node loc) : Holds source node ("loc", .loc) := by
  intro value hv
  have hread := (spanRead_eq_ok hv).2 h
  exact ⟨loc, (spanRead_eq_ok rfl).1 hread⟩

theorem holds_params {params : List (String × Ty)} (h : ParamTrees node key params) :
    Holds source node (key, .params) := by
  obtain ⟨hl, hp, hd⟩ := h
  exact .of hl ⟨_, _, rfl, hp, hd⟩

theorem holds_part {term : Term (Option Span)} (h : PartTree source node key term) :
    Holds source node (key, .term) := by
  obtain ⟨hp, ht⟩ := h
  exact .of hp ⟨_, ht⟩

theorem holds_type {part : Json} {type : Ty} (h : node.field? key = some part) (ht : TypeTree part type) :
    Holds source node (key, .type) :=
  .of h ⟨type, ht⟩

theorem holds_namedTerms {nameKey : String} {items : List Json} {props : List (String × Term (Option Span))}
    (h : node.field? key = some (.array items)) (hp : NamedTrees source nameKey items props) :
    Holds source node (key, .namedTerms nameKey) :=
  .of h ⟨_, _, rfl, hp⟩

theorem holds_of_typeTree {type : Ty} (h : TypeTree node type) :
    ∀ entry ∈ Role.type.fields node, Holds source node entry := by
  cases h with
  | boolean ht =>
    rw [fields_type .boolean ht]
    simp only [ofType, List.forall_mem_cons]
    exact ⟨.of ht ⟨.boolean, rfl⟩, List.forall_mem_nil _⟩
  | number ht =>
    rw [fields_type .number ht]
    simp only [ofType, List.forall_mem_cons]
    exact ⟨.of ht ⟨.number, rfl⟩, List.forall_mem_nil _⟩
  | func ht hp hpart hr =>
    rw [fields_type .func ht]
    simp only [ofType, List.forall_mem_cons]
    exact ⟨.of ht ⟨.func, rfl⟩, holds_params hp, holds_type hpart hr, List.forall_mem_nil _⟩
  | object ht hp =>
    rw [fields_type .object ht]
    simp only [ofType, List.forall_mem_cons]
    exact ⟨.of ht ⟨.object, rfl⟩, holds_params hp, List.forall_mem_nil _⟩
  | union ht hi hv hd =>
    rw [fields_type .union ht]
    simp only [ofType, List.forall_mem_cons]
    exact ⟨.of ht ⟨.union, rfl⟩, .of hi ⟨_, _, rfl, hv, hd⟩, List.forall_mem_nil _⟩

theorem holds_of_termTree {term : Term (Option Span)} (h : TermTree source node term) :
    ∀ entry ∈ Role.term.fields node, Holds source node entry := by
  -- tag and location first, and then the fields of each kind
  have hall : ∀ kind : Term.Kind, ∀ {loc}, node.field? "tag" = some (.text kind.tag) → Located source node loc →
      (∀ entry ∈ ofTerm kind, Holds source node entry) → ∀ entry ∈ Role.term.fields node, Holds source node entry := by
    intro kind loc ht hl hrest
    rw [fields_term kind ht, List.forall_mem_cons, List.forall_mem_cons]
    exact ⟨.of ht ⟨kind, rfl⟩, holds_loc hl, hrest⟩
  cases h with
  | litTrue ht hl => exact hall .litTrue ht hl (List.forall_mem_nil _)
  | litFalse ht hl => exact hall .litFalse ht hl (List.forall_mem_nil _)
  | number ht hl hn =>
    refine hall .number ht hl ?_
    simp only [ofTerm, List.forall_mem_cons]
    exact ⟨.of hn ⟨_, rfl⟩, List.forall_mem_nil _⟩
  | ite ht hl hcond hthn hels =>
    refine hall .ite ht hl ?_
    simp only [ofTerm, List.forall_mem_cons]
    exact ⟨holds_part hcond, holds_part hthn, holds_part hels, List.forall_mem_nil _⟩
  | add ht hl hleft hright =>
    refine hall .add ht hl ?_
    simp only [ofTerm, List.forall_mem_cons]
    exact ⟨holds_part hleft, holds_part hright, List.forall_mem_nil _⟩
  | var ht hl hn =>
    refine hall .var ht hl ?_
    simp only [ofTerm, List.forall_mem_cons]
    exact ⟨holds_name hn, List.forall_mem_nil _⟩
  | func ht hl hp hbody =>
    refine hall .func ht hl ?_
    simp only [ofTerm, List.forall_mem_cons]
    exact ⟨holds_params hp, holds_part hbody, List.forall_mem_nil _⟩
  | call ht hl hcallee hi ha =>
    refine hall .call ht hl ?_
    simp only [ofTerm, List.forall_mem_cons]
    exact ⟨holds_part hcallee, .of hi ⟨_, _, rfl, ha⟩, List.forall_mem_nil _⟩
  | seq ht hl hbody hrest =>
    refine hall .seq ht hl ?_
    simp only [ofTerm, List.forall_mem_cons]
    exact ⟨holds_part hbody, holds_part hrest, List.forall_mem_nil _⟩
  | const ht hl hn hinit hrest =>
    refine hall .const ht hl ?_
    simp only [ofTerm, List.forall_mem_cons]
    exact ⟨holds_name hn, holds_part hinit, holds_part hrest, List.forall_mem_nil _⟩
  | recFunc ht hl hn hp hr hret hbody hrest =>
    refine hall .recFunc ht hl ?_
    simp only [ofTerm, List.forall_mem_cons]
    exact ⟨holds_name hn, holds_params hp, holds_type hr hret, holds_part hbody, holds_part hrest, List.forall_mem_nil _⟩
  | objectNew ht hl hi hp =>
    refine hall .objectNew ht hl ?_
    simp only [ofTerm, List.forall_mem_cons]
    exact ⟨holds_namedTerms hi hp, List.forall_mem_nil _⟩
  | objectGet ht hl ho hn =>
    refine hall .objectGet ht hl ?_
    simp only [ofTerm, List.forall_mem_cons]
    exact ⟨holds_part ho, holds_name hn, List.forall_mem_nil _⟩
  | unionNew ht hl hlabel hi hp has htype =>
    refine hall .unionNew ht hl ?_
    simp only [ofTerm, List.forall_mem_cons]
    exact ⟨holds_name hlabel, holds_namedTerms hi hp, holds_type has htype, List.forall_mem_nil _⟩
  | unionGet ht hl hi hc hs =>
    refine hall .unionGet ht hl ?_
    simp only [ofTerm, List.forall_mem_cons]
    exact ⟨holds_namedTerms hi hc, holds_name hs, List.forall_mem_nil _⟩

/-- The fields of what is well-formed are well-formed. -/
theorem WellFormed.field (h : role.WellFormed source node) : ∀ entry ∈ role.fields node, Holds source node entry := by
  cases role with
  | type =>
    obtain ⟨type, ht⟩ := h
    exact holds_of_typeTree ht
  | term =>
    obtain ⟨term, ht⟩ := h
    exact holds_of_termTree ht
  | param =>
    obtain ⟨p, h⟩ := h
    cases h with
    | cons hn hp ht =>
      simp only [fields, List.forall_mem_cons]
      exact ⟨holds_name hn, holds_type hp ht, List.forall_mem_nil _⟩
  | variant =>
    obtain ⟨v, h⟩ := h
    cases h with
    | cons hl hp =>
      simp only [fields, List.forall_mem_cons]
      exact ⟨holds_name hl, holds_params hp, List.forall_mem_nil _⟩
  | namedTerm nameKey =>
    obtain ⟨p, h⟩ := h
    cases h with
    | cons hn ht =>
      simp only [fields, List.forall_mem_cons]
      exact ⟨holds_name hn, holds_part ht, List.forall_mem_nil _⟩
  | _ => exact List.forall_mem_nil _

end Role

/-! ## Items of lists -/

theorem TypedTrees.item {items : List Json} {params : List (String × Ty)} (h : TypedTrees items params) :
    ∀ item ∈ items, ∃ p, TypedTrees [item] [p] := by
  induction items generalizing params with
  | nil => exact List.forall_mem_nil _
  | cons item rest ih =>
    cases h with
    | cons hn hp ht hrest => exact List.forall_mem_cons.2 ⟨⟨_, .cons hn hp ht .nil⟩, ih hrest⟩

theorem VariantTrees.item {items : List Json} {variants : List (String × List (String × Ty))}
    (h : VariantTrees items variants) : ∀ item ∈ items, ∃ v, VariantTrees [item] [v] := by
  induction items generalizing variants with
  | nil => exact List.forall_mem_nil _
  | cons item rest ih =>
    cases h with
    | cons hl hp hrest => exact List.forall_mem_cons.2 ⟨⟨_, .cons hl hp .nil⟩, ih hrest⟩

variable {source : Option Path}

theorem ArgTrees.item {items : List Json} {args : List (Term (Option Span))} (h : ArgTrees source items args) :
    ∀ item ∈ items, ∃ term, TermTree source item term := by
  induction items generalizing args with
  | nil => exact List.forall_mem_nil _
  | cons item rest ih =>
    cases h with
    | cons ha hrest => exact List.forall_mem_cons.2 ⟨⟨_, ha⟩, ih hrest⟩

theorem NamedTrees.item {nameKey : String} {items : List Json} {props : List (String × Term (Option Span))}
    (h : NamedTrees source nameKey items props) : ∀ item ∈ items, ∃ p, NamedTrees source nameKey [item] [p] := by
  induction items generalizing props with
  | nil => exact List.forall_mem_nil _
  | cons item rest ih =>
    cases h with
    | cons hn ht hrest => exact List.forall_mem_cons.2 ⟨⟨_, .cons hn ht .nil⟩, ih hrest⟩

namespace Role

variable {node sub value : Json} {role inner last : Role}

theorem WellFormed.item {items : List Json} (h : role.WellFormed source (.array items)) (hr : role.item? = some inner) :
    ∀ item ∈ items, inner.WellFormed source item := by
  cases role with
  | params =>
    cases hr
    obtain ⟨items, params, ⟨⟩, hp, -⟩ := h
    exact hp.item
  | variants =>
    cases hr
    obtain ⟨items, variants, ⟨⟩, hv, -⟩ := h
    exact hv.item
  | terms =>
    cases hr
    obtain ⟨items, args, ⟨⟩, ha⟩ := h
    exact ha.item
  | namedTerms =>
    cases hr
    obtain ⟨items, props, ⟨⟩, hp⟩ := h
    exact hp.item
  | _ => cases hr

/-- A step to what is well-formed, from a node whose field is. -/
theorem Holds.follow {step : Step} {outer : Role} (h : Holds source node (step.key, outer))
    (hat : (role.fields node).lookup step.key = some outer) (hr : role.at? node step = some inner)
    (hs : step.follow node = some sub) : inner.WellFormed source sub := by
  cases step with
  | field key =>
    obtain rfl := Option.some.inj (hat.symm.trans hr)
    exact h sub hs
  | item key i =>
    rw [at?, Option.bind_eq_some_iff] at hr
    obtain ⟨own, hown, hr⟩ := hr
    obtain rfl := Option.some.inj (hat.symm.trans hown)
    rw [Step.follow] at hs
    split at hs
    · exact (h _ ‹_›).item hr sub (List.mem_of_getElem? hs)
    · cases hs

theorem WellFormed.part (h : role.WellFormed source node) {step : Step} (hr : role.at? node step = some inner)
    (hs : step.follow node = some sub) : inner.WellFormed source sub := by
  obtain ⟨outer, hat⟩ : ∃ outer, (role.fields node).lookup step.key = some outer := by
    cases step with
    | field => exact ⟨inner, hr⟩
    | item =>
      rw [at?, Option.bind_eq_some_iff] at hr
      exact hr.imp fun _ h => h.1
  exact (h.field _ (Dict.mem_of_lookup hat)).follow hat hr hs

/-- Whatever is inside what is well-formed is well-formed. -/
theorem WellFormed.leads {way : Trail} (h : role.WellFormed source node) (hl : Leads role node way last value) :
    last.WellFormed source value := by
  induction hl with
  | here => exact h
  | step hr hs _ ih => exact ih (h.part hr hs)

end Role

end StructuralTyping.Tree
