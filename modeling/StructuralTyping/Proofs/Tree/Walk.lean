/-
Reading with a place that is kept by hand. Such a reader goes on to a part before it reads the part and comes
back after that, so it knows where it stands only if it has come back as often as it has gone on. Main
statement: it has; it reads what a reader does that is told every place, and if reading stops it stands where
that one stops.
-/
import StructuralTyping.Proofs.Except
import StructuralTyping.Tree.TermReader

namespace StructuralTyping.Tree

/-- Reading that keeps its place. If it stops, the place stays as it is. -/
abbrev Walk := EStateM Cause Trail

namespace Walk

variable {α : Type}

/-- Goes on by a step. -/
def enter (step : Step) : Walk Unit := modify (· ++ [step])

/-- Comes back by a step. -/
def leave : Walk Unit := modify List.dropLast

/-- Goes on by a step, reads, and comes back. -/
def nested (step : Step) (walk : Walk α) : Walk α := do
  enter step
  let value ← walk
  leave
  return value

/-- Reads something of the value that the walk stands at. -/
def here (read : Trail → Reading α) : Walk α := fun trail =>
  match read trail with
  | .ok value => .ok value trail
  | .error refusal => .error refusal.cause trail

/-- Stops with a hint. -/
def bogus (hint : Hint) : Walk α := throw (.hint hint)

end Walk

open Walk

mutual

/-- Reads a type. -/
def walkType (node : Json) : Walk Ty := do
  let tag ← here (tagOf · node)
  match Ty.Kind.ofTag? tag with
  | none => bogus (.unknownTypeTag tag)
  | some .boolean => return .boolean
  | some .number => return .number
  | some .func =>
    let params ← walkParams node "params"
    let ⟨part, _⟩ ← here (field · node "retType")
    let ret ← nested (.field "retType") (walkType part)
    return .func params ret
  | some .object =>
    let props ← walkParams node "props"
    return .object props
  | some .union =>
    let ⟨items, _⟩ ← here (list · node "variants")
    let variants ← walkVariants [] items
    return .union variants
termination_by (sizeOf node, 1)

/-- Reads the list of names and types in a field. -/
def walkParams (node : Json) (key : String) : Walk (List (String × Ty)) := do
  let ⟨items, _⟩ ← here (list · node key)
  walkParamItems key [] items
termination_by (sizeOf node, 0)

/-- Reads names and types, after those in `done`. -/
def walkParamItems (key : String) (done : List (String × Ty)) (items : List Json) : Walk (List (String × Ty)) := do
  match items with
  | [] => return done
  | item :: rest =>
    enter (.item key done.length)
    let name ← here (name · item "name")
    if (Dict.names done).contains name then bogus (.repeatedName name)
    else
      let ⟨part, _⟩ ← here (field · item "type")
      let type ← nested (.field "type") (walkType part)
      leave
      walkParamItems key (done ++ [(name, type)]) rest
termination_by (sizeOf items, 0)

/-- Reads variants, after those in `done`. -/
def walkVariants (done : List (String × List (String × Ty))) (items : List Json) :
    Walk (List (String × List (String × Ty))) := do
  match items with
  | [] => return done
  | item :: rest =>
    enter (.item "variants" done.length)
    let label ← here (name · item "tagLabel")
    if (Dict.names done).contains label then bogus (.repeatedVariant label)
    else
      let props ← walkParams item "props"
      leave
      walkVariants (done ++ [(label, props)]) rest
termination_by (sizeOf items, 0)

end

mutual

/-- Reads a term. Its spans lie in the file `source`, if one is known. -/
def walkTerm (source : Option Path) (node : Json) : Walk (Term (Option Span)) := do
  let tag ← here (tagOf · node)
  match Term.Kind.ofTag? tag with
  | none => bogus (.unknownTermTag tag)
  | some kind =>
    let loc ← here (location source · node)
    match kind with
    | .litTrue => return .bool true loc
    | .litFalse => return .bool false loc
    | .number =>
      let value ← here (numeral · node)
      return .number value loc
    | .ite =>
      let cond ← walkPart source node "cond"
      let thn ← walkPart source node "thn"
      let els ← walkPart source node "els"
      return .ite cond thn els loc
    | .add =>
      let left ← walkPart source node "left"
      let right ← walkPart source node "right"
      return .add left right loc
    | .var =>
      let name ← here (name · node "name")
      return .var name loc
    | .func =>
      let params ← walkParams node "params"
      let body ← walkPart source node "body"
      return .func params body loc
    | .call =>
      let callee ← walkPart source node "func"
      let ⟨items, _⟩ ← here (list · node "args")
      let args ← walkArgs source [] items
      return .call callee args loc
    | .seq =>
      let body ← walkPart source node "body"
      let rest ← walkPart source node "rest"
      return .seq body rest loc
    | .const =>
      let name ← here (name · node "name")
      let init ← walkPart source node "init"
      let rest ← walkPart source node "rest"
      return .const name init rest loc
    | .recFunc =>
      let name ← here (name · node "funcName")
      let params ← walkParams node "params"
      let ⟨part, _⟩ ← here (field · node "retType")
      let ret ← nested (.field "retType") (walkType part)
      let body ← walkPart source node "body"
      let rest ← walkPart source node "rest"
      return .recFunc name params ret body rest loc
    | .objectNew =>
      let ⟨items, _⟩ ← here (list · node "props")
      let props ← walkNamed source "props" "name" [] items
      return .objectNew props loc
    | .objectGet =>
      let object ← walkPart source node "obj"
      let name ← here (name · node "propName")
      return .objectGet object name loc
    | .unionNew =>
      let label ← here (name · node "tagLabel")
      let ⟨items, _⟩ ← here (list · node "props")
      let props ← walkNamed source "props" "name" [] items
      let ⟨part, _⟩ ← here (field · node "as")
      let type ← nested (.field "as") (walkType part)
      return .unionNew label props type loc
    | .unionGet =>
      let ⟨items, _⟩ ← here (list · node "clauses")
      let clauses ← walkNamed source "clauses" "tagLabel" [] items
      let subject ← here (name · node "varName")
      return .unionGet subject clauses loc
termination_by (sizeOf node, 1)

/-- Reads the term in a field. -/
def walkPart (source : Option Path) (node : Json) (key : String) : Walk (Term (Option Span)) := do
  let ⟨part, _⟩ ← here (field · node key)
  nested (.field key) (walkTerm source part)
termination_by (sizeOf node, 0)

/-- Reads arguments, after those in `done`. -/
def walkArgs (source : Option Path) (done : List (Term (Option Span))) (items : List Json) :
    Walk (List (Term (Option Span))) := do
  match items with
  | [] => return done
  | item :: rest =>
    let arg ← nested (.item "args" done.length) (walkTerm source item)
    walkArgs source (done ++ [arg]) rest
termination_by (sizeOf items, 0)

/-- Reads the named terms of a list in the field `key`, after those in `done`. Each item has its name in the
field `nameKey`. -/
def walkNamed (source : Option Path) (key nameKey : String) (done : List (String × Term (Option Span)))
    (items : List Json) : Walk (List (String × Term (Option Span))) := do
  match items with
  | [] => return done
  | item :: rest =>
    enter (.item key done.length)
    let name ← here (name · item nameKey)
    let term ← walkPart source item "term"
    leave
    walkNamed source key nameKey (done ++ [(name, term)]) rest
termination_by (sizeOf items, 0)

end

/-- Reads by a walk from where the reader stands. -/
def Reader.walk {α : Type} (reader : Reader) (walk : Walk α) : Reader × Reading α :=
  match walk.run reader.trail with
  | .ok value trail => (⟨reader.source, trail⟩, .ok value)
  | .error cause trail => (⟨reader.source, trail⟩, .error ⟨trail, cause⟩)

/-! ## Places that are kept and places that are told -/

/-- What is read, and where one stands then: at the place where reading stops, or else at `stop`. -/
def standing {α : Type} (stop : Trail) : Reading α → EStateM.Result Cause Trail α
  | .ok value => .ok value stop
  | .error refusal => .error refusal.cause refusal.trail

/-- A walk from `start` reads what is read, and stands at `stop` then. -/
def Keeps {α : Type} (start stop : Trail) (walk : Walk α) (reading : Reading α) : Prop :=
  walk start = standing stop reading

section

variable {α β : Type} {start middle stop trail : Trail} {walk : Walk α} {reading : Reading α} {step : Step}

theorem Keeps.pure (value : α) : Keeps trail trail (pure value) (.ok value) := rfl

theorem Keeps.bogus (hint : Hint) : Keeps start stop (bogus hint : Walk α) (refuse start hint) := rfl

theorem Keeps.bind {next : α → Walk β} {f : α → Reading β} (h : Keeps start middle walk reading)
    (hf : ∀ a, Keeps middle stop (next a) (f a)) : Keeps start stop (walk >>= next) (reading >>= f) := by
  have hbind : (walk >>= next) start = EStateM.bind walk next start := rfl
  rw [Keeps, hbind, EStateM.bind, show walk start = _ from h]
  cases reading with
  | ok value => exact hf value
  | error refusal => rfl

/-- Going on, before more is read. -/
theorem Keeps.enter {next : Walk α} (h : Keeps (trail ++ [step]) stop next reading) :
    Keeps trail stop (enter step >>= fun _ => next) reading :=
  h

/-- Coming back, before more is read. -/
theorem Keeps.leave {next : Walk α} (h : Keeps trail stop next reading) :
    Keeps (trail ++ [step]) stop (leave >>= fun _ => next) reading := by
  have hback : (Walk.leave >>= fun _ => next) (trail ++ [step]) = next (trail ++ [step]).dropLast := rfl
  rw [Keeps, hback, List.dropLast_concat]
  exact h

theorem Keeps.nested (h : Keeps (trail ++ [step]) (trail ++ [step]) walk reading) :
    Keeps trail trail (nested step walk) reading := by
  have hread : reading = reading >>= Except.ok := by cases reading <;> rfl
  rw [hread]
  exact .enter (h.bind fun value => .leave (.pure value))

theorem Keeps.here {read : Trail → Reading α} (h : FailsWith (·.trail = trail) (read trail)) :
    Keeps trail trail (here read) (read trail) := by
  rw [Keeps, Walk.here]
  cases hr : read trail with
  | ok value => rfl
  | error refusal =>
    obtain rfl := h _ hr
    rfl

end

/-! ## What stops at once -/

section

variable {source : Option Path} {trail : Trail} {node : Json} {key : String}

theorem field_stays : FailsWith (·.trail = trail) (field trail node key) := by
  unfold field
  split
  · exact .ok _
  · cases node <;> exact .error rfl

theorem list_stays : FailsWith (·.trail = trail) (list trail node key) := by
  refine field_stays.bind fun part _ => ?_
  obtain ⟨part, _⟩ := part
  cases part with
  | array => exact .ok _
  | _ => exact .error rfl

theorem name_stays : FailsWith (·.trail = trail) (name trail node key) := by
  refine field_stays.bind fun part _ => ?_
  obtain ⟨part, _⟩ := part
  cases part with
  | text => exact .ok _
  | _ => exact .error rfl

theorem numeral_stays : FailsWith (·.trail = trail) (numeral trail node) := by
  refine field_stays.bind fun part _ => ?_
  obtain ⟨part, _⟩ := part
  cases part with
  | number => exact .ok _
  | _ => exact .error rfl

theorem tagOf_stays : FailsWith (·.trail = trail) (tagOf trail node) := by
  unfold tagOf
  split
  · exact .ok _
  · exact .error rfl

theorem location_stays : FailsWith (·.trail = trail) (location source trail node) := by
  unfold location
  dsimp only
  split
  · exact .ok _
  · exact .error rfl

end

/-! ## Whatever is read -/

mutual

theorem walkType_keeps (trail : Trail) (node : Json) : Keeps trail trail (walkType node) (readType trail node) := by
  rw [walkType, readType]
  refine (Keeps.here tagOf_stays).bind fun tag => ?_
  cases Ty.Kind.ofTag? tag with
  | none => exact .bogus _
  | some kind =>
    cases kind with
    | boolean | number => exact .pure _
    | func =>
      refine (walkParams_keeps trail node "params").bind fun params => ?_
      refine (Keeps.here field_stays).bind fun part => ?_
      have := part.2
      refine (Keeps.nested (walkType_keeps _ part.1)).bind fun ret => .pure _
    | object => exact (walkParams_keeps trail node "props").bind fun props => .pure _
    | union =>
      refine (Keeps.here list_stays).bind fun items => ?_
      have := items.2
      exact (walkVariants_keeps trail [] items.1).bind fun variants => .pure _
termination_by (sizeOf node, 1)

theorem walkParams_keeps (trail : Trail) (node : Json) (key : String) :
    Keeps trail trail (walkParams node key) (readParams trail node key) := by
  rw [walkParams, readParams]
  refine (Keeps.here list_stays).bind fun items => ?_
  have := items.2
  exact walkParamItems_keeps trail key [] items.1
termination_by (sizeOf node, 0)

theorem walkParamItems_keeps (trail : Trail) (key : String) (done : List (String × Ty)) (items : List Json) :
    Keeps trail trail (walkParamItems key done items) (readParamItems trail key done items) := by
  cases items with
  | nil =>
    rw [walkParamItems, readParamItems]
    exact .pure _
  | cons item rest =>
    rw [walkParamItems, readParamItems]
    refine .enter ?_
    refine (Keeps.here name_stays).bind fun name => ?_
    split
    · exact .bogus _
    · refine (Keeps.here field_stays).bind fun part => ?_
      have := part.2
      refine (Keeps.nested (walkType_keeps _ part.1)).bind fun type => ?_
      exact .leave (walkParamItems_keeps trail key _ rest)
termination_by (sizeOf items, 0)

theorem walkVariants_keeps (trail : Trail) (done : List (String × List (String × Ty))) (items : List Json) :
    Keeps trail trail (walkVariants done items) (readVariants trail done items) := by
  cases items with
  | nil =>
    rw [walkVariants, readVariants]
    exact .pure _
  | cons item rest =>
    rw [walkVariants, readVariants]
    refine .enter ?_
    refine (Keeps.here name_stays).bind fun label => ?_
    split
    · exact .bogus _
    · refine (walkParams_keeps _ item "props").bind fun props => ?_
      exact .leave (walkVariants_keeps trail _ rest)
termination_by (sizeOf items, 0)

end

variable {source : Option Path}

mutual

theorem walkTerm_keeps (trail : Trail) (node : Json) :
    Keeps trail trail (walkTerm source node) (readTerm source trail node) := by
  have hpart : ∀ key, Keeps trail trail (walkPart source node key) (readPart source trail node key) :=
    fun key => walkPart_keeps trail node key
  have hname : ∀ key, Keeps trail trail (here (name · node key)) (name trail node key) := fun _ => .here name_stays
  have hparams : Keeps trail trail (walkParams node "params") (readParams trail node "params") :=
    walkParams_keeps trail node "params"
  have hnamed : ∀ key nameKey (items : { items : List Json // sizeOf items < sizeOf node }),
      Keeps trail trail (walkNamed source key nameKey [] items.1) (readNamed source trail key nameKey [] items.1) :=
    fun key nameKey items =>
      have := items.2
      walkNamed_keeps trail key nameKey [] items.1
  rw [walkTerm, readTerm]
  refine (Keeps.here tagOf_stays).bind fun tag => ?_
  cases Term.Kind.ofTag? tag with
  | none => exact .bogus _
  | some kind =>
    refine (Keeps.here location_stays).bind fun loc => ?_
    cases kind with
    | litTrue | litFalse => exact .pure _
    | number => exact (Keeps.here numeral_stays).bind fun value => .pure _
    | ite =>
      refine (hpart "cond").bind fun cond => ?_
      refine (hpart "thn").bind fun thn => ?_
      exact (hpart "els").bind fun els => .pure _
    | add =>
      refine (hpart "left").bind fun left => ?_
      exact (hpart "right").bind fun right => .pure _
    | var => exact (hname "name").bind fun name => .pure _
    | func =>
      refine hparams.bind fun params => ?_
      exact (hpart "body").bind fun body => .pure _
    | call =>
      refine (hpart "func").bind fun callee => ?_
      refine (Keeps.here list_stays).bind fun items => ?_
      have := items.2
      exact (walkArgs_keeps trail [] items.1).bind fun args => .pure _
    | seq =>
      refine (hpart "body").bind fun body => ?_
      exact (hpart "rest").bind fun rest => .pure _
    | const =>
      refine (hname "name").bind fun name => ?_
      refine (hpart "init").bind fun init => ?_
      exact (hpart "rest").bind fun rest => .pure _
    | recFunc =>
      refine (hname "funcName").bind fun name => ?_
      refine hparams.bind fun params => ?_
      refine (Keeps.here field_stays).bind fun part => ?_
      refine (Keeps.nested (walkType_keeps _ part.1)).bind fun ret => ?_
      refine (hpart "body").bind fun body => ?_
      exact (hpart "rest").bind fun rest => .pure _
    | objectNew =>
      refine (Keeps.here list_stays).bind fun items => ?_
      exact (hnamed "props" "name" items).bind fun props => .pure _
    | objectGet =>
      refine (hpart "obj").bind fun object => ?_
      exact (hname "propName").bind fun name => .pure _
    | unionNew =>
      refine (hname "tagLabel").bind fun label => ?_
      refine (Keeps.here list_stays).bind fun items => ?_
      refine (hnamed "props" "name" items).bind fun props => ?_
      refine (Keeps.here field_stays).bind fun part => ?_
      exact (Keeps.nested (walkType_keeps _ part.1)).bind fun type => .pure _
    | unionGet =>
      refine (Keeps.here list_stays).bind fun items => ?_
      refine (hnamed "clauses" "tagLabel" items).bind fun clauses => ?_
      exact (hname "varName").bind fun subject => .pure _
termination_by (sizeOf node, 1)

theorem walkPart_keeps (trail : Trail) (node : Json) (key : String) :
    Keeps trail trail (walkPart source node key) (readPart source trail node key) := by
  rw [walkPart, readPart]
  refine (Keeps.here field_stays).bind fun part => ?_
  have := part.2
  exact .nested (walkTerm_keeps _ part.1)
termination_by (sizeOf node, 0)

theorem walkArgs_keeps (trail : Trail) (done : List (Term (Option Span))) (items : List Json) :
    Keeps trail trail (walkArgs source done items) (readArgs source trail done items) := by
  cases items with
  | nil =>
    rw [walkArgs, readArgs]
    exact .pure _
  | cons item rest =>
    rw [walkArgs, readArgs]
    refine (Keeps.nested (walkTerm_keeps _ item)).bind fun arg => ?_
    exact walkArgs_keeps trail _ rest
termination_by (sizeOf items, 0)

theorem walkNamed_keeps (trail : Trail) (key nameKey : String) (done : List (String × Term (Option Span)))
    (items : List Json) :
    Keeps trail trail (walkNamed source key nameKey done items) (readNamed source trail key nameKey done items) := by
  cases items with
  | nil =>
    rw [walkNamed, readNamed]
    exact .pure _
  | cons item rest =>
    rw [walkNamed, readNamed]
    refine .enter ?_
    refine (Keeps.here name_stays).bind fun name => ?_
    refine (walkPart_keeps _ item "term").bind fun term => ?_
    exact .leave (walkNamed_keeps trail key nameKey _ rest)
termination_by (sizeOf items, 0)

end

/-! ## Readers -/

variable {α : Type} {reader : Reader} {node : Json}

theorem Reader.walk_eq {walk : Walk α} {reading : Reading α} (h : Keeps reader.trail reader.trail walk reading) :
    reader.walk walk = (reader.after reading, reading) := by
  have hrun : walk.run reader.trail = standing reader.trail reading := h
  rw [Reader.walk, hrun]
  cases reading <;> rfl

/-- A reader that keeps its place by hand reads terms. -/
theorem Reader.walk_term : reader.walk (walkTerm reader.source node) = reader.term node :=
  walk_eq (walkTerm_keeps reader.trail node)

/-- A reader that keeps its place by hand reads types. -/
theorem Reader.walk_type : reader.walk (walkType node) = reader.type node :=
  walk_eq (walkType_keeps reader.trail node)

end StructuralTyping.Tree
