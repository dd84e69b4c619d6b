/-
What a reader has finished when it stops. It reads the fields of a node in the order of the node's role, and
the items of a list one after the other. Main statement: when a hint is given, the way to the place leads
along what is read, and all that is finished is well-formed.
-/
import StructuralTyping.Proofs.Tree.Role

namespace StructuralTyping.Tree

variable {source : Option Path}

/-! ## Reading in order -/

/-- Where a reader stops with a hint: the way there leads along what is read, and what is finished is well-formed. -/
def Halts (source : Option Path) (trail : Trail) (role : Role) (node : Json) (refusal : Refusal) : Prop :=
  ∀ hint, refusal.cause = .hint hint → ∃ way, refusal.trail = trail ++ way ∧
    (∃ last value, Leads role node way last value) ∧
      ∀ last value, Finished role node (way ++ [hint.step]) last value → last.WellFormed source value

/-- How far reading has come in a node: the fields that are done and those that are not read yet. -/
structure Progress (source : Option Path) (role : Role) (node : Json) (done rest : List (String × Role)) : Prop where
  fields : role.fields node = done ++ rest
  distinct : (Dict.names (done ++ rest)).Nodup
  holds : ∀ entry ∈ done, Role.Holds source node entry

section

variable {role inner : Role} {node : Json} {key : String} {done rest : List (String × Role)} {trail : Trail}

theorem mem_of_mem_takeWhile {name : String} {before after : List String}
    (h : name ∈ (before ++ key :: after).takeWhile (· != key)) : name ∈ before := by
  induction before with
  | nil => simp at h
  | cons own before ih =>
    rw [List.cons_append, List.takeWhile_cons] at h
    split at h
    · rcases List.mem_cons.1 h with rfl | h
      · exact List.mem_cons_self
      · exact List.mem_cons_of_mem _ (ih h)
    · cases h

theorem Progress.start (h : (Dict.names (role.fields node)).Nodup) : Progress source role node [] (role.fields node) :=
  ⟨rfl, h, List.forall_mem_nil _⟩

theorem Progress.next (h : Progress source role node done ((key, inner) :: rest))
    (hw : Role.Holds source node (key, inner)) : Progress source role node (done ++ [(key, inner)]) rest := by
  refine ⟨by rw [h.fields, List.append_assoc]; rfl, by simpa using h.distinct, fun entry hm => ?_⟩
  rcases List.mem_append.1 hm with hm | hm
  · exact h.holds entry hm
  · rw [List.mem_singleton.1 hm]
    exact hw

theorem Progress.lookup {entry : String × Role} (h : Progress source role node done rest) (hm : entry ∈ done ++ rest) :
    (role.fields node).lookup entry.1 = some entry.2 := by
  rw [h.fields]
  exact (Dict.lookup_eq_some h.distinct).2 hm

theorem Progress.lookup_next (h : Progress source role node done ((key, inner) :: rest)) :
    (role.fields node).lookup key = some inner :=
  h.lookup (List.mem_append_right _ List.mem_cons_self)

/-- What comes before the field that is next has been read. -/
theorem Progress.wellFormed_earlier {last own : Role} {step : Step} {way : Trail} {sub value : Json} (next : Step)
    (h : Progress source role node done ((next.key, inner) :: rest))
    (hk : step.key ∈ (Dict.names (role.fields node)).takeWhile (· != next.key)) (hr : role.at? node step = some own)
    (hs : step.follow node = some sub) (hl : Leads own sub way last value) : last.WellFormed source value := by
  rw [h.fields, Dict.names_append] at hk
  obtain ⟨⟨_, outer⟩, hm, rfl⟩ := List.mem_map.1 (mem_of_mem_takeWhile hk)
  exact ((h.holds _ hm).follow (h.lookup (List.mem_append_left _ hm)) hr hs).leads hl

/-- Stopping at the field that is next. -/
theorem Progress.halts {hint : Hint} (h : Progress source role node done ((key, inner) :: rest))
    (hs : hint.step = .field key) : Halts source trail role node ⟨trail, .hint hint⟩ := by
  rintro _ ⟨⟩
  refine ⟨[], (List.append_nil _).symm, ⟨role, node, .here⟩, fun last value hf => ?_⟩
  rw [hs, List.nil_append] at hf
  cases hf with
  | earlier hb hr hstep hl =>
    rcases hb with hb | ⟨_, _, _, _, _, hnext⟩
    · exact h.wellFormed_earlier (.field key) hb hr hstep hl
    · cases hnext
  | inside _ _ hf => cases hf

/-- Stopping inside the field that is next. -/
theorem Progress.halts_field {refusal : Refusal} {sub : Json}
    (h : Progress source role node done ((key, inner) :: rest)) (hs : node.field? key = some sub)
    (hsub : Halts source (trail ++ [.field key]) inner sub refusal) : Halts source trail role node refusal := by
  intro hint hc
  obtain ⟨way, ht, ⟨last, value, hl⟩, hf⟩ := hsub hint hc
  have hat : role.at? node (.field key) = some inner := h.lookup_next
  refine ⟨.field key :: way, by rw [ht, List.append_assoc]; rfl, ⟨last, value, .step hat hs hl⟩, ?_⟩
  intro last value hfinished
  cases hfinished with
  | earlier hb hr hstep hl =>
    rcases hb with hb | ⟨_, _, _, _, _, hnext⟩
    · exact h.wellFormed_earlier (.field key) hb hr hstep hl
    · cases hnext
  | inside hr hstep hfinished =>
    obtain rfl := Option.some.inj (hat.symm.trans hr)
    obtain rfl := Option.some.inj (hs.symm.trans hstep)
    exact hf _ _ hfinished

/-- Stopping inside an item of the list that is next, after items that are well-formed. -/
theorem Progress.halts_item {refusal : Refusal} {item : Json} {items behind others : List Json} {own : Role}
    (h : Progress source role node done ((key, inner) :: rest)) (hi : inner.item? = some own)
    (hs : node.field? key = some (.array items)) (hitems : items = behind ++ item :: others)
    (hb : ∀ item ∈ behind, own.WellFormed source item)
    (hsub : Halts source (trail ++ [.item key behind.length]) own item refusal) :
    Halts source trail role node refusal := by
  subst hitems
  have hat : ∀ i, role.at? node (.item key i) = some own := fun i => by
    rw [Role.at?, h.lookup_next]
    exact hi
  have hfollow : ∀ i, (Step.item key i).follow node = (behind ++ item :: others)[i]? := fun i => by
    simp only [Step.follow, hs]
  have hitem : (Step.item key behind.length).follow node = some item := by simp [hfollow]
  intro hint hc
  obtain ⟨way, ht, ⟨last, value, hl⟩, hf⟩ := hsub hint hc
  refine ⟨.item key behind.length :: way, by rw [ht, List.append_assoc]; rfl,
    ⟨last, value, .step (hat _) hitem hl⟩, fun last value hfinished => ?_⟩
  cases hfinished with
  | earlier hbefore hr hstep hl =>
    rcases hbefore with hbefore | ⟨_, i, _, hlt, rfl, hnext⟩
    · exact h.wellFormed_earlier (.item key behind.length) hbefore hr hstep hl
    · cases hnext
      obtain rfl := Option.some.inj ((hat i).symm.trans hr)
      rw [hfollow, List.getElem?_append_left hlt] at hstep
      exact (hb _ (List.mem_of_getElem? hstep)).leads hl
  | inside hr hstep hfinished =>
    obtain rfl := Option.some.inj ((hat _).symm.trans hr)
    obtain rfl := Option.some.inj (hitem.symm.trans hstep)
    exact hf _ _ hfinished

end

/-! ## Fields -/

section

variable {role inner : Role} {node : Json} {key : String} {done rest : List (String × Role)} {trail : Trail}

theorem field_halts (h : Progress source role node done ((key, inner) :: rest)) :
    FailsWith (Halts source trail role node) (field trail node key) := by
  unfold field
  split
  · exact .ok _
  · cases node with
    | object => exact .error (h.halts rfl)
    | _ => exact .error nofun

section

variable {α β : Type}

theorem Progress.bind {x : Reading α} {f : α → Reading β} (h : Progress source role node done ((key, inner) :: rest))
    (hx : FailsWith (Halts source trail role node) x) (hok : ∀ a, x = .ok a → Role.Holds source node (key, inner))
    (hf : ∀ a, Progress source role node (done ++ [(key, inner)]) rest →
      FailsWith (Halts source trail role node) (f a)) :
    FailsWith (Halts source trail role node) (x >>= f) :=
  hx.bind fun a ha => hf a (h.next (hok a ha))

theorem field_bind_halts {f : { part : Json // sizeOf part < sizeOf node } → Reading β}
    (h : Progress source role node done ((key, inner) :: rest))
    (hf : ∀ part, ∀ hp : node.field? key = some part,
      FailsWith (Halts source trail role node) (f ⟨part, Json.sizeOf_field? hp⟩)) :
    FailsWith (Halts source trail role node) (field trail node key >>= f) :=
  (field_halts h).bind fun part hp => hf part.1 (field_eq_ok.1 hp)

theorem list_bind_halts {f : { items : List Json // sizeOf items < sizeOf node } → Reading β}
    (h : Progress source role node done ((key, inner) :: rest))
    (hf : ∀ items, ∀ hl : node.field? key = some (.array items),
      FailsWith (Halts source trail role node) (f ⟨items, sizeOf_items_lt hl⟩)) :
    FailsWith (Halts source trail role node) (list trail node key >>= f) := by
  unfold list
  rw [bind_assoc]
  refine field_bind_halts h fun part hp => ?_
  cases part with
  | array items => exact hf items hp
  | _ => exact .error (h.halts rfl)

end

theorem name_halts (h : Progress source role node done ((key, inner) :: rest)) :
    FailsWith (Halts source trail role node) (name trail node key) := by
  refine field_bind_halts h fun part _ => ?_
  cases part with
  | text => exact .ok _
  | _ => exact .error (h.halts rfl)

theorem numeral_halts (h : Progress source role node done (("n", inner) :: rest)) :
    FailsWith (Halts source trail role node) (numeral trail node) := by
  refine field_bind_halts h fun part _ => ?_
  cases part with
  | number => exact .ok _
  | _ => exact .error (h.halts rfl)

theorem tagOf_halts (h : Progress source role node done (("tag", inner) :: rest)) :
    FailsWith (Halts source trail role node) (tagOf trail node) := by
  unfold tagOf
  split
  · exact .ok _
  · exact .error (h.halts rfl)

theorem location_halts (h : Progress source role node done (("loc", inner) :: rest)) :
    FailsWith (Halts source trail role node) (location source trail node) := by
  unfold location
  dsimp only
  split
  · exact .ok _
  · exact .error (h.halts rfl)

theorem holds_of_name {text : String} (h : name trail node key = .ok text) : Role.Holds source node (key, .name) :=
  Role.holds_name (name_eq_ok.1 h)

theorem progress_type_start : ∃ rest, Progress source .type node [] (("tag", .typeTag) :: rest) := by
  refine ⟨_, .start ?_⟩
  rw [Role.fields]
  cases (Role.tag? node).bind Ty.Kind.ofTag? with
  | none => decide
  | some kind => cases kind <;> decide

theorem progress_type (kind : Ty.Kind) (h : node.field? "tag" = some (.text kind.tag)) :
    Progress source .type node [("tag", .typeTag)] (Role.ofType kind) := by
  refine ⟨Role.fields_type kind h, ?_, List.forall_mem_singleton.2 (.of h ⟨kind, rfl⟩)⟩
  cases kind <;> decide

theorem progress_term_start : ∃ rest, Progress source .term node [] (("tag", .termTag) :: rest) := by
  refine ⟨_, .start ?_⟩
  rw [Role.fields]
  cases (Role.tag? node).bind Term.Kind.ofTag? with
  | none => decide
  | some kind => cases kind <;> decide

theorem progress_term (kind : Term.Kind) (h : node.field? "tag" = some (.text kind.tag)) :
    Progress source .term node [("tag", .termTag)] (("loc", .loc) :: Role.ofTerm kind) := by
  refine ⟨Role.fields_term kind h, ?_, List.forall_mem_singleton.2 (.of h ⟨kind, rfl⟩)⟩
  cases kind <;> decide

theorem progress_param : Progress source .param node [] [("name", .name), ("type", .type)] :=
  .start (by simp [Role.fields, Dict.names])

theorem progress_variant : Progress source .variant node [] [("tagLabel", .name), ("props", .params)] :=
  .start (by simp [Role.fields, Dict.names])

theorem progress_namedTerm {nameKey : String} (h : nameKey ≠ "term") :
    Progress source (.namedTerm nameKey) node [] [(nameKey, .name), ("term", .term)] :=
  .start (by simpa [Role.fields, Dict.names] using h)

end

/-! ## Whatever is read -/

-- In a list the reader has the well-formed items `behind` read already, as many as there are in `found`.

mutual

theorem readType_halts (trail : Trail) (node : Json) :
    FailsWith (Halts source trail .type node) (readType trail node) := by
  obtain ⟨_, hstart⟩ : ∃ rest, Progress source .type node [] (("tag", .typeTag) :: rest) := progress_type_start
  rw [readType]
  refine (tagOf_halts hstart).bind fun tag ht => ?_
  rw [tagOf_eq_ok] at ht
  cases hk : Ty.Kind.ofTag? tag with
  | none => exact .error (hstart.halts rfl)
  | some kind =>
    obtain rfl := Ty.Kind.tag_of_ofTag? hk
    have h : Progress source .type node _ _ := progress_type kind ht
    cases kind with
    | boolean | number => exact .ok _
    | func =>
      refine h.bind (readParams_halts trail node "params" h) (fun _ hp => Role.holds_params (.of_read _ _ _ hp))
        fun params h => ?_
      refine field_bind_halts h fun part hpart => ?_
      have := Json.sizeOf_field? hpart
      exact ((readType_halts _ part).mono fun _ => h.halts_field hpart).bind fun ret _ => .ok _
    | object => exact (readParams_halts trail node "props" h).bind fun props _ => .ok _
    | union =>
      refine list_bind_halts h fun items hl => ?_
      have := sizeOf_items_lt hl
      exact (readVariants_halts trail node [] [] items h (List.forall_mem_nil _) rfl hl).bind fun variants _ => .ok _
termination_by (sizeOf node, 1)

theorem readParams_halts {role : Role} {done rest : List (String × Role)} (trail : Trail) (node : Json) (key : String)
    (h : Progress source role node done ((key, .params) :: rest)) :
    FailsWith (Halts source trail role node) (readParams trail node key) := by
  rw [readParams]
  refine list_bind_halts h fun items hl => ?_
  have := sizeOf_items_lt hl
  exact readParamItems_halts trail node key [] [] items h (List.forall_mem_nil _) rfl hl
termination_by (sizeOf node, 0)

theorem readParamItems_halts {role : Role} {done rest : List (String × Role)} (trail : Trail) (node : Json)
    (key : String) (behind : List Json) (found : List (String × Ty)) (items : List Json)
    (h : Progress source role node done ((key, .params) :: rest))
    (hb : ∀ item ∈ behind, Role.param.WellFormed source item) (hd : behind.length = found.length) :
    node.field? key = some (.array (behind ++ items)) →
      FailsWith (Halts source trail role node) (readParamItems trail key found items) := by
  cases items with
  | nil =>
    intro _
    rw [readParamItems]
    exact .ok _
  | cons item others =>
    intro hl
    have hstart : Progress source .param item _ _ := progress_param
    have hlift : ∀ refusal, Halts source (trail ++ [.item key behind.length]) .param item refusal →
        Halts source trail role node refusal := fun _ => h.halts_item rfl hl rfl hb
    rw [readParamItems, ← hd]
    refine ((name_halts hstart).mono hlift).bind fun name hname => ?_
    split
    · exact .error (hlift _ (hstart.halts rfl))
    · have hnext := hstart.next (holds_of_name hname)
      refine ((field_halts hnext).mono hlift).bind fun part hpart => ?_
      rw [field_eq_ok] at hpart
      have := Json.sizeOf_field? hpart
      refine ((readType_halts _ part.1).mono fun refusal hr => hlift _ (hnext.halts_field hpart hr)).bind
        fun type htype => ?_
      have hitem : Role.param.WellFormed source item :=
        ⟨_, .cons (name_eq_ok.1 hname) hpart (TypeTree.of_read _ _ htype) .nil⟩
      have hb' : ∀ own ∈ behind ++ [item], Role.param.WellFormed source own :=
        List.forall_mem_append.2 ⟨hb, List.forall_mem_singleton.2 hitem⟩
      exact readParamItems_halts trail node key (behind ++ [item]) _ others h hb' (by simp [hd]) (by simpa using hl)
termination_by (sizeOf items, 0)

theorem readVariants_halts {role : Role} {done rest : List (String × Role)} (trail : Trail) (node : Json)
    (behind : List Json) (found : List (String × List (String × Ty))) (items : List Json)
    (h : Progress source role node done (("variants", .variants) :: rest))
    (hb : ∀ item ∈ behind, Role.variant.WellFormed source item) (hd : behind.length = found.length) :
    node.field? "variants" = some (.array (behind ++ items)) →
      FailsWith (Halts source trail role node) (readVariants trail found items) := by
  cases items with
  | nil =>
    intro _
    rw [readVariants]
    exact .ok _
  | cons item others =>
    intro hl
    have hstart : Progress source .variant item _ _ := progress_variant
    have hlift : ∀ refusal, Halts source (trail ++ [.item "variants" behind.length]) .variant item refusal →
        Halts source trail role node refusal := fun _ => h.halts_item rfl hl rfl hb
    rw [readVariants, ← hd]
    refine ((name_halts hstart).mono hlift).bind fun label hlabel => ?_
    split
    · exact .error (hlift _ (hstart.halts rfl))
    · have hnext := hstart.next (holds_of_name hlabel)
      refine ((readParams_halts _ item "props" hnext).mono hlift).bind fun props hprops => ?_
      have hitem : Role.variant.WellFormed source item :=
        ⟨_, .cons (name_eq_ok.1 hlabel) (ParamTrees.of_read _ _ _ hprops) .nil⟩
      have hb' : ∀ own ∈ behind ++ [item], Role.variant.WellFormed source own :=
        List.forall_mem_append.2 ⟨hb, List.forall_mem_singleton.2 hitem⟩
      exact readVariants_halts trail node (behind ++ [item]) _ others h hb' (by simp [hd]) (by simpa using hl)
termination_by (sizeOf items, 0)

end

mutual

theorem readTerm_halts (trail : Trail) (node : Json) :
    FailsWith (Halts source trail .term node) (readTerm source trail node) := by
  -- what the readers of fields leave behind, in whatever order they are called
  have hpart : ∀ {β : Type} {done rest key} {f : Term (Option Span) → Reading β},
      Progress source .term node done ((key, .term) :: rest) →
      (∀ term, Progress source .term node (done ++ [(key, .term)]) rest →
        FailsWith (Halts source trail .term node) (f term)) →
      FailsWith (Halts source trail .term node) (readPart source trail node key >>= f) := fun h hf =>
    h.bind (readPart_halts trail node _ h) (fun _ ht => Role.holds_part (.of_read _ _ _ ht)) hf
  have hname : ∀ {β : Type} {done rest key} {f : String → Reading β},
      Progress source .term node done ((key, .name) :: rest) →
      (∀ text, Progress source .term node (done ++ [(key, .name)]) rest →
        FailsWith (Halts source trail .term node) (f text)) →
      FailsWith (Halts source trail .term node) (name trail node key >>= f) := fun h hf =>
    h.bind (name_halts h) (fun _ ht => holds_of_name ht) hf
  have hparams : ∀ {β : Type} {done rest} {f : List (String × Ty) → Reading β},
      Progress source .term node done (("params", .params) :: rest) →
      (∀ params, Progress source .term node (done ++ [("params", .params)]) rest →
        FailsWith (Halts source trail .term node) (f params)) →
      FailsWith (Halts source trail .term node) (readParams trail node "params" >>= f) := fun h hf =>
    h.bind (readParams_halts trail node "params" h) (fun _ hp => Role.holds_params (.of_read _ _ _ hp)) hf
  have htype : ∀ {β : Type} {done rest key} {f : Ty → Reading β},
      Progress source .term node done ((key, .type) :: rest) →
      (∀ type, Progress source .term node (done ++ [(key, .type)]) rest →
        FailsWith (Halts source trail .term node) (f type)) →
      FailsWith (Halts source trail .term node)
        (field trail node key >>= fun part => readType (trail ++ [.field key]) part.1 >>= f) := fun h hf =>
    field_bind_halts h fun part hp => h.bind ((readType_halts _ part).mono fun _ => h.halts_field hp)
      (fun _ ht => Role.holds_type hp (.of_read _ _ ht)) hf
  have hnamed : ∀ {β : Type} {done rest key nameKey} {f : List (String × Term (Option Span)) → Reading β},
      Progress source .term node done ((key, .namedTerms nameKey) :: rest) → nameKey ≠ "term" →
      (∀ props, Progress source .term node (done ++ [(key, .namedTerms nameKey)]) rest →
        FailsWith (Halts source trail .term node) (f props)) →
      FailsWith (Halts source trail .term node)
        (list trail node key >>= fun items => readNamed source trail key nameKey [] items.1 >>= f) := by
    intro β done rest key nameKey f h hk hf
    refine list_bind_halts h fun items hl => ?_
    have := sizeOf_items_lt hl
    refine h.bind (readNamed_halts trail node key nameKey [] [] items h hk (List.forall_mem_nil _) rfl hl) (fun props hp => ?_) hf
    obtain ⟨_, rfl, hp⟩ := NamedTrees.of_read _ _ _ _ _ hp
    exact Role.holds_namedTerms hl hp
  obtain ⟨_, hstart⟩ : ∃ rest, Progress source .term node [] (("tag", .termTag) :: rest) := progress_term_start
  rw [readTerm]
  refine (tagOf_halts hstart).bind fun tag ht => ?_
  rw [tagOf_eq_ok] at ht
  cases hk : Term.Kind.ofTag? tag with
  | none => exact .error (hstart.halts rfl)
  | some kind =>
    obtain rfl := Term.Kind.tag_of_ofTag? hk
    have h : Progress source .term node _ _ := progress_term kind ht
    refine h.bind (location_halts h) (fun _ hl => Role.holds_loc (location_eq_ok.1 hl)) fun loc h => ?_
    cases kind with
    | litTrue | litFalse => exact .ok _
    | number => exact (numeral_halts h).bind fun value _ => .ok _
    | ite =>
      refine hpart h fun cond h => ?_
      refine hpart h fun thn h => ?_
      exact hpart h fun els _ => .ok _
    | add =>
      refine hpart h fun left h => ?_
      exact hpart h fun right _ => .ok _
    | var => exact hname h fun name _ => .ok _
    | func =>
      refine hparams h fun params h => ?_
      exact hpart h fun body _ => .ok _
    | call =>
      refine hpart h fun callee h => ?_
      refine list_bind_halts h fun items hl => ?_
      have := sizeOf_items_lt hl
      exact (readArgs_halts trail node [] [] items h (List.forall_mem_nil _) rfl hl).bind fun args _ => .ok _
    | seq =>
      refine hpart h fun body h => ?_
      exact hpart h fun rest _ => .ok _
    | const =>
      refine hname h fun name h => ?_
      refine hpart h fun init h => ?_
      exact hpart h fun rest _ => .ok _
    | recFunc =>
      refine hname h fun name h => ?_
      refine hparams h fun params h => ?_
      refine htype h fun ret h => ?_
      refine hpart h fun body h => ?_
      exact hpart h fun rest _ => .ok _
    | objectNew => exact hnamed h (by decide) fun props _ => .ok _
    | objectGet =>
      refine hpart h fun object h => ?_
      exact hname h fun name _ => .ok _
    | unionNew =>
      refine hname h fun label h => ?_
      refine hnamed h (by decide) fun props h => ?_
      exact htype h fun type _ => .ok _
    | unionGet =>
      refine hnamed h (by decide) fun clauses h => ?_
      exact hname h fun subject _ => .ok _
termination_by (sizeOf node, 1)

theorem readPart_halts {role : Role} {done rest : List (String × Role)} (trail : Trail) (node : Json) (key : String)
    (h : Progress source role node done ((key, .term) :: rest)) :
    FailsWith (Halts source trail role node) (readPart source trail node key) := by
  rw [readPart]
  refine field_bind_halts h fun part hpart => ?_
  have := Json.sizeOf_field? hpart
  exact (readTerm_halts _ part).mono fun _ => h.halts_field hpart
termination_by (sizeOf node, 0)

theorem readArgs_halts {role : Role} {done rest : List (String × Role)} (trail : Trail) (node : Json)
    (behind : List Json) (found : List (Term (Option Span))) (items : List Json)
    (h : Progress source role node done (("args", .terms) :: rest))
    (hb : ∀ item ∈ behind, Role.term.WellFormed source item) (hd : behind.length = found.length) :
    node.field? "args" = some (.array (behind ++ items)) →
      FailsWith (Halts source trail role node) (readArgs source trail found items) := by
  cases items with
  | nil =>
    intro _
    rw [readArgs]
    exact .ok _
  | cons item others =>
    intro hl
    rw [readArgs, ← hd]
    refine ((readTerm_halts _ item).mono fun _ => h.halts_item rfl hl rfl hb).bind fun arg harg => ?_
    have hb' : ∀ own ∈ behind ++ [item], Role.term.WellFormed source own :=
      List.forall_mem_append.2 ⟨hb, List.forall_mem_singleton.2 ⟨arg, .of_read _ _ harg⟩⟩
    exact readArgs_halts trail node (behind ++ [item]) _ others h hb' (by simp [hd]) (by simpa using hl)
termination_by (sizeOf items, 0)

theorem readNamed_halts {role : Role} {done rest : List (String × Role)} (trail : Trail) (node : Json)
    (key nameKey : String) (behind : List Json) (found : List (String × Term (Option Span))) (items : List Json)
    (h : Progress source role node done ((key, .namedTerms nameKey) :: rest)) (hk : nameKey ≠ "term")
    (hb : ∀ item ∈ behind, (Role.namedTerm nameKey).WellFormed source item) (hd : behind.length = found.length) :
    node.field? key = some (.array (behind ++ items)) →
      FailsWith (Halts source trail role node) (readNamed source trail key nameKey found items) := by
  cases items with
  | nil =>
    intro _
    rw [readNamed]
    exact .ok _
  | cons item others =>
    intro hl
    have hstart : Progress source (.namedTerm nameKey) item _ _ := progress_namedTerm hk
    have hlift : ∀ refusal, Halts source (trail ++ [.item key behind.length]) (.namedTerm nameKey) item refusal →
        Halts source trail role node refusal := fun _ => h.halts_item rfl hl rfl hb
    rw [readNamed, ← hd]
    refine ((name_halts hstart).mono hlift).bind fun name hname => ?_
    have hnext := hstart.next (holds_of_name hname)
    refine ((readPart_halts _ item "term" hnext).mono hlift).bind fun term hterm => ?_
    have hitem : (Role.namedTerm nameKey).WellFormed source item :=
      ⟨_, .cons (name_eq_ok.1 hname) (PartTree.of_read _ _ _ hterm) .nil⟩
    have hb' : ∀ own ∈ behind ++ [item], (Role.namedTerm nameKey).WellFormed source own :=
      List.forall_mem_append.2 ⟨hb, List.forall_mem_singleton.2 hitem⟩
    exact readNamed_halts trail node key nameKey (behind ++ [item]) _ others h hk hb' (by simp [hd]) (by simpa using hl)
termination_by (sizeOf items, 0)

end

end StructuralTyping.Tree
