/-
The readers accept exactly the grammar. Whatever reads a part of a tree returns something exactly if the
grammar has it for that part; where the part stands only matters to a refusal. Main statement: a reader
returns a term for a value exactly if the value is that term, and then it stands where it stood.
-/
import StructuralTyping.Proofs.Dict
import StructuralTyping.Proofs.Except
import StructuralTyping.Proofs.Tree.Grammar
import StructuralTyping.Tree.TermReader

namespace StructuralTyping

/-! ## Locations -/

theorem Json.eq_object_of_field? {value part : Json} {key : String} (h : value.field? key = some part) :
    ∃ fields, value = .object fields := by
  cases value with
  | object fields => exact ⟨fields, rfl⟩
  | _ => cases h

theorem Json.isBlank_of_field? {value part : Json} {key : String} (h : value.field? key = some part) :
    value.isBlank = false := by
  obtain ⟨fields, rfl⟩ := eq_object_of_field? h
  cases fields with
  | nil => cases h
  | cons => rfl

theorem Json.require_eq_ok {value part : Json} {key : String} :
    value.require key = .ok part ↔ value.field? key = some part := by
  unfold Json.require
  split
  · simp [*]
  · simp [*]

namespace Tree

theorem pointRead_eq_ok {value : Json} {point : Point} : Point.read value = .ok point ↔ PointTree value point := by
  constructor
  · intro h
    unfold Point.read at h
    split at h
    · simp only [bind_eq_ok, Json.require_eq_ok] at h
      obtain ⟨line, hl, column, hc, h⟩ := h
      split at h
      · cases h
        exact ⟨hl, hc⟩
      · cases h
    · cases h
  · rintro ⟨hl, hc⟩
    obtain ⟨fields, rfl⟩ := Json.eq_object_of_field? hl
    simp only [Point.read, bind_eq_ok, Json.require_eq_ok]
    exact ⟨_, hl, _, hc, rfl⟩

variable {source : Option Path} {trail : Trail} {node : Json}

theorem spanRead_eq_ok {tag : Json} {loc : Option Span} (h : node.field? "loc" = some tag) :
    Span.read source tag = .ok loc ↔ Located source node loc := by
  constructor
  · intro hr
    unfold Span.read at hr
    split at hr
    · cases hr
      exact .blank h ‹_›
    · split at hr
      · simp only [bind_eq_ok, Json.require_eq_ok, pointRead_eq_ok] at hr
        obtain ⟨value, hv, start, hs, hr⟩ := hr
        split at hr
        · simp only [bind_eq_ok, pointRead_eq_ok] at hr
          obtain ⟨stop, hstop, hr⟩ := hr
          cases hr
          exact .stretch h hv hs ‹_› hstop
        · cases hr
          exact .point h hv hs ‹_›
      · cases hr
  · intro hl
    cases hl with
    | absent hn => cases h.symm.trans hn
    | blank ht hb =>
      obtain rfl := Option.some.inj (h.symm.trans ht)
      unfold Span.read
      rw [if_pos hb]
    | point ht hv hs he =>
      obtain rfl := Option.some.inj (h.symm.trans ht)
      obtain ⟨fields, rfl⟩ := Json.eq_object_of_field? hv
      rw [Span.read, Json.isBlank_of_field? hv]
      simp only [Bool.false_eq_true, if_false, bind_eq_ok, Json.require_eq_ok, pointRead_eq_ok]
      refine ⟨_, hv, _, hs, ?_⟩
      rw [he]
      rfl
    | stretch ht hv hs he hstop =>
      obtain rfl := Option.some.inj (h.symm.trans ht)
      obtain ⟨fields, rfl⟩ := Json.eq_object_of_field? hv
      rw [Span.read, Json.isBlank_of_field? hv]
      simp only [Bool.false_eq_true, if_false, bind_eq_ok, Json.require_eq_ok, pointRead_eq_ok]
      refine ⟨_, hv, _, hs, ?_⟩
      rw [he]
      exact bind_eq_ok.2 ⟨_, pointRead_eq_ok.2 hstop, rfl⟩

theorem location_eq_ok {loc : Option Span} : location source trail node = .ok loc ↔ Located source node loc := by
  unfold location
  cases h : node.field? "loc" with
  | none =>
    constructor
    · rintro ⟨⟩
      exact .absent h
    · intro hl
      cases hl with
      | absent => rfl
      | blank ht | point ht | stretch ht => cases h.symm.trans ht
  | some tag =>
    rw [← spanRead_eq_ok h]
    dsimp only [Option.getD_some]
    cases Span.read source tag with
    | ok span => simp only [Except.ok.injEq]
    | error fault => simp [refuse]

/-! ## Fields -/

theorem field_eq_ok {key : String} {part : { part : Json // sizeOf part < sizeOf node }} :
    field trail node key = .ok part ↔ node.field? key = some part.1 := by
  unfold field
  split
  · rename_i own h
    constructor
    · rintro ⟨⟩
      exact h
    · intro hp
      obtain ⟨part, hlt⟩ := part
      obtain rfl := Option.some.inj (h.symm.trans hp)
      rfl
  · rename_i h
    constructor
    · intro he
      split at he
      · cases he
      · cases he
    · intro hp
      cases h.symm.trans hp

section

variable {β : Type} {key : String} {b : β}

theorem field_bind_eq_ok {f : { part : Json // sizeOf part < sizeOf node } → Reading β} :
    field trail node key >>= f = .ok b ↔
      ∃ part, ∃ h : node.field? key = some part, f ⟨part, Json.sizeOf_field? h⟩ = .ok b := by
  rw [bind_eq_ok]
  constructor
  · rintro ⟨⟨part, hlt⟩, hp, h⟩
    exact ⟨part, field_eq_ok.1 hp, h⟩
  · rintro ⟨part, hp, h⟩
    exact ⟨_, field_eq_ok.2 hp, h⟩

theorem sizeOf_items_lt {items : List Json} (h : node.field? key = some (.array items)) :
    sizeOf items < sizeOf node := by
  have hlt := Json.sizeOf_field? h
  rw [Json.array.sizeOf_spec] at hlt
  omega

theorem list_bind_eq_ok {f : { items : List Json // sizeOf items < sizeOf node } → Reading β} :
    list trail node key >>= f = .ok b ↔
      ∃ items, ∃ h : node.field? key = some (.array items), f ⟨items, sizeOf_items_lt h⟩ = .ok b := by
  unfold list
  rw [bind_assoc, field_bind_eq_ok]
  constructor
  · rintro ⟨part, hp, h⟩
    cases part with
    | array items => exact ⟨items, hp, h⟩
    | _ => cases h
  · rintro ⟨items, hp, h⟩
    exact ⟨_, hp, h⟩

theorem name_eq_ok {text : String} : name trail node key = .ok text ↔ node.field? key = some (.text text) := by
  unfold name
  rw [field_bind_eq_ok]
  constructor
  · rintro ⟨part, hp, h⟩
    cases part with
    | text => cases h; exact hp
    | _ => cases h
  · intro hp
    exact ⟨_, hp, rfl⟩

end

theorem numeral_eq_ok {value : Numeral} : numeral trail node = .ok value ↔ node.field? "n" = some (.number value) := by
  unfold numeral
  rw [field_bind_eq_ok]
  constructor
  · rintro ⟨part, hp, h⟩
    cases part with
    | number => cases h; exact hp
    | _ => cases h
  · intro hp
    exact ⟨_, hp, rfl⟩

theorem tagOf_eq_ok {tag : String} : tagOf trail node = .ok tag ↔ node.field? "tag" = some (.text tag) := by
  unfold tagOf
  split
  · simp [*]
  · rename_i hn
    constructor
    · rintro ⟨⟩
    · exact fun h => absurd h (hn tag)

/-! ## What is read is written -/

mutual

theorem TypeTree.of_read (trail : Trail) (node : Json) {type : Ty} (h : readType trail node = .ok type) :
    TypeTree node type := by
  rw [readType] at h
  obtain ⟨tag, ht, h⟩ := bind_eq_ok.1 h
  rw [tagOf_eq_ok] at ht
  cases hk : Ty.Kind.ofTag? tag with
  | none =>
    rw [hk] at h
    cases h
  | some kind =>
    rw [hk] at h
    obtain rfl := Ty.Kind.tag_of_ofTag? hk
    cases kind with
    | boolean =>
      cases h
      exact .boolean ht
    | number =>
      cases h
      exact .number ht
    | func =>
      obtain ⟨params, hp, h⟩ := bind_eq_ok.1 h
      obtain ⟨part, hpart, h⟩ := field_bind_eq_ok.1 h
      obtain ⟨ret, hr, h⟩ := bind_eq_ok.1 h
      cases h
      have := Json.sizeOf_field? hpart
      exact .func ht (ParamTrees.of_read trail node "params" hp) hpart (TypeTree.of_read _ part hr)
    | object =>
      obtain ⟨props, hp, h⟩ := bind_eq_ok.1 h
      cases h
      exact .object ht (ParamTrees.of_read trail node "props" hp)
    | union =>
      obtain ⟨items, hi, h⟩ := list_bind_eq_ok.1 h
      obtain ⟨variants, hv, h⟩ := bind_eq_ok.1 h
      cases h
      have := sizeOf_items_lt hi
      obtain ⟨_, rfl, hnew, hd⟩ := VariantTrees.of_read trail [] items List.nodup_nil hv
      exact .union ht hi hnew hd
termination_by (sizeOf node, 1)

theorem ParamTrees.of_read (trail : Trail) (node : Json) (key : String) {params : List (String × Ty)}
    (h : readParams trail node key = .ok params) : ParamTrees node key params := by
  rw [readParams] at h
  obtain ⟨items, hi, h⟩ := list_bind_eq_ok.1 h
  have := sizeOf_items_lt hi
  obtain ⟨_, rfl, hnew, hd⟩ := TypedTrees.of_read trail key [] items List.nodup_nil h
  exact .mk hi hnew hd
termination_by (sizeOf node, 0)

theorem TypedTrees.of_read (trail : Trail) (key : String) (done : List (String × Ty)) (items : List Json)
    {params : List (String × Ty)} (hd : (Dict.names done).Nodup) : readParamItems trail key done items = .ok params →
      ∃ new, params = done ++ new ∧ TypedTrees items new ∧ (Dict.names done ++ Dict.names new).Nodup := by
  cases items with
  | nil =>
    intro h
    rw [readParamItems, pure_eq_ok] at h
    exact ⟨[], by simp [h], .nil, by simpa using hd⟩
  | cons item rest =>
    intro h
    rw [readParamItems] at h
    obtain ⟨name, hn, h⟩ := bind_eq_ok.1 h
    split at h
    · cases h
    · rename_i hname
      obtain ⟨part, hp, h⟩ := field_bind_eq_ok.1 h
      obtain ⟨type, ht, h⟩ := bind_eq_ok.1 h
      have := Json.sizeOf_field? hp
      have hd' := Dict.nodup_seen hd (by simpa using hname)
      obtain ⟨new, rfl, hnew, hall⟩ := TypedTrees.of_read trail key _ rest (by simpa using hd') h
      refine ⟨(name, type) :: new, by simp, ?_, by simpa using hall⟩
      exact .cons (name_eq_ok.1 hn) hp (TypeTree.of_read _ part ht) hnew
termination_by (sizeOf items, 0)

theorem VariantTrees.of_read (trail : Trail) (done : List (String × List (String × Ty))) (items : List Json)
    {variants : List (String × List (String × Ty))} (hd : (Dict.names done).Nodup) :
    readVariants trail done items = .ok variants →
      ∃ new, variants = done ++ new ∧ VariantTrees items new ∧ (Dict.names done ++ Dict.names new).Nodup := by
  cases items with
  | nil =>
    intro h
    rw [readVariants, pure_eq_ok] at h
    exact ⟨[], by simp [h], .nil, by simpa using hd⟩
  | cons item rest =>
    intro h
    rw [readVariants] at h
    obtain ⟨label, hl, h⟩ := bind_eq_ok.1 h
    split at h
    · cases h
    · rename_i hlabel
      obtain ⟨props, hp, h⟩ := bind_eq_ok.1 h
      have hd' := Dict.nodup_seen hd (by simpa using hlabel)
      obtain ⟨new, rfl, hnew, hall⟩ := VariantTrees.of_read trail _ rest (by simpa using hd') h
      refine ⟨(label, props) :: new, by simp, ?_, by simpa using hall⟩
      exact .cons (name_eq_ok.1 hl) (ParamTrees.of_read _ item "props" hp) hnew
termination_by (sizeOf items, 0)

end

mutual

/-- Reading makes a term of nothing but what is written as one. -/
theorem TermTree.of_read (trail : Trail) (node : Json) {term : Term (Option Span)}
    (h : readTerm source trail node = .ok term) : TermTree source node term := by
  have hpart : ∀ {key part}, readPart source trail node key = .ok part → PartTree source node key part := fun h =>
    PartTree.of_read trail node _ h
  have hparams : ∀ {params}, readParams trail node "params" = .ok params → ParamTrees node "params" params := fun h =>
    ParamTrees.of_read trail node "params" h
  have hnamed : ∀ {key nameKey items props}, node.field? key = some (.array items) →
      readNamed source trail key nameKey [] items = .ok props → NamedTrees source nameKey items props := by
    intro key nameKey items props hi h
    have := sizeOf_items_lt hi
    obtain ⟨_, rfl, hnew⟩ := NamedTrees.of_read trail key nameKey [] items h
    exact hnew
  rw [readTerm] at h
  obtain ⟨tag, ht, h⟩ := bind_eq_ok.1 h
  rw [tagOf_eq_ok] at ht
  cases hk : Term.Kind.ofTag? tag with
  | none =>
    rw [hk] at h
    cases h
  | some kind =>
    rw [hk] at h
    obtain rfl := Term.Kind.tag_of_ofTag? hk
    obtain ⟨loc, hl, h⟩ := bind_eq_ok.1 h
    rw [location_eq_ok] at hl
    cases kind with
    | litTrue =>
      cases h
      exact .litTrue ht hl
    | litFalse =>
      cases h
      exact .litFalse ht hl
    | number =>
      obtain ⟨value, hv, h⟩ := bind_eq_ok.1 h
      cases h
      exact .number ht hl (numeral_eq_ok.1 hv)
    | ite =>
      obtain ⟨cond, hcond, h⟩ := bind_eq_ok.1 h
      obtain ⟨thn, hthn, h⟩ := bind_eq_ok.1 h
      obtain ⟨els, hels, h⟩ := bind_eq_ok.1 h
      cases h
      exact .ite ht hl (hpart hcond) (hpart hthn) (hpart hels)
    | add =>
      obtain ⟨left, hleft, h⟩ := bind_eq_ok.1 h
      obtain ⟨right, hright, h⟩ := bind_eq_ok.1 h
      cases h
      exact .add ht hl (hpart hleft) (hpart hright)
    | var =>
      obtain ⟨name, hn, h⟩ := bind_eq_ok.1 h
      cases h
      exact .var ht hl (name_eq_ok.1 hn)
    | func =>
      obtain ⟨params, hp, h⟩ := bind_eq_ok.1 h
      obtain ⟨body, hbody, h⟩ := bind_eq_ok.1 h
      cases h
      exact .func ht hl (hparams hp) (hpart hbody)
    | call =>
      obtain ⟨callee, hcallee, h⟩ := bind_eq_ok.1 h
      obtain ⟨items, hi, h⟩ := list_bind_eq_ok.1 h
      obtain ⟨args, ha, h⟩ := bind_eq_ok.1 h
      cases h
      have := sizeOf_items_lt hi
      obtain ⟨_, rfl, hnew⟩ := ArgTrees.of_read trail [] items ha
      exact .call ht hl (hpart hcallee) hi hnew
    | seq =>
      obtain ⟨body, hbody, h⟩ := bind_eq_ok.1 h
      obtain ⟨rest, hrest, h⟩ := bind_eq_ok.1 h
      cases h
      exact .seq ht hl (hpart hbody) (hpart hrest)
    | const =>
      obtain ⟨name, hn, h⟩ := bind_eq_ok.1 h
      obtain ⟨init, hinit, h⟩ := bind_eq_ok.1 h
      obtain ⟨rest, hrest, h⟩ := bind_eq_ok.1 h
      cases h
      exact .const ht hl (name_eq_ok.1 hn) (hpart hinit) (hpart hrest)
    | recFunc =>
      obtain ⟨name, hn, h⟩ := bind_eq_ok.1 h
      obtain ⟨params, hp, h⟩ := bind_eq_ok.1 h
      obtain ⟨part, hf, h⟩ := field_bind_eq_ok.1 h
      obtain ⟨ret, hret, h⟩ := bind_eq_ok.1 h
      obtain ⟨body, hbody, h⟩ := bind_eq_ok.1 h
      obtain ⟨rest, hrest, h⟩ := bind_eq_ok.1 h
      cases h
      exact .recFunc ht hl (name_eq_ok.1 hn) (hparams hp) hf (TypeTree.of_read _ part hret) (hpart hbody)
        (hpart hrest)
    | objectNew =>
      obtain ⟨items, hi, h⟩ := list_bind_eq_ok.1 h
      obtain ⟨props, hp, h⟩ := bind_eq_ok.1 h
      cases h
      exact .objectNew ht hl hi (hnamed hi hp)
    | objectGet =>
      obtain ⟨object, ho, h⟩ := bind_eq_ok.1 h
      obtain ⟨name, hn, h⟩ := bind_eq_ok.1 h
      cases h
      exact .objectGet ht hl (hpart ho) (name_eq_ok.1 hn)
    | unionNew =>
      obtain ⟨label, hlabel, h⟩ := bind_eq_ok.1 h
      obtain ⟨items, hi, h⟩ := list_bind_eq_ok.1 h
      obtain ⟨props, hp, h⟩ := bind_eq_ok.1 h
      obtain ⟨part, hf, h⟩ := field_bind_eq_ok.1 h
      obtain ⟨type, htype, h⟩ := bind_eq_ok.1 h
      cases h
      exact .unionNew ht hl (name_eq_ok.1 hlabel) hi (hnamed hi hp) hf (TypeTree.of_read _ part htype)
    | unionGet =>
      obtain ⟨items, hi, h⟩ := list_bind_eq_ok.1 h
      obtain ⟨clauses, hc, h⟩ := bind_eq_ok.1 h
      obtain ⟨subject, hs, h⟩ := bind_eq_ok.1 h
      cases h
      exact .unionGet ht hl hi (hnamed hi hc) (name_eq_ok.1 hs)
termination_by (sizeOf node, 1)

theorem PartTree.of_read (trail : Trail) (node : Json) (key : String) {term : Term (Option Span)}
    (h : readPart source trail node key = .ok term) : PartTree source node key term := by
  rw [readPart] at h
  obtain ⟨part, hp, h⟩ := field_bind_eq_ok.1 h
  have := Json.sizeOf_field? hp
  exact .mk hp (TermTree.of_read _ part h)
termination_by (sizeOf node, 0)

theorem ArgTrees.of_read (trail : Trail) (done : List (Term (Option Span))) (items : List Json)
    {args : List (Term (Option Span))} : readArgs source trail done items = .ok args →
      ∃ new, args = done ++ new ∧ ArgTrees source items new := by
  cases items with
  | nil =>
    intro h
    rw [readArgs, pure_eq_ok] at h
    exact ⟨[], by simp [h], .nil⟩
  | cons item rest =>
    intro h
    rw [readArgs] at h
    obtain ⟨arg, ha, h⟩ := bind_eq_ok.1 h
    obtain ⟨new, rfl, hnew⟩ := ArgTrees.of_read trail (done ++ [arg]) rest h
    exact ⟨arg :: new, by simp, .cons (TermTree.of_read _ item ha) hnew⟩
termination_by (sizeOf items, 0)

theorem NamedTrees.of_read (trail : Trail) (key nameKey : String) (done : List (String × Term (Option Span)))
    (items : List Json) {props : List (String × Term (Option Span))} :
    readNamed source trail key nameKey done items = .ok props →
      ∃ new, props = done ++ new ∧ NamedTrees source nameKey items new := by
  cases items with
  | nil =>
    intro h
    rw [readNamed, pure_eq_ok] at h
    exact ⟨[], by simp [h], .nil⟩
  | cons item rest =>
    intro h
    rw [readNamed] at h
    obtain ⟨name, hn, h⟩ := bind_eq_ok.1 h
    obtain ⟨term, ht, h⟩ := bind_eq_ok.1 h
    obtain ⟨new, rfl, hnew⟩ := NamedTrees.of_read trail key nameKey (done ++ [(name, term)]) rest h
    exact ⟨(name, term) :: new, by simp, .cons (name_eq_ok.1 hn) (PartTree.of_read _ item "term" ht) hnew⟩
termination_by (sizeOf items, 0)

end

/-! ## What is written is read -/

mutual

theorem TypeTree.read {node : Json} {type : Ty} : TypeTree node type → ∀ trail, readType trail node = .ok type
  | .boolean ht, trail => by
    rw [readType]
    exact bind_eq_ok.2 ⟨_, tagOf_eq_ok.2 ht, rfl⟩
  | .number ht, trail => by
    rw [readType]
    exact bind_eq_ok.2 ⟨_, tagOf_eq_ok.2 ht, rfl⟩
  | .func ht hp hpart hr, trail => by
    rw [readType]
    refine bind_eq_ok.2 ⟨_, tagOf_eq_ok.2 ht, bind_eq_ok.2 ⟨_, hp.read trail, ?_⟩⟩
    exact field_bind_eq_ok.2 ⟨_, hpart, bind_eq_ok.2 ⟨_, hr.read _, rfl⟩⟩
  | .object ht hp, trail => by
    rw [readType]
    exact bind_eq_ok.2 ⟨_, tagOf_eq_ok.2 ht, bind_eq_ok.2 ⟨_, hp.read trail, rfl⟩⟩
  | .union ht hi hv hd, trail => by
    rw [readType]
    refine bind_eq_ok.2 ⟨_, tagOf_eq_ok.2 ht, list_bind_eq_ok.2 ⟨_, hi, ?_⟩⟩
    exact bind_eq_ok.2 ⟨_, hv.read trail [] hd, rfl⟩

theorem ParamTrees.read {node : Json} {key : String} {params : List (String × Ty)} :
    ParamTrees node key params → ∀ trail, readParams trail node key = .ok params
  | .mk hi hp hd, trail => by
    rw [readParams]
    exact list_bind_eq_ok.2 ⟨_, hi, hp.read trail _ [] hd⟩

theorem TypedTrees.read {items : List Json} {params : List (String × Ty)} : TypedTrees items params →
    ∀ trail key done, (Dict.names done ++ Dict.names params).Nodup →
      readParamItems trail key done items = .ok (done ++ params)
  | .nil, trail, key, done, hd => by simp [readParamItems, pure_eq_ok]
  | @TypedTrees.cons _ _ name part type others hn hp ht hothers, trail, key, done, hd => by
    have hname : name ∉ Dict.names done := fun hm => Dict.not_nodup_of_seen hm hd
    have hrest := hothers.read trail key (done ++ [(name, type)]) (by simpa using hd)
    rw [readParamItems]
    refine bind_eq_ok.2 ⟨name, name_eq_ok.2 hn, ?_⟩
    rw [if_neg (by simpa using hname)]
    refine field_bind_eq_ok.2 ⟨part, hp, bind_eq_ok.2 ⟨type, ht.read _, ?_⟩⟩
    simpa using hrest

theorem VariantTrees.read {items : List Json} {variants : List (String × List (String × Ty))} :
    VariantTrees items variants → ∀ trail done, (Dict.names done ++ Dict.names variants).Nodup →
      readVariants trail done items = .ok (done ++ variants)
  | .nil, trail, done, hd => by simp [readVariants, pure_eq_ok]
  | @VariantTrees.cons _ _ label props others hl hp hothers, trail, done, hd => by
    have hlabel : label ∉ Dict.names done := fun hm => Dict.not_nodup_of_seen hm hd
    have hrest := hothers.read trail (done ++ [(label, props)]) (by simpa using hd)
    rw [readVariants]
    refine bind_eq_ok.2 ⟨label, name_eq_ok.2 hl, ?_⟩
    rw [if_neg (by simpa using hlabel)]
    refine bind_eq_ok.2 ⟨props, hp.read _, ?_⟩
    simpa using hrest

end

mutual

/-- What is written as a term is read, wherever it stands. -/
theorem TermTree.read {node : Json} {term : Term (Option Span)} :
    TermTree source node term → ∀ trail, readTerm source trail node = .ok term
  -- with its tag a node has its kind, and the location is read before all else
  | .litTrue ht hl, trail => by
    rw [readTerm]
    refine bind_eq_ok.2 ⟨_, tagOf_eq_ok.2 ht, bind_eq_ok.2 ⟨_, location_eq_ok.2 hl, ?_⟩⟩
    rfl
  | .litFalse ht hl, trail => by
    rw [readTerm]
    refine bind_eq_ok.2 ⟨_, tagOf_eq_ok.2 ht, bind_eq_ok.2 ⟨_, location_eq_ok.2 hl, ?_⟩⟩
    rfl
  | .number ht hl hv, trail => by
    rw [readTerm]
    refine bind_eq_ok.2 ⟨_, tagOf_eq_ok.2 ht, bind_eq_ok.2 ⟨_, location_eq_ok.2 hl, ?_⟩⟩
    exact bind_eq_ok.2 ⟨_, numeral_eq_ok.2 hv, rfl⟩
  | .ite ht hl hcond hthn hels, trail => by
    rw [readTerm]
    refine bind_eq_ok.2 ⟨_, tagOf_eq_ok.2 ht, bind_eq_ok.2 ⟨_, location_eq_ok.2 hl, ?_⟩⟩
    refine bind_eq_ok.2 ⟨_, hcond.read trail, bind_eq_ok.2 ⟨_, hthn.read trail, ?_⟩⟩
    exact bind_eq_ok.2 ⟨_, hels.read trail, rfl⟩
  | .add ht hl hleft hright, trail => by
    rw [readTerm]
    refine bind_eq_ok.2 ⟨_, tagOf_eq_ok.2 ht, bind_eq_ok.2 ⟨_, location_eq_ok.2 hl, ?_⟩⟩
    exact bind_eq_ok.2 ⟨_, hleft.read trail, bind_eq_ok.2 ⟨_, hright.read trail, rfl⟩⟩
  | .var ht hl hn, trail => by
    rw [readTerm]
    refine bind_eq_ok.2 ⟨_, tagOf_eq_ok.2 ht, bind_eq_ok.2 ⟨_, location_eq_ok.2 hl, ?_⟩⟩
    exact bind_eq_ok.2 ⟨_, name_eq_ok.2 hn, rfl⟩
  | .func ht hl hp hbody, trail => by
    rw [readTerm]
    refine bind_eq_ok.2 ⟨_, tagOf_eq_ok.2 ht, bind_eq_ok.2 ⟨_, location_eq_ok.2 hl, ?_⟩⟩
    exact bind_eq_ok.2 ⟨_, hp.read trail, bind_eq_ok.2 ⟨_, hbody.read trail, rfl⟩⟩
  | .call ht hl hcallee hi ha, trail => by
    rw [readTerm]
    refine bind_eq_ok.2 ⟨_, tagOf_eq_ok.2 ht, bind_eq_ok.2 ⟨_, location_eq_ok.2 hl, ?_⟩⟩
    refine bind_eq_ok.2 ⟨_, hcallee.read trail, list_bind_eq_ok.2 ⟨_, hi, ?_⟩⟩
    exact bind_eq_ok.2 ⟨_, ha.read trail [], rfl⟩
  | .seq ht hl hbody hrest, trail => by
    rw [readTerm]
    refine bind_eq_ok.2 ⟨_, tagOf_eq_ok.2 ht, bind_eq_ok.2 ⟨_, location_eq_ok.2 hl, ?_⟩⟩
    exact bind_eq_ok.2 ⟨_, hbody.read trail, bind_eq_ok.2 ⟨_, hrest.read trail, rfl⟩⟩
  | .const ht hl hn hinit hrest, trail => by
    rw [readTerm]
    refine bind_eq_ok.2 ⟨_, tagOf_eq_ok.2 ht, bind_eq_ok.2 ⟨_, location_eq_ok.2 hl, ?_⟩⟩
    refine bind_eq_ok.2 ⟨_, name_eq_ok.2 hn, bind_eq_ok.2 ⟨_, hinit.read trail, ?_⟩⟩
    exact bind_eq_ok.2 ⟨_, hrest.read trail, rfl⟩
  | .recFunc ht hl hn hp hf hret hbody hrest, trail => by
    rw [readTerm]
    refine bind_eq_ok.2 ⟨_, tagOf_eq_ok.2 ht, bind_eq_ok.2 ⟨_, location_eq_ok.2 hl, ?_⟩⟩
    refine bind_eq_ok.2 ⟨_, name_eq_ok.2 hn, bind_eq_ok.2 ⟨_, hp.read trail, ?_⟩⟩
    refine field_bind_eq_ok.2 ⟨_, hf, bind_eq_ok.2 ⟨_, hret.read _, ?_⟩⟩
    exact bind_eq_ok.2 ⟨_, hbody.read trail, bind_eq_ok.2 ⟨_, hrest.read trail, rfl⟩⟩
  | .objectNew ht hl hi hp, trail => by
    rw [readTerm]
    refine bind_eq_ok.2 ⟨_, tagOf_eq_ok.2 ht, bind_eq_ok.2 ⟨_, location_eq_ok.2 hl, ?_⟩⟩
    exact list_bind_eq_ok.2 ⟨_, hi, bind_eq_ok.2 ⟨_, hp.read trail "props" [], rfl⟩⟩
  | .objectGet ht hl ho hn, trail => by
    rw [readTerm]
    refine bind_eq_ok.2 ⟨_, tagOf_eq_ok.2 ht, bind_eq_ok.2 ⟨_, location_eq_ok.2 hl, ?_⟩⟩
    exact bind_eq_ok.2 ⟨_, ho.read trail, bind_eq_ok.2 ⟨_, name_eq_ok.2 hn, rfl⟩⟩
  | .unionNew ht hl hlabel hi hp hf htype, trail => by
    rw [readTerm]
    refine bind_eq_ok.2 ⟨_, tagOf_eq_ok.2 ht, bind_eq_ok.2 ⟨_, location_eq_ok.2 hl, ?_⟩⟩
    refine bind_eq_ok.2 ⟨_, name_eq_ok.2 hlabel, list_bind_eq_ok.2 ⟨_, hi, ?_⟩⟩
    refine bind_eq_ok.2 ⟨_, hp.read trail "props" [], field_bind_eq_ok.2 ⟨_, hf, ?_⟩⟩
    exact bind_eq_ok.2 ⟨_, htype.read _, rfl⟩
  | .unionGet ht hl hi hc hs, trail => by
    rw [readTerm]
    refine bind_eq_ok.2 ⟨_, tagOf_eq_ok.2 ht, bind_eq_ok.2 ⟨_, location_eq_ok.2 hl, ?_⟩⟩
    refine list_bind_eq_ok.2 ⟨_, hi, bind_eq_ok.2 ⟨_, hc.read trail "clauses" [], ?_⟩⟩
    exact bind_eq_ok.2 ⟨_, name_eq_ok.2 hs, rfl⟩

theorem PartTree.read {node : Json} {key : String} {term : Term (Option Span)} :
    PartTree source node key term → ∀ trail, readPart source trail node key = .ok term
  | .mk hp ht, trail => by
    rw [readPart]
    exact field_bind_eq_ok.2 ⟨_, hp, ht.read _⟩

theorem ArgTrees.read {items : List Json} {args : List (Term (Option Span))} :
    ArgTrees source items args → ∀ trail done, readArgs source trail done items = .ok (done ++ args)
  | .nil, trail, done => by simp [readArgs, pure_eq_ok]
  | @ArgTrees.cons _ _ _ arg others ha hothers, trail, done => by
    have hrest := hothers.read trail (done ++ [arg])
    rw [readArgs]
    refine bind_eq_ok.2 ⟨arg, ha.read _, ?_⟩
    simpa using hrest

theorem NamedTrees.read {nameKey : String} {items : List Json} {props : List (String × Term (Option Span))} :
    NamedTrees source nameKey items props →
      ∀ trail key done, readNamed source trail key nameKey done items = .ok (done ++ props)
  | .nil, trail, key, done => by simp [readNamed, pure_eq_ok]
  | @NamedTrees.cons _ _ _ _ name term others hn ht hothers, trail, key, done => by
    have hrest := hothers.read trail key (done ++ [(name, term)])
    rw [readNamed]
    refine bind_eq_ok.2 ⟨name, name_eq_ok.2 hn, bind_eq_ok.2 ⟨term, ht.read _, ?_⟩⟩
    simpa using hrest

end

/-! ## Readers -/

theorem readTerm_eq_ok {term : Term (Option Span)} :
    readTerm source trail node = .ok term ↔ TermTree source node term :=
  ⟨fun h => .of_read trail node h, fun h => h.read trail⟩

/-- A reader accepts a value as a term exactly if the grammar does, and what it returns is the term that the
grammar builds. It stays where it stood. -/
theorem Reader.accepts_grammar (reader : Reader) (node : Json) (term : Term (Option Span)) :
    reader.term node = (reader, .ok term) ↔ TermTree reader.source node term := by
  rw [← @readTerm_eq_ok _ reader.trail, Reader.term]
  constructor
  · intro h
    exact congrArg Prod.snd h
  · intro h
    rw [h]
    rfl

/-- What a reader returns is clean. -/
theorem Reader.clean_of_term {reader : Reader} {node : Json} {term : Term (Option Span)}
    (h : (reader.term node).2 = .ok term) : term.Clean :=
  (readTerm_eq_ok.1 h).clean

end Tree

end StructuralTyping
