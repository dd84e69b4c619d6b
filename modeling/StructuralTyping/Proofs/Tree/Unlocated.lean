/-
Trees without locations. The locations of the terms in a tree can be taken out of it: the field that holds one
is dropped at every term, and nothing else changes. Main statement: two trees that are then the same stand for
terms that are the same but for their locations.
-/
import StructuralTyping.Proofs.Term.Relocation
import StructuralTyping.Proofs.Tree.Role

namespace StructuralTyping.Tree

/-! ## Taking the locations out -/

mutual

/-- A value that is read in a role, without the locations of the terms in it. -/
def unlocated (role : Role) : Json → Json
  | .object fields =>
    match role with
    | .term | .namedTerm _ => .object (unlocatedFields (role.fields (.object fields)) fields)
    | _ => .object fields
  | .array items =>
    match role with
    | .terms => .array (unlocatedItems .term items)
    | .namedTerms nameKey => .array (unlocatedItems (.namedTerm nameKey) items)
    | _ => .array items
  | .null => .null
  | .bool value => .bool value
  | .number value => .number value
  | .text value => .text value

/-- Fields, of which those that are read have roles. -/
def unlocatedFields (roles : List (String × Role)) : List (String × Json) → List (String × Json)
  | [] => []
  | (key, value) :: rest =>
    match roles.lookup key with
    | some .loc => unlocatedFields roles rest
    | some role => (key, unlocated role value) :: unlocatedFields roles rest
    | none => (key, value) :: unlocatedFields roles rest

/-- Items that are read in a role. -/
def unlocatedItems (role : Role) : List Json → List Json
  | [] => []
  | item :: rest => unlocated role item :: unlocatedItems role rest

end

section

variable {roles : List (String × Role)} {fields : List (String × Json)} {role inner : Role} {node value : Json}
  {key nameKey : String} {source : Option Path}

theorem lookup_unlocatedFields (hr : roles.lookup key = some inner) (hl : inner ≠ .loc) :
    (unlocatedFields roles fields).lookup key = (fields.lookup key).map (unlocated inner) := by
  induction fields with
  | nil => rfl
  | cons entry rest ih =>
    obtain ⟨own, value⟩ := entry
    rw [unlocatedFields, Dict.lookup_cons]
    by_cases h : key = own
    · subst h
      rw [if_pos rfl, hr]
      cases inner with
      | loc => exact absurd rfl hl
      | _ => simp
    · rw [if_neg h]
      split
      · exact ih
      · rw [Dict.lookup_cons, if_neg h, ih]
      · rw [Dict.lookup_cons, if_neg h, ih]

theorem lookup_unlocatedFields_loc (hr : roles.lookup key = some .loc) :
    (unlocatedFields roles fields).lookup key = none := by
  induction fields with
  | nil => rfl
  | cons entry rest ih =>
    obtain ⟨own, value⟩ := entry
    rw [unlocatedFields]
    by_cases h : key = own
    · subst h
      rw [hr]
      exact ih
    · split
      · exact ih
      · rw [Dict.lookup_cons, if_neg h, ih]
      · rw [Dict.lookup_cons, if_neg h, ih]

/-- The fields of a term other than its location. -/
theorem field?_unlocated_term (kind : Term.Kind) (ht : node.field? "tag" = some (.text kind.tag))
    (hr : (("tag", .termTag) :: ("loc", .loc) :: Role.ofTerm kind).lookup key = some inner) (hl : inner ≠ .loc) :
    (unlocated .term node).field? key = (node.field? key).map (unlocated inner) := by
  obtain ⟨fields, rfl⟩ := Json.eq_object_of_field? ht
  rw [← Role.fields_term kind ht] at hr
  rw [unlocated]
  exact lookup_unlocatedFields hr hl

theorem located_unlocated (kind : Term.Kind) (ht : node.field? "tag" = some (.text kind.tag)) :
    Located source (unlocated .term node) none := by
  obtain ⟨fields, rfl⟩ := Json.eq_object_of_field? ht
  refine .absent ?_
  rw [unlocated]
  refine lookup_unlocatedFields_loc ?_
  rw [Role.fields_term kind ht]
  rfl

theorem tag_unlocated (kind : Term.Kind) (ht : node.field? "tag" = some (.text kind.tag)) :
    (unlocated .term node).field? "tag" = some (.text kind.tag) := by
  rw [field?_unlocated_term kind ht rfl (by decide), ht]
  rfl

/-- A field of a term, found again. -/
theorem field_unlocated (kind : Term.Kind) (ht : node.field? "tag" = some (.text kind.tag)) (inner : Role)
    (hr : (("tag", .termTag) :: ("loc", .loc) :: Role.ofTerm kind).lookup key = some inner) (hl : inner ≠ .loc)
    (hv : node.field? key = some value) : (unlocated .term node).field? key = some (unlocated inner value) := by
  rw [field?_unlocated_term kind ht hr hl, hv]
  rfl

theorem params_unlocated (kind : Term.Kind) (ht : node.field? "tag" = some (.text kind.tag))
    (hr : (("tag", .termTag) :: ("loc", .loc) :: Role.ofTerm kind).lookup key = some .params)
    {params : List (String × Ty)} (hp : ParamTrees node key params) :
    ParamTrees (unlocated .term node) key params := by
  obtain ⟨hi, hp, hd⟩ := hp
  exact .mk (field_unlocated kind ht _ hr nofun hi) hp hd

theorem type_unlocated (kind : Term.Kind) (ht : node.field? "tag" = some (.text kind.tag))
    (hr : (("tag", .termTag) :: ("loc", .loc) :: Role.ofTerm kind).lookup key = some .type)
    (hv : node.field? key = some value) : (unlocated .term node).field? key = some value := by
  rw [field_unlocated kind ht _ hr nofun hv]
  cases value <;> rfl

/-- The fields of a named term. -/
theorem field_unlocated_named (hn : nameKey ≠ "term") :
    (unlocated (.namedTerm nameKey) node).field? nameKey = (node.field? nameKey).map (unlocated .name) ∧
    (unlocated (.namedTerm nameKey) node).field? "term" = (node.field? "term").map (unlocated .term) := by
  cases node with
  | object fields =>
    rw [unlocated]
    refine ⟨lookup_unlocatedFields ?_ nofun, lookup_unlocatedFields ?_ nofun⟩
    · simp [Role.fields]
    · simp [Role.fields, Dict.lookup_cons, hn.symm]
  | _ => exact ⟨rfl, rfl⟩

end

/-! ## What it stands for -/

section

variable {source : Option Path}

mutual

theorem TermTree.unlocated {node : Json} {term : Term (Option Span)} :
    TermTree source node term → TermTree none (unlocated .term node) (term.mapLoc fun _ => none)
  | .litTrue ht _ => .litTrue (tag_unlocated .litTrue ht) (located_unlocated .litTrue ht)
  | .litFalse ht _ => .litFalse (tag_unlocated .litFalse ht) (located_unlocated .litFalse ht)
  | .number ht _ hn => .number (tag_unlocated .number ht) (located_unlocated .number ht)
      (field_unlocated .number ht .number rfl nofun hn)
  | .ite ht _ hc hthn he => .ite (tag_unlocated .ite ht) (located_unlocated .ite ht)
      (hc.unlocated .ite ht rfl) (hthn.unlocated .ite ht rfl) (he.unlocated .ite ht rfl)
  | .add ht _ hl hr => .add (tag_unlocated .add ht) (located_unlocated .add ht)
      (hl.unlocated .add ht rfl) (hr.unlocated .add ht rfl)
  | .var ht _ hn => .var (tag_unlocated .var ht) (located_unlocated .var ht)
      (field_unlocated .var ht .name rfl nofun hn)
  | .func ht _ hp hb => .func (tag_unlocated .func ht) (located_unlocated .func ht)
      (params_unlocated .func ht rfl hp) (hb.unlocated .func ht rfl)
  | .call ht _ hc hi ha => .call (tag_unlocated .call ht) (located_unlocated .call ht)
      (hc.unlocated .call ht rfl) (field_unlocated .call ht .terms rfl nofun hi) ha.unlocated
  | .seq ht _ hb hr => .seq (tag_unlocated .seq ht) (located_unlocated .seq ht)
      (hb.unlocated .seq ht rfl) (hr.unlocated .seq ht rfl)
  | .const ht _ hn hi hr => .const (tag_unlocated .const ht) (located_unlocated .const ht)
      (field_unlocated .const ht .name rfl nofun hn) (hi.unlocated .const ht rfl) (hr.unlocated .const ht rfl)
  | .recFunc ht _ hn hp hv htype hb hr => .recFunc (tag_unlocated .recFunc ht) (located_unlocated .recFunc ht)
      (field_unlocated .recFunc ht .name rfl nofun hn) (params_unlocated .recFunc ht rfl hp)
      (type_unlocated .recFunc ht rfl hv) htype (hb.unlocated .recFunc ht rfl) (hr.unlocated .recFunc ht rfl)
  | .objectNew ht _ hi hp => .objectNew (tag_unlocated .objectNew ht) (located_unlocated .objectNew ht)
      (field_unlocated .objectNew ht (.namedTerms "name") rfl nofun hi) (hp.unlocated (by decide))
  | .objectGet ht _ ho hn => .objectGet (tag_unlocated .objectGet ht) (located_unlocated .objectGet ht)
      (ho.unlocated .objectGet ht rfl) (field_unlocated .objectGet ht .name rfl nofun hn)
  | .unionNew ht _ hlabel hi hp hv htype => .unionNew (tag_unlocated .unionNew ht) (located_unlocated .unionNew ht)
      (field_unlocated .unionNew ht .name rfl nofun hlabel)
      (field_unlocated .unionNew ht (.namedTerms "name") rfl nofun hi) (hp.unlocated (by decide))
      (type_unlocated .unionNew ht rfl hv) htype
  | .unionGet ht _ hi hc hn => .unionGet (tag_unlocated .unionGet ht) (located_unlocated .unionGet ht)
      (field_unlocated .unionGet ht (.namedTerms "tagLabel") rfl nofun hi) (hc.unlocated (by decide))
      (field_unlocated .unionGet ht .name rfl nofun hn)

theorem PartTree.unlocated {node : Json} {key : String} {term : Term (Option Span)} (kind : Term.Kind)
    (ht : node.field? "tag" = some (.text kind.tag))
    (hr : (("tag", .termTag) :: ("loc", .loc) :: Role.ofTerm kind).lookup key = some .term) :
    PartTree source node key term →
      PartTree none (Tree.unlocated .term node) key (term.mapLoc fun _ => none)
  | .mk hp hterm => .mk (field_unlocated kind ht _ hr nofun hp) hterm.unlocated

theorem ArgTrees.unlocated {items : List Json} {args : List (Term (Option Span))} :
    ArgTrees source items args → ArgTrees none (unlocatedItems .term items) (Term.mapLocArgs (fun _ => none) args)
  | .nil => .nil
  | .cons ha hrest => .cons ha.unlocated hrest.unlocated

theorem NamedTrees.unlocated {nameKey : String} {items : List Json} {props : List (String × Term (Option Span))}
    (hk : nameKey ≠ "term") : NamedTrees source nameKey items props →
      NamedTrees none nameKey (unlocatedItems (.namedTerm nameKey) items) (Term.mapLocProps (fun _ => none) props)
  | .nil => .nil
  | .cons hn (.mk hp hterm) hrest => .cons (by rw [(field_unlocated_named hk).1, hn]; rfl)
      (.mk (by rw [(field_unlocated_named hk).2, hp]; rfl) hterm.unlocated) (hrest.unlocated hk)

end

variable {other : Option Path} {tree tree' : Json} {term term' : Term (Option Span)}

/-- Trees that are the same without locations stand for terms that are the same without them. -/
theorem TermTree.same_without_locations (ht : TermTree source tree term) (ht' : TermTree other tree' term')
    (h : Tree.unlocated .term tree = Tree.unlocated .term tree') :
    (term.mapLoc fun _ => (none : Option Span)) = term'.mapLoc fun _ => none :=
  Except.ok.inj (((h ▸ ht.unlocated).read []).symm.trans (ht'.unlocated.read []))

end

end StructuralTyping.Tree
