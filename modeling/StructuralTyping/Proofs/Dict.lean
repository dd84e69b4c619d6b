/-
Laws of lists of pairs with distinct names, as look-up sees them: a name is found exactly if it is
written, two such lists agree name by name exactly if they are equally long and one finds all the
names of the other, and sorting by name keeps of a list just what look-up can find in it.
-/
import StructuralTyping.Dict
import Mathlib.Data.List.Induction
import Mathlib.Data.List.Perm.Subperm
import Mathlib.Data.List.Sort
import Mathlib.Data.String.Basic

namespace StructuralTyping.Dict

variable {α β γ : Type}

@[simp] theorem names_nil : names ([] : List (String × α)) = [] := rfl

@[simp] theorem names_cons (entry : String × α) (entries : List (String × α)) :
    names (entry :: entries) = entry.1 :: names entries := rfl

@[simp] theorem names_append (entries others : List (String × α)) :
    names (entries ++ others) = names entries ++ names others := by
  simp [names]

@[simp] theorem length_names (entries : List (String × α)) : (names entries).length = entries.length := by
  simp [names]

theorem mem_names {name : String} {value : α} {entries : List (String × α)} (h : (name, value) ∈ entries) :
    name ∈ names entries :=
  List.mem_map.2 ⟨_, h, rfl⟩

theorem sizeOf_lt_of_mem [SizeOf α] {entry : String × α} {entries : List (String × α)} (h : entry ∈ entries) :
    sizeOf entry.2 < sizeOf entries := by
  obtain ⟨name, value⟩ := entry
  have := List.sizeOf_lt_of_mem h
  simp only [Prod.mk.sizeOf_spec] at this ⊢
  omega

/-! ## Names met so far -/

theorem not_nodup_of_seen {seen names : List String} {name : String} (h : name ∈ seen) :
    ¬ (seen ++ name :: names).Nodup := fun hd =>
  (List.nodup_append.1 hd).2.2 name h name List.mem_cons_self rfl

theorem nodup_seen {seen : List String} {name : String} (hd : seen.Nodup) (h : name ∉ seen) :
    (seen ++ [name]).Nodup := by
  simpa using hd.concat h

/-- Names are distinct if none has been met when it comes. -/
theorem nodup_of_new {entries : List (String × α)}
    (h : ∀ before entry after, entries = before ++ entry :: after → entry.1 ∉ names before) :
    (names entries).Nodup := by
  induction entries using List.reverseRec with
  | nil => exact List.nodup_nil
  | append_singleton before entry ih =>
    rw [names_append]
    refine nodup_seen (ih fun own other after hsplit => ?_) (h before entry [] rfl)
    exact h own other (after ++ [entry]) (by simp [hsplit])

/-! ## Look-up -/

theorem lookup_cons (name : String) (entry : String × α) (rest : List (String × α)) :
    (entry :: rest).lookup name = if name = entry.1 then some entry.2 else rest.lookup name := by
  rw [List.lookup_cons]
  by_cases h : name = entry.1
  · simp [h]
  · have hb : (name == entry.1) = false := by simp [h]
    simp [h, hb]

theorem mem_of_lookup {name : String} {value : α} {entries : List (String × α)}
    (h : entries.lookup name = some value) : (name, value) ∈ entries := by
  obtain ⟨before, after, rfl, -⟩ := List.lookup_eq_some_iff.1 h
  simp

theorem lookup_eq_none {name : String} {entries : List (String × α)} :
    entries.lookup name = none ↔ name ∉ names entries := by
  rw [List.lookup_eq_none_iff]
  simp only [names, List.mem_map, bne_iff_ne, ne_eq, not_exists, not_and]
  exact ⟨fun h p hp e => h p hp e.symm, fun h p hp e => h p hp e.symm⟩

theorem exists_lookup {name : String} {entries : List (String × α)} :
    (∃ value, entries.lookup name = some value) ↔ name ∈ names entries := by
  rw [← Option.ne_none_iff_exists', ne_eq, lookup_eq_none, not_not]

theorem lookup_eq_some {name : String} {value : α} {entries : List (String × α)}
    (hd : (names entries).Nodup) : entries.lookup name = some value ↔ (name, value) ∈ entries := by
  refine ⟨mem_of_lookup, fun h => ?_⟩
  obtain ⟨own, ho⟩ := exists_lookup.2 (mem_names h)
  have := List.inj_on_of_nodup_map hd (mem_of_lookup ho) h rfl
  cases this
  exact ho

/-- The order of distinct names does not matter to look-up. -/
theorem lookup_perm {entries others : List (String × α)} (hp : entries.Perm others)
    (hd : (names entries).Nodup) (name : String) : entries.lookup name = others.lookup name := by
  have hd' : (names others).Nodup := (hp.map Prod.fst).nodup_iff.1 hd
  refine Option.ext fun value => ?_
  rw [lookup_eq_some hd, lookup_eq_some hd', hp.mem_iff]

/-- Names are distinct and all values have a property. -/
structure Proper (P : α → Prop) (entries : List (String × α)) : Prop where
  nodup : (names entries).Nodup
  values : ∀ entry ∈ entries, P entry.2

theorem Proper.of_lookup {P : α → Prop} {entries : List (String × α)} (h : Proper P entries) {name : String}
    {value : α} (hl : entries.lookup name = some value) : P value :=
  h.values _ (mem_of_lookup hl)

theorem Proper.tail {P : α → Prop} {entry : String × α} {rest : List (String × α)} (h : Proper P (entry :: rest)) :
    Proper P rest :=
  ⟨(List.nodup_cons.1 h.nodup).2, (List.forall_mem_cons.1 h.values).2⟩

theorem proper_congr {P Q : α → Prop} (h : ∀ value, P value ↔ Q value) {entries : List (String × α)} :
    Proper P entries ↔ Proper Q entries :=
  ⟨fun hp => ⟨hp.nodup, fun entry hm => (h _).1 (hp.values entry hm)⟩,
    fun hq => ⟨hq.nodup, fun entry hm => (h _).2 (hq.values entry hm)⟩⟩

theorem proper_and {P Q : α → Prop} {entries : List (String × α)} :
    Proper (fun value => P value ∧ Q value) entries ↔ Proper P entries ∧ ∀ entry ∈ entries, Q entry.2 := by
  constructor
  · intro h
    exact ⟨⟨h.nodup, fun entry hm => (h.values entry hm).1⟩, fun entry hm => (h.values entry hm).2⟩
  · rintro ⟨hp, hq⟩
    exact ⟨hp.nodup, fun entry hm => ⟨hp.values entry hm, hq entry hm⟩⟩

instance (P : α → Prop) [DecidablePred P] (entries : List (String × α)) : Decidable (Proper P entries) :=
  decidable_of_iff ((names entries).Nodup ∧ ∀ entry ∈ entries, P entry.2)
    ⟨fun h => ⟨h.1, h.2⟩, fun h => ⟨h.nodup, h.values⟩⟩

/-- Every value is changed and every name kept. -/
def mapValues (f : α → β) (entries : List (String × α)) : List (String × β) :=
  entries.map fun entry => (entry.1, f entry.2)

@[simp] theorem names_mapValues (f : α → β) (entries : List (String × α)) :
    names (mapValues f entries) = names entries := by
  simp [names, mapValues, Function.comp_def]

@[simp] theorem lookup_mapValues (f : α → β) (entries : List (String × α)) (name : String) :
    (mapValues f entries).lookup name = (entries.lookup name).map f := by
  induction entries with
  | nil => rfl
  | cons entry rest ih =>
    simp only [mapValues, List.map_cons, lookup_cons] at ih ⊢
    rw [ih, apply_ite (Option.map f), Option.map_some]

/-- The first of some pairs is the last to be asked of them, before what lies below them. -/
theorem lookup_reverse_cons (pair : String × α) (pairs : List (String × α)) (name : String) (below : Option α) :
    ((pair :: pairs).reverse.lookup name).or below =
      (pairs.reverse.lookup name).or (if name = pair.1 then some pair.2 else below) := by
  rw [List.reverse_cons, List.lookup_append, Option.or_assoc, lookup_cons, List.lookup_nil]
  split
  · rfl
  · rfl

theorem exists_lookup_reverse {name : String} {pairs : List (String × α)} :
    (∃ value, pairs.reverse.lookup name = some value) ↔ name ∈ names pairs := by
  rw [exists_lookup]
  simp [names]

/-- Of the pairs put in one after the other, the last with a name is found, before any that was
there. -/
theorem lookup_putAll (pairs entries : List (String × α)) (name : String) :
    (putAll entries pairs).lookup name = (pairs.reverse.lookup name).or (entries.lookup name) := by
  induction pairs generalizing entries with
  | nil => rfl
  | cons pair rest ih =>
    obtain ⟨key, value⟩ := pair
    rw [putAll, ih, lookup_put, lookup_reverse_cons]

theorem lookup_ofPairs (pairs : List (String × α)) (name : String) :
    (ofPairs pairs).lookup name = pairs.reverse.lookup name := by
  rw [ofPairs, lookup_putAll, List.lookup_nil, Option.or_none]

/-! ## Agreement, name by name -/

/-- Both lists have the same names, with related values. -/
def Agree (R : α → β → Prop) (own : List (String × α)) (expected : List (String × β)) : Prop :=
  ∀ name, Option.Rel R (own.lookup name) (expected.lookup name)

section Agree

variable {R : α → β → Prop} {own : List (String × α)} {expected : List (String × β)}

theorem rel_eq_some {x : Option α} {b : β} (h : Option.Rel R x (some b)) : ∃ a, x = some a ∧ R a b := by
  cases h with
  | some h => exact ⟨_, rfl, h⟩

theorem rel_some_eq {a : α} {y : Option β} (h : Option.Rel R (some a) y) : ∃ b, y = some b ∧ R a b := by
  cases h with
  | some h => exact ⟨_, rfl, h⟩

theorem Agree.of_expected (h : Agree R own expected) {name : String} {b : β}
    (hb : expected.lookup name = some b) : ∃ a, own.lookup name = some a ∧ R a b :=
  rel_eq_some (hb ▸ h name)

theorem Agree.of_own (h : Agree R own expected) {name : String} {a : α}
    (ha : own.lookup name = some a) : ∃ b, expected.lookup name = some b ∧ R a b :=
  rel_some_eq (ha ▸ h name)

theorem Agree.mem_names_iff (h : Agree R own expected) (name : String) :
    name ∈ names own ↔ name ∈ names expected := by
  rw [← exists_lookup, ← exists_lookup]
  constructor
  · rintro ⟨a, ha⟩
    obtain ⟨b, hb, -⟩ := h.of_own ha
    exact ⟨b, hb⟩
  · rintro ⟨b, hb⟩
    obtain ⟨a, ha, -⟩ := h.of_expected hb
    exact ⟨a, ha⟩

theorem Agree.names_perm (h : Agree R own expected) (ho : (names own).Nodup)
    (he : (names expected).Nodup) : (names own).Perm (names expected) :=
  (List.perm_ext_iff_of_nodup ho he).2 h.mem_names_iff

theorem Agree.length_eq (h : Agree R own expected) (ho : (names own).Nodup)
    (he : (names expected).Nodup) : own.length = expected.length := by
  simpa using (h.names_perm ho he).length_eq

/-- Two lists with distinct names agree exactly if they are equally long and each name that is
expected is found, with a related value. -/
theorem agree_iff (ho : (names own).Nodup) (he : (names expected).Nodup) :
    Agree R own expected ↔ own.length = expected.length ∧
      ∀ entry ∈ expected, ∃ a, own.lookup entry.1 = some a ∧ R a entry.2 := by
  constructor
  · intro h
    exact ⟨h.length_eq ho he, fun entry hm => h.of_expected ((lookup_eq_some he).2 hm)⟩
  · rintro ⟨hl, hf⟩ name
    -- equally many names, and all the expected ones among the own: there is no other own name
    have hsub : names expected ⊆ names own := by
      intro key hk
      obtain ⟨entry, hm, rfl⟩ := List.mem_map.1 hk
      obtain ⟨a, ha, -⟩ := hf entry hm
      exact exists_lookup.1 ⟨a, ha⟩
    have hperm : (names expected).Perm (names own) :=
      (List.subperm_of_subset he hsub).perm_of_length_le (by simp [hl])
    cases hb : expected.lookup name with
    | none =>
      rw [lookup_eq_none.2 fun hm => lookup_eq_none.1 hb (hperm.mem_iff.2 hm)]
      exact .none
    | some b =>
      obtain ⟨a, ha, hr⟩ := hf _ (mem_of_lookup hb)
      rw [ha]
      exact .some hr

theorem names_eq_of_forall₂ (h : List.Forall₂ (fun a b => a.1 = b.1 ∧ R a.2 b.2) own expected) :
    names own = names expected := by
  induction h with
  | nil => rfl
  | cons hab _ ih => rw [names_cons, names_cons, hab.1, ih]

theorem agree_of_forall₂ (h : List.Forall₂ (fun a b => a.1 = b.1 ∧ R a.2 b.2) own expected) :
    Agree R own expected := by
  intro name
  induction h with
  | nil => exact .none
  | @cons a b _ _ hab _ ih =>
    rw [lookup_cons, lookup_cons, hab.1]
    split
    · exact .some hab.2
    · exact ih

end Agree

/-! ## Sorted form -/

/-- The pairs in the order of their names. -/
def sortByName (entries : List (String × α)) : List (String × α) :=
  entries.insertionSort fun a b => a.1 ≤ b.1

theorem sortByName_perm (entries : List (String × α)) : (sortByName entries).Perm entries :=
  List.perm_insertionSort _ entries

theorem pairwise_sortByName (entries : List (String × α)) :
    (sortByName entries).Pairwise fun a b => a.1 ≤ b.1 :=
  have : Std.Total fun a b : String × α => a.1 ≤ b.1 := ⟨fun a b => le_total a.1 b.1⟩
  have : IsTrans (String × α) fun a b => a.1 ≤ b.1 := ⟨fun _ _ _ => le_trans⟩
  List.pairwise_insertionSort _ entries

@[simp] theorem lookup_sortByName {entries : List (String × α)} (hd : (names entries).Nodup) (name : String) :
    (sortByName entries).lookup name = entries.lookup name :=
  (lookup_perm (sortByName_perm entries).symm hd name).symm

theorem perm_of_lookup_eq {entries others : List (String × α)} (hd : (names entries).Nodup)
    (hd' : (names others).Nodup) (h : ∀ name, entries.lookup name = others.lookup name) :
    entries.Perm others := by
  rw [List.perm_ext_iff_of_nodup (.of_map _ hd) (.of_map _ hd')]
  rintro ⟨name, value⟩
  rw [← lookup_eq_some hd, ← lookup_eq_some hd', h]

/-- Lists with distinct names sort to the same list exactly if look-up cannot tell them apart. -/
theorem sortByName_eq_iff {entries others : List (String × α)} (hd : (names entries).Nodup)
    (hd' : (names others).Nodup) :
    sortByName entries = sortByName others ↔ ∀ name, entries.lookup name = others.lookup name := by
  constructor
  · intro h name
    rw [← lookup_sortByName hd, h, lookup_sortByName hd']
  · intro h
    have hp := (sortByName_perm entries).trans
      ((perm_of_lookup_eq hd hd' h).trans (sortByName_perm others).symm)
    refine hp.eq_of_pairwise ?_ (pairwise_sortByName entries) (pairwise_sortByName others)
    intro a b ha hb hab hba
    have hb' := (sortByName_perm entries).mem_iff.1 (hp.mem_iff.2 hb)
    exact List.inj_on_of_nodup_map hd ((sortByName_perm entries).mem_iff.1 ha) hb' (le_antisymm hab hba)

/-- If values are related exactly when both have a property and have one image, then lists agree
exactly when all values have the property and the images sort to the same list. -/
theorem agree_iff_sortByName {R : α → α → Prop} {P : α → Prop} {f : α → β} {own expected : List (String × α)}
    (ho : (names own).Nodup) (he : (names expected).Nodup)
    (hR : ∀ a ∈ own, ∀ b ∈ expected, R a.2 b.2 ↔ P a.2 ∧ P b.2 ∧ f a.2 = f b.2) :
    Agree R own expected ↔ (∀ a ∈ own, P a.2) ∧ (∀ b ∈ expected, P b.2) ∧
      sortByName (mapValues f own) = sortByName (mapValues f expected) := by
  rw [sortByName_eq_iff (by simpa using ho) (by simpa using he)]
  simp only [lookup_mapValues]
  constructor
  · intro h
    refine ⟨fun a ha => ?_, fun b hb => ?_, fun name => ?_⟩
    · obtain ⟨b, hb, hr⟩ := h.of_own ((lookup_eq_some ho).2 ha)
      exact ((hR a ha _ (mem_of_lookup hb)).1 hr).1
    · obtain ⟨a, ha, hr⟩ := h.of_expected ((lookup_eq_some he).2 hb)
      exact ((hR _ (mem_of_lookup ha) b hb).1 hr).2.1
    · cases hb : expected.lookup name with
      | none =>
        rw [lookup_eq_none.2 fun hm => lookup_eq_none.1 hb ((h.mem_names_iff name).1 hm)]
      | some b =>
        obtain ⟨a, ha, hr⟩ := h.of_expected hb
        rw [ha, Option.map_some, Option.map_some,
          ((hR _ (mem_of_lookup ha) _ (mem_of_lookup hb)).1 hr).2.2]
  · rintro ⟨hown, hexpected, h⟩ name
    specialize h name
    cases ha : own.lookup name with
    | none =>
      rw [ha, Option.map_none, eq_comm, Option.map_eq_none_iff] at h
      rw [h]
      exact .none
    | some a =>
      rw [ha, Option.map_some, eq_comm, Option.map_eq_some_iff] at h
      obtain ⟨b, hb, hf⟩ := h
      rw [hb]
      have ha := mem_of_lookup ha
      have hb := mem_of_lookup hb
      exact .some ((hR _ ha _ hb).2 ⟨hown _ ha, hexpected _ hb, hf.symm⟩)

end StructuralTyping.Dict
