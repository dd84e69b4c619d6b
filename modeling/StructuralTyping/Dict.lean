/-
Insertion-ordered dictionaries, kept as plain lists of pairs. `put` leaves a known name at its
first place and gives it the new value; `ofPairs` puts a list of pairs in order, so the last of
equal names wins. Laws: what `lookup` finds after either, and that names stay distinct.
-/
namespace StructuralTyping.Dict

variable {α : Type}

/-- The names of a list of pairs, in order. -/
def names (entries : List (String × α)) : List String := entries.map Prod.fst

/-- A known name keeps its place and takes the value; a new name goes last. -/
def put (name : String) (value : α) : List (String × α) → List (String × α)
  | [] => [(name, value)]
  | (key, old) :: rest =>
    if key = name then (name, value) :: rest else (key, old) :: put name value rest

/-- Puts pairs one after the other onto a dictionary. -/
def putAll (entries : List (String × α)) : List (String × α) → List (String × α)
  | [] => entries
  | (name, value) :: pairs => putAll (put name value entries) pairs

/-- The dictionary of a list of pairs: the last of equal names wins. -/
def ofPairs (pairs : List (String × α)) : List (String × α) := putAll [] pairs

/-! ## Lookup -/

theorem lookup_put (name key : String) (value : α) (entries : List (String × α)) :
    (put name value entries).lookup key =
      if key = name then some value else entries.lookup key := by
  induction entries with
  | nil =>
    by_cases h : key = name
    · simp [put, h]
    · have hb : (key == name) = false := by simp [h]
      simp [put, List.lookup_cons, h, hb]
  | cons entry rest ih =>
    obtain ⟨k, old⟩ := entry
    by_cases hk : k = name
    · subst hk
      by_cases h : key = k
      · simp [put, h]
      · have hb : (key == k) = false := by simp [h]
        simp [put, List.lookup_cons, h, hb]
    · by_cases h : key = k
      · subst h
        simp [put, hk]
      · have hb : (key == k) = false := by simp [h]
        simp [put, List.lookup_cons, hk, hb, ih]

/-! ## Distinct names -/

theorem mem_names_put (name key : String) (value : α) (entries : List (String × α)) :
    key ∈ names (put name value entries) ↔ key = name ∨ key ∈ names entries := by
  induction entries with
  | nil => simp [put, names]
  | cons entry rest ih =>
    obtain ⟨k, old⟩ := entry
    by_cases hk : k = name
    · subst hk
      simp [put, names]
    · simp only [names] at ih
      simp only [put, hk, names, if_false, List.map_cons, List.mem_cons, ih]
      constructor
      · rintro (h | h | h)
        · exact .inr (.inl h)
        · exact .inl h
        · exact .inr (.inr h)
      · rintro (h | h | h)
        · exact .inr (.inl h)
        · exact .inl h
        · exact .inr (.inr h)

theorem nodup_put (name : String) (value : α) (entries : List (String × α))
    (h : (names entries).Nodup) : (names (put name value entries)).Nodup := by
  induction entries with
  | nil => simp [put, names]
  | cons entry rest ih =>
    obtain ⟨k, old⟩ := entry
    simp only [names, List.map_cons, List.nodup_cons] at h
    by_cases hk : k = name
    · subst hk
      simpa [put, names] using h
    · have hr := ih h.2
      simp only [put, hk, if_false, names, List.map_cons, List.nodup_cons]
      refine ⟨fun hm => ?_, hr⟩
      rcases (mem_names_put name k value rest).1 hm with e | e
      · exact hk e
      · exact h.1 e

theorem nodup_putAll (entries pairs : List (String × α)) (h : (names entries).Nodup) :
    (names (putAll entries pairs)).Nodup := by
  induction pairs generalizing entries with
  | nil => exact h
  | cons pair rest ih => exact ih _ (nodup_put _ _ _ h)

/-- A dictionary made of pairs never repeats a name. -/
theorem nodup_ofPairs (pairs : List (String × α)) : (names (ofPairs pairs)).Nodup :=
  nodup_putAll [] pairs (by simp [names])

end StructuralTyping.Dict
