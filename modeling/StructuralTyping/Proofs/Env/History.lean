/-
Histories of environments as finite maps. What a step makes stays as it is, whatever is made after it. Read flat,
an environment is the map that has the pairs of its layers put in, from the bottom up. Main statement: along a
whole history, each environment finds what the map finds that was made by the same step.
-/
import Mathlib.Data.Finmap
import Mathlib.Data.List.Induction
import StructuralTyping.Proofs.Env

namespace StructuralTyping.Env

/-! ## What has been made stays -/

section

variable {σ α β : Type}

/-- If no step takes anything away, then nor does a run of steps. -/
theorem foldl_grows (view : σ → List α) (step : σ → β → σ) (h : ∀ state b, view state <+: view (step state b))
    (state : σ) (bs : List β) : view state <+: view (bs.foldl step state) := by
  induction bs generalizing state with
  | nil => exact List.prefix_rfl
  | cons b rest ih => exact (h state b).trans (ih (step state b))

/-- A longer run goes on from where a shorter one has come to. -/
theorem foldl_mono (view : σ → List α) (step : σ → β → σ) (h : ∀ state b, view state <+: view (step state b))
    (state : σ) {bs cs : List β} (hbs : bs <+: cs) : view (bs.foldl step state) <+: view (cs.foldl step state) := by
  obtain ⟨more, rfl⟩ := hbs
  rw [List.foldl_append]
  exact foldl_grows view step h _ more

theorem getElem?_mono {l m : List α} (h : l <+: m) {i : Nat} {a : α} (hi : l[i]? = some a) : m[i]? = some a := by
  obtain ⟨more, rfl⟩ := h
  obtain ⟨hlt, -⟩ := List.getElem?_eq_some_iff.1 hi
  rw [List.getElem?_append_left hlt, hi]

theorem rel_getElem? {R : α → β → Prop} {l : List α} {m : List β} (h : List.Forall₂ R l m) (i : Nat) :
    Option.Rel R l[i]? m[i]? := by
  induction h generalizing i with
  | nil => exact .none
  | cons hab _ ih =>
    cases i with
    | zero => exact .some hab
    | succ i => exact ih i

theorem rel_map {γ δ : Type} {R : α → β → Prop} {S : γ → δ → Prop} {f : α → γ} {g : β → δ} {x : Option α}
    {y : Option β} (h : Option.Rel R x y) (hfg : ∀ a b, R a b → S (f a) (g b)) : Option.Rel S (x.map f) (y.map g) := by
  cases h with
  | none => exact .none
  | some hab => exact .some (hfg _ _ hab)

theorem forall₂_append_toList {R : α → β → Prop} {l : List α} {m : List β} (h : List.Forall₂ R l m) {x : Option α}
    {y : Option β} (hxy : Option.Rel R x y) : List.Forall₂ R (l ++ x.toList) (m ++ y.toList) := by
  refine List.rel_append h ?_
  cases hxy with
  | none => exact .nil
  | some hab => exact .cons hab .nil

end

variable {steps later : List Step} {step : Step} {made : List Env} {env : Env}

theorem Step.run_eq (made : List Env) (step : Step) : step.run made = made ++ (step.make made).toList := by
  unfold run
  cases step.make made with
  | none => exact (List.append_nil made).symm
  | some env => rfl

theorem history_mono (h : steps <+: later) : history steps <+: history later := by
  refine foldl_mono id Step.run (fun made step => ?_) [empty] h
  rw [Step.run_eq]
  exact List.prefix_append made _

theorem history_concat (steps : List Step) (step : Step) : history (steps ++ [step]) = step.run (history steps) := by
  rw [history, List.foldl_append]
  rfl

/-! ## Steps on what has been made -/

/-- The number of the environment that a step builds on. -/
def Step.base? : Step → Option Nat
  | .mapping _ => none
  | .bind on _ _ => some on
  | .extend on _ => some on
  | .same on => some on

/-- Each step builds on an environment made earlier: before step `k` there are the empty one and those of `k` steps. -/
def Grounded (steps : List Step) : Prop := ∀ k (h : k < steps.length), ∀ on ∈ steps[k].base?, on ≤ k

instance (steps : List Step) : Decidable (Grounded steps) :=
  inferInstanceAs (Decidable (∀ k (h : k < steps.length), ∀ on ∈ steps[k].base?, on ≤ k))

theorem Grounded.start (hg : Grounded later) (h : steps <+: later) : Grounded steps := by
  intro k hk on hon
  refine hg k (hk.trans_le h.length_le) on ?_
  rwa [← h.getElem hk]

theorem Step.exists_make (h : ∀ on ∈ step.base?, on < made.length) : ∃ env, step.make made = some env := by
  cases step with
  | mapping pairs => exact ⟨_, rfl⟩
  | bind on name type => exact ⟨_, by rw [make, List.getElem?_eq_getElem (h on rfl), Option.map_some]⟩
  | extend on pairs => exact ⟨_, by rw [make, List.getElem?_eq_getElem (h on rfl), Option.map_some]⟩
  | same on => exact ⟨_, List.getElem?_eq_getElem (h on rfl)⟩

/-- Each step makes one environment. -/
theorem Grounded.length_history (hg : Grounded steps) : (history steps).length = steps.length + 1 := by
  induction steps using List.reverseRecOn with
  | nil => rfl
  | append_singleton before step ih =>
    have hbefore : (history before).length = before.length + 1 := ih (hg.start (List.prefix_append ..))
    -- the step is the last one, so that all of its number and below have been made
    have hbase : ∀ on ∈ step.base?, on < (history before).length := by
      intro on hon
      have hle : on ≤ before.length := hg before.length (by simp) on (by simpa using hon)
      omega
    obtain ⟨env, hmake⟩ := Step.exists_make hbase
    rw [history_concat, Step.run_eq, hmake]
    simp [hbefore]

/-! ## Flat environments -/

/-- A finite map from names to types. -/
abbrev Flat := Finmap fun _ : String => Ty

namespace Flat

/-- Pairs are put into a map one after the other, so that the last of equal names wins. -/
def override (flat : Flat) (pairs : List (String × Ty)) : Flat :=
  pairs.foldl (fun flat pair => flat.insert pair.1 pair.2) flat

theorem lookup_insert (flat : Flat) (key name : String) (type : Ty) :
    Finmap.lookup key (flat.insert name type) = if key = name then some type else flat.lookup key := by
  by_cases h : key = name
  · rw [if_pos h, h, Finmap.lookup_insert]
  · rw [if_neg h, Finmap.lookup_insert_of_ne flat h]

/-- Of the pairs put in, the last with a name is found, before what the map had. -/
theorem lookup_override (flat : Flat) (pairs : List (String × Ty)) (name : String) :
    (flat.override pairs).lookup name = (pairs.reverse.lookup name).or (flat.lookup name) := by
  induction pairs generalizing flat with
  | nil => rfl
  | cons pair rest ih =>
    have hcons : flat.override (pair :: rest) = Flat.override (flat.insert pair.1 pair.2) rest := rfl
    rw [hcons, ih, lookup_insert, Dict.lookup_reverse_cons]

end Flat

/-- The map that a step makes of the maps made before. -/
def Step.makeFlat (made : List Flat) : Step → Option Flat
  | .mapping none => some ∅
  | .mapping (some pairs) => some (Flat.override ∅ pairs)
  | .bind on name type => made[on]?.map (·.insert name type)
  | .extend on pairs => made[on]?.map (Flat.override · pairs)
  | .same on => made[on]?

/-- The maps after one more step. -/
def Step.runFlat (made : List Flat) (step : Step) : List Flat := made ++ (step.makeFlat made).toList

/-- The maps of a whole history, numbered from the empty one. -/
def flatHistory (steps : List Step) : List Flat := steps.foldl Step.runFlat [∅]

theorem flatHistory_concat (steps : List Step) (step : Step) :
    flatHistory (steps ++ [step]) = step.runFlat (flatHistory steps) := by
  rw [flatHistory, List.foldl_append]
  rfl

theorem flatHistory_mono (h : steps <+: later) : flatHistory steps <+: flatHistory later :=
  foldl_mono id Step.runFlat (fun made _ => List.prefix_append made _) [∅] h

/-! ## Layers and maps -/

/-- An environment finds what a map finds. -/
def Flattens (env : Env) (flat : Flat) : Prop := ∀ name, env.find? name = flat.lookup name

section Flattens

variable {flat : Flat} {flats : List Flat} {name : String}

theorem flattens_empty : empty.Flattens ∅ := fun _ => rfl

theorem Flattens.bind (h : env.Flattens flat) (name : String) (type : Ty) :
    (env.bind name type).Flattens (flat.insert name type) := by
  intro key
  rw [find?_bind, Flat.lookup_insert, h key]

theorem Flattens.extend (h : env.Flattens flat) (pairs : List (String × Ty)) :
    (env.extend pairs).Flattens (flat.override pairs) := by
  intro key
  rw [find?_extend, Flat.lookup_override, h key]

/-- One step makes an environment and its map, or neither. -/
theorem rel_make (h : List.Forall₂ Flattens made flats) (step : Step) :
    Option.Rel Flattens (step.make made) (step.makeFlat flats) := by
  cases step with
  | mapping pairs =>
    cases pairs with
    | none => exact .some flattens_empty
    | some pairs => exact .some (flattens_empty.extend pairs)
  | bind on name type => exact rel_map (rel_getElem? h on) fun _ _ hon => hon.bind name type
  | extend on pairs => exact rel_map (rel_getElem? h on) fun _ _ hon => hon.extend pairs
  | same on => exact rel_getElem? h on

/-- Along a whole history the environments and the maps go together. -/
theorem flattens_history (steps : List Step) : List.Forall₂ Flattens (history steps) (flatHistory steps) := by
  induction steps using List.reverseRecOn with
  | nil => exact .cons flattens_empty .nil
  | append_singleton before step ih =>
    rw [history_concat, flatHistory_concat, Step.run_eq, Step.runFlat]
    exact forall₂_append_toList ih (rel_make ih step)

/-- An environment resolves names as a map says, and tells which names it resolves. -/
structure ResolvesAs (env : Env) (flat : Flat) : Prop where
  bound : ∀ name type, env.resolve name = .ok type ↔ flat.lookup name = some type
  absent : ∀ name absent, env.resolve name = .error absent ↔ name ∉ flat ∧ absent = ⟨name⟩
  contains : ∀ name, env.contains name = true ↔ ∃ type, env.resolve name = .ok type

theorem Flattens.resolvesAs (h : env.Flattens flat) : env.ResolvesAs flat := by
  refine ⟨fun name type => ?_, fun name absent => ?_, fun name => ?_⟩
  · rw [resolve_eq_ok, h name]
  · rw [resolve_eq_error, h name, Finmap.lookup_eq_none]
  · rw [contains_iff]
    simp only [resolve_eq_ok]

end Flattens

end StructuralTyping.Env
