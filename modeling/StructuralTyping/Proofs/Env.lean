/-
Environments as look-up sees them: what extending one with parameters adds, layers that can be put on any
environment, environments that bind only types of a kind, clean types above all, and environments that
bind related types to the same names.
-/
import StructuralTyping.Proofs.Ty.Normal
import StructuralTyping.Env

namespace StructuralTyping.Env

@[simp] theorem find?_extend (env : Env) (pairs : List (String × Ty)) (name : String) :
    (env.extend pairs).find? name = (pairs.reverse.lookup name).or (env.find? name) := by
  simp only [find?, extend, List.findSome?_cons, Dict.lookup_ofPairs]
  cases pairs.reverse.lookup name <;> rfl

theorem find?_extend_of_notMem {env : Env} {pairs : List (String × Ty)} {name : String}
    (h : name ∉ Dict.names pairs) : (env.extend pairs).find? name = env.find? name := by
  have hl : pairs.reverse.lookup name = none := by
    rw [Dict.lookup_eq_none]
    simpa [Dict.names] using h
  rw [find?_extend, hl, Option.none_or]

theorem find?_extend_of_mem {env : Env} {pairs : List (String × Ty)} {name : String} {type : Ty}
    (hd : (Dict.names pairs).Nodup) (h : (name, type) ∈ pairs) : (env.extend pairs).find? name = some type := by
  have hreverse : (Dict.names pairs.reverse).Nodup := by simpa [Dict.names] using hd
  rw [find?_extend, (Dict.lookup_eq_some hreverse).2 (List.mem_reverse.2 h)]
  rfl

/-- The first of the pairs could as well be bound in a layer below the others. -/
theorem find?_extend_cons (env : Env) (pair : String × Ty) (pairs : List (String × Ty)) (name : String) :
    (env.extend (pair :: pairs)).find? name = ((env.bind pair.1 pair.2).extend pairs).find? name := by
  rw [find?_extend, find?_extend, find?_bind, Dict.lookup_reverse_cons]

theorem resolve_eq_iff {own other : Env} {name : String} :
    own.resolve name = other.resolve name ↔ own.find? name = other.find? name := by
  unfold resolve
  cases own.find? name <;> cases other.find? name <;> simp

theorem resolve_eq_ok {env : Env} {name : String} {type : Ty} :
    env.resolve name = .ok type ↔ env.find? name = some type := by
  unfold resolve
  cases env.find? name <;> simp

theorem resolve_eq_error {env : Env} {name : String} {absent : Absent} :
    env.resolve name = .error absent ↔ env.find? name = none ∧ absent = ⟨name⟩ := by
  unfold resolve
  cases env.find? name <;> simp [eq_comm]

theorem contains_iff {env : Env} {name : String} : env.contains name = true ↔ ∃ type, env.find? name = some type := by
  rw [contains, Option.isSome_iff_exists]

theorem contains_bind {env : Env} {name key : String} {type : Ty} :
    (env.bind name type).contains key = true ↔ key = name ∨ env.contains key = true := by
  rw [contains, find?_bind]
  split
  · simp [*]
  · simp [*, contains]

theorem contains_extend {env : Env} {pairs : List (String × Ty)} {key : String} :
    (env.extend pairs).contains key = true ↔ key ∈ Dict.names pairs ∨ env.contains key = true := by
  rw [contains, find?_extend, Option.isSome_or, Bool.or_eq_true, Option.isSome_iff_exists,
    Dict.exists_lookup_reverse, contains]

/-! ## Layers -/

/-- The same bindings, for some names, are put in front of whatever is there. -/
structure Layer (names : List String) (f : Env → Env) : Prop where
  inside : ∀ own other, ∀ key ∈ names, (f own).find? key = (f other).find? key
  outside : ∀ env, ∀ key ∉ names, (f env).find? key = env.find? key

theorem layer_id : Layer [] fun env => env := ⟨nofun, fun _ _ _ => rfl⟩

theorem layer_bind (name : String) (type : Ty) : Layer [name] (bind · name type) := by
  constructor
  · intro own other key hk
    rw [find?_bind, find?_bind, if_pos (List.mem_singleton.1 hk), if_pos (List.mem_singleton.1 hk)]
  · intro env key hk
    rw [find?_bind, if_neg (List.mem_singleton.not.1 hk)]

theorem layer_extend (pairs : List (String × Ty)) : Layer (Dict.names pairs) (extend · pairs) := by
  constructor
  · intro own other key hk
    obtain ⟨type, hl⟩ := Dict.exists_lookup_reverse.2 hk
    rw [find?_extend, find?_extend, hl]
    rfl
  · intro env key hk
    exact find?_extend_of_notMem hk

theorem Layer.comp {names others : List String} {f g : Env → Env} (hg : Layer others g) (hf : Layer names f) :
    Layer (others ++ names) fun env => g (f env) := by
  constructor
  · intro own other key hk
    by_cases ho : key ∈ others
    · exact hg.inside _ _ key ho
    · rw [hg.outside _ key ho, hg.outside _ key ho]
      exact hf.inside own other key ((List.mem_append.1 hk).resolve_left ho)
  · intro env key hk
    rw [List.mem_append, not_or] at hk
    rw [hg.outside _ key hk.1, hf.outside env key hk.2]

/-! ## Environments of one kind of type -/

/-- Only types with a property are bound. -/
def All (P : Ty → Prop) (env : Env) : Prop := ∀ name type, env.find? name = some type → P type

theorem All.bind {P : Ty → Prop} {env : Env} (h : env.All P) {name : String} {type : Ty} (ht : P type) :
    (env.bind name type).All P := by
  intro key found hf
  rw [find?_bind] at hf
  split at hf
  · cases hf
    exact ht
  · exact h key found hf

theorem All.extend {P : Ty → Prop} {env : Env} (h : env.All P) {pairs : List (String × Ty)}
    (hp : ∀ p ∈ pairs, P p.2) : (env.extend pairs).All P := by
  intro key found hf
  rw [find?_extend] at hf
  cases hl : pairs.reverse.lookup key with
  | none =>
    rw [hl] at hf
    exact h key found hf
  | some type =>
    rw [hl] at hf
    cases hf
    exact hp _ (List.mem_reverse.1 (Dict.mem_of_lookup hl))

/-- Only clean types are bound. -/
def Clean (env : Env) : Prop := ∀ name type, env.find? name = some type → type.Clean

theorem clean_empty : empty.Clean := by simp [Clean]

theorem Clean.bind {env : Env} (h : env.Clean) {name : String} {type : Ty} (ht : type.Clean) :
    (env.bind name type).Clean :=
  All.bind h ht

theorem Clean.extend {env : Env} (h : env.Clean) {pairs : List (String × Ty)} (hp : ∀ p ∈ pairs, p.2.Clean) :
    (env.extend pairs).Clean :=
  All.extend h hp

/-! ## Related environments -/

/-- The names in question are bound to related types, or to none on either side. -/
def RelOn (R : Ty → Ty → Prop) (N : String → Prop) (own other : Env) : Prop :=
  ∀ name, N name → Option.Rel R (own.find? name) (other.find? name)

section RelOn

variable {R : Ty → Ty → Prop} {N M : String → Prop} {own other : Env}

theorem RelOn.mono (h : RelOn R N own other) (hM : ∀ name, M name → N name) : RelOn R M own other :=
  fun name hm => h name (hM name hm)

theorem RelOn.bind (h : RelOn R N own other) {a b : Ty} (hr : R a b) {name : String}
    (hM : ∀ key, M key → key ≠ name → N key) : RelOn R M (own.bind name a) (other.bind name b) := by
  intro key hm
  rw [find?_bind, find?_bind]
  split
  · exact .some hr
  · exact h key (hM key hm ‹_›)

theorem RelOn.extend_forall₂ (h : RelOn R N own other) {pairs pairs' : List (String × Ty)}
    (hr : List.Forall₂ (fun p q => p.1 = q.1 ∧ R p.2 q.2) pairs pairs')
    (hM : ∀ key, M key → key ∉ Dict.names pairs → N key) : RelOn R M (own.extend pairs) (other.extend pairs') := by
  intro key hm
  have hrel := Dict.agree_of_forall₂ (List.forall₂_reverse_iff.2 hr) key
  by_cases hk : key ∈ Dict.names pairs
  · obtain ⟨type, hl⟩ := Dict.exists_lookup_reverse.2 hk
    rw [hl] at hrel
    obtain ⟨type', hl', htype⟩ := Dict.rel_some_eq hrel
    rw [find?_extend, find?_extend, hl, hl']
    exact .some htype
  · have hk' : key ∉ Dict.names pairs' := Dict.names_eq_of_forall₂ hr ▸ hk
    rw [find?_extend_of_notMem hk, find?_extend_of_notMem hk']
    exact h key (hM key hm hk)

theorem RelOn.extend (h : RelOn R N own other) {pairs : List (String × Ty)} (hr : ∀ p ∈ pairs, R p.2 p.2)
    (hM : ∀ key, M key → key ∉ Dict.names pairs → N key) : RelOn R M (own.extend pairs) (other.extend pairs) :=
  h.extend_forall₂ (List.forall₂_same.2 fun p hm => ⟨rfl, hr p hm⟩) hM

end RelOn

/-- The same names are bound, to equal types. -/
def Same (own expected : Env) : Prop := ∀ name, Option.Rel Ty.Same (own.find? name) (expected.find? name)

theorem Same.relOn {own expected : Env} (h : own.Same expected) : RelOn Ty.Same (fun _ => True) own expected :=
  fun name _ => h name

theorem Clean.same_refl {env : Env} (h : env.Clean) : env.Same env := by
  intro name
  cases hf : env.find? name with
  | none => exact .none
  | some type => exact .some (h name type hf).same_refl

theorem Same.bind {own expected : Env} (h : own.Same expected) {a e : Ty} (ht : Ty.Same a e) (name : String) :
    (own.bind name a).Same (expected.bind name e) := by
  have hbind : RelOn Ty.Same (fun _ => True) (own.bind name a) (expected.bind name e) :=
    h.relOn.bind ht fun _ _ _ => trivial
  exact fun key => hbind key trivial

theorem Same.extend_forall₂ {own expected : Env} (h : own.Same expected) {pairs pairs' : List (String × Ty)}
    (hp : List.Forall₂ (fun p q => p.1 = q.1 ∧ Ty.Same p.2 q.2) pairs pairs') :
    (own.extend pairs).Same (expected.extend pairs') := by
  have hextend : RelOn Ty.Same (fun _ => True) (own.extend pairs) (expected.extend pairs') :=
    h.relOn.extend_forall₂ hp fun _ _ _ => trivial
  exact fun key => hextend key trivial

theorem Same.extend {own expected : Env} (h : own.Same expected) {pairs : List (String × Ty)}
    (hp : ∀ p ∈ pairs, p.2.Clean) : (own.extend pairs).Same (expected.extend pairs) :=
  h.extend_forall₂ (List.forall₂_same.2 fun p hm => ⟨rfl, (hp p hm).same_refl⟩)

end StructuralTyping.Env
