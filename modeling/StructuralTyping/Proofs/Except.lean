/-
Computations that can fail, and what is known of their outcomes. A bind succeeds or fails with its parts;
a fold that fails does so at a first element, which is the first one at fault, and nothing after that element
is looked at; two computations side by side come out alike, if each of their steps does.
-/
import Mathlib.Data.List.Induction
import Mathlib.Data.List.TakeDrop

namespace StructuralTyping

variable {ε σ α β : Type}

/-! ## One step -/

section

variable {x : Except ε α} {f : α → Except ε β} {a : α} {b : β} {e : ε}

theorem bind_eq_ok : x >>= f = .ok b ↔ ∃ a, x = .ok a ∧ f a = .ok b := by
  cases x <;> simp [bind, Except.bind]

theorem pure_eq_ok {a b : α} : (pure a : Except ε α) = .ok b ↔ a = b := Except.ok.injEq a b ▸ Iff.rfl

theorem bind_eq_error : x >>= f = .error e ↔ x = .error e ∨ ∃ a, x = .ok a ∧ f a = .error e := by
  cases x <;> simp [bind, Except.bind]

theorem bind_error_of_error (h : x = .error e) : x >>= f = .error e := bind_eq_error.2 (.inl h)

theorem bind_error_of_ok (h : x = .ok a) (hf : f a = .error e) : x >>= f = .error e :=
  bind_eq_error.2 (.inr ⟨a, h, hf⟩)

end

/-! ## Folds that can fail -/

section Fold

variable {step other : σ → α → Except ε σ} {xs : List α} {i : Nat} {x : α} {s r : σ} {e : ε}

theorem eq_take_append (hx : xs[i]? = some x) : xs = xs.take i ++ x :: xs.drop (i + 1) := by
  obtain ⟨hi, rfl⟩ := List.getElem?_eq_some_iff.1 hx
  rw [List.getElem_cons_drop, List.take_append_drop]

theorem foldlM_error_at (hs : (xs.take i).foldlM step s = .ok r) (hx : xs[i]? = some x) (he : step r x = .error e) :
    xs.foldlM step s = .error e := by
  rw [eq_take_append hx, List.foldlM_append]
  exact bind_error_of_ok hs (bind_error_of_error he)

theorem foldlM_ok_at (h : xs.foldlM step s = .ok r) (hx : xs[i]? = some x) :
    ∃ t u, (xs.take i).foldlM step s = .ok t ∧ step t x = .ok u := by
  rw [eq_take_append hx, List.foldlM_append] at h
  obtain ⟨t, ht, h⟩ := bind_eq_ok.1 h
  obtain ⟨u, hu, -⟩ := bind_eq_ok.1 h
  exact ⟨t, u, ht, hu⟩

/-- A fold that fails has a first element at which it does. -/
theorem foldlM_first_error (h : xs.foldlM step s = .error e) :
    ∃ i x t, xs[i]? = some x ∧ (xs.take i).foldlM step s = .ok t ∧ step t x = .error e := by
  induction xs generalizing s with
  | nil => cases h
  | cons x xs ih =>
    rw [List.foldlM_cons] at h
    rcases bind_eq_error.1 h with he | ⟨t, ht, h⟩
    · exact ⟨0, x, s, rfl, rfl, he⟩
    · obtain ⟨i, y, u, hy, hu, he⟩ := ih h
      refine ⟨i + 1, y, u, hy, ?_, he⟩
      rw [List.take_succ_cons, List.foldlM_cons]
      exact bind_eq_ok.2 ⟨t, ht, hu⟩

/-- What holds of the state and the elements behind it, after whichever step, holds in the end. -/
theorem foldlM_invariant (P : List α → σ → Prop) (hs : P [] s)
    (hstep : ∀ behind t x u, P behind t → step t x = .ok u → P (behind ++ [x]) u) (h : xs.foldlM step s = .ok r) :
    P xs r := by
  -- from the end of the list, so that the last step has all the others behind it
  induction xs using List.reverseRec generalizing r with
  | nil =>
    cases h
    exact hs
  | append_singleton behind x ih =>
    rw [List.foldlM_append] at h
    obtain ⟨t, ht, h⟩ := bind_eq_ok.1 h
    obtain ⟨u, hu, h⟩ := bind_eq_ok.1 h
    cases h
    exact hstep behind t x _ (ih ht) hu

theorem foldlM_ok_congr (hstep : ∀ s x r, step s x = .ok r → other s x = .ok r) (h : xs.foldlM step s = .ok r) :
    xs.foldlM other s = .ok r := by
  induction xs generalizing s with
  | nil => exact h
  | cons x xs ih =>
    rw [List.foldlM_cons] at h ⊢
    obtain ⟨t, ht, h⟩ := bind_eq_ok.1 h
    exact bind_eq_ok.2 ⟨t, hstep s x t ht, ih h⟩

/-- A fold that succeeds, run on a list that is the same up to an element on which it fails. -/
theorem foldlM_error_of_ok {ys : List α} {y : α} (h : xs.foldlM step s = .ok r) (ht : ys.take i = xs.take i)
    (hx : xs[i]? = some x) (hy : ys[i]? = some y) (hok : ∀ s x r, step s x = .ok r → other s x = .ok r)
    (he : ∀ t u, step t x = .ok u → other t y = .error e) : ys.foldlM other s = .error e := by
  obtain ⟨t, u, hs, hu⟩ := foldlM_ok_at h hx
  refine foldlM_error_at ?_ hy (he t u hu)
  rw [ht]
  exact foldlM_ok_congr hok hs

end Fold

/-! ## The first fault -/

section Faults

variable {ν : Type} {Fault : List α → α → ν → Prop}

/-- No element is at fault, given those before it. -/
def Faultless (Fault : List α → α → ν → Prop) (xs : List α) : Prop :=
  ∀ before x after, xs = before ++ x :: after → ∀ fault, ¬ Fault before x fault

/-- The element is at fault, and none before it is. -/
def FirstFault (Fault : List α → α → ν → Prop) (xs : List α) (x : α) (fault : ν) : Prop :=
  ∃ before after, xs = before ++ x :: after ∧ Faultless Fault before ∧ Fault before x fault

theorem faultless_nil : Faultless Fault [] := by
  intro before x after h
  simp at h

theorem Faultless.concat {xs : List α} {x : α} (h : Faultless Fault xs) (hx : ∀ fault, ¬ Fault xs x fault) :
    Faultless Fault (xs ++ [x]) := by
  intro before y after hsplit
  rcases List.eq_nil_or_concat after with rfl | ⟨others, z, rfl⟩
  · obtain ⟨rfl, hy⟩ := List.append_inj' hsplit rfl
    cases hy
    exact hx
  · have hends : xs ++ [x] = (before ++ y :: others) ++ [z] := by simpa using hsplit
    exact h before y others (List.append_inj' hends rfl).1

theorem FirstFault.append {xs : List α} {x : α} {fault : ν} (h : FirstFault Fault xs x fault) (ys : List α) :
    FirstFault Fault (xs ++ ys) x fault := by
  obtain ⟨before, after, rfl, hfree, hx⟩ := h
  exact ⟨before, after ++ ys, by simp, hfree, hx⟩

theorem FirstFault.not_faultless {xs : List α} {x : α} {fault : ν} (h : FirstFault Fault xs x fault) :
    ¬ Faultless Fault xs := by
  obtain ⟨before, after, hsplit, -, hx⟩ := h
  exact fun hall => hall before x after hsplit fault hx

/-- If a step either goes through, at an element without fault, or fails with a fault, then so does a fold: it
goes through and nothing is at fault, or it fails with the first fault. -/
theorem foldlM_faults {step : σ → α → Except ε σ} {xs : List α} {s : σ} (P : List α → σ → Prop) (fail : α → ν → ε)
    (hs : P [] s)
    (hstep : ∀ behind t, ∀ x ∈ xs, P behind t →
      (∃ u, step t x = .ok u ∧ P (behind ++ [x]) u ∧ ∀ fault, ¬ Fault behind x fault) ∨
      ∃ fault, step t x = .error (fail x fault) ∧ Fault behind x fault) :
    (∃ r, xs.foldlM step s = .ok r ∧ P xs r ∧ Faultless Fault xs) ∨
    ∃ x fault, xs.foldlM step s = .error (fail x fault) ∧ FirstFault Fault xs x fault := by
  induction xs using List.reverseRec with
  | nil => exact .inl ⟨s, rfl, hs, faultless_nil⟩
  | append_singleton behind x ih =>
    simp only [List.foldlM_append]
    rcases ih fun behind' t y hy => hstep behind' t y (by simp [hy]) with ⟨t, ht, hP, hfree⟩ | ⟨y, fault, he, hfirst⟩
    · rcases hstep behind t x (by simp) hP with ⟨u, hu, hnext, hnone⟩ | ⟨fault, he, hfault⟩
      · exact .inl ⟨u, bind_eq_ok.2 ⟨t, ht, bind_eq_ok.2 ⟨u, hu, rfl⟩⟩, hnext, hfree.concat hnone⟩
      · refine .inr ⟨x, fault, bind_error_of_ok ht (bind_error_of_error he), ?_⟩
        exact ⟨behind, [], rfl, hfree, hfault⟩
    · exact .inr ⟨y, fault, bind_error_of_error he, hfirst.append [x]⟩

end Faults

/-! ## Outcomes side by side -/

/-- Both succeed, with related results, or both fail, with one and the same failure. -/
inductive Alike (R : α → β → Prop) : Except ε α → Except ε β → Prop where
  | ok {a b} : R a b → Alike R (.ok a) (.ok b)
  | error {e} : Alike R (.error e) (.error e)

section Alike

variable {α' β' : Type} {R : α → β → Prop} {Q : α' → β' → Prop}

theorem Alike.bind {x : Except ε α} {y : Except ε β} {f : α → Except ε α'} {g : β → Except ε β'}
    (h : Alike R x y) (hf : ∀ a b, R a b → Alike Q (f a) (g b)) : Alike Q (x >>= f) (y >>= g) := by
  cases h with
  | ok hr => exact hf _ _ hr
  | error => exact .error

/-- After one and the same step. -/
theorem Alike.bind_same {x : Except ε α} {f : α → Except ε α'} {g : α → Except ε β'}
    (h : ∀ a, Alike Q (f a) (g a)) : Alike Q (x >>= f) (x >>= g) := by
  cases x with
  | ok a => exact h a
  | error => exact .error

theorem Alike.refl (x : Except ε α) : Alike Eq x x := by
  cases x with
  | ok => exact .ok rfl
  | error => exact .error

theorem Alike.eq {x y : Except ε α} (h : Alike Eq x y) : x = y := by
  cases h with
  | ok hr => rw [hr]
  | error => rfl

end Alike

/-! ## What failures there are -/

section FailsWith

variable {Q : ε → Prop}

/-- A failure, if there is one, has a property. -/
def FailsWith (Q : ε → Prop) (x : Except ε α) : Prop := ∀ failure, x = .error failure → Q failure

theorem FailsWith.ok (value : α) : FailsWith Q (.ok value) := nofun

theorem FailsWith.error {failure : ε} (h : Q failure) : FailsWith Q (.error failure : Except ε α) := by
  rintro _ ⟨⟩
  exact h

theorem FailsWith.mono {P : ε → Prop} {x : Except ε α} (h : FailsWith Q x) (hQ : ∀ failure, Q failure → P failure) :
    FailsWith P x :=
  fun failure hx => hQ failure (h failure hx)

theorem FailsWith.bind {x : Except ε α} {f : α → Except ε β} (hx : FailsWith Q x)
    (hf : ∀ a, x = .ok a → FailsWith Q (f a)) : FailsWith Q (x >>= f) := by
  intro failure h
  rcases bind_eq_error.1 h with h | ⟨a, ha, h⟩
  · exact hx failure h
  · exact hf a ha failure h

theorem FailsWith.foldlM {step : σ → α → Except ε σ} {xs : List α} {s : σ}
    (hstep : ∀ x ∈ xs, ∀ t, FailsWith Q (step t x)) : FailsWith Q (xs.foldlM step s) := by
  intro failure h
  obtain ⟨i, x, t, hx, -, he⟩ := foldlM_first_error h
  exact hstep x (List.mem_of_getElem? hx) t failure he

end FailsWith

end StructuralTyping
