/-
Offsets and underlines stay within the text. A point on a line of a text has an offset: where its line begins
when the lines are joined, and its column. Main statement: the points of a text are in the order of their
offsets, each offset is that of just one point, and the underline of a stretch between two points ends before
the second one, or just at it if both are on one line.
-/
import Mathlib.Data.Set.Function
import StructuralTyping.Source.Span

namespace StructuralTyping

/-! ## Joined lists -/

section

variable {α : Type} {lists : List (List α)} {list : List α} {i j k : Nat}

/-- Where a list begins when all are joined. -/
def startOf (lists : List (List α)) (i : Nat) : Nat := (lists.take i).flatten.length

theorem startOf_succ (h : lists[i]? = some list) : startOf lists (i + 1) = startOf lists i + list.length := by
  simp [startOf, List.take_add_one, h]

theorem startOf_mono (h : i ≤ j) : startOf lists i ≤ startOf lists j := by
  induction h with
  | refl => exact le_rfl
  | @step j _ ih =>
    cases hj : lists[j]? with
    | none => simpa [startOf, List.take_add_one, hj] using ih
    | some list =>
      rw [startOf_succ hj]
      omega

/-- A list ends before the next one begins. -/
theorem startOf_add_length_le (h : lists[i]? = some list) (hij : i < j) :
    startOf lists i + list.length ≤ startOf lists j := by
  rw [← startOf_succ h]
  exact startOf_mono hij

/-- The items of the joined lists, counted from where their list begins. -/
theorem flatten_getElem? (h : lists[i]? = some list) (hj : j < list.length) :
    lists.flatten[startOf lists i + j]? = list[j]? := by
  obtain ⟨hi, rfl⟩ := List.getElem?_eq_some_iff.1 h
  have hsplit : lists.flatten = (lists.take i).flatten ++ (lists[i] ++ (lists.drop (i + 1)).flatten) := by
    rw [← List.flatten_cons, ← List.flatten_append, List.getElem_cons_drop, List.take_append_drop]
  rw [hsplit, List.getElem?_append_right (by simp [startOf]), startOf, Nat.add_sub_cancel_left,
    List.getElem?_append_left hj]

theorem exists_startOf (h : k < lists.flatten.length) :
    ∃ i list j, lists[i]? = some list ∧ j < list.length ∧ startOf lists i + j = k := by
  induction lists generalizing k with
  | nil => simp at h
  | cons first rest ih =>
    by_cases hk : k < first.length
    · exact ⟨0, first, k, rfl, hk, by simp [startOf]⟩
    · rw [List.flatten_cons, List.length_append] at h
      obtain ⟨i, list, j, hi, hj, hstart⟩ := ih (k := k - first.length) (by omega)
      refine ⟨i + 1, list, j, hi, hj, ?_⟩
      simp only [startOf, List.take_succ_cons, List.flatten_cons, List.length_append] at hstart ⊢
      omega

end

/-! ## Points on lines -/

/-- One point comes before another one: on an earlier line, or on its line at an earlier column. -/
def Point.Before (p q : Point) : Prop := p.line < q.line ∨ p.line = q.line ∧ p.column < q.column

namespace Text

/-- The point stands in the text, on a line of it. The characters of its terminator belong to a line. -/
structure On (text : List Char) (p : Point) (own : List Char) : Prop where
  fromOne : 1 ≤ p.line
  found : (splitLines isLineEnd text)[(p.line - 1).toNat]? = some own
  fromZero : 0 ≤ p.column
  within : p.column < own.length

section

variable {text own other : List Char} {p q : Point}

theorem On.offset (h : On text p own) :
    offsetOf text p = startOf (splitLines isLineEnd text) (p.line - 1).toNat + p.column := by
  have hline := h.fromOne
  simp only [offsetOf, upTo, startOf]
  rw [if_pos (by omega)]

theorem On.offset_nonneg (h : On text p own) : 0 ≤ offsetOf text p := by
  have hcolumn := h.fromZero
  rw [h.offset]
  omega

/-- The character at the offset of a point is the one at its column. -/
theorem On.getElem? (h : On text p own) : text[(offsetOf text p).toNat]? = own[p.column.toNat]? := by
  have hfrom := h.fromZero
  have hcolumn := h.within
  have hoffset : (offsetOf text p).toNat = startOf (splitLines isLineEnd text) (p.line - 1).toNat + p.column.toNat := by
    rw [h.offset]
    omega
  have hitem := flatten_getElem? h.found (j := p.column.toNat) (by omega)
  rwa [flatten_splitLines, ← hoffset] at hitem

theorem On.offset_lt_length (h : On text p own) : offsetOf text p < text.length := by
  have hfrom := h.fromZero
  have hcolumn := h.within
  have hlt : p.column.toNat < own.length := by omega
  have hitem := h.getElem?
  rw [List.getElem?_eq_getElem hlt] at hitem
  have hbound := (List.getElem?_eq_some_iff.1 hitem).1
  omega

/-- All of an earlier line comes before a point. -/
theorem On.start_add_length_le (hp : On text p own) (hq : On text q other) (h : p.line < q.line) :
    startOf (splitLines isLineEnd text) (p.line - 1).toNat + own.length ≤ offsetOf text q := by
  have hline := hp.fromOne
  have hcolumn := hq.fromZero
  have hstart := startOf_add_length_le hp.found (j := (q.line - 1).toNat) (by omega)
  rw [hq.offset]
  omega

theorem On.offset_lt (hp : On text p own) (hq : On text q other) (h : p.Before q) :
    offsetOf text p < offsetOf text q := by
  rcases h with h | ⟨hline, h⟩
  · have hstart := hp.start_add_length_le hq h
    have hcolumn := hp.within
    rw [hp.offset]
    omega
  · rw [hp.offset, hq.offset, hline]
    omega

theorem On.eq_of_offset_eq (hp : On text p own) (hq : On text q other) (h : offsetOf text p = offsetOf text q) :
    p = q := by
  have hpq : ¬ p.Before q := fun hb => (hp.offset_lt hq hb).ne h
  have hqp : ¬ q.Before p := fun hb => (hq.offset_lt hp hb).ne' h
  obtain ⟨line, column⟩ := p
  obtain ⟨line', column'⟩ := q
  simp only [Point.Before, Point.mk.injEq] at hpq hqp ⊢
  omega

theorem exists_on {k : Nat} (h : k < text.length) : ∃ p own, On text p own ∧ offsetOf text p = k := by
  have hk : k < (splitLines isLineEnd text).flatten.length := by rwa [flatten_splitLines]
  obtain ⟨i, own, j, hi, hj, hk⟩ := exists_startOf hk
  have hline : ((i : Int) + 1 - 1).toNat = i := by omega
  have hon : On text ⟨i + 1, j⟩ own :=
    ⟨by dsimp only; omega, by simpa only [hline] using hi, by simp, by simpa using hj⟩
  refine ⟨⟨i + 1, j⟩, own, hon, ?_⟩
  rw [hon.offset, hline, ← hk]
  push_cast
  rfl

/-! ## Underlines -/

variable {path : Option Path} {shown : List Char}

theorem width_same_line (hp : On text p own) (hq : On text q other) (h : p.Before q) (hline : p.line = q.line) :
    offsetOf text p + (Span.mk path p q).widthOn shown = offsetOf text q := by
  have hcolumn : p.column < q.column := by
    rcases h with h | h
    · omega
    · exact h.2
  rw [hp.offset, hq.offset, hline, Span.widthOn, if_pos hline.symm]
  dsimp only
  omega

/-- An underline ends with its line at the latest, even if the line begins with blanks at its start. -/
theorem width_earlier_line (hp : On text p own) (hq : On text q other) (hline : p.line < q.line)
    (hshown : shown <+: own) : offsetOf text p + (Span.mk path p q).widthOn shown ≤ offsetOf text q := by
  have hstart := hp.start_add_length_le hq hline
  have hcolumn := hp.within
  have htrim := length_trimEnd_le shown
  have hprefix := hshown.length_le
  rw [Span.widthOn, if_neg (by simpa using hline.ne'), hp.offset]
  dsimp only
  omega

end

/-- The offsets of the points in a text are the numbers below its length, each for one point, in the order of the
points, and at each is the character at the point's column. An underline from one point to another is not empty and
does not pass the other one; on one line it ends there. It is all the same whether a line is shown to its end. -/
theorem offsets_within (text : List Char) :
    Set.BijOn (offsetOf text) {p | ∃ own, On text p own} {n | 0 ≤ n ∧ n < text.length} ∧
    (∀ p own, On text p own → text[(offsetOf text p).toNat]? = own[p.column.toNat]?) ∧
    ∀ p q own other, On text p own → On text q other → p.Before q →
      offsetOf text p < offsetOf text q ∧
      ∀ path shown, shown <+: own →
        1 ≤ (Span.mk path p q).widthOn shown ∧
        offsetOf text p + (Span.mk path p q).widthOn shown ≤ offsetOf text q ∧
        (p.line = q.line → offsetOf text p + (Span.mk path p q).widthOn shown = offsetOf text q) := by
  refine ⟨⟨?_, ?_, ?_⟩, fun p own hp => hp.getElem?, fun p q own other hp hq h => ?_⟩
  · rintro p ⟨own, hp⟩
    exact ⟨hp.offset_nonneg, hp.offset_lt_length⟩
  · rintro p ⟨own, hp⟩ q ⟨other, hq⟩ h
    exact hp.eq_of_offset_eq hq h
  · rintro n ⟨hfrom, hlt⟩
    obtain ⟨p, own, hp, hoffset⟩ := @exists_on text n.toNat (by omega)
    exact ⟨p, ⟨own, hp⟩, by omega⟩
  · refine ⟨hp.offset_lt hq h, fun path shown hshown => ⟨Span.one_le_widthOn _ _, ?_, width_same_line hp hq h⟩⟩
    rcases h with hline | ⟨hline, hcolumn⟩
    · exact width_earlier_line hp hq hline hshown
    · exact (width_same_line hp hq (.inr ⟨hline, hcolumn⟩) hline).le

/-- A stretch from the blank at the end of a line to the start of the next one. The line is shown without its
terminator, and a single caret stands under the blank. -/
theorem offsets_within_blank_end :
    On ['a', ' ', '\r', '\n', 'b'] ⟨1, 1⟩ ['a', ' ', '\r', '\n'] ∧ On ['a', ' ', '\r', '\n', 'b'] ⟨2, 0⟩ ['b'] ∧
    1 ≤ (Span.mk none ⟨1, 1⟩ ⟨2, 0⟩).widthOn ['a', ' '] ∧
    offsetOf ['a', ' ', '\r', '\n', 'b'] ⟨1, 1⟩ + (Span.mk none ⟨1, 1⟩ ⟨2, 0⟩).widthOn ['a', ' '] ≤
      offsetOf ['a', ' ', '\r', '\n', 'b'] ⟨2, 0⟩ := by
  have hp : On ['a', ' ', '\r', '\n', 'b'] ⟨1, 1⟩ ['a', ' ', '\r', '\n'] := ⟨by decide, rfl, by decide, by decide⟩
  have hq : On ['a', ' ', '\r', '\n', 'b'] ⟨2, 0⟩ ['b'] := ⟨by decide, rfl, by decide, by decide⟩
  obtain ⟨-, -, hwidths⟩ := offsets_within ['a', ' ', '\r', '\n', 'b']
  obtain ⟨hone, hwidth, -⟩ := (hwidths ⟨1, 1⟩ ⟨2, 0⟩ _ _ hp hq (.inl (by decide))).2 none ['a', ' '] ⟨_, rfl⟩
  exact ⟨hp, hq, hone, hwidth⟩

end Text

end StructuralTyping
