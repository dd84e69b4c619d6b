/-
The written form of types can be read in one way only. A name ends at its colon and a label at its quote, and
what follows a type within another one never begins with the bar between variants; so a type can be told from
the text that follows it. Main statement: types with one written form are one type.
-/
import StructuralTyping.Proofs.Ty.Normal
import StructuralTyping.Ty.Kind
import StructuralTyping.Ty.Printer

namespace StructuralTyping

/-- Whether a character may stand in a name: letters, digits, underscores and dollars. Beyond ASCII all
characters count as letters. -/
def Text.isWordChar (c : Char) : Bool := c.isAlphanum || c == '_' || c == '$' || 0x80 ≤ c.toNat

/-- A name that is a word. -/
def IsWord (name : String) : Prop := name ≠ "" ∧ ∀ c ∈ name.toList, Text.isWordChar c = true

instance : DecidablePred IsWord := fun name =>
  inferInstanceAs (Decidable (name ≠ "" ∧ ∀ c ∈ name.toList, Text.isWordChar c = true))

theorem IsWord.notMem {name : String} (h : IsWord name) {c : Char} (hc : Text.isWordChar c = false) :
    c ∉ name.toList := by
  intro hm
  rw [h.2 c hm] at hc
  cases hc

theorem IsWord.toList_eq_cons {name : String} (h : IsWord name) :
    ∃ c rest, name.toList = c :: rest ∧ Text.isWordChar c = true := by
  cases hl : name.toList with
  | nil => exact absurd (String.toList_eq_nil_iff.1 hl) h.1
  | cons c rest => exact ⟨c, rest, rfl, h.2 c (hl ▸ List.mem_cons_self)⟩

/-- Where a stop does not stand before it, the first one divides a text in one way. -/
theorem append_stop_inj {stop : Char} {xs ys r s : List Char} (hx : stop ∉ xs) (hy : stop ∉ ys)
    (h : xs ++ stop :: r = ys ++ stop :: s) : xs = ys ∧ r = s := by
  induction xs generalizing ys with
  | nil =>
    cases ys with
    | nil => exact ⟨rfl, (List.cons.inj h).2⟩
    | cons y ys => exact absurd (List.cons.inj h).1 (List.ne_of_not_mem_cons hy)
  | cons x xs ih =>
    cases ys with
    | nil => exact absurd (List.cons.inj h).1.symm (List.ne_of_not_mem_cons hx)
    | cons y ys =>
      obtain ⟨rfl, hrest⟩ := List.cons.inj h
      obtain ⟨rfl, hrs⟩ := ih (List.not_mem_of_not_mem_cons hx) (List.not_mem_of_not_mem_cons hy) hrest
      exact ⟨rfl, hrs⟩

theorem intercalate_cons {α : Type} (sep item : List α) (items : List (List α)) :
    sep.intercalate (item :: items) = item ++ items.flatMap (sep ++ ·) := by
  induction items generalizing item with
  | nil => simp
  | cons next rest ih => rw [List.intercalate_cons_cons, ih]; simp

namespace Ty

/-- The names of a type, as far as they are its own, are words and its labels hold no double quote. It is no
recorded failure. -/
def LegibleNames : Ty → Prop
  | .boolean | .number => True
  | .func params _ => ∀ p ∈ params, IsWord p.1
  | .object props => ∀ p ∈ props, IsWord p.1
  | .union variants => ∀ v ∈ variants, '"' ∉ v.1.toList ∧ ∀ p ∈ v.2, IsWord p.1
  | .error _ => False

instance : DecidablePred LegibleNames
  | .boolean | .number => inferInstanceAs (Decidable True)
  | .func params _ => inferInstanceAs (Decidable (∀ p ∈ params, IsWord p.1))
  | .object props => inferInstanceAs (Decidable (∀ p ∈ props, IsWord p.1))
  | .union variants =>
    inferInstanceAs (Decidable (∀ v ∈ variants, '"' ∉ v.1.toList ∧ ∀ p ∈ v.2, IsWord p.1))
  | .error _ => inferInstanceAs (Decidable False)

/-- Without recorded failures, and with words for names and no double quotes in labels, at every depth. -/
def Legible (type : Ty) : Prop := type.Everywhere LegibleNames

instance : DecidablePred Legible := fun type => inferInstanceAs (Decidable (type.Everywhere LegibleNames))

/-- The name is a word and the type is legible. -/
def LegibleProp (p : String × Ty) : Prop := IsWord p.1 ∧ p.2.Legible

theorem legible_number : number.Legible := List.forall_mem_singleton.2 trivial

theorem legible_func {params : List (String × Ty)} {ret : Ty} :
    (func params ret).Legible ↔ (∀ p ∈ params, LegibleProp p) ∧ ret.Legible := by
  rw [Legible, everywhere_func, ← and_assoc]
  exact and_congr_left fun _ => forall₂_and.symm

theorem legible_object {props : List (String × Ty)} : (object props).Legible ↔ ∀ p ∈ props, LegibleProp p := by
  rw [Legible, everywhere_object]
  exact forall₂_and.symm

theorem legible_union {variants : List (String × List (String × Ty))} :
    (union variants).Legible ↔ ∀ v ∈ variants, '"' ∉ v.1.toList ∧ ∀ p ∈ v.2, LegibleProp p := by
  rw [Legible, everywhere_union]
  constructor
  · rintro ⟨hown, h⟩ v hv
    exact ⟨(hown v hv).1, fun p hp => ⟨(hown v hv).2 p hp, h v hv p hp⟩⟩
  · intro h
    exact ⟨fun v hv => ⟨(h v hv).1, fun p hp => ((h v hv).2 p hp).1⟩, fun v hv p hp => ((h v hv).2 p hp).2⟩

theorem not_legible_error (nature : String) : ¬ (error nature).Legible := fun h => h _ List.mem_cons_self

theorem Legible.errorFree {type : Ty} (h : type.Legible) : type.ErrorFree := by
  intro node hm
  cases node with
  | error nature => exact absurd (h _ hm) id
  | _ => rfl

/-! ## The characters of the written form -/

/-- A name, a colon and a type. -/
def propChars (p : String × Ty) : List Char := p.1.toList ++ ':' :: ' ' :: p.2.render.toList

/-- Each property after a mark and a blank. -/
def tailChars (mark : Char) (props : List (String × Ty)) : List Char :=
  props.flatMap fun p => mark :: ' ' :: propChars p

/-- Parameters with commas between them. -/
def paramChars : List (String × Ty) → List Char
  | [] => []
  | p :: rest => propChars p ++ tailChars ',' rest

/-- A label with its properties, in braces. -/
def variantChars (v : String × List (String × Ty)) : List Char :=
  '\x7b' :: ' ' :: 't' :: 'a' :: 'g' :: ':' :: ' ' :: '"' :: (v.1.toList ++ '"' :: (tailChars ';' v.2 ++ [' ', '\x7d']))

/-- Each variant after a bar. -/
def barredChars (variants : List (String × List (String × Ty))) : List Char :=
  variants.flatMap fun v => ' ' :: '|' :: ' ' :: variantChars v

theorem toList_renderProps (props : List (String × Ty)) :
    (renderProps props).map String.toList = props.map propChars := by
  induction props with
  | nil => rfl
  | cons p rest ih => simp [renderProps, propChars, ih]

theorem toList_renderVariants (variants : List (String × List (String × Ty))) :
    (renderVariants variants).map String.toList = variants.map variantChars := by
  induction variants with
  | nil => rfl
  | cons v rest ih =>
    simp [renderVariants, variantChars, ih, String.toList_intercalate, toList_renderProps, intercalate_cons, tailChars,
      List.flatMap_map]

variable {p : String × Ty} {v : String × List (String × Ty)} {props : List (String × Ty)}
  {variants : List (String × List (String × Ty))} {ret : Ty}

theorem toList_render_func : (func props ret).render.toList =
    '(' :: (paramChars props ++ ')' :: (" => ".toList ++ ret.render.toList)) := by
  cases props with
  | nil => simp [render, renderProps, paramChars]
  | cons p rest =>
    simp [render, String.toList_intercalate, toList_renderProps, intercalate_cons, paramChars, tailChars,
      List.flatMap_map]

theorem render_object_nil : (object []).render = "\x7b\x7d" := by
  simp [render]

theorem toList_render_object_cons : (object (p :: props)).render.toList =
    '\x7b' :: ' ' :: (propChars p ++ (tailChars ';' props ++ [' ', '\x7d'])) := by
  simp [render, String.toList_intercalate, toList_renderProps, intercalate_cons, tailChars, List.flatMap_map]

theorem render_union_nil : (union []).render = "never" := by
  simp [render]

theorem toList_render_union_cons : (union (v :: variants)).render.toList = variantChars v ++ barredChars variants := by
  simp [render, String.toList_intercalate, toList_renderVariants, intercalate_cons, barredChars, List.flatMap_map]

/-! ## Reading in one way -/

/-- A text that does not begin with the bar between variants. -/
def NoBar (text : List Char) : Prop := ∀ rest, text ≠ ' ' :: '|' :: rest

theorem noBar_cons {c : Char} (h : c ≠ ' ') (text : List Char) : NoBar (c :: text) :=
  fun _ hc => h (List.cons.inj hc).1

theorem noBar_brace (text : List Char) : NoBar (' ' :: '\x7d' :: text) := by
  rintro rest ⟨⟩

/-- The type and what follows it can be told from a text that begins with its written form. -/
def ReadOneWay (type : Ty) : Prop :=
  ∀ other : Ty, other.Legible → ∀ r s, NoBar r → NoBar s →
    type.render.toList ++ r = other.render.toList ++ s → type = other ∧ r = s

section

variable {q : String × Ty} {w : String × List (String × Ty)} {others : List (String × Ty)} {r s : List Char}

theorem prop_inj (hp : IsWord p.1) (hread : p.2.ReadOneWay) (hq : LegibleProp q) (hr : NoBar r) (hs : NoBar s)
    (h : propChars p ++ r = propChars q ++ s) : p = q ∧ r = s := by
  simp only [propChars, List.append_assoc, List.cons_append] at h
  obtain ⟨hname, hrest⟩ := append_stop_inj (hp.notMem rfl) (hq.1.notMem rfl) h
  obtain ⟨htype, hrs⟩ := hread q.2 hq.2 r s hr hs (List.cons.inj hrest).2
  exact ⟨Prod.ext (String.toList_injective hname) htype, hrs⟩

theorem noBar_tail {mark stop : Char} (hb : mark ≠ ' ') (hr : NoBar (stop :: r)) (props : List (String × Ty)) :
    NoBar (tailChars mark props ++ stop :: r) := by
  cases props with
  | nil => exact hr
  | cons => exact noBar_cons hb _

/-- Of the properties after the first one, each begins with their mark, and what follows them does not. -/
theorem tail_inj {mark stop : Char} (hm : mark ≠ stop) (hb : mark ≠ ' ') (hr : NoBar (stop :: r))
    (hs : NoBar (stop :: s)) (hp : ∀ p ∈ props, IsWord p.1 ∧ p.2.ReadOneWay) (hq : ∀ q ∈ others, LegibleProp q)
    (h : tailChars mark props ++ stop :: r = tailChars mark others ++ stop :: s) : props = others ∧ r = s := by
  induction props generalizing others with
  | nil =>
    cases others with
    | nil => exact ⟨rfl, (List.cons.inj h).2⟩
    | cons => exact absurd (List.cons.inj h).1.symm hm
  | cons p rest ih =>
    cases others with
    | nil => exact absurd (List.cons.inj h).1 hm
    | cons q others =>
      rw [List.forall_mem_cons] at hp hq
      simp only [tailChars, List.flatMap_cons, List.cons_append, List.append_assoc, List.cons.injEq, true_and] at h
      obtain ⟨rfl, hrest⟩ := prop_inj hp.1.1 hp.1.2 hq.1 (noBar_tail hb hr rest) (noBar_tail hb hs others) h
      obtain ⟨rfl, hrs⟩ := ih hp.2 hq.2 hrest
      exact ⟨rfl, hrs⟩

theorem listed_inj {mark stop : Char} (hm : mark ≠ stop) (hb : mark ≠ ' ') (hr : NoBar (stop :: r))
    (hs : NoBar (stop :: s)) (hp : ∀ own ∈ p :: props, IsWord own.1 ∧ own.2.ReadOneWay)
    (hq : ∀ own ∈ q :: others, LegibleProp own)
    (h : propChars p ++ (tailChars mark props ++ stop :: r) = propChars q ++ (tailChars mark others ++ stop :: s)) :
    p :: props = q :: others ∧ r = s := by
  rw [List.forall_mem_cons] at hp hq
  obtain ⟨rfl, hrest⟩ := prop_inj hp.1.1 hp.1.2 hq.1 (noBar_tail hb hr props) (noBar_tail hb hs others) h
  obtain ⟨rfl, hrs⟩ := tail_inj hm hb hr hs hp.2 hq.2 hrest
  exact ⟨rfl, hrs⟩

theorem variant_inj (hlabel : '"' ∉ v.1.toList) (hp : ∀ p ∈ v.2, IsWord p.1 ∧ p.2.ReadOneWay)
    (hw : '"' ∉ w.1.toList ∧ ∀ q ∈ w.2, LegibleProp q) (h : variantChars v ++ r = variantChars w ++ s) :
    v = w ∧ r = s := by
  simp only [variantChars, List.cons_append, List.append_assoc, List.cons.injEq, true_and, List.nil_append] at h
  obtain ⟨hname, hrest⟩ := append_stop_inj hlabel hw.1 h
  obtain ⟨hprops, hrs⟩ := tail_inj (by decide) (by decide) (noBar_brace r) (noBar_brace s) hp hw.2 hrest
  exact ⟨Prod.ext (String.toList_injective hname) hprops, (List.cons.inj hrs).2⟩

theorem barred_inj {more : List (String × List (String × Ty))} (hr : NoBar r) (hs : NoBar s)
    (hv : ∀ v ∈ variants, '"' ∉ v.1.toList ∧ ∀ p ∈ v.2, IsWord p.1 ∧ p.2.ReadOneWay)
    (hw : ∀ w ∈ more, '"' ∉ w.1.toList ∧ ∀ q ∈ w.2, LegibleProp q)
    (h : barredChars variants ++ r = barredChars more ++ s) : variants = more ∧ r = s := by
  induction variants generalizing more with
  | nil =>
    cases more with
    | nil => exact ⟨rfl, h⟩
    | cons => exact absurd h (hr _)
  | cons v rest ih =>
    cases more with
    | nil => exact absurd h.symm (hs _)
    | cons w more =>
      rw [List.forall_mem_cons] at hv hw
      simp only [barredChars, List.flatMap_cons, List.cons_append, List.append_assoc, List.cons.injEq, true_and] at h
      obtain ⟨rfl, hrest⟩ := variant_inj hv.1.1 hv.1.2 hw.1 h
      obtain ⟨rfl, hrs⟩ := ih hv.2 hw.2 hrest
      exact ⟨rfl, hrs⟩

theorem params_inj (hp : ∀ p ∈ props, IsWord p.1 ∧ p.2.ReadOneWay) (hq : ∀ q ∈ others, LegibleProp q)
    (h : paramChars props ++ ')' :: r = paramChars others ++ ')' :: s) : props = others ∧ r = s := by
  -- a name is not empty and does not begin with a bracket
  have hname : ∀ {p : String × Ty} {list text rest}, IsWord p.1 → paramChars (p :: list) ++ text ≠ ')' :: rest := by
    intro p list text rest hw heq
    obtain ⟨c, cs, hc, hword⟩ := hw.toList_eq_cons
    simp only [paramChars, propChars, hc, List.cons_append, List.cons.injEq] at heq
    rw [heq.1] at hword
    cases hword
  cases props with
  | nil =>
    cases others with
    | nil => exact ⟨rfl, (List.cons.inj h).2⟩
    | cons q others => exact absurd h.symm (hname (hq q List.mem_cons_self).1)
  | cons p rest =>
    cases others with
    | nil => exact absurd h (hname (hp p List.mem_cons_self).1)
    | cons q others =>
      rw [paramChars, paramChars, List.append_assoc, List.append_assoc] at h
      exact listed_inj (by decide) (by decide) (noBar_cons (by decide) r) (noBar_cons (by decide) s) hp hq h

end

/-! ## Kinds -/

/-- The kind of a type. -/
def kind? : Ty → Option Kind
  | .boolean => some .boolean
  | .number => some .number
  | .func .. => some .func
  | .object _ => some .object
  | .union _ => some .union
  | .error _ => none

/-- The kind of type that a text begins with. -/
def kindAt : List Char → Kind
  | 'b' :: _ => .boolean
  | 'n' :: 'u' :: _ => .number
  | '(' :: _ => .func
  | '\x7b' :: ' ' :: 't' :: 'a' :: 'g' :: ':' :: ' ' :: '"' :: _ => .union
  | '\x7b' :: _ => .object
  | _ => .union

/-- No type begins with a quote, so no property is the tag of a variant. -/
theorem render_ne_quote {type : Ty} (h : type.Legible) (text rest : List Char) :
    type.render.toList ++ text ≠ '"' :: rest := by
  cases type with
  | error nature => exact absurd h (not_legible_error nature)
  | boolean | number => simp [render]
  | func => simp [toList_render_func]
  | object props =>
    cases props with
    | nil => simp [render]
    | cons => simp [toList_render_object_cons]
  | union variants =>
    cases variants with
    | nil => simp [render]
    | cons => simp [toList_render_union_cons, variantChars]

theorem prop_ne_tag (hp : LegibleProp p) (text rest : List Char) :
    propChars p ++ text ≠ 't' :: 'a' :: 'g' :: ':' :: ' ' :: '"' :: rest := by
  intro h
  have hsplit : p.1.toList ++ ':' :: ' ' :: (p.2.render.toList ++ text) =
      "tag".toList ++ ':' :: ' ' :: '"' :: rest := by
    simpa [propChars] using h
  obtain ⟨-, hrest⟩ := append_stop_inj (hp.1.notMem rfl) (by simp) hsplit
  exact render_ne_quote hp.2 text rest (List.cons.inj hrest).2

/-- The first characters of the written form tell the kind of a type. -/
theorem kindAt_render {type : Ty} (h : type.Legible) (text : List Char) :
    some (kindAt (type.render.toList ++ text)) = type.kind? := by
  cases type with
  | error nature => exact absurd h (not_legible_error nature)
  | boolean | number => simp [render, kindAt, kind?]
  | func => simp [toList_render_func, kindAt, kind?]
  | object props =>
    cases props with
    | nil => simp [render, kindAt, kind?]
    | cons p rest =>
      rw [toList_render_object_cons, List.cons_append, List.cons_append, List.append_assoc, kindAt, kind?]
      rintro tail heq
      exact prop_ne_tag ((legible_object.1 h) p List.mem_cons_self) _ tail (List.cons.inj heq).2
  | union variants =>
    cases variants with
    | nil => simp [render, kindAt, kind?]
    | cons => simp [toList_render_union_cons, variantChars, kindAt, kind?]

theorem kind_eq {type other : Ty} (htype : type.Legible) (hother : other.Legible) {r s : List Char}
    (h : type.render.toList ++ r = other.render.toList ++ s) : other.kind? = type.kind? := by
  rw [← kindAt_render htype r, h, kindAt_render hother]

/-! ## Types -/

/-- A legible type can be told from what follows it. -/
theorem readOneWay {type : Ty} (htype : type.Legible) : type.ReadOneWay := by
  induction type with
  | boolean =>
    intro other hother r s _ _ h
    have hkind : other.kind? = some .boolean := kind_eq htype hother h
    cases other with
    | boolean => exact ⟨rfl, List.append_cancel_left h⟩
    | _ => cases hkind
  | number =>
    intro other hother r s _ _ h
    have hkind : other.kind? = some .number := kind_eq htype hother h
    cases other with
    | number => exact ⟨rfl, List.append_cancel_left h⟩
    | _ => cases hkind
  | func params ret ihp ihr =>
    intro other hother r s hr hs h
    have hkind : other.kind? = some .func := kind_eq htype hother h
    cases other with
    | func others result =>
      rw [legible_func] at htype hother
      have hp : ∀ p ∈ params, IsWord p.1 ∧ p.2.ReadOneWay := fun p hm =>
        ⟨(htype.1 p hm).1, ihp p hm (htype.1 p hm).2⟩
      simp only [toList_render_func, List.cons_append, List.append_assoc, List.cons.injEq, true_and] at h
      obtain ⟨rfl, hrest⟩ := params_inj hp hother.1 h
      obtain ⟨rfl, hrs⟩ := ihr htype.2 result hother.2 r s hr hs (List.append_cancel_left hrest)
      exact ⟨rfl, hrs⟩
    | _ => cases hkind
  | object props ih =>
    intro other hother r s _ _ h
    have hkind : other.kind? = some .object := kind_eq htype hother h
    cases other with
    | object others =>
      rw [legible_object] at htype hother
      have hp : ∀ p ∈ props, IsWord p.1 ∧ p.2.ReadOneWay := fun p hm => ⟨(htype p hm).1, ih p hm (htype p hm).2⟩
      cases props with
      | nil =>
        cases others with
        | nil => exact ⟨rfl, List.append_cancel_left h⟩
        | cons => simp [render_object_nil, toList_render_object_cons] at h
      | cons p rest =>
        cases others with
        | nil => simp [render_object_nil, toList_render_object_cons] at h
        | cons q others =>
          simp only [toList_render_object_cons, List.cons_append, List.append_assoc, List.cons.injEq, true_and,
            List.nil_append] at h
          obtain ⟨hprops, hrs⟩ := listed_inj (by decide) (by decide) (noBar_brace r) (noBar_brace s) hp hother h
          exact ⟨congrArg object hprops, (List.cons.inj hrs).2⟩
    | _ => cases hkind
  | union variants ih =>
    intro other hother r s hr hs h
    have hkind : other.kind? = some .union := kind_eq htype hother h
    cases other with
    | union others =>
      rw [legible_union] at htype hother
      have hv : ∀ v ∈ variants, '"' ∉ v.1.toList ∧ ∀ p ∈ v.2, IsWord p.1 ∧ p.2.ReadOneWay := fun v hm =>
        ⟨(htype v hm).1, fun p hp => ⟨((htype v hm).2 p hp).1, ih v hm p hp ((htype v hm).2 p hp).2⟩⟩
      cases variants with
      | nil =>
        cases others with
        | nil => exact ⟨rfl, List.append_cancel_left h⟩
        | cons => simp [render_union_nil, toList_render_union_cons, variantChars] at h
      | cons v rest =>
        cases others with
        | nil => simp [render_union_nil, toList_render_union_cons, variantChars] at h
        | cons w others =>
          rw [List.forall_mem_cons] at hv hother
          rw [toList_render_union_cons, toList_render_union_cons, List.append_assoc, List.append_assoc] at h
          obtain ⟨rfl, hrest⟩ := variant_inj hv.1.1 hv.1.2 hother.1 h
          obtain ⟨rfl, hrs⟩ := barred_inj hr hs hv.2 hother.2 hrest
          exact ⟨rfl, hrs⟩
    | _ => cases hkind
  | error nature => exact absurd htype (not_legible_error nature)

/-- Types without recorded failures that are written in the same way are the same, with the same names in the
same order at every depth, as long as names are words and labels hold no double quote. So they are equal. -/
theorem eq_of_render_eq {a b : Ty} (ha : a.Legible) (hb : b.Legible) (h : a.render = b.render) :
    a = b ∧ (a.WellFormed → a.equal b = true) := by
  have hnil : NoBar [] := nofun
  obtain ⟨rfl, -⟩ := readOneWay ha b hb [] [] hnil hnil (by rw [h])
  exact ⟨rfl, fun hwf => Clean.same_refl ⟨hwf, ha.errorFree⟩⟩

/-- A function to a union. One label holds a bar, and a property has the name of the tag. -/
theorem eq_of_render_eq_barred :
    (func [("x", .number)] (.union [("A | B", [("tag", .union [])]), ("C", [])])).Legible ∧
    (func [("x", .number)] (.union [("A | B", [("tag", .union [])]), ("C", [])])).equal
      (func [("x", .number)] (.union [("A | B", [("tag", .union [])]), ("C", [])])) = true := by
  have hlegible : (func [("x", .number)] (.union [("A | B", [("tag", .union [])]), ("C", [])])).Legible := by
    simp [legible_func, legible_union, legible_number, LegibleProp, IsWord, Text.isWordChar]
  exact ⟨hlegible, (eq_of_render_eq hlegible hlegible rfl).2 (by decide)⟩

end Ty

end StructuralTyping
