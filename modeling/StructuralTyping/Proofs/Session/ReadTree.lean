/-
Reading a tree under a report. Either there is a term and the report is as before, or the report has one more
issue and reading is given up: so it is for all trees but those in which the reader comes to a named part that
is no object. There it ends with a mishap that the report does not know of.
-/
import StructuralTyping.Proofs.Tree.Refusing
import StructuralTyping.Session.Basic

namespace StructuralTyping

open StructuralTyping.Tree

namespace Tree

variable {source : Option Path} {tree : Json} {trail : Trail}

/-- The reader stops at an item of a list of named parts, and the item is no object. -/
def StopsAtStray (source : Option Path) (tree : Json) : Prop :=
  let trail := ((Reader.fresh source).term tree).1.trail
  trail.ToNamed ∧ ∃ item, Trail.follow tree trail = some item ∧ ∀ fields, item ≠ .object fields

theorem not_stopsAtStray_of_ok {term : Term (Option Span)} (h : readTerm source [] tree = .ok term) :
    ¬ StopsAtStray source tree := by
  rintro ⟨⟨owner, key, index, -, ht⟩, -⟩
  simp [Reader.term, Reader.fresh, Reader.after, h] at ht

theorem stopsAtStray_iff_of_error {cause : Cause} (h : readTerm source [] tree = .error ⟨trail, cause⟩) :
    StopsAtStray source tree ↔
      trail.ToNamed ∧ ∃ item, Trail.follow tree trail = some item ∧ ∀ fields, item ≠ .object fields := by
  simp only [StopsAtStray, Reader.term, Reader.fresh, Reader.after, h]

theorem Stands.follow_of_nil {part : Json} (h : Stands [] tree trail part) : Trail.follow tree trail = some part := by
  obtain ⟨way, rfl, hway⟩ := h
  exact hway

/-- A hint at a named part is given about an object. -/
theorem Fault.object_of_hint {hint : Hint} {part : Json} (h : Fault source [] tree ⟨trail, .hint hint⟩)
    (ht : trail.ToNamed) (hpart : Trail.follow tree trail = some part) : ∃ fields, part = .object fields := by
  have hobj : ∀ {node key value}, Stands [] tree trail node → node.field? key = some value →
      ∃ fields, part = .object fields := by
    intro node key value hs hf
    obtain rfl := Option.some.inj (hs.follow_of_nil.symm.trans hpart)
    exact Json.eq_object_of_field? hf
  cases h with
  | noTag _ hp => exact absurd ht hp.not_toNamed
  | missingField hs => exact ⟨_, Option.some.inj (hpart.symm.trans hs.follow_of_nil)⟩
  | unknownTypeTag hs hf | unknownTermTag hs hf | notList hs hf | notName hs hf | notNumber hs hf
  | malformedLocation hs hf => exact hobj hs hf
  | repeatedName _ hs _ hf | repeatedVariant _ hs _ hf => exact hobj hs hf

/-- A function with a first parameter whose name cannot be read. -/
theorem readTerm_first_param {node item : Json} {rest : List Json} {loc : Option Span} {refusal : Refusal}
    (ht : node.field? "tag" = some (.text "func")) (hl : Located source node loc)
    (hp : node.field? "params" = some (.array (item :: rest)))
    (hn : name (trail ++ [.item "params" 0]) item "name" = .error refusal) :
    readTerm source trail node = .error refusal := by
  have hlist : list trail node "params" = .ok ⟨item :: rest, sizeOf_items_lt hp⟩ := by
    rw [← bind_pure (list trail node "params"), list_bind_eq_ok]
    exact ⟨item :: rest, hp, rfl⟩
  rw [readTerm]
  refine bind_error_of_ok (tagOf_eq_ok.2 ht) ?_
  refine bind_error_of_ok (location_eq_ok.2 hl) ?_
  refine bind_error_of_error ?_
  rw [readParams]
  refine bind_error_of_ok hlist ?_
  dsimp only
  rw [readParamItems]
  exact bind_error_of_error hn

end Tree

namespace Report

variable {report : Report} {source : Option Path} {tree : Json}

theorem hold_of_ne {α : Type} {issue : Issue} {printed : String} {result : Except Mishap α}
    (h : (report.issues.length : Int) + 1 ≠ report.limit) :
    report.hold issue printed result = ⟨report.add issue, printed, result⟩ := by
  have hfull : (report.add issue).isFull = false := by simpa [isFull, add] using h
  simp [hold, hfull]

/-- If the next issue does not fill the report, then a tree is read, and the report stays, or it is refused with
one issue, exactly if the reader does not stop at a named part that is no object. -/
theorem readTree_iff (h : (report.issues.length : Int) + 1 ≠ report.limit) :
    ((∃ term, report.readTree source tree = ⟨report, "", .ok term⟩) ∨
      ∃ place hint, report.readTree source tree =
        ⟨report.add (.malformedTree source place hint), "", .error .gaveUp⟩) ↔ ¬ StopsAtStray source tree := by
  have hfault : FailsWith (Fault source [] tree) (readTerm source [] tree) := readTerm_fault [] tree .start .start
  unfold readTree
  cases hr : readTerm source [] tree with
  | ok term => exact iff_of_true (.inl ⟨term, rfl⟩) (not_stopsAtStray_of_ok hr)
  | error refusal =>
    obtain ⟨trail, cause⟩ := refusal
    replace hfault := hfault _ hr
    rw [stopsAtStray_iff_of_error hr]
    cases cause with
    | hint hint =>
      refine iff_of_true (.inr ⟨trail.text, hint.message, hold_of_ne h⟩) ?_
      rintro ⟨ht, item, hitem, hnot⟩
      obtain ⟨fields, rfl⟩ := hfault.object_of_hint ht hitem
      exact hnot fields rfl
    | stray stray =>
      refine iff_of_false (by simp [takeReading]) (not_not_intro ?_)
      cases hfault with
      | stray hs ht hnot => exact ⟨ht, _, hs.follow_of_nil, hnot⟩

/-- A parameter without a name is an issue. -/
theorem readTree_iff_unnamed :
    ∃ place hint, (fresh 3 false).readTree none (.object [("tag", .text "func"), ("params", .array [.object []])]) =
      ⟨(fresh 3 false).add (.malformedTree none place hint), "", .error .gaveUp⟩ := by
  have hr : readTerm none [] (.object [("tag", .text "func"), ("params", .array [.object []])]) =
      .error ⟨[.item "params" 0], .hint (.missingField .null "name")⟩ :=
    readTerm_first_param rfl (.absent rfl) rfl rfl
  have hnot : ¬ StopsAtStray none (.object [("tag", .text "func"), ("params", .array [.object []])]) := by
    rw [stopsAtStray_iff_of_error hr]
    rintro ⟨-, item, hitem, hnot⟩
    cases hitem
    exact hnot [] rfl
  have hroom : ((fresh 3 false).issues.length : Int) + 1 ≠ (fresh 3 false).limit := by decide
  rcases (readTree_iff hroom).2 hnot with ⟨term, h⟩ | h
  · simp [readTree, hr, takeReading, hold_of_ne hroom] at h
  · exact h

/-- Null in place of a parameter: nothing is read, and the report knows of no issue. -/
theorem readTree_null_param :
    ¬ ((∃ term, (fresh 3 false).readTree none (.object [("tag", .text "func"), ("params", .array [.null]),
        ("body", .object [("tag", .text "true")])]) = ⟨fresh 3 false, "", .ok term⟩) ∨
      ∃ place hint, (fresh 3 false).readTree none (.object [("tag", .text "func"), ("params", .array [.null]),
        ("body", .object [("tag", .text "true")])]) =
          ⟨(fresh 3 false).add (.malformedTree none place hint), "", .error .gaveUp⟩) := by
  have hr : readTerm none [] (.object [("tag", .text "func"), ("params", .array [.null]),
      ("body", .object [("tag", .text "true")])]) = .error ⟨[.item "params" 0], .stray .plain⟩ :=
    readTerm_first_param rfl (.absent rfl) rfl rfl
  simp [readTree, hr, takeReading]

end Report

end StructuralTyping
