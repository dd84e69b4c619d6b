/-
Issues name the place of the fault. A reader that keeps its place by hand, and is done, stands where it stood;
one that gives up stands where the tree is at fault, and the issue that the report gets says so: from the value
that was to be read, the rest of the trail leads to a part of which the hint is true, and all that had been
read before is well-formed.
-/
import StructuralTyping.Proofs.Tree.Progress
import StructuralTyping.Proofs.Tree.Refusing
import StructuralTyping.Proofs.Tree.Walk
import StructuralTyping.Session.Basic

namespace StructuralTyping

open StructuralTyping.Tree

/-- What there is to know when a reader has read a value in a role and the report has taken what it found. -/
structure PlacesFault {α : Type} (report : Report) (reader : Reader) (role : Role) (value : Json)
    (outcome : Reader × Reading α) : Prop where
  /-- Whoever is done stands where it stood, and the report knows of nothing new. -/
  back : ∀ result, outcome.2 = .ok result → outcome.1.trail = reader.trail ∧
    report.takeReading reader.source outcome.2 = ⟨report, "", .ok result⟩
  /-- Whoever gives up has added one issue, and stands below where it stood: at the fault, with all done before it. -/
  placed : (report.takeReading reader.source outcome.2).result = .error .gaveUp → ∃ way hint,
    outcome.1.trail = reader.trail ++ way ∧
    (report.takeReading reader.source outcome.2).report =
      report.add (.malformedTree reader.source outcome.1.trail.text hint.message) ∧
    Fault reader.source reader.trail value ⟨outcome.1.trail, .hint hint⟩ ∧
    (∃ last part, Leads role value way last part) ∧
    ∀ last part, Finished role value (way ++ [hint.step]) last part → last.WellFormed reader.source part

theorem placesFault_of {α : Type} {report : Report} {reader : Reader} {role : Role} {value : Json} {result : Reading α}
    (hfault : FailsWith (Fault reader.source reader.trail value) result)
    (hhalts : FailsWith (Halts reader.source reader.trail role value) result) :
    PlacesFault report reader role value (reader.after result, result) := by
  constructor
  · rintro found rfl
    exact ⟨rfl, rfl⟩
  · intro hgave
    cases result with
    | ok found => cases hgave
    | error refusal =>
      obtain ⟨trail, cause⟩ := refusal
      cases cause with
      | stray => cases hgave
      | hint hint =>
        obtain ⟨way, ht, hleads, hfinished⟩ := hhalts _ rfl hint rfl
        exact ⟨way, hint, ht, rfl, hfault _ rfl, hleads, hfinished⟩

/-- Whatever a reader reads, as a term or as a type, from wherever it stands: going on and coming back by hand
leaves it where it stands, and its issues name the place of the fault. -/
theorem Reader.places_faults (report : Report) (reader : Reader) (value : Json) :
    (reader.walk (walkTerm reader.source value) = reader.term value ∧
      PlacesFault report reader .term value (reader.term value)) ∧
    (reader.walk (walkType value) = reader.type value ∧
      PlacesFault report reader .type value (reader.type value)) :=
  ⟨⟨reader.walk_term, placesFault_of (readTerm_fault _ value .start .start) (readTerm_halts _ value)⟩,
    ⟨reader.walk_type, placesFault_of (readType_fault _ value .start .start) (readType_halts _ value)⟩⟩

/-- A sequence whose second part cannot be read. -/
theorem readTerm_seq_rest {source : Option Path} {trail : Trail} {node part : Json} {loc : Option Span}
    {body : ReadTerm} {refusal : Refusal} (ht : node.field? "tag" = some (.text "seq")) (hl : Located source node loc)
    (hb : PartTree source node "body" body) (hp : node.field? "rest" = some part)
    (hr : readTerm source (trail ++ [.field "rest"]) part = .error refusal) :
    readTerm source trail node = .error refusal := by
  rw [readTerm]
  refine bind_error_of_ok (tagOf_eq_ok.2 ht) ?_
  refine bind_error_of_ok (location_eq_ok.2 hl) ?_
  refine bind_error_of_ok (hb.read trail) ?_
  refine bind_error_of_error ?_
  rw [readPart]
  exact bind_error_of_ok (a := ⟨part, Json.sizeOf_field? hp⟩) (field_eq_ok.2 hp) hr

/-- A sequence whose second part is no term: the issue names that part, and the first part has been read. -/
theorem Reader.places_faults_in_rest :
    (∃ hint : Hint, ((Report.fresh 3 false).takeReading none (Reader.term ⟨none, [.field "x"]⟩ (.object
      [("tag", .text "seq"), ("body", .object [("tag", .text "true")]), ("rest", .object [])])).2).report =
        (Report.fresh 3 false).add (.malformedTree none "x/rest" hint.message)) ∧
    Role.term.WellFormed none (.object [("tag", .text "true")]) := by
  have hread : readTerm none [.field "x"] (.object [("tag", .text "seq"), ("body", .object [("tag", .text "true")]),
      ("rest", .object [])]) = .error ⟨[.field "x", .field "rest"], .hint (.noTag (.object []))⟩ := by
    refine readTerm_seq_rest rfl (.absent rfl) (.mk rfl (.litTrue rfl (.absent rfl))) rfl ?_
    rw [readTerm]
    rfl
  have hr : Reader.term ⟨none, [.field "x"]⟩ (.object [("tag", .text "seq"), ("body", .object [("tag", .text "true")]),
      ("rest", .object [])]) =
        (⟨none, [.field "x", .field "rest"]⟩, .error ⟨[.field "x", .field "rest"], .hint (.noTag (.object []))⟩) := by
    rw [Reader.term, hread]
    rfl
  have hplaced := (places_faults (Report.fresh 3 false) ⟨none, [.field "x"]⟩ (.object
    [("tag", .text "seq"), ("body", .object [("tag", .text "true")]), ("rest", .object [])])).1.2.placed
  rw [hr] at hplaced ⊢
  obtain ⟨way, hint, ht, hreport, -, -, hfinished⟩ := hplaced rfl
  obtain rfl : [.field "rest"] = way := (List.cons.inj ht).2
  have hbefore : Step.Before (Dict.names (Role.term.fields (.object [("tag", .text "seq"),
      ("body", .object [("tag", .text "true")]), ("rest", .object [])]))) (.field "body") (.field "rest") := by
    rw [Role.fields_term .seq rfl]
    exact .inl (by decide)
  exact ⟨⟨hint, hreport⟩, hfinished _ _ (.earlier hbefore rfl rfl .here)⟩

end StructuralTyping
