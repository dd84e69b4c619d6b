/-
Reading a tree for another source. The file that spans lie in is written into every span, and that is all it
is used for. Main statement: for another source the same term is read, with its spans in that source, or
reading stops at the same place for the same cause.
-/
import StructuralTyping.Proofs.Except
import StructuralTyping.Proofs.Term.Relocation
import StructuralTyping.Tree.TermReader

namespace StructuralTyping

/-- The span in a file. -/
def Span.within (source : Option Path) (span : Span) : Span := { span with path := source }

/-- The term with all its spans in a file. -/
abbrev Term.within (source : Option Path) : Term (Option Span) → Term (Option Span) :=
  Term.mapLoc (Option.map (Span.within source))

namespace Tree

variable {source other : Option Path}

theorem spanRead_within (source other : Option Path) (tag : Json) :
    Alike (fun loc loc' => loc' = loc.map (Span.within other)) (Span.read source tag) (Span.read other tag) := by
  unfold Span.read
  split
  · exact .ok rfl
  · cases tag with
    | object fields =>
      refine .bind_same fun value => .bind_same fun start => ?_
      cases (Json.object fields).field? "end" with
      | none => exact .ok rfl
      | some last => exact .bind_same fun stop => .ok rfl
    | _ => exact .error

theorem location_within (trail : Trail) (node : Json) :
    Alike (fun loc loc' => loc' = loc.map (Span.within other)) (location source trail node)
      (location other trail node) := by
  have h := spanRead_within source other ((node.field? "loc").getD .null)
  unfold location
  dsimp only
  generalize Span.read source _ = own at h
  generalize Span.read other _ = found at h
  cases h with
  | ok hl => exact .ok hl
  | error => exact .error

mutual

/-- A tree is read for another source. -/
theorem readTerm_within (trail : Trail) (node : Json) :
    Alike (fun term term' => term' = term.within other) (readTerm source trail node) (readTerm other trail node) := by
  have hpart : ∀ key, Alike (fun term term' => term' = term.within other) (readPart source trail node key)
      (readPart other trail node key) := fun key => readPart_within trail node key
  have hnamed : ∀ key nameKey (items : { items : List Json // sizeOf items < sizeOf node }),
      Alike (fun props props' => props' = Dict.mapValues (Term.within other) props)
        (readNamed source trail key nameKey [] items.1) (readNamed other trail key nameKey [] items.1) :=
    fun key nameKey items =>
      have := items.2
      readNamed_within trail key nameKey [] items.1
  rw [readTerm, readTerm]
  refine .bind_same fun tag => ?_
  cases Term.Kind.ofTag? tag with
  | none => exact .error
  | some kind =>
    refine (location_within trail node).bind fun loc _ hl => ?_
    subst hl
    cases kind with
    | litTrue | litFalse => exact .ok rfl
    | number => exact .bind_same fun value => .ok rfl
    | ite =>
      refine (hpart "cond").bind fun cond _ hcond => ?_
      refine (hpart "thn").bind fun thn _ hthn => ?_
      refine (hpart "els").bind fun els _ hels => ?_
      rw [hcond, hthn, hels]
      exact .ok rfl
    | add =>
      refine (hpart "left").bind fun left _ hleft => ?_
      refine (hpart "right").bind fun right _ hright => ?_
      rw [hleft, hright]
      exact .ok rfl
    | var => exact .bind_same fun name => .ok rfl
    | func =>
      refine .bind_same fun params => ?_
      refine (hpart "body").bind fun body _ hbody => ?_
      rw [hbody]
      exact .ok rfl
    | call =>
      refine (hpart "func").bind fun callee _ hcallee => ?_
      refine .bind_same fun items => ?_
      have := items.2
      refine (readArgs_within trail [] items.1).bind fun args _ hargs => ?_
      rw [hcallee, hargs, ← Term.mapLocArgs_eq]
      exact .ok rfl
    | seq =>
      refine (hpart "body").bind fun body _ hbody => ?_
      refine (hpart "rest").bind fun rest _ hrest => ?_
      rw [hbody, hrest]
      exact .ok rfl
    | const =>
      refine .bind_same fun name => ?_
      refine (hpart "init").bind fun init _ hinit => ?_
      refine (hpart "rest").bind fun rest _ hrest => ?_
      rw [hinit, hrest]
      exact .ok rfl
    | recFunc =>
      refine .bind_same fun name => .bind_same fun params => .bind_same fun part => .bind_same fun ret => ?_
      refine (hpart "body").bind fun body _ hbody => ?_
      refine (hpart "rest").bind fun rest _ hrest => ?_
      rw [hbody, hrest]
      exact .ok rfl
    | objectNew =>
      refine .bind_same fun items => ?_
      refine (hnamed "props" "name" items).bind fun props _ hprops => ?_
      rw [hprops, ← Term.mapLocProps_eq]
      exact .ok rfl
    | objectGet =>
      refine (hpart "obj").bind fun object _ hobject => ?_
      rw [hobject]
      exact .bind_same fun name => .ok rfl
    | unionNew =>
      refine .bind_same fun label => .bind_same fun items => ?_
      refine (hnamed "props" "name" items).bind fun props _ hprops => ?_
      rw [hprops, ← Term.mapLocProps_eq]
      exact .bind_same fun part => .bind_same fun type => .ok rfl
    | unionGet =>
      refine .bind_same fun items => ?_
      refine (hnamed "clauses" "tagLabel" items).bind fun clauses _ hclauses => ?_
      rw [hclauses, ← Term.mapLocProps_eq]
      exact .bind_same fun subject => .ok rfl
termination_by (sizeOf node, 1)

theorem readPart_within (trail : Trail) (node : Json) (key : String) :
    Alike (fun term term' => term' = term.within other) (readPart source trail node key)
      (readPart other trail node key) := by
  rw [readPart, readPart]
  refine .bind_same fun part => ?_
  have := part.2
  exact readTerm_within _ part.1
termination_by (sizeOf node, 0)

theorem readArgs_within (trail : Trail) (done : List (Term (Option Span))) (items : List Json) :
    Alike (fun args args' => args' = args.map (Term.within other)) (readArgs source trail done items)
      (readArgs other trail (done.map (Term.within other)) items) := by
  cases items with
  | nil =>
    rw [readArgs, readArgs]
    exact .ok rfl
  | cons item rest =>
    rw [readArgs, readArgs, List.length_map]
    refine (readTerm_within _ item).bind fun arg _ harg => ?_
    have hrest := readArgs_within trail (done ++ [arg]) rest
    rw [List.map_append] at hrest
    rw [harg]
    exact hrest
termination_by (sizeOf items, 0)

theorem readNamed_within (trail : Trail) (key nameKey : String) (done : List (String × Term (Option Span)))
    (items : List Json) :
    Alike (fun props props' => props' = Dict.mapValues (Term.within other) props)
      (readNamed source trail key nameKey done items)
      (readNamed other trail key nameKey (Dict.mapValues (Term.within other) done) items) := by
  cases items with
  | nil =>
    rw [readNamed, readNamed]
    exact .ok rfl
  | cons item rest =>
    rw [readNamed, readNamed]
    have hlen : (Dict.mapValues (Term.within other) done).length = done.length := List.length_map ..
    rw [hlen]
    refine .bind_same fun name => ?_
    refine (readPart_within _ item "term").bind fun term _ hterm => ?_
    have hrest := readNamed_within trail key nameKey (done ++ [(name, term)]) rest
    rw [Dict.mapValues, List.map_append] at hrest
    rw [hterm]
    exact hrest
termination_by (sizeOf items, 0)

end

variable {trail : Trail} {node : Json}

theorem readTerm_ok_within {term : Term (Option Span)} (h : readTerm source trail node = .ok term) :
    readTerm other trail node = .ok (term.within other) := by
  have hread := @readTerm_within source other trail node
  rw [h] at hread
  generalize readTerm other trail node = result at hread
  cases hread with
  | ok ht => rw [ht]

theorem readTerm_error_within {refusal : Refusal} (h : readTerm source trail node = .error refusal) :
    readTerm other trail node = .error refusal := by
  have hread := @readTerm_within source other trail node
  rw [h] at hread
  generalize readTerm other trail node = result at hread
  cases hread
  rfl

/-- What is read for a source has its spans in that source. -/
theorem within_of_read {term : Term (Option Span)} (h : readTerm source trail node = .ok term) :
    term.within source = term :=
  Except.ok.inj ((readTerm_ok_within h).symm.trans h)

end Tree

end StructuralTyping
