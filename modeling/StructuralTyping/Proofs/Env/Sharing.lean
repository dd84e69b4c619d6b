/-
Environments that share their layers. A layer is laid on an environment made before it and is never changed, so
that the layers of a history are a tree: each has one layer below it, and any number of layers lie on it. An
environment is known by the layer on top. Main statement: each environment of a history resolves names as its
finite map does, and at every later moment, whatever has been made from it or beside it, so does whoever walks
down the shared layers.
-/
import StructuralTyping.Proofs.Env.History

namespace StructuralTyping.Env

/-- What an environment is known by: the number of the layer on top, unless it is the empty one. -/
inductive Link where
  | bottom
  | layer (number : Nat)
  deriving DecidableEq, Repr

/-- A layer as it is laid: what it binds, and the environment that it lies on. -/
structure Laid where
  bindings : List (String × Ty)
  below : Link
  deriving Repr

/-- All layers laid so far, and the environments made so far. -/
structure Pile where
  layers : List Laid
  made : List Link
  deriving Repr

namespace Pile

/-- Only the empty environment has been made. -/
def bare : Pile := ⟨[], [.bottom]⟩

/-- A new layer on an environment. -/
def lay (pile : Pile) (bindings : List (String × Ty)) (below : Link) : Pile :=
  ⟨pile.layers ++ [⟨bindings, below⟩], pile.made ++ [.layer pile.layers.length]⟩

/-- The same environment once more. -/
def again (pile : Pile) (link : Link) : Pile := ⟨pile.layers, pile.made ++ [link]⟩

/-- Goes on from an environment made earlier, if it has been made. -/
def upon (pile : Pile) (on : Nat) (make : Link → Pile) : Pile :=
  match pile.made[on]? with
  | some link => make link
  | none => pile

end Pile

/-- The pile after one more step. -/
def Step.runPile (pile : Pile) : Step → Pile
  | .mapping none => pile.again .bottom
  | .mapping (some pairs) => pile.lay (Dict.ofPairs pairs) .bottom
  | .bind on name type => pile.upon on (pile.lay [(name, type)])
  | .extend on pairs => pile.upon on (pile.lay (Dict.ofPairs pairs))
  | .same on => pile.upon on pile.again

/-- The pile of a whole history. -/
def pileHistory (steps : List Step) : Pile := steps.foldl Step.runPile .bare

/-- Resolving a name from layer to layer: the first that knows it decides, and the bottom has but the name to tell. -/
inductive Walks (layers : List Laid) (name : String) : Link → Except Absent Ty → Prop
  | absent : Walks layers name .bottom (.error ⟨name⟩)
  | found {number layer type} : layers[number]? = some layer → layer.bindings.lookup name = some type →
      Walks layers name (.layer number) (.ok type)
  | deeper {number layer outcome} : layers[number]? = some layer → layer.bindings.lookup name = none →
      Walks layers name layer.below outcome → Walks layers name (.layer number) outcome

/-- From a link down lie the layers of an environment. -/
inductive Stands (layers : List Laid) : Link → Env → Prop
  | bottom : Stands layers .bottom empty
  | layer {number layer env} : layers[number]? = some layer → Stands layers layer.below env →
      Stands layers (.layer number) ⟨layer.bindings :: env.layers⟩

section

variable {layers : List Laid} {link : Link} {env other : Env} {name : String} {outcome : Except Absent Ty}
  {bindings : List (String × Ty)} {pile : Pile} {made : List Env} {steps later : List Step} {flat : Flat}

/-! ## Walking down -/

theorem resolve_top (bindings : List (String × Ty)) (env : Env) (name : String) :
    resolve ⟨bindings :: env.layers⟩ name =
      match bindings.lookup name with
      | some type => .ok type
      | none => env.resolve name := by
  rw [resolve, find?, List.findSome?_cons]
  cases bindings.lookup name <;> rfl

/-- A walk comes to an end, and to what the environment that stands there resolves the name to. -/
theorem Stands.walks_iff (h : Stands layers link env) :
    Walks layers name link outcome ↔ outcome = env.resolve name := by
  induction h with
  | bottom =>
    constructor
    · rintro ⟨⟩
      rfl
    · rintro rfl
      exact .absent
  | @layer number layer env hlayer _ ih =>
    rw [resolve_top]
    cases hlookup : layer.bindings.lookup name with
    | some type =>
      constructor
      · rintro (_ | ⟨hother, htype⟩ | ⟨hother, hnone, -⟩)
        · rw [hlayer] at hother
          cases hother
          exact congrArg Except.ok (Option.some.inj (htype.symm.trans hlookup))
        · rw [hlayer] at hother
          cases hother
          rw [hlookup] at hnone
          cases hnone
      · rintro rfl
        exact .found hlayer hlookup
    | none =>
      rw [← ih]
      constructor
      · rintro (_ | ⟨hother, htype⟩ | ⟨hother, -, hbelow⟩)
        · rw [hlayer] at hother
          cases hother
          rw [hlookup] at htype
          cases htype
        · rw [hlayer] at hother
          cases hother
          exact hbelow
      · exact .deeper hlayer hlookup

/-- Only one environment stands from a link down. -/
theorem Stands.unique (h : Stands layers link env) (h' : Stands layers link other) : env = other := by
  induction h generalizing other with
  | bottom =>
    cases h'
    rfl
  | layer hlayer _ ih =>
    cases h' with
    | layer hother hbelow =>
      rw [hlayer] at hother
      cases hother
      rw [ih hbelow]

/-! ## Layers stay -/

theorem Stands.mono (h : Stands layers link env) {more : List Laid} (hlayers : layers <+: more) :
    Stands more link env := by
  induction h with
  | bottom => exact .bottom
  | layer hlayer _ ih => exact .layer (getElem?_mono hlayers hlayer) ih

/-- A new layer stands on what it is laid on. -/
theorem Stands.lay (h : Stands layers link env) (bindings : List (String × Ty)) :
    Stands (layers ++ [⟨bindings, link⟩]) (.layer layers.length) ⟨bindings :: env.layers⟩ :=
  .layer List.getElem?_concat_length (h.mono (List.prefix_append ..))

/-- Nothing of a pile has been taken away. -/
structure Pile.Extends (pile later : Pile) : Prop where
  layers : pile.layers <+: later.layers
  made : pile.made <+: later.made

theorem Pile.extends_lay (pile : Pile) (bindings : List (String × Ty)) (below : Link) :
    pile.Extends (pile.lay bindings below) :=
  ⟨List.prefix_append .., List.prefix_append ..⟩

theorem Pile.extends_again (pile : Pile) (link : Link) : pile.Extends (pile.again link) :=
  ⟨List.prefix_rfl, List.prefix_append ..⟩

theorem Pile.extends_upon (pile : Pile) {on : Nat} {make : Link → Pile} (h : ∀ link, pile.Extends (make link)) :
    pile.Extends (pile.upon on make) := by
  unfold upon
  split
  · exact h _
  · exact ⟨List.prefix_rfl, List.prefix_rfl⟩

/-- No step takes anything away. -/
theorem extends_runPile (pile : Pile) (step : Step) : pile.Extends (step.runPile pile) := by
  cases step with
  | mapping pairs =>
    cases pairs with
    | none => exact pile.extends_again .bottom
    | some pairs => exact pile.extends_lay _ .bottom
  | bind on name type => exact pile.extends_upon (pile.extends_lay _)
  | extend on pairs => exact pile.extends_upon (pile.extends_lay _)
  | same on => exact pile.extends_upon pile.extends_again

theorem layers_mono (h : steps <+: later) : (pileHistory steps).layers <+: (pileHistory later).layers :=
  foldl_mono Pile.layers Step.runPile (fun pile step => (extends_runPile pile step).layers) .bare h

theorem made_mono (h : steps <+: later) : (pileHistory steps).made <+: (pileHistory later).made :=
  foldl_mono Pile.made Step.runPile (fun pile step => (extends_runPile pile step).made) .bare h

/-! ## Histories -/

/-- The links of a pile are known for the environments made. -/
def Holds (pile : Pile) (made : List Env) : Prop := List.Forall₂ (Stands pile.layers) pile.made made

theorem Holds.lay (h : Holds pile made) (hlink : Stands pile.layers link env) (bindings : List (String × Ty)) :
    Holds (pile.lay bindings link) (made ++ [⟨bindings :: env.layers⟩]) := by
  have hold : List.Forall₂ (Stands (pile.lay bindings link).layers) pile.made made :=
    h.imp fun _ _ hstands => hstands.mono (List.prefix_append ..)
  exact List.rel_append hold (.cons (hlink.lay bindings) .nil)

theorem Holds.again (h : Holds pile made) (hlink : Stands pile.layers link env) :
    Holds (pile.again link) (made ++ [env]) :=
  List.rel_append h (.cons hlink .nil)

/-- To go on from an environment made earlier is to go on from the one that stands there. -/
theorem Holds.upon (h : Holds pile made) {on : Nat} {make : Link → Pile} {f : Env → Env}
    (hmake : ∀ link env, Stands pile.layers link env → Holds (make link) (made ++ [f env])) :
    Holds (pile.upon on make) (made ++ (made[on]?.map f).toList) := by
  have hon : Option.Rel (Stands pile.layers) pile.made[on]? made[on]? := rel_getElem? h on
  rw [Pile.upon]
  generalize pile.made[on]? = link at hon ⊢
  generalize made[on]? = env at hon ⊢
  cases hon with
  | none => simpa using h
  | some hstands => exact hmake _ _ hstands

theorem Holds.step (h : Holds pile made) (step : Step) : Holds (step.runPile pile) (step.run made) := by
  rw [Step.run_eq]
  cases step with
  | mapping pairs =>
    cases pairs with
    | none => exact h.again .bottom
    | some pairs => exact h.lay .bottom (Dict.ofPairs pairs)
  | bind on name type => exact h.upon fun _ _ hlink => h.lay hlink _
  | extend on pairs => exact h.upon fun _ _ hlink => h.lay hlink _
  | same on =>
    have hsame : Holds (pile.upon on pile.again) (made ++ (made[on]?.map id).toList) :=
      h.upon fun _ _ hlink => h.again hlink
    rwa [Option.map_id] at hsame

theorem holds_history (steps : List Step) : Holds (pileHistory steps) (history steps) := by
  induction steps using List.reverseRecOn with
  | nil => exact .cons .bottom .nil
  | append_singleton before step ih =>
    rw [history_concat, pileHistory, List.foldl_append]
    exact ih.step step

/-- One environment stands from a link down, so that there is one map for it. -/
theorem flat_eq_of_stands {m : Nat} {other : Flat} (hm : (pileHistory steps).made[m]? = some link)
    (hother : (flatHistory steps)[m]? = some other) (hstands : Stands (pileHistory steps).layers link env)
    (hflattens : env.Flattens flat) : other = flat := by
  obtain ⟨env', henv', hstands'⟩ := Dict.rel_some_eq (hm ▸ rel_getElem? (holds_history steps) m)
  have hrel : Option.Rel Flattens (history steps)[m]? (flatHistory steps)[m]? := rel_getElem? (flattens_history steps) m
  rw [henv', hother] at hrel
  obtain rfl : env' = env := hstands'.unique hstands
  cases hrel with
  | some hflattens' => exact Finmap.ext_lookup fun name => (hflattens' name).symm.trans (hflattens name)

end

/-- What there is to know of an environment of a history, when it is the one of number `n`. -/
structure Kept (steps : List Step) (n : Nat) (env : Env) (flat : Flat) (link : Link) : Prop where
  map : (flatHistory steps)[n]? = some flat
  /-- An environment has one map, by whichever number it is called. -/
  unique : ∀ (m : Nat) (other : Flat), (pileHistory steps).made[m]? = some link →
    (flatHistory steps)[m]? = some other → other = flat
  resolves : env.ResolvesAs flat
  made : ∀ moment, n ≤ moment → (history (steps.take moment))[n]? = some env
  known : ∀ moment, n ≤ moment → (pileHistory (steps.take moment)).made[n]? = some link
  /-- At every later moment, a walk down the shared layers comes to what the environment resolves the name to. -/
  walks : ∀ moment, n ≤ moment → ∀ name outcome,
    Walks (pileHistory (steps.take moment)).layers name link outcome ↔ outcome = env.resolve name

/-- Each environment of a history resolves names as its map says, whatever is made after it. -/
theorem history_resolves_as_maps {steps : List Step} (hg : Grounded steps) {n : Nat} (hn : n ≤ steps.length) :
    ∃ env flat link, Kept steps n env flat link := by
  have hlength : n < (history (steps.take n)).length := by
    rw [(hg.start (List.take_prefix n steps)).length_history, List.length_take_of_le hn]
    omega
  -- all three are there after step `n`, and nothing is taken away after that
  obtain ⟨env, henv⟩ : ∃ env, (history (steps.take n))[n]? = some env := ⟨_, List.getElem?_eq_getElem hlength⟩
  obtain ⟨flat, hflat, hflattens⟩ := Dict.rel_some_eq (henv ▸ rel_getElem? (flattens_history (steps.take n)) n)
  obtain ⟨link, hlink, hstands⟩ := Dict.rel_eq_some (henv ▸ rel_getElem? (holds_history (steps.take n)) n)
  have hwhole : steps.take n <+: steps := List.take_prefix n steps
  have hlater : ∀ moment, n ≤ moment → steps.take n <+: steps.take moment :=
    fun _ hmoment => List.take_prefix_take_left hmoment
  refine ⟨env, flat, link, ?_⟩
  constructor
  case map => exact getElem?_mono (flatHistory_mono hwhole) hflat
  case unique =>
    intro m other hm hother
    exact flat_eq_of_stands hm hother (hstands.mono (layers_mono hwhole)) hflattens
  case resolves => exact hflattens.resolvesAs
  case made => exact fun moment hmoment => getElem?_mono (history_mono (hlater moment hmoment)) henv
  case known => exact fun moment hmoment => getElem?_mono (made_mono (hlater moment hmoment)) hlink
  case walks =>
    intro moment hmoment name outcome
    exact (hstands.mono (layers_mono (hlater moment hmoment))).walks_iff

/-- Two environments made from one: the first gives another type to a name of the one below, and two types to a
name of its own; the second has a name that the first does not know. -/
def branched : List Step :=
  [.bind 0 "x" .number, .extend 1 [("x", .boolean), ("y", .number), ("y", .boolean)], .bind 1 "z" .number, .same 2]

theorem history_resolves_as_maps_branched :
    Grounded branched ∧ 2 ≤ branched.length ∧ ∃ env link,
      (history branched)[2]? = some env ∧ (pileHistory branched).made[2]? = some link ∧
      env.resolve "x" = .ok .boolean ∧ env.resolve "y" = .ok .boolean ∧ env.contains "z" = false ∧
      Walks (pileHistory branched).layers "z" link (.error ⟨"z"⟩) := by
  have hg : Grounded branched := by decide
  have hn : 2 ≤ branched.length := by decide
  obtain ⟨env, flat, link, hkept⟩ := history_resolves_as_maps hg hn
  obtain rfl : Flat.override (Finmap.insert "x" .number ∅) [("x", .boolean), ("y", .number), ("y", .boolean)] = flat :=
    Option.some.inj hkept.map
  have hx : env.resolve "x" = .ok .boolean := (hkept.resolves.bound _ _).2 rfl
  have hy : env.resolve "y" = .ok .boolean := (hkept.resolves.bound _ _).2 rfl
  have hz : env.resolve "z" = .error ⟨"z"⟩ := (hkept.resolves.absent _ _).2 ⟨Finmap.lookup_eq_none.1 rfl, rfl⟩
  have hcontains : env.contains "z" = false := by
    rw [Bool.eq_false_iff, Ne, hkept.resolves.contains, hz]
    nofun
  exact ⟨hg, hn, env, link, hkept.made 4 (by decide), hkept.known 4 (by decide), hx, hy, hcontains,
    (hkept.walks 4 (by decide) _ _).2 hz.symm⟩

end StructuralTyping.Env
