/-
Terms with other locations. Each location is mapped and nothing else is touched.
-/
import StructuralTyping.Proofs.Dict
import StructuralTyping.Term

namespace StructuralTyping.Term

variable {α β : Type}

mutual

/-- The term with each location mapped. -/
def mapLoc (f : α → β) : Term α → Term β
  | .bool value loc => .bool value (f loc)
  | .number value loc => .number value (f loc)
  | .ite cond thn els loc => .ite (mapLoc f cond) (mapLoc f thn) (mapLoc f els) (f loc)
  | .add left right loc => .add (mapLoc f left) (mapLoc f right) (f loc)
  | .var name loc => .var name (f loc)
  | .func params body loc => .func params (mapLoc f body) (f loc)
  | .call callee args loc => .call (mapLoc f callee) (mapLocArgs f args) (f loc)
  | .seq body rest loc => .seq (mapLoc f body) (mapLoc f rest) (f loc)
  | .const name init rest loc => .const name (mapLoc f init) (mapLoc f rest) (f loc)
  | .recFunc name params ret body rest loc => .recFunc name params ret (mapLoc f body) (mapLoc f rest) (f loc)
  | .objectNew props loc => .objectNew (mapLocProps f props) (f loc)
  | .objectGet object name loc => .objectGet (mapLoc f object) name (f loc)
  | .unionNew label props type loc => .unionNew label (mapLocProps f props) type (f loc)
  | .unionGet subject clauses loc => .unionGet subject (mapLocProps f clauses) (f loc)

/-- In every argument. -/
def mapLocArgs (f : α → β) : List (Term α) → List (Term β)
  | [] => []
  | arg :: rest => mapLoc f arg :: mapLocArgs f rest

/-- In every property or clause. -/
def mapLocProps (f : α → β) : List (String × Term α) → List (String × Term β)
  | [] => []
  | (name, term) :: rest => (name, mapLoc f term) :: mapLocProps f rest

end

variable {f : α → β}

theorem mapLocArgs_eq (f : α → β) (args : List (Term α)) : mapLocArgs f args = args.map (mapLoc f) := by
  induction args with
  | nil => rfl
  | cons arg rest ih => rw [mapLocArgs, ih]; rfl

theorem mapLocProps_eq (f : α → β) (props : List (String × Term α)) :
    mapLocProps f props = Dict.mapValues (mapLoc f) props := by
  induction props with
  | nil => rfl
  | cons prop rest ih => rw [mapLocProps, ih]; rfl

theorem loc_mapLoc (f : α → β) (term : Term α) : (term.mapLoc f).loc = f term.loc := by
  cases term <;> simp [mapLoc, loc]

theorem kind_mapLoc (f : α → β) (term : Term α) : (term.mapLoc f).kind = term.kind := by
  cases term <;> simp [mapLoc, kind]

end StructuralTyping.Term
