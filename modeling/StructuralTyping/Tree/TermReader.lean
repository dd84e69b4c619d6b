/-
Reading terms. The location of a node is read before its fields, and the fields in the order in
which they are evaluated, but for a match on a union, whose clauses come before its subject. Names
of properties and labels of clauses may repeat: judging them is not the reader's business.
-/
import StructuralTyping.Source.Span
import StructuralTyping.Term
import StructuralTyping.Tree.TypeReader

namespace StructuralTyping.Tree

/-- Reads the location of a node. -/
def location (source : Option Path) (trail : Trail) (node : Json) : Reading (Option Span) :=
  let tag := (node.field? "loc").getD .null
  match Span.read source tag with
  | .ok span => .ok span
  | .error _ => refuse trail (.malformedLocation tag)

/-- Reads the value of a number literal. -/
def numeral (trail : Trail) (node : Json) : Reading Numeral := do
  match ← field trail node "n" with
  | ⟨.number value, _⟩ => return value
  | _ => refuse trail .notNumber

mutual

/-- Reads a term. Its spans lie in the file `source`, if one is known. -/
def readTerm (source : Option Path) (trail : Trail) (node : Json) :
    Reading (Term (Option Span)) := do
  let tag ← tagOf trail node
  match Term.Kind.ofTag? tag with
  | none => refuse trail (.unknownTermTag tag)
  | some kind =>
    let loc ← location source trail node
    match kind with
    | .litTrue => return .bool true loc
    | .litFalse => return .bool false loc
    | .number =>
      let value ← numeral trail node
      return .number value loc
    | .ite =>
      let cond ← readPart source trail node "cond"
      let thn ← readPart source trail node "thn"
      let els ← readPart source trail node "els"
      return .ite cond thn els loc
    | .add =>
      let left ← readPart source trail node "left"
      let right ← readPart source trail node "right"
      return .add left right loc
    | .var =>
      let name ← name trail node "name"
      return .var name loc
    | .func =>
      let params ← readParams trail node "params"
      let body ← readPart source trail node "body"
      return .func params body loc
    | .call =>
      let callee ← readPart source trail node "func"
      let ⟨items, _⟩ ← list trail node "args"
      let args ← readArgs source trail [] items
      return .call callee args loc
    | .seq =>
      let body ← readPart source trail node "body"
      let rest ← readPart source trail node "rest"
      return .seq body rest loc
    | .const =>
      let name ← name trail node "name"
      let init ← readPart source trail node "init"
      let rest ← readPart source trail node "rest"
      return .const name init rest loc
    | .recFunc =>
      let name ← name trail node "funcName"
      let params ← readParams trail node "params"
      let ⟨part, _⟩ ← field trail node "retType"
      let ret ← readType (trail ++ [.field "retType"]) part
      let body ← readPart source trail node "body"
      let rest ← readPart source trail node "rest"
      return .recFunc name params ret body rest loc
    | .objectNew =>
      let ⟨items, _⟩ ← list trail node "props"
      let props ← readNamed source trail "props" "name" [] items
      return .objectNew props loc
    | .objectGet =>
      let object ← readPart source trail node "obj"
      let name ← name trail node "propName"
      return .objectGet object name loc
    | .unionNew =>
      let label ← name trail node "tagLabel"
      let ⟨items, _⟩ ← list trail node "props"
      let props ← readNamed source trail "props" "name" [] items
      let ⟨part, _⟩ ← field trail node "as"
      let type ← readType (trail ++ [.field "as"]) part
      return .unionNew label props type loc
    | .unionGet =>
      let ⟨items, _⟩ ← list trail node "clauses"
      let clauses ← readNamed source trail "clauses" "tagLabel" [] items
      let subject ← name trail node "varName"
      return .unionGet subject clauses loc
termination_by (sizeOf node, 1)

/-- Reads the term in a field. -/
def readPart (source : Option Path) (trail : Trail) (node : Json) (key : String) :
    Reading (Term (Option Span)) := do
  let ⟨part, _⟩ ← field trail node key
  readTerm source (trail ++ [.field key]) part
termination_by (sizeOf node, 0)

/-- Reads arguments, after those in `done`. -/
def readArgs (source : Option Path) (trail : Trail) (done : List (Term (Option Span)))
    (items : List Json) : Reading (List (Term (Option Span))) := do
  match items with
  | [] => return done
  | item :: rest =>
    let arg ← readTerm source (trail ++ [.item "args" done.length]) item
    readArgs source trail (done ++ [arg]) rest
termination_by (sizeOf items, 0)

/-- Reads the named terms of a list in the field `key`, after those in `done`. Each item has its
name in the field `nameKey`. -/
def readNamed (source : Option Path) (trail : Trail) (key nameKey : String)
    (done : List (String × Term (Option Span))) (items : List Json) :
    Reading (List (String × Term (Option Span))) := do
  match items with
  | [] => return done
  | item :: rest =>
    let here := trail ++ [.item key done.length]
    let name ← name here item nameKey
    let term ← readPart source here item "term"
    readNamed source trail key nameKey (done ++ [(name, term)]) rest
termination_by (sizeOf items, 0)

end

/-- A reader, with the file that its spans lie in and the place where it stands. -/
structure Reader where
  source : Option Path
  trail : Trail
  deriving Repr

namespace Reader

/-- A reader that has read nothing yet. -/
def fresh (source : Option Path) : Reader := ⟨source, []⟩

/-- After a refusal the reader stays where it stopped. -/
def after {α : Type} (reader : Reader) : Reading α → Reader
  | .ok _ => reader
  | .error refusal => { reader with trail := refusal.trail }

/-- Reads a term from where the reader stands. -/
def term (reader : Reader) (node : Json) : Reader × Reading (Term (Option Span)) :=
  let result := readTerm reader.source reader.trail node
  (reader.after result, result)

/-- Reads a type from where the reader stands. -/
def type (reader : Reader) (node : Json) : Reader × Reading Ty :=
  let result := readType reader.trail node
  (reader.after result, result)

end Reader

end StructuralTyping.Tree
