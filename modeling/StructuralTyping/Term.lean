/-
The terms of the language. Every node carries a location of a type that the terms leave open;
judging never looks at it. `Term.Kind` names the fifteen kinds of node, each with the tag that it
has in a written tree and the name that progress messages use.
-/
import StructuralTyping.Ty.Basic
import StructuralTyping.Decimal.Numeral

namespace StructuralTyping

/-- Terms whose nodes carry locations of type `Loc`. -/
inductive Term (Loc : Type) where
  | bool (value : Bool) (loc : Loc)
  | number (value : Numeral) (loc : Loc)
  | ite (cond thn els : Term Loc) (loc : Loc)
  | add (left right : Term Loc) (loc : Loc)
  | var (name : String) (loc : Loc)
  | func (params : List (String × Ty)) (body : Term Loc) (loc : Loc)
  | call (callee : Term Loc) (args : List (Term Loc)) (loc : Loc)
  | seq (body rest : Term Loc) (loc : Loc)
  | const (name : String) (init rest : Term Loc) (loc : Loc)
  | recFunc (name : String) (params : List (String × Ty)) (ret : Ty) (body rest : Term Loc)
      (loc : Loc)
  | objectNew (props : List (String × Term Loc)) (loc : Loc)
  | objectGet (object : Term Loc) (name : String) (loc : Loc)
  | unionNew (label : String) (props : List (String × Term Loc)) (type : Ty) (loc : Loc)
  | unionGet (subject : String) (clauses : List (String × Term Loc)) (loc : Loc)
  deriving Repr, Inhabited

namespace Term

/-- The kinds of node. -/
inductive Kind where
  | litTrue | litFalse | number | ite | add | var | func | call | seq | const | recFunc
  | objectNew | objectGet | unionNew | unionGet
  deriving Repr, DecidableEq

namespace Kind

/-- Every kind once. -/
def all : List Kind :=
  [.litTrue, .litFalse, .number, .ite, .add, .var, .func, .call, .seq, .const, .recFunc,
    .objectNew, .objectGet, .unionNew, .unionGet]

/-- The tag of a kind in a written tree. -/
def tag : Kind → String
  | .litTrue => "true"
  | .litFalse => "false"
  | .number => "number"
  | .ite => "if"
  | .add => "add"
  | .var => "var"
  | .func => "func"
  | .call => "call"
  | .seq => "seq"
  | .const => "const"
  | .recFunc => "recFunc"
  | .objectNew => "objectNew"
  | .objectGet => "objectGet"
  | .unionNew => "taggedUnionNew"
  | .unionGet => "taggedUnionGet"

/-- The name of a kind in progress messages. -/
def title : Kind → String
  | .litTrue => "TrueLiteral"
  | .litFalse => "FalseLiteral"
  | .number => "NumberLiteral"
  | .ite => "If"
  | .add => "Add"
  | .var => "Var"
  | .func => "Func"
  | .call => "Call"
  | .seq => "Seq"
  | .const => "Const"
  | .recFunc => "RecFunc"
  | .objectNew => "ObjectNew"
  | .objectGet => "ObjectGet"
  | .unionNew => "TaggedUnionNew"
  | .unionGet => "TaggedUnionGet"

/-- The kind that a tag stands for. -/
def ofTag? (tag : String) : Option Kind := all.find? (·.tag == tag)

theorem ofTag?_tag (kind : Kind) : ofTag? kind.tag = some kind := by cases kind <;> decide

theorem tag_of_ofTag? {text : String} {kind : Kind} (h : ofTag? text = some kind) :
    kind.tag = text := by
  simpa using List.find?_some h

end Kind

variable {Loc : Type}

/-- The kind of a node. -/
def kind : Term Loc → Kind
  | .bool value _ => if value then .litTrue else .litFalse
  | .number .. => .number
  | .ite .. => .ite
  | .add .. => .add
  | .var .. => .var
  | .func .. => .func
  | .call .. => .call
  | .seq .. => .seq
  | .const .. => .const
  | .recFunc .. => .recFunc
  | .objectNew .. => .objectNew
  | .objectGet .. => .objectGet
  | .unionNew .. => .unionNew
  | .unionGet .. => .unionGet

/-- The location that a node carries. -/
def loc : Term Loc → Loc
  | .bool _ loc | .number _ loc | .ite _ _ _ loc | .add _ _ loc | .var _ loc | .func _ _ loc
  | .call _ _ loc | .seq _ _ loc | .const _ _ _ loc | .recFunc _ _ _ _ _ loc | .objectNew _ loc
  | .objectGet _ _ loc | .unionNew _ _ _ loc | .unionGet _ _ loc => loc

end Term

end StructuralTyping
