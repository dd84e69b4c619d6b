/-
The grammar of written trees: which JSON values are types and terms, and which type or term each of them
is. A node is an object with a tag; the tag says which other fields count, and all further fields are
passed over. Lists keep their order. Names are distinct in lists of parameters and of typed properties
and labels are in unions; properties of new objects and clauses may repeat theirs. Law: whatever is
written, the types and terms it stands for are clean.
-/
import StructuralTyping.Proofs.Term.Parts
import StructuralTyping.Source.Span

namespace StructuralTyping.Tree

/-! ## Types -/

mutual

/-- A value that is a type. A location on it makes no difference. -/
inductive TypeTree : Json → Ty → Prop where
  | boolean {node} : node.field? "tag" = some (.text "Boolean") → TypeTree node .boolean
  | number {node} : node.field? "tag" = some (.text "Number") → TypeTree node .number
  | func {node params part ret} : node.field? "tag" = some (.text "Func") → ParamTrees node "params" params →
      node.field? "retType" = some part → TypeTree part ret → TypeTree node (.func params ret)
  | object {node props} : node.field? "tag" = some (.text "Object") → ParamTrees node "props" props →
      TypeTree node (.object props)
  | union {node items variants} : node.field? "tag" = some (.text "TaggedUnion") →
      node.field? "variants" = some (.array items) → VariantTrees items variants → (Dict.names variants).Nodup →
      TypeTree node (.union variants)

/-- A value with a field that holds a list of distinct names with types. -/
inductive ParamTrees : Json → String → List (String × Ty) → Prop where
  | mk {node key items params} : node.field? key = some (.array items) → TypedTrees items params →
      (Dict.names params).Nodup → ParamTrees node key params

/-- Values that are names with types. -/
inductive TypedTrees : List Json → List (String × Ty) → Prop where
  | nil : TypedTrees [] []
  | cons {item rest name part type others} : item.field? "name" = some (.text name) →
      item.field? "type" = some part → TypeTree part type → TypedTrees rest others →
      TypedTrees (item :: rest) ((name, type) :: others)

/-- Values that are labels with properties. -/
inductive VariantTrees : List Json → List (String × List (String × Ty)) → Prop where
  | nil : VariantTrees [] []
  | cons {item rest label props others} : item.field? "tagLabel" = some (.text label) →
      ParamTrees item "props" props → VariantTrees rest others →
      VariantTrees (item :: rest) ((label, props) :: others)

end

/-! ## Locations -/

/-- A value that is a point. Its coordinates are integers. -/
structure PointTree (value : Json) (point : Point) : Prop where
  line : value.field? "line" = some (.number (.int point.line))
  column : value.field? "column" = some (.number (.int point.column))

/-- The location of a node in the file `source`. One that is absent or blank is none, and one without an
end ends where it starts. -/
inductive Located (source : Option Path) (node : Json) : Option Span → Prop where
  | absent : node.field? "loc" = none → Located source node none
  | blank {tag} : node.field? "loc" = some tag → tag.isBlank = true → Located source node none
  | point {tag value start} : node.field? "loc" = some tag → tag.field? "start" = some value →
      PointTree value start → tag.field? "end" = none → Located source node (some ⟨source, start, start⟩)
  | stretch {tag value start last stop} : node.field? "loc" = some tag → tag.field? "start" = some value →
      PointTree value start → tag.field? "end" = some last → PointTree last stop →
      Located source node (some ⟨source, start, stop⟩)

/-! ## Terms -/

section

variable (source : Option Path)

mutual

/-- A value that is a term. The spans of the term lie in the file `source`. -/
inductive TermTree : Json → Term (Option Span) → Prop where
  | litTrue {node loc} : node.field? "tag" = some (.text "true") → Located source node loc →
      TermTree node (.bool true loc)
  | litFalse {node loc} : node.field? "tag" = some (.text "false") → Located source node loc →
      TermTree node (.bool false loc)
  | number {node loc value} : node.field? "tag" = some (.text "number") → Located source node loc →
      node.field? "n" = some (.number value) → TermTree node (.number value loc)
  | ite {node loc cond thn els} : node.field? "tag" = some (.text "if") → Located source node loc →
      PartTree node "cond" cond → PartTree node "thn" thn → PartTree node "els" els →
      TermTree node (.ite cond thn els loc)
  | add {node loc left right} : node.field? "tag" = some (.text "add") → Located source node loc →
      PartTree node "left" left → PartTree node "right" right → TermTree node (.add left right loc)
  | var {node loc name} : node.field? "tag" = some (.text "var") → Located source node loc →
      node.field? "name" = some (.text name) → TermTree node (.var name loc)
  | func {node loc params body} : node.field? "tag" = some (.text "func") → Located source node loc →
      ParamTrees node "params" params → PartTree node "body" body → TermTree node (.func params body loc)
  | call {node loc callee items args} : node.field? "tag" = some (.text "call") → Located source node loc →
      PartTree node "func" callee → node.field? "args" = some (.array items) → ArgTrees items args →
      TermTree node (.call callee args loc)
  | seq {node loc body rest} : node.field? "tag" = some (.text "seq") → Located source node loc →
      PartTree node "body" body → PartTree node "rest" rest → TermTree node (.seq body rest loc)
  | const {node loc name init rest} : node.field? "tag" = some (.text "const") → Located source node loc →
      node.field? "name" = some (.text name) → PartTree node "init" init → PartTree node "rest" rest →
      TermTree node (.const name init rest loc)
  | recFunc {node loc name params part ret body rest} : node.field? "tag" = some (.text "recFunc") →
      Located source node loc → node.field? "funcName" = some (.text name) → ParamTrees node "params" params →
      node.field? "retType" = some part → TypeTree part ret → PartTree node "body" body →
      PartTree node "rest" rest → TermTree node (.recFunc name params ret body rest loc)
  | objectNew {node loc items props} : node.field? "tag" = some (.text "objectNew") → Located source node loc →
      node.field? "props" = some (.array items) → NamedTrees "name" items props →
      TermTree node (.objectNew props loc)
  | objectGet {node loc object name} : node.field? "tag" = some (.text "objectGet") → Located source node loc →
      PartTree node "obj" object → node.field? "propName" = some (.text name) →
      TermTree node (.objectGet object name loc)
  | unionNew {node loc label items props part type} : node.field? "tag" = some (.text "taggedUnionNew") →
      Located source node loc → node.field? "tagLabel" = some (.text label) →
      node.field? "props" = some (.array items) → NamedTrees "name" items props →
      node.field? "as" = some part → TypeTree part type → TermTree node (.unionNew label props type loc)
  | unionGet {node loc items clauses subject} : node.field? "tag" = some (.text "taggedUnionGet") →
      Located source node loc → node.field? "clauses" = some (.array items) →
      NamedTrees "tagLabel" items clauses → node.field? "varName" = some (.text subject) →
      TermTree node (.unionGet subject clauses loc)

/-- A value with a field that holds a term. -/
inductive PartTree : Json → String → Term (Option Span) → Prop where
  | mk {node key part term} : node.field? key = some part → TermTree part term → PartTree node key term

/-- Values that are terms. -/
inductive ArgTrees : List Json → List (Term (Option Span)) → Prop where
  | nil : ArgTrees [] []
  | cons {item rest arg others} : TermTree item arg → ArgTrees rest others →
      ArgTrees (item :: rest) (arg :: others)

/-- Values that are names, in a field of the given key, with terms. -/
inductive NamedTrees : String → List Json → List (String × Term (Option Span)) → Prop where
  | nil {nameKey} : NamedTrees nameKey [] []
  | cons {nameKey item rest name term others} : item.field? nameKey = some (.text name) →
      PartTree item "term" term → NamedTrees nameKey rest others →
      NamedTrees nameKey (item :: rest) ((name, term) :: others)

end

end

/-! ## What is written is clean -/

mutual

theorem TypeTree.clean {node : Json} {type : Ty} : TypeTree node type → type.Clean
  | .boolean _ => Ty.clean_boolean
  | .number _ => Ty.clean_number
  | .func _ hp _ hr => Ty.clean_func.2 ⟨hp.clean, hr.clean⟩
  | .object _ hp => Ty.clean_object.2 hp.clean
  | .union _ _ hv hd => Ty.clean_union.2 ⟨hd, hv.clean⟩

theorem ParamTrees.clean {node : Json} {key : String} {params : List (String × Ty)} :
    ParamTrees node key params → Dict.Proper Ty.Clean params
  | .mk _ hp hd => ⟨hd, hp.clean⟩

theorem TypedTrees.clean {items : List Json} {params : List (String × Ty)} :
    TypedTrees items params → ∀ p ∈ params, p.2.Clean
  | .nil => nofun
  | .cons _ _ ht hrest => List.forall_mem_cons.2 ⟨ht.clean, hrest.clean⟩

theorem VariantTrees.clean {items : List Json} {variants : List (String × List (String × Ty))} :
    VariantTrees items variants → ∀ v ∈ variants, Dict.Proper Ty.Clean v.2
  | .nil => nofun
  | .cons _ hp hrest => List.forall_mem_cons.2 ⟨hp.clean, hrest.clean⟩

end

variable {source : Option Path}

mutual

/-- A written term is clean, so what is known of judging clean terms is known of it. -/
theorem TermTree.clean {node : Json} {term : Term (Option Span)} : TermTree source node term → term.Clean
  | .litTrue .. | .litFalse .. | .number .. | .var .. => Term.clean_iff.2 ⟨trivial, nofun⟩
  | .ite _ _ hc ht he => Term.clean_iff.2 ⟨trivial, by simp [Term.parts, hc.clean, ht.clean, he.clean]⟩
  | .add _ _ hl hr => Term.clean_iff.2 ⟨trivial, by simp [Term.parts, hl.clean, hr.clean]⟩
  | .func _ _ hp hb => Term.clean_iff.2 ⟨hp.clean, by simp [Term.parts, hb.clean]⟩
  | .call _ _ hc _ ha => Term.clean_iff.2 ⟨trivial, List.forall_mem_cons.2 ⟨hc.clean, ha.clean⟩⟩
  | .seq _ _ hb hr => Term.clean_iff.2 ⟨trivial, by simp [Term.parts, hb.clean, hr.clean]⟩
  | .const _ _ _ hi hr => Term.clean_iff.2 ⟨trivial, by simp [Term.parts, hi.clean, hr.clean]⟩
  | .recFunc _ _ _ hp _ ht hb hr =>
    Term.clean_iff.2 ⟨⟨hp.clean, ht.clean⟩, by simp [Term.parts, hb.clean, hr.clean]⟩
  | .objectNew _ _ _ hp => Term.clean_iff.2 ⟨trivial, List.forall_mem_map.2 hp.clean⟩
  | .objectGet _ _ ho _ => Term.clean_iff.2 ⟨trivial, by simp [Term.parts, ho.clean]⟩
  | .unionNew _ _ _ _ hp _ ht => Term.clean_iff.2 ⟨ht.clean, List.forall_mem_map.2 hp.clean⟩
  | .unionGet _ _ _ hc _ => Term.clean_iff.2 ⟨trivial, List.forall_mem_map.2 hc.clean⟩

theorem PartTree.clean {node : Json} {key : String} {term : Term (Option Span)} :
    PartTree source node key term → term.Clean
  | .mk _ ht => ht.clean

theorem ArgTrees.clean {items : List Json} {args : List (Term (Option Span))} :
    ArgTrees source items args → ∀ arg ∈ args, arg.Clean
  | .nil => nofun
  | .cons ha hrest => List.forall_mem_cons.2 ⟨ha.clean, hrest.clean⟩

theorem NamedTrees.clean {nameKey : String} {items : List Json} {props : List (String × Term (Option Span))} :
    NamedTrees source nameKey items props → ∀ prop ∈ props, prop.2.Clean
  | .nil => nofun
  | .cons _ ht hrest => List.forall_mem_cons.2 ⟨ht.clean, hrest.clean⟩

end

end StructuralTyping.Tree
