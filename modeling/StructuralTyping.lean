import StructuralTyping.Session.Use
import StructuralTyping.Files.Folder
import StructuralTyping.Main
import StructuralTyping.Proofs.Except
import StructuralTyping.Proofs.Dict
import StructuralTyping.Proofs.Ty.Basic
import StructuralTyping.Proofs.Ty.Equality
import StructuralTyping.Proofs.Ty.Normal
import StructuralTyping.Proofs.Env
import StructuralTyping.Proofs.Term.Parts
import StructuralTyping.Proofs.Term.Position
import StructuralTyping.Proofs.Term.Free
import StructuralTyping.Proofs.Term.Subst
import StructuralTyping.Proofs.Term.Renaming
import StructuralTyping.Proofs.Typing.Success
import StructuralTyping.Proofs.Typing.Loops
import StructuralTyping.Proofs.Typing.Scope
import StructuralTyping.Proofs.Typing.Blame
import StructuralTyping.Proofs.Typing.Rules
import StructuralTyping.Proofs.Typing.Order
import StructuralTyping.Proofs.Typing.Parallel
import StructuralTyping.Proofs.Typing.Dependence
import StructuralTyping.Proofs.Typing.Inlining
import StructuralTyping.Proofs.Tree.Grammar
import StructuralTyping.Proofs.Tree.Reading
import StructuralTyping.Proofs.Typing.Exchange
import StructuralTyping.Proofs.Term.Rearranged
import StructuralTyping.Proofs.Tree.Refusing
import StructuralTyping.Proofs.Typing.Rearrangement
import StructuralTyping.Proofs.Typing.Safety
import StructuralTyping.Proofs.Session.ReadTree
import StructuralTyping.Proofs.Typing.Renaming
import StructuralTyping.Proofs.Tree.Role
import StructuralTyping.Proofs.Tree.Progress
import StructuralTyping.Proofs.Tree.Walk
import StructuralTyping.Proofs.Session.Placing
import StructuralTyping.Proofs.Term.Relocation
import StructuralTyping.Proofs.Typing.Relocation
import StructuralTyping.Proofs.Tree.Relocation
import StructuralTyping.Proofs.Report.Pathless
import StructuralTyping.Proofs.Command.Fate
import StructuralTyping.Proofs.Command.ExitCode
import StructuralTyping.Proofs.Command.Illustrating
import StructuralTyping.Proofs.Typing.Variants
import StructuralTyping.Proofs.Typing.Binders
import StructuralTyping.Proofs.Ty.Printer
import StructuralTyping.Proofs.Source.Offset
import StructuralTyping.Proofs.Session.Counting
import StructuralTyping.Proofs.Tree.Unlocated
import StructuralTyping.Proofs.Tree.Places
import StructuralTyping.Proofs.Env.History
import StructuralTyping.Proofs.Env.Sharing
