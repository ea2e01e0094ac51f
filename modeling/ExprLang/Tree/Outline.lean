import ExprLang.Tree.Node
import ExprLang.Value.Display

/-!
# ExprLang.Tree.Outline

A tree as indented text: one node to a line with its kind, what is particular to it and its place,
and the nodes inside it below, two blanks further in.  The steps of a selection are set off by a
line with a point.
-/

namespace ExprLang

/-- What a line of an outline says between the kind of a node and its place. -/
def Node.attribute : Node → String
  | .logical _ op _ _ => " " ++ op.symbol
  | .bitwise _ op _ _ => " " ++ op.symbol
  | .relational _ op _ _ => " " ++ op.symbol
  | .arithmetic _ op _ _ => " " ++ op.symbol
  | .unary _ op _ => " " ++ op.symbol
  | .call _ _ _ true => " ?."
  | .identifier _ name => " " ++ name
  | .var _ name => " " ++ name
  | .string _ s => " " ++ debugQuoted s
  | .regexp _ r => " " ++ r.text
  | .number _ x => " " ++ formatNumber x
  | .literal _ v => " " ++ v.display
  | _ => ""

/-- A line, indented to a depth. -/
def outlineLine (depth : Nat) (text : String) : String :=
  String.ofList (List.replicate (2 * depth) ' ') ++ text ++ "\n"

/-- The line of a node. -/
def Node.headline (n : Node) : String :=
  s!"{n.kind.name}{n.attribute} @{n.position.line}:{n.position.column}"

mutual

/-- The outline of a tree whose root stands at a depth. -/
def Node.outlineAt (depth : Nat) : Node → String
  | n@(.sequence _ ns) | n@(.array _ ns) | n@(.object _ ns) | n@(.template _ ns) =>
    outlineLine depth n.headline ++ outlineNodes (depth + 1) ns
  | n@(.assignment _ a b) | n@(.fallback _ a b) | n@(.item _ a b) | n@(.logical _ _ a b)
  | n@(.bitwise _ _ a b) | n@(.relational _ _ a b) | n@(.arithmetic _ _ a b) =>
    outlineLine depth n.headline ++ a.outlineAt (depth + 1) ++ b.outlineAt (depth + 1)
  | n@(.choice _ a b c) =>
    outlineLine depth n.headline ++ a.outlineAt (depth + 1) ++ b.outlineAt (depth + 1)
      ++ c.outlineAt (depth + 1)
  | n@(.unary _ _ a) => outlineLine depth n.headline ++ a.outlineAt (depth + 1)
  | n@(.call _ f as _) =>
    outlineLine depth n.headline ++ f.outlineAt (depth + 1) ++ outlineNodes (depth + 1) as
  | n@(.select _ base steps) =>
    outlineLine depth n.headline ++ base.outlineAt (depth + 1) ++ outlineSteps (depth + 1) steps
  | n@(.identifier ..) | n@(.var ..) | n@(.string ..) | n@(.regexp ..) | n@(.number ..)
  | n@(.literal ..) => outlineLine depth n.headline

/-- The outlines of some trees, one after the other. -/
def outlineNodes (depth : Nat) : List Node → String
  | [] => ""
  | n :: ns => n.outlineAt depth ++ outlineNodes depth ns

/-- The outlines of the steps of a selection. -/
def outlineSteps (depth : Nat) : List (Step Node) → String
  | [] => ""
  | s :: ss => outlineStep depth s ++ outlineSteps depth ss

/-- The outline of a step. -/
def outlineStep (depth : Nat) : Step Node → String
  | ⟨key, optional, _⟩ =>
    outlineLine depth (if optional then "?." else ".") ++ key.outlineAt (depth + 1)

end

/-- The outline of a tree. -/
def Node.outline (n : Node) : String := n.outlineAt 0

end ExprLang
