import ExprLang.Tree.Node
import ExprLang.Tree.ParseError

/-!
# ExprLang.Tree.Precedence

From a flat run of operators, operands and steps to a tree, by the levels of the operators.

An operator takes as its right operand all that binds tighter than itself, and as much as binds
equally tight if it groups from the right.  Field and index steps that follow one another join one
selection.  When several parts of an expression are faulty the fault reported is that of the left
operand, then that of the right one, then that of the middle of a conditional.
-/

namespace ExprLang

/-- A part of an expression, or the fault found in it. -/
abbrev Parsed (α : Type) := Except ParseError α

/-- One piece of a flat expression. -/
inductive Piece
  | operand (n : Parsed Node)
  | unary (pos : Position) (op : UnaryOp)
  | step (s : Parsed (Step Node))
  | call (pos : Position) (args : Parsed (List Node)) (optional : Bool)
  | between (pos : Position) (op : InfixOp)
  /-- The conditional with its middle. -/
  | choice (pos : Position) (middle : Parsed Node)

namespace Piece

/-- Adds a step to a selection, or begins one. -/
def addStep (n : Node) (s : Step Node) : Node :=
  match n with
  | .select p base steps => .select p base (steps ++ [s])
  | n => .select n.position n [s]

/-- The node of an operator other than the conditional. -/
def joinOperands (pos : Position) (op : InfixOp) (left right : Node) : Node :=
  match op with
  | .fallback => .fallback pos left right
  | .choice => .fallback pos left right
  | .logical o => .logical pos o left right
  | .bitwise o => .bitwise pos o left right
  | .relational o => .relational pos o left right
  | .arithmetic o => .arithmetic pos o left right

mutual

/-- Takes an operand and all that binds tighter than `level` off the front. -/
def takeExpression : (fuel : Nat) → (level : Nat) → List Piece → Parsed Node × List Piece
  | 0, _, ps => (.error ⟨.malformed, .first⟩, ps)
  | fuel + 1, level, ps =>
    match ps with
    | .operand n :: rest => takeOperators fuel level n rest
    | .unary pos op :: rest =>
      let (n, rest) := takeExpression fuel (UnaryOp.level - 1) rest
      takeOperators fuel level (n.map (.unary pos op)) rest
    | ps => (.error ⟨.malformed, .first⟩, ps)

/-- Takes what binds tighter than `level` and continues the operand `left` off the front. -/
def takeOperators : (fuel : Nat) → (level : Nat) → Parsed Node → List Piece →
    Parsed Node × List Piece
  | 0, _, left, ps => (left, ps)
  | fuel + 1, level, left, ps =>
    match ps with
    | .step s :: rest =>
      if level < InfixOp.stepLevel then
        takeOperators fuel level (do return addStep (← left) (← s)) rest
      else (left, ps)
    | .call pos args optional :: rest =>
      if level < InfixOp.stepLevel then
        takeOperators fuel level (do return .call pos (← left) (← args) optional) rest
      else (left, ps)
    | .between pos op :: rest =>
      if level < op.level then
        let (right, rest) := takeExpression fuel op.rightLevel rest
        takeOperators fuel level (do return joinOperands pos op (← left) (← right)) rest
      else (left, ps)
    | .choice pos middle :: rest =>
      if level < InfixOp.choice.level then
        let (right, rest) := takeExpression fuel InfixOp.choice.rightLevel rest
        let joined := do
          let left ← left
          let right ← right
          return .choice pos left (← middle) right
        takeOperators fuel level joined rest
      else (left, ps)
    | ps => (left, ps)

end

/-- The tree of a flat expression. -/
def toTree (ps : List Piece) : Parsed Node := (takeExpression (2 * ps.length + 2) 0 ps).1

end Piece

end ExprLang
