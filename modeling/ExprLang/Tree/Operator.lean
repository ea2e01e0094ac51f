/-!
# ExprLang.Tree.Operator

The operators of the language and the symbols they are written with.  `InfixOp` gathers every
operator that stands between two operands, the two conditionals included, and `InfixOp.level` and
`InfixOp.rightAssociative` are the precedence table.
-/

namespace ExprLang

/-- Operators on truth values; the second operand is evaluated only when it matters. -/
inductive LogicalOp
  | and | or
  deriving DecidableEq

/-- Operators on 32-bit integers. -/
inductive BitwiseOp
  | and | or | shl | shr
  deriving DecidableEq

/-- Comparisons and regular expression matches. -/
inductive RelationalOp
  | eq | neq | le | ge | lt | gt | isMatch | noMatch
  deriving DecidableEq

/-- Operators on numbers, texts and containers. -/
inductive ArithmeticOp
  | add | sub | mul | div | rem | pow
  deriving DecidableEq

/-- Operators written before their operand. -/
inductive UnaryOp
  | not | bitNot
  deriving DecidableEq

def LogicalOp.symbol : LogicalOp → String
  | .and => "&&"
  | .or => "||"

def BitwiseOp.symbol : BitwiseOp → String
  | .and => "&"
  | .or => "|"
  | .shl => "<<"
  | .shr => ">>"

def RelationalOp.symbol : RelationalOp → String
  | .eq => "=="
  | .neq => "!="
  | .le => "<="
  | .ge => ">="
  | .lt => "<"
  | .gt => ">"
  | .isMatch => "=~"
  | .noMatch => "!~"

def ArithmeticOp.symbol : ArithmeticOp → String
  | .add => "+"
  | .sub => "-"
  | .mul => "*"
  | .div => "/"
  | .rem => "%"
  | .pow => "**"

def UnaryOp.symbol : UnaryOp → String
  | .not => "!"
  | .bitNot => "~"

/-- Everything that can stand between two operands.  `choice` is the conditional `? :`, whose
middle is an expression of its own. -/
inductive InfixOp
  | fallback
  | choice
  | logical (op : LogicalOp)
  | bitwise (op : BitwiseOp)
  | relational (op : RelationalOp)
  | arithmetic (op : ArithmeticOp)
  deriving DecidableEq

namespace InfixOp

/-- How tightly an operator binds; a higher level binds tighter. -/
def level : InfixOp → Nat
  | .fallback | .choice => 10
  | .logical .or => 20
  | .logical .and => 30
  | .bitwise .or => 40
  | .bitwise .and => 50
  | .relational .eq | .relational .neq | .relational .isMatch | .relational .noMatch => 60
  | .relational _ => 70
  | .bitwise _ => 80
  | .arithmetic .add | .arithmetic .sub => 90
  | .arithmetic .pow => 120
  | .arithmetic _ => 100

/-- Whether equal operators group from the right. -/
def rightAssociative : InfixOp → Bool
  | .fallback | .choice | .arithmetic .pow => true
  | _ => false

/-- The level down to which the right operand extends: one below the operator's own when it
groups from the right. -/
def rightLevel (op : InfixOp) : Nat :=
  if op.rightAssociative then op.level - 1 else op.level

end InfixOp

/-- The level of the unary operators: tighter than `*`, looser than `**`. -/
def UnaryOp.level : Nat := 110

/-- The level of field, index and call steps, tighter than every operator. -/
def InfixOp.stepLevel : Nat := 130

end ExprLang
