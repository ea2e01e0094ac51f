import ExprLang.Grammar.Rule

/-!
# ExprLang.Grammar.Pattern

Parsing expressions: what a rule is made of.  Choice is ordered, repetition takes as much as it
can and never gives back, and `unless` looks ahead without reading.

Three spacings govern what may stand between the parts of a sequence or of a repetition, and
whether the rules inside leave tokens (`Spacing`).  A rule either inherits the spacing it is called
in or fixes one for its body (`RuleKind`).
-/

namespace ExprLang

/-- How the parts of a sequence follow one another. -/
inductive Spacing
  /-- Blanks and comments may stand between the parts. -/
  | free
  /-- The parts are adjacent; rules inside still leave tokens and are named in errors. -/
  | tight
  /-- The parts are adjacent and the rules inside leave no trace. -/
  | sealed
  deriving DecidableEq

/-- How a rule is called and how its body is read. -/
inductive RuleKind
  /-- Takes over the spacing in which it is called. -/
  | plain
  /-- Reads its body sealed, so that it is a token without inner tokens. -/
  | lexeme
  /-- Is tight throughout. -/
  | compact
  /-- Goes back to free spacing, for an expression inside a compact rule. -/
  | spaced
  deriving DecidableEq

namespace RuleKind

/-- The spacing in which the rule counts as called. -/
def outer (kind : RuleKind) (s : Spacing) : Spacing :=
  match kind with
  | .plain | .lexeme => s
  | .compact => .tight
  | .spaced => .free

/-- The spacing of the rule's body. -/
def body (kind : RuleKind) (s : Spacing) : Spacing :=
  match kind with
  | .plain => s
  | .lexeme => .sealed
  | .compact => .tight
  | .spaced => .free

end RuleKind

/-- A parsing expression.  `recurse` stands for the one rule that contains itself. -/
inductive Pattern
  /-- The characters given, one after the other. -/
  | text (s : List Char)
  /-- One character of a class. -/
  | one (p : Char → Bool)
  /-- The end of the text. -/
  | stop
  /-- The first, then the second. -/
  | seq (a b : Pattern)
  /-- The first, or else the second. -/
  | either (a b : Pattern)
  /-- The pattern if it can be read, else nothing. -/
  | maybe (a : Pattern)
  /-- The pattern as often as it can be read. -/
  | many (a : Pattern)
  /-- Succeeds without reading where the pattern cannot be read. -/
  | unless (a : Pattern)
  /-- A named rule. -/
  | rule (r : Rule) (kind : RuleKind) (a : Pattern)
  /-- The rule for expressions, from inside itself. -/
  | recurse

namespace Pattern

/-- The patterns one after the other. -/
def all : List Pattern → Pattern
  | [] => .text []
  | [p] => p
  | p :: ps => .seq p (all ps)

/-- The first of the patterns that can be read. -/
def choice : List Pattern → Pattern
  | [] => .one (fun _ => false)
  | [p] => p
  | p :: ps => .either p (choice ps)

/-- The pattern at least once. -/
def oneOrMore (p : Pattern) : Pattern := .seq p (.many p)

end Pattern

end ExprLang
