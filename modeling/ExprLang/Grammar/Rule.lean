import ExprLang.Tree.Operator

/-!
# ExprLang.Grammar.Rule

The named rules of the grammar.  A rule shows up in two ways: as the label of a token, and, when
the text ends the wrong way, as one of the things that a syntax error says were expected
(`Rule.describe`).
-/

namespace ExprLang

/-- The named rules of the grammar.  Steps and calls carry whether they are written with `?.`. -/
inductive Rule
  | program
  | statements
  | assignment
  | expression
  | unary (op : UnaryOp)
  | between (op : InfixOp)
  | field (optional : Bool)
  | index (optional : Bool)
  | call (optional : Bool)
  | grouped
  | array
  | object
  | objectItem
  | computedKey
  | number
  | hexadecimal
  | octal
  | binary
  | decimal
  | string
  | doubleQuoted
  | singleQuoted
  | regexp
  | regexpBody
  | regexpFlags
  | template
  | templateText
  | templateHole
  | literal
  | variable
  | keyword
  | identifier
  | name
  | endOfText
  deriving DecidableEq

/-- What a syntax error calls a rule. -/
def Rule.describe : Rule → String
  | .endOfText => "end of input"
  | .expression | .grouped | .statements | .templateHole => "expression"
  | .array => "array"
  | .object | .objectItem | .computedKey => "object"
  | .number | .hexadecimal | .octal | .binary | .decimal => "number"
  | .string | .doubleQuoted | .singleQuoted => "string"
  | .regexp | .regexpBody | .regexpFlags => "regular expression"
  | .template | .templateText => "template"
  | .literal => "literal"
  | .variable | .identifier | .name | .keyword => "name"
  | .assignment => "assignment"
  | .unary _ => "prefix operator"
  | .field _ | .index _ | .call _ => "postfix operator"
  | .program | .between _ => "operator"

end ExprLang
