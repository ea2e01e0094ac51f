import ExprLang.Grammar.Attempts
import ExprLang.Literal.Escape
import ExprLang.RegExp.Basic
import ExprLang.Source.Position

/-!
# ExprLang.Tree.ParseError

What can be wrong with the text of an expression, and where.
-/

namespace ExprLang

/-- Why a text is no expression. -/
inductive ParseCause
  /-- Something else was expected. -/
  | unexpected (expected : List String)
  /-- Brackets or operators nest deeper than the limit. -/
  | tooDeep (limit : Nat)
  | stringEscape (e : EscapeError)
  | templateEscape (e : EscapeError)
  | regexp (e : RegExpError)
  /-- Tokens that the grammar does not leave. -/
  | malformed
  deriving DecidableEq

/-- A fault in a text and its place. -/
structure ParseError where
  cause : ParseCause
  position : Position
  deriving DecidableEq

/-- The wording of a fault. -/
def ParseCause.message : ParseCause → String
  | .unexpected [] => "unexpected input"
  | .unexpected names => "expected " ++ String.intercalate ", " names
  | .tooDeep limit => s!"Expression nesting depth exceeds maximum of {limit} levels."
  | .stringEscape e => "Invalid string literal: " ++ e.message
  | .templateEscape e => "Invalid template: " ++ e.message
  | .regexp e => e.message
  | .malformed => "malformed expression"

def ParseError.message (e : ParseError) : String := e.cause.message

end ExprLang
