import ExprLang.Eval.Failure
import ExprLang.Tree.ParseError

/-!
# ExprLang.Error.Basic

Errors as users meet them: what went wrong, in which phase, and the place and the text if they are
known.
-/

namespace ExprLang

/-- An error. -/
structure Error where
  kind : ErrorKind
  message : String
  /-- The phase that raised the error. -/
  origin : Option String
  position : Option Position
  /-- The text that the place belongs to. -/
  source : Option String
  deriving DecidableEq

namespace Error

/-- The error of a text that is no expression. -/
def ofParse (source : String) (e : ParseError) : Error :=
  ⟨.parse, e.message, some "parse", some e.position, some source⟩

/-- The error of an evaluation that fails. -/
def ofFailure (source : String) (f : Failure) : Error :=
  ⟨f.cause.kind, f.cause.message, some f.cause.origin, some f.position, some source⟩

/-- The error in one line. -/
def display (e : Error) : String :=
  match e.position with
  | some p => e.kind.name ++ ": " ++ p.describe ++ ": " ++ e.message
  | none => e.kind.name ++ ": " ++ e.message

end Error

end ExprLang
