import ExprLang.Error.Kind
import ExprLang.Function.Error
import ExprLang.Tree.Node

/-!
# ExprLang.Eval.Failure

Why an evaluation can fail.  Each cause belongs to a kind of error and to a phase of the evaluation,
its origin.
-/

namespace ExprLang

/-- Why an evaluation fails. -/
inductive FailureCause
  | unknownVariable (name : String)
  | unknownFunction (name : String)
  /-- `.name` on a value of a type without properties. -/
  | noProperty (name type : String)
  /-- `[key]` on a value of a type without properties. -/
  | noIndex (type : String)
  /-- A call of a value of another type. -/
  | notCallable (type : String)
  /-- The right operand of a match is no regular expression. -/
  | pattern (e : RegExpError)
  /-- The function called has failed. -/
  | function (e : FunctionError)
  /-- An assignment to something that is no name. -/
  | target
  /-- Something other than an item in an object. -/
  | misplaced (kind : NodeKind)
  deriving DecidableEq

namespace FailureCause

def kind : FailureCause → ErrorKind
  | unknownVariable _ | unknownFunction _ => .unknownVariable
  | noProperty _ _ | noIndex _ => .propertyAccess
  | notCallable _ => .notCallable
  | pattern _ => .coercion
  | function _ => .function
  | target | misplaced _ => .internal

/-- The phase of the evaluation that fails. -/
def origin : FailureCause → String
  | unknownVariable _ => "variable"
  | unknownFunction _ | notCallable _ | function _ => "call"
  | noProperty _ _ | noIndex _ => "select"
  | pattern _ => "match"
  | target => "assignment"
  | misplaced _ => "object"

/-- The wording of the failure. -/
def message : FailureCause → String
  | unknownVariable name => "unknown variable \"" ++ name ++ "\""
  | unknownFunction name => "unknown function \"" ++ name ++ "\""
  | noProperty name type => "cannot read property \"" ++ name ++ "\" of " ++ type
  | noIndex type => "cannot index into " ++ type
  | notCallable type => type ++ " is not a function"
  | pattern e => e.message
  | function e => e.message
  | target => "assignment target must be a name"
  | misplaced kind => "unexpected " ++ kind.name ++ " in object literal"

end FailureCause

/-- A failed evaluation: the cause and the place. -/
structure Failure where
  cause : FailureCause
  position : Position
  deriving DecidableEq

end ExprLang
