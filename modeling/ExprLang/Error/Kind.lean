/-!
# ExprLang.Error.Kind

The kinds of errors that users of the language meet.
-/

namespace ExprLang

/-- The kinds of errors. -/
inductive ErrorKind
  /-- The text is no expression. -/
  | parse
  /-- No variable or function of a name. -/
  | unknownVariable
  /-- A property of something that has none. -/
  | propertyAccess
  /-- A call of something that is no function. -/
  | notCallable
  /-- A value that cannot be converted. -/
  | coercion
  /-- A tree that no text has. -/
  | internal
  /-- A function that failed. -/
  | function
  deriving DecidableEq

def ErrorKind.name : ErrorKind → String
  | .parse => "ParseError"
  | .unknownVariable => "UnknownVariableError"
  | .propertyAccess => "PropertyAccessError"
  | .notCallable => "NotCallableError"
  | .coercion => "CoercionError"
  | .internal => "InternalError"
  | .function => "FunctionError"

end ExprLang
