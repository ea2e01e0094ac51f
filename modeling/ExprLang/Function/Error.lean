/-!
# ExprLang.Function.Error

How a function can fail.
-/

namespace ExprLang

/-- Why a function gave no value. -/
inductive FunctionError
  /-- An argument of the wrong type. -/
  | invalidArgument (function expected : String)
  /-- Whatever the function says itself. -/
  | failed (message : String)
  deriving DecidableEq

/-- The wording of the failure. -/
def FunctionError.message : FunctionError → String
  | .invalidArgument function expected =>
    "invalid argument to function \"" ++ function ++ "\" (" ++ expected ++ " expected)"
  | .failed message => message

end ExprLang
