import ExprLang.Value.Basic

/-!
# ExprLang.Value.TypePair

Which meaning of an operator applies to two operands.  A text on the left makes it an operation on
texts; a container on the left makes it one on containers unless a text stands on the right; all
else is arithmetic.
-/

namespace ExprLang

/-- The kinds of values that operators tell apart. -/
inductive ValueClass
  | string | array | object
  /-- Numbers, booleans, null, undefined, regular expressions and functions. -/
  | scalar
  deriving DecidableEq

/-- The kinds of operations. -/
inductive TypePair
  | stringAny
  | arrayArray | arrayObject | arrayScalar
  | objectArray | objectObject | objectScalar
  /-- Arithmetic. -/
  | numeric
  deriving DecidableEq

def ValueClass.name : ValueClass → String
  | .string => "String"
  | .array => "Array"
  | .object => "Object"
  | .scalar => "Scalar"

def TypePair.name : TypePair → String
  | .stringAny => "string:any"
  | .arrayArray => "array:array"
  | .arrayObject => "array:object"
  | .arrayScalar => "array:scalar"
  | .objectArray => "object:array"
  | .objectObject => "object:object"
  | .objectScalar => "object:scalar"
  | .numeric => "default"

/-- The kind of a value. -/
def Value.valueClass : Value → ValueClass
  | .string _ => .string
  | .array _ => .array
  | .map _ => .object
  | _ => .scalar

/-- The kind of operation for operands of two kinds. -/
def TypePair.ofClasses : ValueClass → ValueClass → TypePair
  | .string, _ => .stringAny
  | _, .string => .numeric
  | .array, .array => .arrayArray
  | .array, .object => .arrayObject
  | .array, .scalar => .arrayScalar
  | .object, .array => .objectArray
  | .object, .object => .objectObject
  | .object, .scalar => .objectScalar
  | .scalar, _ => .numeric

/-- The kind of operation for two operands. -/
def TypePair.of (left right : Value) : TypePair := ofClasses left.valueClass right.valueClass

end ExprLang
