import ExprLang.RegExp.Basic
import ExprLang.Value.Entries

/-!
# ExprLang.Value.Basic

The values of the language.

A function value is data: the name it was made under, what it does, and a serial number.  Functions
are equal when their serial numbers are, so a function made twice is two functions.  What a host's
function does is known to the host alone; the value only says which one it is.
-/

namespace ExprLang

/-- The functions that come with the language. -/
inductive LibraryFunction
  | count | contains | substr | index | trim | lower | upper
  deriving DecidableEq

/-- What a function does. -/
inductive Behaviour
  | library (f : LibraryFunction)
  /-- The host's function with the number given. -/
  | host (index : Nat)
  deriving DecidableEq

/-- A function value. -/
structure Function where
  name : String
  behaviour : Behaviour
  serial : Nat
  deriving DecidableEq

/-- A value of the language. -/
inductive Value
  | null
  | undefined
  | boolean (b : Bool)
  | number (x : Float)
  | string (s : String)
  | regexp (r : RegExp)
  | array (items : List Value)
  | map (entries : List (String × Value))
  | function (f : Function)

/-- Variables: values under their names. -/
abbrev Bag := Entries Value

namespace Value

instance : Inhabited Value := ⟨undefined⟩

/-- The name of a value's type, as messages give it. -/
def typeName : Value → String
  | null => "null"
  | undefined => "undefined"
  | boolean _ => "boolean"
  | number _ => "number"
  | string _ => "string"
  | regexp _ => "regexp"
  | array _ => "array"
  | map _ => "object"
  | function _ => "function"

/-- Whether a value stands for nothing. -/
def isNullish : Value → Bool
  | null | undefined => true
  | _ => false

/-- Whether a value has properties. -/
def isContainer : Value → Bool
  | array _ | map _ => true
  | _ => false

/-- The number nearest to a natural number. -/
def ofNat (n : Nat) : Value := number (Float.ofNat n)

/-- The number nearest to an integer. -/
def ofInt (n : Int) : Value := number (Float.ofInt n)

end Value

end ExprLang
