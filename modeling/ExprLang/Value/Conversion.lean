import ExprLang.Number.Layout
import ExprLang.Number.Numeral
import ExprLang.Value.Basic

/-!
# ExprLang.Value.Conversion

How a value of one type is taken as a value of another.  Every conversion succeeds but one: a text
that is no regular expression cannot be made one.
-/

namespace ExprLang.Value

/-- Whether a value counts as true. -/
def truthy : Value → Bool
  | null | undefined => false
  | boolean b => b
  | number x => !(x == 0.0 || x.isNaN)
  | string s => !s.isEmpty
  | regexp _ | array _ | map _ | function _ => true

mutual

/-- The text of a value.  An array is its items with commas between them. -/
def stringify : Value → String
  | null | undefined => ""
  | boolean b => if b then "true" else "false"
  | number x => formatNumber x
  | string s => s
  | regexp r => r.text
  | array items => String.intercalate "," (stringifyAll items)
  | map _ => "[object Object]"
  | function f => "[function " ++ f.name ++ "]"

/-- The texts of some values. -/
def stringifyAll : List Value → List String
  | [] => []
  | v :: vs => v.stringify :: stringifyAll vs

end

/-- The number of a value; for an array, that of its text. -/
def toNumber : Value → Float
  | null => 0.0
  | undefined => 0.0 / 0.0
  | boolean b => if b then 1.0 else 0.0
  | number x => x
  | string s => parseNumber s.toList
  | array items => parseNumber (stringify (array items)).toList
  | regexp _ | map _ | function _ => 0.0 / 0.0

/-- The items of a value: those of an array, the names of a map, or the value itself. -/
def toArray : Value → List Value
  | array items => items
  | map entries => entries.map fun e => string e.1
  | v => [v]

/-- The regular expression of a value: itself, or the one that its text spells. -/
def toRegExp : Value → Except RegExpError RegExp
  | regexp r => .ok r
  | v => RegExp.compile v.stringify ""

/-- What a value can be converted to. -/
inductive Target
  | number | string | boolean | regexp | array
  deriving DecidableEq

/-- Converts a value. -/
def convert (v : Value) : Target → Except RegExpError Value
  | .number => .ok (.number v.toNumber)
  | .string => .ok (.string v.stringify)
  | .boolean => .ok (.boolean v.truthy)
  | .regexp => v.toRegExp.map .regexp
  | .array => .ok (.array v.toArray)

end ExprLang.Value
