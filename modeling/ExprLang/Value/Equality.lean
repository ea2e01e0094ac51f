import ExprLang.Value.Basic

/-!
# ExprLang.Value.Equality

Equality of values: by type and content, containers element by element.  Numbers are compared as
numbers, so zero equals minus zero and what is not a number does not equal itself; functions are
compared by their serial numbers.
-/

namespace ExprLang.Value

mutual

/-- Whether two values are equal. -/
def equals : Value → Value → Bool
  | null, null => true
  | undefined, undefined => true
  | boolean a, boolean b => a == b
  | number x, number y => x == y
  | string s, string t => s == t
  | regexp r, regexp q => r == q
  | array as, array bs => equalItems as bs
  | map es, map fs => equalEntries es fs
  | function f, function g => f.serial == g.serial
  | _, _ => false

/-- Whether two lists of values are equal. -/
def equalItems : List Value → List Value → Bool
  | [], [] => true
  | a :: as, b :: bs => a.equals b && equalItems as bs
  | _, _ => false

/-- Whether two lists of entries are equal. -/
def equalEntries : List (String × Value) → List (String × Value) → Bool
  | [], [] => true
  | (m, a) :: es, (n, b) :: fs => m == n && a.equals b && equalEntries es fs
  | _, _ => false

end

end ExprLang.Value
