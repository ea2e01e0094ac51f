import ExprLang.Number.Numeral
import ExprLang.Value.Basic

/-!
# ExprLang.Value.Property

The properties of containers.  A map has its entries; an array has its items under their decimal
places, counted from zero, and its length under `length`.
-/

namespace ExprLang.Value

/-- The place that a key of decimal digits names. -/
def indexOf? (key : String) : Option Nat :=
  let digits := key.toList
  if digits ≠ [] ∧ digits.all isDecimalDigit then some (decimalNat digits) else none

/-- The property of a value under a key, if it has it. -/
def property? (v : Value) (key : String) : Option Value :=
  match v with
  | map entries => Entries.get? key entries
  | array items =>
    if key = "length" then some (ofNat items.length)
    else (indexOf? key).bind fun i => items[i]?
  | _ => none

end ExprLang.Value
