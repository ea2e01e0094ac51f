/-!
# ExprLang.Text.CharClass

Classes of characters given by their bounds: a class holds the characters from the first bound up
to but not including the second, from the third up to the fourth, and so on.  A character belongs
to the class when an odd number of bounds lies at or below it.
-/

namespace ExprLang

/-- The number of the indices from `lo` to `hi` (and all those below `lo`) at which the increasing
function `bound` is at most `n`, by bisection; `fuel` bounds the number of steps. -/
def boundsBelow (bound : Nat → Nat) (n : Nat) : (fuel lo hi : Nat) → Nat
  | 0, lo, _ => lo
  | fuel + 1, lo, hi =>
    if lo < hi then
      let mid := (lo + hi) / 2
      if bound mid ≤ n then boundsBelow bound n fuel (mid + 1) hi
      else boundsBelow bound n fuel lo mid
    else lo

/-- A class of characters, by its sorted bounds. -/
structure CharClass where
  bounds : Array Nat

/-- Whether `c` belongs to the class. -/
def CharClass.has (k : CharClass) (c : Char) : Bool :=
  boundsBelow (fun i => k.bounds.getD i 0) c.toNat k.bounds.size 0 k.bounds.size % 2 == 1

end ExprLang
