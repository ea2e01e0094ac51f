/-!
# ExprLang.Text.CaseRun

Mappings of characters to characters, as runs that shift their characters by a fixed distance.
-/

namespace ExprLang

/-- The characters `first`, `first + step`, … up to `last`, each mapped to the character that lies
`distance` further. -/
structure CaseRun where
  first : Nat
  last : Nat
  step : Nat
  distance : Int

/-- Where `n` goes, if the run holds it. -/
def CaseRun.image? (r : CaseRun) (n : Nat) : Option Nat :=
  if r.first ≤ n ∧ n ≤ r.last ∧ (n - r.first) % r.step = 0 then some (n + r.distance).toNat
  else none

/-- What the run maps to `n`, if anything. -/
def CaseRun.source? (r : CaseRun) (n : Nat) : Option Nat :=
  let m := ((n : Int) - r.distance).toNat
  if r.image? m = some n then some m else none

/-- Applies the first run that holds `n`. -/
def mapRuns (runs : List CaseRun) (n : Nat) : Nat :=
  (runs.findSome? (·.image? n)).getD n

end ExprLang
