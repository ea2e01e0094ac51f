import ExprLang.Grammar.Rule

/-!
# ExprLang.Grammar.Attempts

What a syntax error can say: the furthest place at which a rule was tried in vain, and the rules
tried there.

A rule that fails takes the place of the rules tried inside it at the same place, so that an error
says "expression" and not everything an expression can begin with; but when exactly one rule was
tried inside, that one is kept, being the more telling.
-/

namespace ExprLang

/-- The furthest place at which rules failed, and those rules, the first one tried first. -/
structure Attempts where
  offset : Nat
  rules : List Rule

namespace Attempts

/-- Nothing has failed yet. -/
def empty : Attempts := ⟨0, []⟩

/-- The number of rules that failed at `offset`. -/
def countAt (a : Attempts) (offset : Nat) : Nat :=
  if a.offset = offset then a.rules.length else 0

/-- The rule `r` failed at `offset`, where `before` rules had failed when it began. -/
def fail (a : Attempts) (r : Rule) (offset before : Nat) : Attempts :=
  if a.countAt offset = before + 1 then a
  else if offset = a.offset then ⟨offset, a.rules.take before ++ [r]⟩
  else if a.offset < offset then ⟨offset, [r]⟩
  else a

/-- The wording of the rules that were expected: sorted, each once. -/
def expected (a : Attempts) : List String :=
  ((a.rules.map Rule.describe).mergeSort (fun s t => decide (s ≤ t))).eraseDups

end Attempts

end ExprLang
