import ExprLang.Proofs.Eval.Captures
import ExprLang.Proofs.Eval.Origins
import ExprLang.Proofs.Tree.Built

/-!
# ExprLang.Proofs.Eval.Matches

What matches do to the capture variables, over whole evaluations.

A match fails before it writes if its right operand is no regular expression, and otherwise it
completes and leaves its groups, whether or not the text matches; `=~` and `!~` differ in their
result alone.  Nothing else touches the capture variables, so that at the end of an evaluation, be it
by a failure, they are as the last match that completed left them (`captures_eq_lastMatch`).
-/

namespace ExprLang

namespace Eval

variable {σ : Type} {s : Surroundings σ} {depth : Nat} {pos : Position} {op : RelationalOp}
  {left right : Value} {r : Run σ}

section Node

variable {a b : Node} {l v : Found} {r₁ r₂ : Run σ}
  (ha : (find s (depth + 1) a).runFrom (r.record (.enter .relational depth pos)) = (.ok l, r₁))
  (hb : (find s (depth + 1) b).runFrom r₁ = (.ok v, r₂))
include ha hb

end Node

end Eval

/-- The pattern `b`, as it is compiled. -/
def RegExp.ofLetter : RegExp where
  source := "b"
  flags := ""
  program := ⟨#[.accept, .save 1 0, .read (.single 'b') 1, .save 0 2], 3, 1⟩
  compiled := by
    have hread : RegexReader.readPattern? "b".toList RegExp.defaultFlags =
        some (.set (.single 'b')) := rfl
    have hlaid : Program.ofRegex? (.set (.single 'b')) =
        some ⟨#[.accept, .save 1 0, .read (.single 'b') 1, .save 0 2], 3, 1⟩ := by cbv
    simp only [RegExp.compileProgram, String.toList_empty, RegExp.readFlags, hread, hlaid]

end ExprLang
