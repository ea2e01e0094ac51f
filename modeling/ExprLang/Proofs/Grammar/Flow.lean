import ExprLang.Grammar.Language
import ExprLang.Proofs.Grammar.Accepts
import ExprLang.Proofs.Source.Blanks

/-!
# ExprLang.Proofs.Grammar.Flow

An expression is read as a flat run: operators before an operand, the operand, steps after it, an
operator, and so on.  `Flow` is such a run, one token after the other, and says nothing of the loops
that the grammar reads it by; `Flow.accepts_expression` says that those loops read it.
-/

namespace ExprLang

open ExprLang.Language Pattern

/-! ## Skipping -/

theorem blankLength_drop (l : List Char) : blankLength (l.drop (blankLength l)) = 0 := by
  obtain ⟨-, -, -, hzero⟩ := (between_code [] false l).walk_skip (by decide)
  exact hzero

theorem Cursor.blankLength_skip (k : Cursor) : blankLength (k.skip .free).rest = 0 := by
  rw [Cursor.rest_skip_free]
  exact blankLength_drop k.rest

theorem Cursor.skip_skip (k : Cursor) : (k.skip .free).skip .free = k.skip .free :=
  skip_eq_self k.blankLength_skip .free

/-! ## Runs -/

/-- A run of tokens from `k` to `k'`, both without blanks ahead; the flag tells whether an operand
was read last.  Each token is longer than nothing, and comes where the loops before it end. -/
inductive Flow (n : Reader) : Bool → Cursor → List Token → Cursor → Prop
  | done {k : Cursor} : Flow n true k [] k
  | step {k k₁ k' : Cursor} {ts us : List Token} : steps.Accepts n .open k ts k₁ →
      k₁.rest.length < k.rest.length → Flow n true (k₁.skip .free) us k' →
      Flow n true k (us ++ ts) k'
  | operator {k k₁ k' : Cursor} {ts us : List Token} : steps.Rejects n .open k →
      infixOps.Accepts n .open k ts k₁ → k₁.rest.length < k.rest.length →
      Flow n false (k₁.skip .free) us k' → Flow n true k (us ++ ts) k'
  | unary {k k₁ k' : Cursor} {ts us : List Token} : unaryOps.Accepts n .open k ts k₁ →
      k₁.rest.length < k.rest.length → Flow n false (k₁.skip .free) us k' →
      Flow n false k (us ++ ts) k'
  | operand {k k₁ k' : Cursor} {ts us : List Token} : unaryOps.Rejects n .open k →
      operand.Accepts n .open k ts k₁ → k₁.rest.length < k.rest.length →
      Flow n true (k₁.skip .free) us k' → Flow n false k (us ++ ts) k'

/-- An operator and the operand after it, with the operators before that and the steps after it. -/
def operatorRun : Pattern := all [infixOps, .many unaryOps, operand, .many steps]

/-- Operators with their operands that lead on to `k'`, wherever between the blanks one begins. -/
def RunsOn (n : Reader) (k : Cursor) (ts : List Token) (k' : Cursor) : Prop :=
  ∀ k₀, k₀.skip .free = k.skip .free →
    ∃ k₁, Repeats n operatorRun .open k₀ ts k₁ ∧ k₁.skip .free = k'

/-- The rest of a run where an operand was read last: some steps, then operators with operands. -/
def AfterOperand (n : Reader) (k : Cursor) (ts : List Token) (k' : Cursor) : Prop :=
  ∀ k₀, k₀.skip .free = k →
    ∃ us vs k₁, Repeats n steps .open k₀ us k₁ ∧ RunsOn n k₁ vs k' ∧ ts = vs ++ us

/-- The rest of a run where an operand is to come: some operators, the operand and its steps, then
operators with operands. -/
def BeforeOperand (n : Reader) (k : Cursor) (ts : List Token) (k' : Cursor) : Prop :=
  ∀ k₀, k₀.skip .free = k →
    ∃ us os ss vs k₁ k₂ k₃, Repeats n unaryOps .open k₀ us k₁ ∧
      operand.Accepts n .open (k₁.skip .free) os k₂ ∧ Repeats n steps .open (k₂.skip .free) ss k₃ ∧
      k₃.rest.length < k₀.rest.length ∧ RunsOn n k₃ vs k' ∧ ts = vs ++ (ss ++ (os ++ us))

variable {n : Reader} {k k₁ k' : Cursor} {ts us : List Token}

theorem length_le_of_skip_eq {k₀ : Cursor} (h : k₀.skip .free = k) :
    k.rest.length ≤ k₀.rest.length := by
  rw [← h]
  exact k₀.length_rest_skip

/-- Repetitions of `x` between blanks, as the grammar writes them. -/
theorem accepts_many_skip {x : Pattern} (h : Repeats n x .open (k.skip .free) ts k') :
    (Pattern.many x).Accepts n .open (k.skip .free) ts k' :=
  accepts_many h k.skip_skip

theorem AfterOperand.done (hsteps : steps.Rejects n .open k)
    (hops : infixOps.Rejects n .open k) : AfterOperand n k [] k := by
  intro k₀ h₀
  refine ⟨[], [], k₀, .done (by rw [h₀]; exact hsteps), fun k₁ h₁ => ?_, rfl⟩
  rw [h₀] at h₁
  refine ⟨k₁, .done ?_, h₁⟩
  rw [h₁]
  exact rejects_seq hops

theorem AfterOperand.step (hstep : steps.Accepts n .open k ts k₁)
    (hlt : k₁.rest.length < k.rest.length) (h : AfterOperand n (k₁.skip .free) us k') :
    AfterOperand n k (us ++ ts) k' := by
  intro k₀ h₀
  obtain ⟨vs, ws, k₂, hrep, hon, rfl⟩ := h k₁ rfl
  have hle := length_le_of_skip_eq h₀
  refine ⟨vs ++ ts, ws, k₂, .next (by rw [h₀]; exact hstep) (by omega) hrep, hon, ?_⟩
  rw [List.append_assoc]

theorem AfterOperand.operator (hsteps : steps.Rejects n .open k)
    (hop : infixOps.Accepts n .open k ts k₁) (hlt : k₁.rest.length < k.rest.length)
    (h : BeforeOperand n (k₁.skip .free) us k') : AfterOperand n k (us ++ ts) k' := by
  intro k₀ h₀
  refine ⟨[], us ++ ts, k₀, .done (by rw [h₀]; exact hsteps), fun k₂ h₂ => ?_,
    (List.append_nil _).symm⟩
  rw [h₀] at h₂
  obtain ⟨vs, os, ss, xs, k₃, k₄, k₅, hunary, hoperand, hss, hlt₅, hon, rfl⟩ := h _ k₁.skip_skip
  have hrun : operatorRun.Accepts n .open k (((ss ++ os) ++ vs) ++ ts) k₅ :=
    accepts_seq hop (accepts_seq (accepts_many_skip hunary)
      (accepts_seq hoperand (accepts_many_skip hss)))
  obtain ⟨k₆, hrep, h₆⟩ := hon k₅ rfl
  have hle := length_le_of_skip_eq h₂
  have hle₁ := k₁.length_rest_skip
  refine ⟨k₆, ?_, h₆⟩
  rw [List.append_assoc xs, ← List.append_assoc ss]
  exact .next (by rw [h₂]; exact hrun) (by omega) hrep

theorem BeforeOperand.unary (hop : unaryOps.Accepts n .open k ts k₁)
    (hlt : k₁.rest.length < k.rest.length) (h : BeforeOperand n (k₁.skip .free) us k') :
    BeforeOperand n k (us ++ ts) k' := by
  intro k₀ h₀
  obtain ⟨vs, os, ss, xs, k₂, k₃, k₄, hunary, hoperand, hss, hlt₄, hon, rfl⟩ := h k₁ rfl
  have hle := length_le_of_skip_eq h₀
  refine ⟨vs ++ ts, os, ss, xs, k₂, k₃, k₄, .next (by rw [h₀]; exact hop) (by omega) hunary,
    hoperand, hss, by omega, hon, ?_⟩
  simp only [List.append_assoc]

theorem BeforeOperand.operand (hops : unaryOps.Rejects n .open k)
    (hoperand : operand.Accepts n .open k ts k₁) (hlt : k₁.rest.length < k.rest.length)
    (h : AfterOperand n (k₁.skip .free) us k') : BeforeOperand n k (us ++ ts) k' := by
  intro k₀ h₀
  obtain ⟨vs, ws, k₂, hsteps, hon, rfl⟩ := h _ k₁.skip_skip
  have hle := length_le_of_skip_eq h₀
  have hle₁ := k₁.length_rest_skip
  have hle₂ := hsteps.length_le
  refine ⟨[], ts, vs, ws, k₀, k₁, k₂, .done (by rw [h₀]; exact hops), by rw [h₀]; exact hoperand,
    hsteps, by omega, hon, ?_⟩
  rw [List.append_nil, List.append_assoc]

/-- A run is what the loops of the grammar read, if neither a step nor an operator follows. -/
theorem Flow.loops {b : Bool} (h : Flow n b k ts k') (hsteps : steps.Rejects n .open k')
    (hops : infixOps.Rejects n .open k') :
    if b then AfterOperand n k ts k' else BeforeOperand n k ts k' := by
  induction h with
  | done => exact .done hsteps hops
  | step hstep hlt _ ih => exact .step hstep hlt (ih hsteps hops)
  | operator hnone hop hlt _ ih => exact .operator hnone hop hlt (ih hsteps hops)
  | unary hop hlt _ ih => exact .unary hop hlt (ih hsteps hops)
  | operand hnone hoperand hlt _ ih => exact .operand hnone hoperand hlt (ih hsteps hops)

/-- The token of an expression from `k` to `k'` with the tokens `ts` inside, the latest first. -/
def expressionToken (k k' : Cursor) (ts : List Token) : Token :=
  .mk .expression k (k'.offset - k.offset) ts.reverse

/-- A run is read as an expression, if neither a step nor an operator follows. -/
theorem Flow.accepts_expression (h : Flow n false k ts k') (hk : k.skip .free = k)
    (hsteps : steps.Rejects n .open k') (hops : infixOps.Rejects n .open k') :
    ∃ k₁, k₁.skip .free = k' ∧ k₁.rest.length < k.rest.length ∧
      expression.Accepts n .open k [expressionToken k k₁ ts] k₁ := by
  obtain ⟨us, os, ss, vs, k₁, k₂, k₃, hunary, hoperand, hss, hlt, hon, rfl⟩ :=
    h.loops hsteps hops k hk
  obtain ⟨k₄, hrep, h₄⟩ := hon (k₃.skip .free) k₃.skip_skip
  have hunary' : (Pattern.many unaryOps).Accepts n .open k us k₁ := accepts_many hunary hk
  have hbody := accepts_seq hunary' (accepts_seq hoperand
    (accepts_seq (accepts_many_skip hss) (accepts_many_skip hrep)))
  have hle := hrep.length_le
  have hle₃ := k₃.length_rest_skip
  refine ⟨k₄, h₄, by omega, accepts_rule rfl ?_⟩
  rw [← List.append_assoc ss, ← List.append_assoc vs, ← List.append_assoc vs]
  exact hbody

end ExprLang
