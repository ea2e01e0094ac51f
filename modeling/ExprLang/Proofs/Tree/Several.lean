import ExprLang.Proofs.Tree.Spelling

/-!
# ExprLang.Proofs.Tree.Several

The statements of a text.

A text is read as a program if its statements are read behind the first blanks, and nothing but blanks
is left behind them (`exists_tokenOf_of_statements`).  The statements are a `Series`: one, and then
more with a semicolon before each; behind the last one there may be another semicolon
(`Cursor.Closes`).
-/

namespace ExprLang

open ExprLang.Language Pattern

variable {n : Reader} {l : List Char} {t : Token} {k k' : Cursor} {ts us : List Token}

/-! ## Repetitions -/

/-- Blanks before a repetition are skipped in any case. -/
theorem Pattern.Repeats.of_skip {x : Pattern} (h : Repeats n x .open (k.skip .free) ts k') :
    ∃ k'', Repeats n x .open k ts k'' ∧ k''.skip .free = k'.skip .free := by
  have hskip : (k.skip .free).skip .free = k.skip .free := k.skip_skip
  generalize hk : k.skip .free = k₀ at h
  cases h with
  | done hrej =>
    subst hk
    rw [show Mode.spacing .open = .free from rfl, hskip] at hrej
    exact ⟨k, .done hrej, hskip.symm⟩
  | next hacc hlt hrep =>
    subst hk
    rw [show Mode.spacing .open = .free from rfl, hskip] at hacc
    exact ⟨k', .next hacc (Nat.lt_of_lt_of_le hlt k.length_rest_skip) hrep, rfl⟩

/-! ## Programs -/

theorem accepts_nothing (k : Cursor) : (Pattern.text []).Accepts n .open k [] k :=
  accepts_text (w := []) rfl

theorem tokenOf_of_accepts
    (h : program.Accepts (readExpression (l.length + 1)) .open (.ofText l) (t :: ts) k) :
    tokenOf l = .ok t := by
  obtain ⟨a, ha⟩ := h .empty []
  have hread : readProgram l = ⟨a, some ⟨k, t :: (ts ++ [])⟩⟩ := ha
  unfold tokenOf
  rw [hread]

theorem exists_accepts_of_tokenOf (h : tokenOf l = .ok t) : ∃ ts k,
    program.Accepts (readExpression (l.length + 1)) .open (.ofText l) (t :: ts) k := by
  unfold tokenOf at h
  split at h
  · next a k t' ts hread =>
    cases h
    obtain ⟨us, hacc, hus⟩ := (accepts_or_rejects (settled_readExpression (l.length + 1))
      program).accepts_of_read hread
    rw [List.append_nil] at hus
    subst hus
    exact ⟨ts, k, hacc⟩
  · cases h

/-- The rule for programs reads the statements behind the first blanks, up to the end. -/
theorem exists_tokenOf_of_statements {s : Token}
    (h : statements.Accepts (readExpression (l.length + 1)) .open ((Cursor.ofText l).skip .free) [s] k)
    (hk : (k.skip .free).rest = []) :
    ∃ t v, tokenOf l = .ok t ∧ t.rule = .program ∧ t.inner = [s, v] := by
  have hstop : Pattern.stop.Accepts (readExpression (l.length + 1)) .open (k.skip .free) []
      (k.skip .free) := accepts_stop hk
  have hend : (Pattern.rule .endOfText .plain .stop).Accepts (readExpression (l.length + 1)) .open
      (k.skip .free) _ _ := accepts_rule rfl hstop
  have hprogram : program.Accepts (readExpression (l.length + 1)) .open (.ofText l) _ _ :=
    accepts_rule rfl (accepts_seq (accepts_nothing _) (accepts_seq h hend))
  exact ⟨_, _, tokenOf_of_accepts hprogram, rfl, rfl⟩

/-- And so is every text that is read. -/
theorem exists_statements_of_tokenOf (h : tokenOf l = .ok t) : ∃ s v k, t.rule = .program ∧
    t.inner = [s, v] ∧
    statements.Accepts (readExpression (l.length + 1)) .open ((Cursor.ofText l).skip .free) [s] k ∧
    (k.skip .free).rest = [] := by
  have hn := settled_readExpression (l.length + 1)
  obtain ⟨ts, k₀, hacc⟩ := exists_accepts_of_tokenOf h
  obtain ⟨vs, hbody, htoken⟩ := (accepts_rule_iff hn).mp hacc
  obtain ⟨_, _, k₁, hempty, hrest, rfl⟩ := (accepts_seq_iff hn).mp hbody
  obtain ⟨rfl, rfl⟩ := hempty.unique (accepts_nothing _)
  obtain ⟨ss, es, k, hstatements, hend, rfl⟩ := (accepts_seq_iff hn).mp hrest
  obtain ⟨es', hstop, rfl⟩ := (accepts_rule_iff hn).mp hend
  obtain ⟨hnil, rfl, rfl⟩ := accepts_stop_iff.mp hstop
  obtain ⟨us', hbody', rfl⟩ := (accepts_rule_iff hn).mp hstatements
  obtain ⟨rfl, -⟩ := List.cons.inj htoken
  exact ⟨_, _, k, rfl, rfl, hstatements, hnil⟩

/-! ## Statements -/

/-- Statements with semicolons between them, up to where no semicolon follows that has a statement
behind it. -/
def Series (n : Reader) (k : Cursor) (ts : List Token) (k' : Cursor) : Prop :=
  ∃ us vs k₁, statement.Accepts n .open k us k₁ ∧
    Repeats n (.seq (word ";") statement) .open (k₁.skip .free) vs k' ∧ ts = vs ++ us

/-- Nothing but blanks is ahead, or nothing but a semicolon between blanks. -/
def Cursor.Closes (k : Cursor) : Prop :=
  (k.skip .free).rest = [] ∨ ∃ l, (k.skip .free).rest = ';' :: l ∧ pastBlanks l = []

/-- The rule for statements reads a series and a semicolon behind it. -/
theorem Series.accepts_statements (h : Series n k ts k') (hk' : k'.Closes) :
    ∃ s k₁, statements.Accepts n .open k [s] k₁ ∧ (k₁.skip .free).rest = [] ∧
      s.rule = .statements ∧ s.inner = ts.reverse := by
  obtain ⟨us, vs, k₁, hstatement, hrep, rfl⟩ := h
  have hmany := accepts_many hrep k₁.skip_skip
  have hlast : ∃ k₂, (Pattern.maybe (word ";")).Accepts n .open (k'.skip .free) [] k₂ ∧
      (k₂.skip .free).rest = [] := by
    rcases hk' with hnil | ⟨l, hl, hpast⟩
    · refine ⟨k'.skip .free, accepts_maybe_nil (rejects_text_iff.mpr ?_), ?_⟩
      · rw [hnil]
        decide
      · rw [k'.skip_skip, hnil]
    · refine ⟨(k'.skip .free).advance 1, accepts_maybe (accepts_text (w := [';']) hl), ?_⟩
      rw [Cursor.rest_skip, Cursor.rest_advance, hl]
      exact hpast
  obtain ⟨k₂, hmaybe, hrest⟩ := hlast
  have hseq := accepts_seq hmany hmaybe
  rw [List.nil_append] at hseq
  exact ⟨_, k₂, accepts_rule rfl (accepts_seq hstatement hseq), hrest, rfl, rfl⟩

/-- Whatever statements are read, they are a series. -/
theorem exists_series {s : Token} (hn : n.Settled) (hp : n.Proceeds)
    (h : statements.Accepts n .open k [s] k') (hk' : (k'.skip .free).rest = []) :
    ∃ ts k₁, Series n k ts k₁ ∧ k₁.Closes ∧ s.rule = .statements ∧ s.inner = ts.reverse := by
  obtain ⟨us, hbody, htoken⟩ := (accepts_rule_iff hn).mp h
  obtain rfl := List.singleton_inj.mp htoken
  obtain ⟨us, _, k₁, hstatement, hrest, rfl⟩ := (accepts_seq_iff hn).mp hbody
  obtain ⟨vs, ws, k₂, hmany, hmaybe, rfl⟩ := (accepts_seq_iff hn).mp hrest
  have hrep := (accepts_many_iff hn hp rfl k₁.skip_skip).mp hmany
  rcases (accepts_maybe_iff hn).mp hmaybe with hword | ⟨-, rfl, rfl⟩
  · obtain ⟨⟨l, hl⟩, rfl, rfl⟩ := accepts_text_iff.mp hword
    change ';' :: l = (k₂.skip .free).rest at hl
    refine ⟨vs ++ us, k₂, ⟨us, vs, k₁, hstatement, hrep, rfl⟩, .inr ⟨l, hl.symm, ?_⟩, rfl, rfl⟩
    have hrest : ((k₂.skip .free).advance 1).rest = l := by
      rw [Cursor.rest_advance, ← hl]
      rfl
    rw [← hrest, ← Cursor.rest_skip]
    exact hk'
  · refine ⟨vs ++ us, k₂, ⟨us, vs, k₁, hstatement, hrep, rfl⟩, .inl ?_, rfl, rfl⟩
    rw [← k₂.skip_skip]
    exact hk'

end ExprLang
