import ExprLang.Proofs.Source.Nesting
import ExprLang.Proofs.Tree.Several

/-!
# ExprLang.Proofs.Tree.Single

Texts of one statement.  What the statement stands for is the tree of the text
(`parseWithin_of_takes`), and where something is left behind the first statement that is no
semicolon, the text has no tree (`exists_parseWithin_error`).
-/

namespace ExprLang

open ExprLang.Language Pattern

/-- Whether a text is a single expression: one statement and nothing else, and no assignment. -/
def isExpression (text : List Char) : Bool :=
  match (all [.text [], statement, .stop]).read (readExpression (text.length + 1)) .open .empty
    ⟨.ofText text, []⟩ with
  | ⟨_, some ⟨_, [t]⟩⟩ => t.rule = .expression
  | _ => false

/-! ## The token of the text -/

variable {n : Reader} {l : List Char} {s t u v : Token} {k k' : Cursor} {node : Node}

/-- Where no semicolon follows, a statement is all the statements there are. -/
theorem accepts_statements {k₀ : Cursor} {ts : List Token} (h : statement.Accepts n .open k₀ ts k)
    (hsemicolon : (word ";").Rejects n .open (k.skip .free)) : ∃ s, s.rule = .statements ∧
      s.inner = ts.reverse ∧ statements.Accepts n .open k₀ [s] (k.skip .free) := by
  have hmany : (Pattern.many (.seq (word ";") statement)).Accepts n .open (k.skip .free) []
      (k.skip .free) :=
    accepts_many (.done (by rw [Cursor.skip_skip]; exact rejects_seq hsemicolon)) k.skip_skip
  have hmaybe : (Pattern.maybe (word ";")).Accepts n .open ((k.skip .free).skip .free) []
      (k.skip .free) := by
    rw [Cursor.skip_skip]
    exact accepts_maybe_nil hsemicolon
  exact ⟨_, rfl, rfl, accepts_rule rfl (accepts_seq h (accepts_seq hmany hmaybe))⟩

/-- Where something else than a semicolon is left behind the first statement, there is no program. -/
theorem rejects_program {ts : List Token}
    (h : statement.Accepts n .open ((Cursor.ofText l).skip .free) ts k) {c : Char}
    (hc : (k.skip .free).rest.head? = some c) (hne : c ≠ ';') :
    program.Rejects n .open (.ofText l) := by
  obtain ⟨l', hl'⟩ := List.head?_eq_some_iff.mp hc
  have hsemicolon : (word ";").Rejects n .open (k.skip .free) := by
    refine rejects_text_iff.mpr fun hpre => hne ?_
    rw [hl'] at hpre
    exact (List.cons_prefix_cons.mp hpre).1.symm
  obtain ⟨s, -, -, hstatements⟩ := accepts_statements h hsemicolon
  have hstop : Pattern.stop.Rejects n .open ((k.skip .free).skip .free) := by
    rw [Cursor.skip_skip]
    exact fun a us => ⟨a, by rw [read_stop, hl']⟩
  exact rejects_rule (rejects_seq_right (accepts_nothing _)
    (rejects_seq_right hstatements (rejects_rule hstop)))

/-- The tree of a program of one statement is that of the statement. -/
theorem Token.build_program (hr : t.rule = .program) (ht : t.inner = [s, v])
    (hr' : s.rule = .statements) (hs : s.inner = [u]) (limit depth : Nat) :
    t.build limit depth = u.build limit depth := by
  obtain ⟨r, start, length, inner⟩ := t
  obtain ⟨r', start', length', inner'⟩ := s
  obtain rfl : r = .program := hr
  obtain rfl : r' = .statements := hr'
  obtain rfl : inner = [_, v] := ht
  obtain rfl : inner' = [u] := hs
  rw [build, buildFirst, build, buildAll, buildAll]
  cases u.build limit depth with
  | ok m => rfl
  | error e => rfl

/-- The token of a text with a single statement. -/
theorem exists_tokenOf
    (h : statement.Accepts (readExpression (l.length + 1)) .open ((Cursor.ofText l).skip .free)
      [u] k)
    (hk : (k.skip .free).rest = []) :
    ∃ t, tokenOf l = .ok t ∧ ∀ limit depth, t.build limit depth = u.build limit depth := by
  obtain ⟨s, hr, hs, hstatements⟩ :=
    accepts_statements h (rejects_text_iff.mpr (by rw [hk]; decide))
  rw [← k.skip_skip] at hk
  obtain ⟨t, v, htoken, hr', ht⟩ := exists_tokenOf_of_statements hstatements hk
  exact ⟨t, htoken, Token.build_program hr' ht hr hs⟩

/-- A single expression is read by the rule for expressions, and is all there is. -/
theorem exists_of_isExpression (h : isExpression l = true) :
    ∃ u k, expression.Accepts (readExpression l.length) .open ((Cursor.ofText l).skip .free) [u] k ∧
      statement.Accepts (readExpression (l.length + 1)) .open ((Cursor.ofText l).skip .free) [u] k ∧
      (k.skip .free).rest = [] := by
  have hn := settled_readExpression (l.length + 1)
  unfold isExpression at h
  split at h
  · next a k t hread =>
    obtain ⟨ts, hacc, hts⟩ := (accepts_or_rejects hn _).accepts_of_read hread
    obtain ⟨_, _, _, hempty, hrest, rfl⟩ := (accepts_seq_iff hn).mp hacc
    obtain ⟨_, _, k₁, hstatement, hstop, rfl⟩ := (accepts_seq_iff hn).mp hrest
    obtain ⟨hnil, rfl, -⟩ := accepts_stop_iff.mp hstop
    obtain ⟨rfl, rfl⟩ := hempty.unique (accepts_nothing _)
    obtain rfl : _ = [t] := by simpa using hts.symm
    refine ⟨t, k₁, accepts_recurse_iff.mp ?_, hstatement, hnil⟩
    rcases (accepts_either_iff hn).mp hstatement with hassignment | ⟨-, hrecurse⟩
    · -- the token of an assignment is no expression
      obtain ⟨_, -, htoken⟩ := (accepts_rule_iff hn).mp hassignment
      cases htoken
      simp [Token.rule] at h
    · exact hrecurse
  · cases h

/-! ## The tree of the text -/

theorem deepOpener?_of_length_le {limit : Nat} (h : l.length ≤ limit) :
    deepOpener? limit l = none := by
  rw [deepOpener?_eq_none_iff]
  have hpeak := Scan.initial.peak_le_length l
  have hzero : Scan.initial.opened.length = 0 := rfl
  omega

variable {source : String}

/-- Unless its brackets nest too deeply, the tree of a text of one statement is that of the
statement. -/
theorem exists_parseWithin_eq_build {T : Token → Prop}
    (h : statement.TakesOne (readExpression (source.toList.length + 1)) (pastBlanks source.toList)
      [] T) :
    ∃ u, T u ∧ ∀ limit, deepOpener? limit source.toList = none →
      parseWithin limit source = u.build limit 0 := by
  obtain ⟨_, k, hacc, hrest, -, u, rfl, hu⟩ := h _ (Cursor.rest_skip (.ofText source.toList))
  obtain ⟨t, htoken, hbuild⟩ := exists_tokenOf hacc hrest
  refine ⟨u, hu, fun limit hopener => ?_⟩
  simp only [parseWithin, hopener, htoken]
  exact hbuild limit 0

/-- What the only statement of a text stands for is the tree of the text. -/
theorem parseWithin_of_takes
    (h : statement.TakesOne (readExpression (source.toList.length + 1)) (pastBlanks source.toList)
      [] (·.Means node)) :
    ∃ d, ∀ limit, d ≤ limit → ∃ n, parseWithin limit source = .ok n ∧ n.unplaced = node := by
  obtain ⟨u, ⟨-, d, hd⟩, hbuild⟩ := exists_parseWithin_eq_build h
  refine ⟨max d source.toList.length, fun limit hlimit => ?_⟩
  obtain ⟨n, hn, hunplaced⟩ := hd limit 0 (by omega)
  exact ⟨n, (hbuild limit (deepOpener?_of_length_le (by omega))).trans hn, hunplaced⟩

/-- The tree of a text that is a single expression is that of its token. -/
theorem exists_of_parseWithin {limit : Nat} (hexpression : isExpression source.toList = true)
    (h : parseWithin limit source = .ok node) :
    ∃ u k, expression.Accepts (readExpression source.toList.length) .open
        ((Cursor.ofText source.toList).skip .free) [u] k ∧
      (k.skip .free).rest = [] ∧ u.build limit 0 = .ok node := by
  obtain ⟨u, k, hacc, hstatement, hrest⟩ := exists_of_isExpression hexpression
  obtain ⟨t, htoken, hbuild⟩ := exists_tokenOf hstatement hrest
  refine ⟨u, k, hacc, hrest, ?_⟩
  rw [← hbuild]
  simp only [parseWithin, htoken] at h
  split at h
  · cases h
  · exact h

/-- Where something else than a semicolon is left behind the first statement, there is no tree. -/
theorem exists_parseWithin_error {l' : List Char} {Q : List Token → Prop} {c : Char}
    (h : statement.Takes (readExpression (source.toList.length + 1)) (pastBlanks source.toList)
      l' Q)
    (hc : l'.head? = some c) (hne : c ≠ ';') (limit : Nat) :
    ∃ e, parseWithin limit source = .error e := by
  obtain ⟨ts, k, hacc, rfl, -, -⟩ := h _ (Cursor.rest_skip (.ofText source.toList))
  obtain ⟨a, hread⟩ := rejects_program hacc hc hne .empty []
  have hprogram : readProgram source.toList = ⟨a, none⟩ := hread
  have htoken : ∃ e, tokenOf source.toList = .error e := by
    unfold tokenOf
    rw [hprogram]
    exact ⟨_, rfl⟩
  obtain ⟨e, he⟩ := htoken
  simp only [parseWithin, he]
  cases deepOpener? limit source.toList with
  | some p => exact ⟨_, rfl⟩
  | none => exact ⟨_, rfl⟩

end ExprLang
