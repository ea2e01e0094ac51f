import ExprLang.Proofs.Tree.Atoms

/-!
# ExprLang.Proofs.Tree.Signs

Reading operators and steps.  Many of their signs begin with the sign of another: the grammar tries
the longer one first, and a blank ends the shorter one.
-/

namespace ExprLang

open ExprLang.Language Pattern

variable {n : Reader} {L L' : List Lexeme}

/-! ## Signs that begin alike -/

/-- A sign that does not begin a lexeme does not begin it together with the blank after it. -/
theorem isPrefixOf_spaced_eq_false {s : List Char} {w : Lexeme} (hs : s.contains ' ' = false)
    (h : s.isPrefixOf w.chars = false) (L : List Lexeme) :
    s.isPrefixOf (spaced (w :: L)) = false := by
  rw [spaced_cons, ← Bool.not_eq_true, List.isPrefixOf_iff_prefix]
  rintro ⟨t, ht⟩
  rw [← Bool.not_eq_true, List.isPrefixOf_iff_prefix] at h
  rw [List.append_eq_append_iff] at ht
  rcases ht with ⟨v, hv, -⟩ | ⟨v, rfl, hv⟩
  · exact h ⟨v, hv.symm⟩
  · cases v with
    | nil => exact h ⟨[], by simp⟩
    | cons c v =>
      cases L with
      | nil => cases hv
      | cons w' L =>
        rw [gapped, List.cons_append, List.cons.injEq] at hv
        rw [← hv.1] at hs
        simp at hs

/-! ## Operators -/

theorem reads_unaryOp (op : UnaryOp) (L : List Lexeme) :
    unaryOps.ReadsOne n (op.lexeme :: L) L (·.rule = .unary op) := by
  have hread : (unaryOp op).ReadsOne n (op.lexeme :: L) L (·.rule = .unary op) :=
    (Reads.text op.lexeme L).rule.mono fun _ ⟨t, ht, hr, _⟩ => ⟨t, ht, hr⟩
  cases op with
  | not =>
    show (choice ([] ++ unaryOp .not :: [unaryOp .bitNot])).ReadsOne n _ L _
    exact .choice (by simp) hread
  | bitNot =>
    show (choice ([unaryOp .not] ++ unaryOp .bitNot :: [])).ReadsOne n _ L _
    refine .choice (fun z hz => .of_head (c := '~') rfl ?_) hread
    rw [List.mem_singleton.mp hz]
    decide

/-- The operators with nothing in between, in the order in which the grammar tries them. -/
def operators : List InfixOp :=
  [.logical .or, .logical .and, .bitwise .or, .bitwise .and, .relational .eq, .relational .neq,
    .relational .isMatch, .relational .noMatch, .bitwise .shl, .bitwise .shr, .relational .le,
    .relational .ge, .relational .lt, .relational .gt, .arithmetic .add, .arithmetic .sub,
    .arithmetic .pow, .arithmetic .mul, .arithmetic .div, .arithmetic .rem]

theorem infixOps_eq : infixOps = choice ([infixOp .fallback "?:", choiceOp] ++
    operators.map fun op => infixOp op op.symbol) := rfl

/-- No sign begins with one that is tried before it. -/
theorem pairwise_symbol : operators.Pairwise fun op op' =>
    op.symbol.toList.isPrefixOf op'.symbol.toList = false := by
  decide

theorem space_notMem_symbol (op : InfixOp) : op.symbol.toList.contains ' ' = false := by
  cases op with
  | fallback | choice => decide
  | logical op | bitwise op | relational op | arithmetic op => cases op <;> decide

theorem mem_operators {op : InfixOp} (hfallback : op ≠ .fallback) (hchoice : op ≠ .choice) :
    op ∈ operators := by
  cases op with
  | fallback => exact absurd rfl hfallback
  | choice => exact absurd rfl hchoice
  | logical op | bitwise op | relational op | arithmetic op => cases op <;> decide

/-- The signs of the other operators begin otherwise than those of the two conditionals and of the
steps. -/
theorem head?_symbol {op : InfixOp} (h : op ∈ operators) :
    ∃ c, op.lexeme.chars.head? = some c ∧ ['?', '(', '[', '.'].contains c = false := by
  have hall : operators.all (fun op => op.symbol.toList.head?.any fun c =>
      ['?', '(', '[', '.'].contains c == false) = true := by decide
  have hop := List.all_eq_true.mp hall op h
  rw [Option.any_eq_true] at hop
  obtain ⟨c, hc, hnot⟩ := hop
  exact ⟨c, hc, by simpa using hnot⟩

theorem reads_infixOp (op : Operator) (L : List Lexeme) :
    infixOps.ReadsOne n (op.1.lexeme :: L) L (·.rule = .between op.1) := by
  obtain ⟨op, hop⟩ := op
  have hread : (infixOp op op.symbol).ReadsOne n (op.lexeme :: L) L (·.rule = .between op) :=
    (Reads.text op.lexeme L).rule.mono fun _ ⟨t, ht, hr, _⟩ => ⟨t, ht, hr⟩
  by_cases hfallback : op = .fallback
  · subst hfallback
    show (choice ([] ++ infixOp .fallback "?:" :: _)).ReadsOne n _ L _
    exact .choice (by simp) hread
  · have hmem := mem_operators hfallback hop
    obtain ⟨as, bs, hsplit⟩ := List.append_of_mem hmem
    have hpairwise := pairwise_symbol
    rw [hsplit, List.pairwise_append] at hpairwise
    rw [infixOps_eq, hsplit, List.map_append, List.map_cons, ← List.append_assoc]
    refine .choice (fun z hz => ?_) hread
    rw [List.mem_append] at hz
    rcases hz with hz | hz
    · obtain ⟨c, hc, hnot⟩ := head?_symbol hmem
      refine .of_head hc ?_
      simp only [List.mem_cons, List.not_mem_nil, or_false] at hz
      rcases hz with rfl | rfl
      all_goals
        simp only [infixOp, choiceOp, all, word, eats, idles]
        grind
    · obtain ⟨op', hop', rfl⟩ := List.mem_map.mp hz
      exact .rule (.text (isPrefixOf_spaced_eq_false (space_notMem_symbol op')
        (hpairwise.2.2 op' hop' op List.mem_cons_self) L))

/-- The conditional with its middle, which begins with neither a colon nor a point. -/
theorem reads_choiceOp {T : Token → Prop}
    (hm : Pattern.recurse.ReadsOne n L' (.colon :: L) T) (hcolon : (word ":").Refuses n L')
    (hpoint : (word ".").Refuses n L') : infixOps.ReadsOne n (.mark :: L') L fun t =>
      t.rule = .between .choice ∧ ∃ u, t.inner = [u] ∧ T u := by
  have hfallback : (infixOp .fallback "?:").Refuses n (.mark :: L') :=
    .rule (.text (isPrefixOf_spaced_eq_false (by decide) (by decide) L'))
  have hbody : (all [word "?", .unless (.either (word ":") (word ".")), .recurse, word ":"]).ReadsOne n
      (.mark :: L') L T :=
    .text_seq (w := .mark) (.unless_seq (hcolon.either hpoint) (.seq_text (w := .colon) hm))
  rw [infixOps_eq]
  show (choice ([infixOp .fallback "?:"] ++ choiceOp :: _)).ReadsOne n _ L _
  refine .choice (fun z hz => ?_) (.rule_one hbody)
  rw [List.mem_singleton.mp hz]
  exact hfallback

/-! ## What cannot be read -/

/-- Where an expression ends, a pattern that can read no closing sign and no end is refused. -/
theorem refuses_of_closes {x : Pattern} (hx : [none, some ')', some ']', some '\x7d', some ',',
      some ':'].all (fun c => !(x.eats c || x.idles c)) = true) (hL : closes L = true) :
    x.Refuses n L := by
  refine .of_first ?_
  have hmem : (spaced L).head? ∈ [none, some ')', some ']', some '\x7d', some ',', some ':'] := by
    unfold closes at hL
    cases hc : (spaced L).head? with
    | none => exact List.mem_cons_self
    | some c =>
      rw [hc, Option.all_some, List.contains_iff_mem] at hL
      simpa using hL
  simpa using List.all_eq_true.mp hx _ hmem

/-- No step is written with the sign of an operator. -/
theorem refuses_steps (op : InfixOp) (L : List Lexeme) : steps.Refuses n (op.lexeme :: L) := by
  have hmarks : ∀ {w : Lexeme}, w.chars.head? = some '?' → "?.".toList.isPrefixOf w.chars = false →
      steps.Refuses n (w :: L) := by
    intro w hw hpoint
    refine .choice fun x hx => ?_
    have htext : (word "?.").Refuses n (w :: L) :=
      .text (isPrefixOf_spaced_eq_false (by decide) hpoint L)
    simp only [List.mem_cons, List.not_mem_nil, or_false] at hx
    rcases hx with rfl | rfl | rfl | rfl | rfl | rfl
    · exact .rule htext.seq
    · exact .rule htext.seq
    · exact .rule htext.seq
    · exact .of_head hw (by decide)
    · exact .of_head hw (by decide)
    · exact .of_head hw (by decide)
  by_cases hfallback : op = .fallback
  · subst hfallback
    exact hmarks rfl (by decide)
  · by_cases hchoice : op = .choice
    · subst hchoice
      exact hmarks rfl (by decide)
    · obtain ⟨c, hc, hnot⟩ := head?_symbol (mem_operators hfallback hchoice)
      refine .of_head hc ?_
      simp only [steps, arguments, all, Pattern.choice, word, eats, idles]
      grind

/-! ## Steps -/

/-- A bracket with a key. -/
def bracketed : Pattern := all [word "[", .recurse, word "]"]

def callForm : Bool → Pattern
  | true => .rule (.call true) .plain (.seq (word "?.") arguments)
  | false => .rule (.call false) .plain arguments

def indexForm : Bool → Pattern
  | true => .rule (.index true) .plain (.seq (word "?.") bracketed)
  | false => .rule (.index false) .plain bracketed

def fieldForm : Bool → Pattern
  | true => .rule (.field true) .plain (.seq (word "?.") name)
  | false => .rule (.field false) .plain (.seq (word ".") name)

theorem steps_eq : steps = choice [callForm true, indexForm true, fieldForm true, callForm false,
    indexForm false, fieldForm false] := rfl

theorem reads_field (optional : Bool) (w : Name) (L : List Lexeme) :
    steps.ReadsOne n (.dot optional :: w.lexeme :: L) L fun t =>
      t.rule = .field optional ∧ ∃ u, t.inner = [u] ∧
        u.Means (.identifier .first (String.ofList w.chars)) := by
  obtain ⟨c, hc, hstart⟩ := head?_of_isName w.valid
  have hsigns := @not_isNameStart ['(', '['] (by decide) c
  have hread : (fieldForm optional).ReadsOne n (.dot optional :: w.lexeme :: L) L fun t =>
      t.rule = .field optional ∧ ∃ u, t.inner = [u] ∧
        u.Means (.identifier .first (String.ofList w.chars)) := by
    cases optional with
    | true => exact .rule_one (.text_seq (w := .dot true) (reads_name w L))
    | false => exact .rule_one (.text_seq (w := .dot false) (reads_name w L))
  rw [steps_eq]
  cases optional with
  | true =>
    show (choice ([callForm true, indexForm true] ++ fieldForm true :: _)).ReadsOne n _ L _
    refine .choice (fun z hz => ?_) hread
    simp only [List.mem_cons, List.not_mem_nil, or_false] at hz
    rcases hz with rfl | rfl
    all_goals
      refine .rule (.text_seq (w := .dot true) (.of_head hc ?_))
      simp [arguments, bracketed, all, word, eats, idles, hsigns, hstart]
  | false =>
    show (choice ([callForm true, indexForm true, fieldForm true, callForm false,
      indexForm false] ++ fieldForm false :: [])).ReadsOne n _ L _
    refine .choice (fun z hz => .of_head (c := '.') rfl ?_) hread
    simp only [List.mem_cons, List.not_mem_nil, or_false] at hz
    rcases hz with rfl | rfl | rfl | rfl | rfl <;> decide

theorem reads_index {T : Token → Prop} (optional : Bool)
    (hk : Pattern.recurse.ReadsOne n L' (.closeBracket :: L) T) :
    steps.ReadsOne n (optionalDot optional ++ .openBracket :: L') L fun t =>
      t.rule = .index optional ∧ ∃ u, t.inner = [u] ∧ T u := by
  have hbracket : bracketed.ReadsOne n (.openBracket :: L') L T :=
    .text_seq (w := .openBracket) (.seq_text (w := .closeBracket) hk)
  rw [steps_eq]
  cases optional with
  | true =>
    have hread : (indexForm true).ReadsOne n (.dot true :: .openBracket :: L') L _ :=
      .rule_one (.text_seq (w := .dot true) hbracket)
    show (choice ([callForm true] ++ indexForm true :: _)).ReadsOne n _ L _
    refine .choice (fun z hz => ?_) hread
    rw [List.mem_singleton.mp hz]
    exact .rule (.text_seq (w := .dot true) (.of_head (c := '[') rfl (by decide)))
  | false =>
    have hread : (indexForm false).ReadsOne n (.openBracket :: L') L _ := .rule_one hbracket
    show (choice ([callForm true, indexForm true, fieldForm true, callForm false] ++
      indexForm false :: _)).ReadsOne n _ L _
    refine .choice (fun z hz => .of_head (c := '[') rfl ?_) hread
    simp only [List.mem_cons, List.not_mem_nil, or_false] at hz
    rcases hz with rfl | rfl | rfl | rfl <;> decide

theorem reads_call {Q : List Token → Prop} (optional : Bool)
    (hargs : (Pattern.seq (.maybe (commaList .recurse)) (word ")")).Reads n L' L Q) :
    steps.ReadsOne n (optionalDot optional ++ .openParen :: L') L fun t =>
      t.rule = .call optional ∧ Q t.inner.reverse := by
  have hparen : arguments.Reads n (.openParen :: L') L Q := .text_seq (w := .openParen) hargs
  rw [steps_eq]
  cases optional with
  | true =>
    have hread : (callForm true).ReadsOne n (.dot true :: .openParen :: L') L _ :=
      .rule (.text_seq (w := .dot true) hparen)
    show (choice ([] ++ callForm true :: _)).ReadsOne n _ L _
    exact .choice (by simp) hread
  | false =>
    have hread : (callForm false).ReadsOne n (.openParen :: L') L _ := .rule hparen
    show (choice ([callForm true, indexForm true, fieldForm true] ++
      callForm false :: _)).ReadsOne n _ L _
    refine .choice (fun z hz => .of_head (c := '(') rfl ?_) hread
    simp only [List.mem_cons, List.not_mem_nil, or_false] at hz
    rcases hz with rfl | rfl | rfl <;> decide

end ExprLang
