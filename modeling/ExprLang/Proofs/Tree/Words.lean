import ExprLang.Proofs.Tree.Numerals
import ExprLang.Proofs.Tree.Provenance

/-!
# ExprLang.Proofs.Tree.Words

What the tokens of words are made of.

Numbers, texts, regular expressions and keywords are read without blanks.  Their tokens descend from
the rules of the grammar, and the bodies of these rules say what the characters of such a token are
and which tokens are inside: a numeral, the body of a text between its quotes, the pattern and the
flags of a regular expression.
-/

namespace ExprLang

open ExprLang.Language Pattern

/-! ## Spans of parts -/

namespace Pattern

variable {n : Reader} {m : Mode} {x : Pattern} {k k' : Cursor} {ts : List Token} {w : List Char}

/-- Every pattern reads some characters. -/
theorem Spans.of_proceeds (hp : n.Proceeds) (x : Pattern) (m : Mode) :
    x.Spans n m fun _ => True := by
  intro k ts k' hacc
  obtain ⟨i, hi, rfl, -⟩ := hacc.reaches hp
  have hlength : (k.rest.take i).length = i := List.length_take_of_le hi
  refine ⟨k.rest.take i, ?_, by rw [hlength], trivial⟩
  rw [Cursor.rest_advance, List.take_append_drop]

/-- The token of what was read has the characters between the two places. -/
theorem Accepts.chars_mk (h : x.Accepts n m k ts k') (hp : n.Proceeds) (hw : k.rest = w ++ k'.rest)
    (r : Rule) (inner : List Token) :
    (Token.mk r k (k'.offset - k.offset) inner).chars = w := by
  obtain ⟨v, hv, rfl, -⟩ := Spans.of_proceeds hp x m k ts k' h
  rw [Token.chars_mk_advance hv]
  exact List.append_cancel_right (hv.symm.trans hw)

/-- A word and then another pattern, with nothing between them. -/
theorem exists_of_accepts_word_seq (hn : n.Settled) (hm : m.spacing ≠ .free) {s : String}
    (h : (Pattern.seq (word s) x).Accepts n m k ts k') :
    ∃ k₁ : Cursor, k.rest = s.toList ++ k₁.rest ∧ x.Accepts n m k₁ ts k' := by
  obtain ⟨us, vs, k₁, hword, hx, rfl⟩ := (accepts_seq_iff hn).mp h
  obtain ⟨⟨l, hl⟩, rfl, rfl⟩ := accepts_text_iff.mp hword
  rw [Cursor.skip_of_ne_free hm] at hx
  rw [List.append_nil]
  exact ⟨_, by rw [Cursor.rest_advance, ← hl, List.drop_left], hx⟩

/-- The token of a lexeme, and then another pattern, with nothing between them. -/
theorem exists_of_accepts_lexeme_seq (hn : n.Settled) {r : Rule} {y : Pattern}
    {P : List Char → Prop} (hx : x.Spans n ⟨.sealed, false⟩ P)
    (h : (Pattern.seq (.rule r .lexeme x) y).Accepts n ⟨.tight, false⟩ k ts k') :
    ∃ t us k₁, ts = us ++ [t] ∧ t.rule = r ∧ k.rest = t.chars ++ k₁.rest ∧ P t.chars ∧
      y.Accepts n ⟨.tight, false⟩ k₁ us k' := by
  obtain ⟨_, us, k₁, hlexeme, hy, rfl⟩ := (accepts_seq_iff hn).mp h
  obtain ⟨t, rfl, hr, hrest, -, hP⟩ := exists_lexeme hn hx hlexeme
  rw [Cursor.skip_of_ne_free (by decide)] at hy
  exact ⟨t, us, k₁, rfl, hr, hrest, hP, hy⟩

/-- The token of a lexeme between two words. -/
theorem exists_between_words (hn : n.Settled) (hp : n.Proceeds) {s s' : String} {r : Rule}
    (h : (all [word s, .rule r .lexeme x, word s']).Accepts n ⟨.tight, false⟩ k ts k') :
    ∃ t, ts = [t] ∧ k.rest = s.toList ++ (t.chars ++ s'.toList) ++ k'.rest := by
  obtain ⟨k₁, hs, hinner⟩ := exists_of_accepts_word_seq hn (by decide) h
  obtain ⟨t, us, k₂, rfl, -, ht, -, hword⟩ :=
    exists_of_accepts_lexeme_seq hn (Spans.of_proceeds hp x _) hinner
  obtain ⟨⟨l, hl⟩, rfl, rfl⟩ := accepts_text_iff.mp hword
  refine ⟨t, rfl, ?_⟩
  rw [hs, ht, Cursor.rest_advance, ← hl, List.drop_left]
  simp only [List.append_assoc]

end Pattern

/-! ## Rules -/

namespace Token.Descends

variable {t : Token}

/-- A token of a rule of which the grammar has nothing but copies is what the body of the rule read
and left. -/
theorem exists_accepts (ht : t.Descends productions) {r : Rule} {kind : RuleKind} {x y : Pattern}
    {i : Nat} (_ : y = .rule r kind x)
    (hcopies : productions.filter (fun p => p.rule = r) = List.replicate i ⟨r, kind, x⟩)
    (hr : t.rule = r) : ∃ depth sp k k' ts,
      x.Accepts (readExpression depth) ⟨kind.body sp, false⟩ k ts k' ∧
        t.inner = ts.reverse ∧ ∀ w, k.rest = w ++ k'.rest → t.chars = w := by
  cases ht with
  | @mk p depth sp k k' ts hp hacc _ =>
    have hmem : p ∈ productions.filter (fun p => p.rule = r) :=
      List.mem_filter.mpr ⟨hp, decide_eq_true hr⟩
    rw [hcopies] at hmem
    obtain rfl := List.eq_of_mem_replicate hmem
    exact ⟨depth, sp, k, k', ts, hacc, rfl,
      fun w hw => hacc.chars_mk (proceeds_readExpression depth) hw _ _⟩

/-- Inside a number is a numeral, which stands for its number. -/
theorem number (ht : t.Descends productions) (hr : t.rule = .number) :
    ∃ m, t.inner = [m] ∧ LiteralOf m.chars m.magnitude := by
  obtain ⟨depth, sp, k, k', ts, hacc, hinner, -⟩ :=
    ht.exists_accepts (y := Language.number) (i := 6) rfl rfl hr
  have hn := settled_readExpression depth
  obtain ⟨us, vs, k₁, hsign, hmagnitude, rfl⟩ := (accepts_seq_iff hn).mp hacc
  obtain rfl : us = [] := by
    rcases (accepts_maybe_iff hn).mp hsign with hword | ⟨-, rfl, -⟩
    · exact (accepts_text_iff.mp hword).2.1
    · rfl
  rw [Cursor.skip_of_ne_free (by simp [RuleKind.body])] at hmagnitude
  obtain ⟨m, rfl, -, -, hm⟩ := exists_magnitude hn (proceeds_readExpression depth) hmagnitude
  exact ⟨m, hinner, hm⟩

/-- A text is its body between two quotes. -/
theorem string (ht : t.Descends productions) (hr : t.rule = .string) :
    ∃ q body, t.inner = [body] ∧ t.chars = q :: (body.chars ++ [q]) := by
  obtain ⟨depth, sp, k, k', ts, hacc, hinner, hchars⟩ :=
    ht.exists_accepts (y := Language.string) (i := 6) rfl rfl hr
  have hn := settled_readExpression depth
  have hp := proceeds_readExpression depth
  rcases (accepts_either_iff hn).mp hacc with hquoted | ⟨-, hquoted⟩
  · obtain ⟨body, rfl, hrest⟩ := exists_between_words hn hp hquoted
    exact ⟨'"', body, hinner, hchars _ hrest⟩
  · obtain ⟨body, rfl, hrest⟩ := exists_between_words hn hp hquoted
    exact ⟨'\x27', body, hinner, hchars _ hrest⟩

/-- A regular expression is its pattern between two slashes, and its flags. -/
theorem regexp (ht : t.Descends productions) (hr : t.rule = .regexp) :
    ∃ body flags, t.inner = [body, flags] ∧
      t.chars = '/' :: (body.chars ++ '/' :: flags.chars) ∧ flags.chars.all isLetter = true := by
  obtain ⟨depth, sp, k, k', ts, hacc, hinner, hchars⟩ :=
    ht.exists_accepts (y := Language.regexp) (i := 2) rfl rfl hr
  have hn := settled_readExpression depth
  have hp := proceeds_readExpression depth
  obtain ⟨k₁, hslash, hbody⟩ := exists_of_accepts_word_seq hn (by simp [RuleKind.body]) hacc
  obtain ⟨body, us, k₂, rfl, -, hk₁, -, hrest⟩ :=
    exists_of_accepts_lexeme_seq hn (Spans.of_proceeds hp _ _) hbody
  obtain ⟨k₃, hk₂, hflags⟩ := exists_of_accepts_word_seq hn (by decide) hrest
  obtain ⟨flags, rfl, -, hk₃, -, hletters⟩ :=
    exists_lexeme hn (Spans.many hn hp (by decide) isLetter) hflags
  refine ⟨body, flags, hinner, hchars _ ?_, hletters⟩
  rw [hslash, hk₁, hk₂, hk₃]
  simp

/-- A keyword is one of those that have a value. -/
theorem literal (ht : t.Descends productions) (hr : t.rule = .literal) : t.text ∈ keywords := by
  obtain ⟨depth, sp, k, k', ts, hacc, -, hchars⟩ :=
    ht.exists_accepts (y := Language.literal) (i := 2) rfl rfl hr
  have hn := settled_readExpression depth
  obtain ⟨us, vs, k₁, hword, hend, rfl⟩ := (accepts_seq_iff hn).mp hacc
  rw [Cursor.skip_of_ne_free (by simp [RuleKind.body])] at hend
  obtain ⟨-, rfl, rfl⟩ := (accepts_unless_iff hn).mp hend
  obtain ⟨x, hx, haccepts⟩ := exists_of_accepts_choice hn hword
  obtain ⟨s, hs, rfl⟩ := List.mem_map.mp hx
  obtain ⟨w, hrest, -, rfl⟩ := Spans.text _ _ _ _ haccepts
  rw [Token.text, hchars _ hrest, String.ofList_toList]
  exact hs

end Token.Descends

end ExprLang
