import ExprLang.Proofs.Tree.Single
import ExprLang.Proofs.Tree.Writable

/-!
# ExprLang.Proofs.Tree.RoundTrip

What is written is parsed back.  A grouped phrase is a whole program, and with a limit that is large
enough its text is parsed as its tree (`Phrase.parseWithin_text`).  So every tree that can be written
is parsed from its text with parentheses where they are needed, and wherever else
(`parseWithin_of_isWritable`).
-/

namespace ExprLang

open ExprLang.Language Pattern

/-! ## No assignment -/

section Assignment

variable {n : Reader} {L : List Lexeme}

/-- The sign of an assignment is no lexeme of an expression. -/
theorem refuses_equals (L : List Lexeme) :
    (all [word "=", .unless (.either (word "=") (word "~")), .recurse]).Refuses n L := by
  intro ahead k hk
  cases L with
  | nil => exact rejects_seq (rejects_text (by rw [hk]; rfl))
  | cons w L =>
    obtain ⟨chars, valid⟩ := w
    rw [spaced_cons] at hk
    cases chars with
    | nil => cases valid
    | cons c chars =>
      by_cases hc : c = '='
      · subst hc
        have hchars : chars = ['='] ∨ chars = ['~'] := by
          simpa [isLexeme, isNameStart, isLetter] using valid
        obtain ⟨d, hd, hmem⟩ : ∃ d, (k.advance 1).rest = d :: gapped L ∧ (d = '=' ∨ d = '~') := by
          rw [Cursor.rest_advance, hk]
          rcases hchars with rfl | rfl
          · exact ⟨'=', rfl, .inl rfl⟩
          · exact ⟨'~', rfl, .inr rfl⟩
        have hskip : (k.advance 1).skip .free = k.advance 1 := by
          refine skip_eq_self ?_ .free
          rw [hd]
          exact blankRun_of_atStart_eq_none (by rcases hmem with rfl | rfl <;> rfl) 0 0
        have hsign : ∃ k', (Pattern.either (word "=") (word "~")).Accepts n ⟨.free, true⟩
            (k.advance 1) [] k' := by
          rcases hmem with rfl | rfl
          · exact ⟨_, accepts_either_left (accepts_text hd)⟩
          · exact ⟨_, accepts_either_right (rejects_text (by rw [hd]; rfl)) (accepts_text hd)⟩
        obtain ⟨k', hsign⟩ := hsign
        refine rejects_seq_right (accepts_text hk) (rejects_seq ?_)
        show (Pattern.unless _).Rejects n ⟨.free, ahead⟩ ((k.advance 1).skip .free)
        rw [hskip]
        exact rejects_unless hsign
      · refine rejects_seq (rejects_text ?_)
        rw [hk]
        simp [List.isPrefixOf, Ne.symm hc]

/-- A phrase begins with no name that is then assigned to. -/
theorem refuses_assignment (w : Lexeme) (L : List Lexeme) : assignment.Refuses n (w :: L) := by
  refine .rule ?_
  obtain ⟨c, chars, hchars⟩ := List.exists_cons_of_ne_nil w.chars_ne_nil
  by_cases hstart : isNameStart c = true
  · have hname : isName w.chars = true := by
      have hvalid := w.valid
      rw [hchars, isLexeme, if_pos hstart] at hvalid
      rw [hchars, isName, hstart, hvalid]
      rfl
    intro ahead k hk
    have hk' := hk
    rw [spaced_cons] at hk
    have hl := isNamePart_head?_gapped L
    by_cases hkeyword : w.chars ∈ keywords.map String.toList
    · obtain ⟨s, hs, hchars⟩ := List.mem_map.mp hkeyword
      rw [← hchars] at hk
      exact rejects_seq (rejects_rule (rejects_seq (rejects_unless (accepts_rule_silent rfl
        (accepts_keywordBody (fun h => by cases h) hs hk hl)))))
    · have hidentifier : identifier.Accepts n ⟨.free, ahead⟩ k _ _ :=
        accepts_rule_of_body (accepts_plainName ⟨⟨w.chars, hname⟩, hkeyword⟩ hk hl ahead)
      have hrest := Cursor.rest_skip_of_gapped (Cursor.rest_advance_of_spaced hk')
      exact rejects_seq_right hidentifier (refuses_equals L ahead _ hrest)
  · refine .seq (.of_head (c := c) (by rw [hchars]; rfl) ?_)
    simpa [identifier, name, eats, idles] using hstart

end Assignment

/-! ## Programs -/

theorem length_le_spaced (L : List Lexeme) : L.length ≤ (spaced L).length := by
  induction L with
  | nil => exact Nat.le_refl _
  | cons w L ih =>
    have hpos := List.length_pos_iff.mpr w.chars_ne_nil
    rw [spaced_cons, List.length_append, List.length_cons]
    cases L with
    | nil => exact hpos
    | cons v L =>
      simp only [gapped, List.length_cons] at ih ⊢
      omega

namespace Phrase

variable {n : Reader}

theorem exists_lexemes (p : Phrase) : ∃ w ws, p.lexemes = w :: ws := by
  cases p with
  | between op p r | choice p m r | field p optional w | index p optional k | call p optional as =>
    obtain ⟨w, ws, h⟩ := exists_lexemes p
    rw [lexemes, h]
    exact ⟨_, _, rfl⟩
  | _ =>
    rw [lexemes]
    exact ⟨_, _, rfl⟩

/-- A phrase at the end of the text is a statement. -/
theorem reads_statement {p : Phrase} (hp : p.ReadsInside n) :
    statement.ReadsOne n p.lexemes [] (·.Means p.node) := by
  have hrecurse := hp [] rfl
  rw [List.append_nil] at hrecurse
  obtain ⟨w, ws, hlexemes⟩ := p.exists_lexemes
  show (Pattern.choice ([assignment] ++ .recurse :: [])).ReadsOne n _ _ _
  refine .choice (fun z hz => ?_) hrecurse
  rw [List.mem_singleton.mp hz, hlexemes]
  exact refuses_assignment w ws

/-- A grouped phrase is parsed as its tree, with any limit that is large enough. -/
theorem parseWithin_text {p : Phrase} (hp : p.Grouped) :
    ∃ d, ∀ limit, d ≤ limit → ∃ n, parseWithin limit p.text = .ok n ∧ n.unplaced = p.node := by
  have htext : p.text.toList = spaced p.lexemes := by rw [text, String.toList_ofList]
  have hreads := p.reads hp (spaced p.lexemes).length (length_le_spaced _)
  refine parseWithin_of_takes ?_
  rw [htext, pastBlanks_of_blankLength_eq_zero (blankLength_spaced _)]
  exact reads_statement (hreads.inside hp)

/-- A phrase is parsed back from its text with parentheses around the operands that need them, and
around whatever else. -/
theorem parseWithin_minimal (p q : Phrase) (h : Relation.ReflTransGen AddsParens p.minimal q) :
    ∃ d, ∀ limit, d ≤ limit → ∃ n, parseWithin limit q.text = .ok n ∧ n.unplaced = p.node := by
  obtain ⟨hgrouped, hnode⟩ := AddsParens.reflTransGen h p.grouped_minimal
  rw [← p.node_minimal, ← hnode]
  exact parseWithin_text hgrouped

end Phrase

/-- Trees are parsed back from how they are written: every tree that can be written has a phrase, and
whichever it is, its text with the parentheses that are needed, and with any others, is parsed as the
tree up to places. -/
theorem parseWithin_of_isWritable {t : Node} (ht : t.isWritable = true) :
    (∃ p : Phrase, p.node = t.unplaced) ∧
      ∀ p q : Phrase, p.node = t.unplaced → Relation.ReflTransGen Phrase.AddsParens p.minimal q →
        ∃ d, ∀ limit, d ≤ limit →
          ∃ n, parseWithin limit q.text = .ok n ∧ n.unplaced = t.unplaced := by
  refine ⟨Node.exists_phrase ht, fun p q hp hq => ?_⟩
  rw [← hp]
  exact p.parseWithin_minimal q hq

/-- Parentheses are needed around a difference, and stand around a selection too. -/
theorem parseWithin_of_isWritable_mixed :
    ∃ (t : Node) (p q : Phrase), t.isWritable = true ∧ p.node = t.unplaced ∧
      p.minimal.text = "! a . b ? \x7b k : null \x7d : ( f ?. ( $1 ) - \"x\" ) ** ~ [ true ]" ∧
      q.text = "! ( a . b ) ? \x7b k : null \x7d : ( f ?. ( $1 ) - \"x\" ) ** ~ [ true ]" ∧
      ∃ d, ∀ limit, d ≤ limit →
        ∃ n, parseWithin limit q.text = .ok n ∧ n.unplaced = t.unplaced := by
  let t : Node :=
    .choice .first
      (.unary .first .not
        (.select .first (.var .first "a") [⟨.identifier .first "b", false, .first⟩]))
      (.object .first [.item .first (.identifier .first "k") (.literal .first .null)])
      (.arithmetic .first .pow
        (.arithmetic .first .sub (.call .first (.var .first "f") [.var .first "$1"] true)
          (.string .first "x"))
        (.unary .first .bitNot (.array .first [.literal .first (.boolean .true)])))
  let selection : Phrase :=
    .field (.atom (.plain ⟨⟨['a'], by decide⟩, by decide⟩)) false ⟨['b'], by decide⟩
  let object : Phrase := .object [.plain (.name ⟨['k'], by decide⟩) (.atom (.keyword .null))]
  let call : Phrase :=
    .call (.atom (.plain ⟨⟨['f'], by decide⟩, by decide⟩)) true
      [.atom (.capture ⟨['1'], by decide⟩)]
  let difference : Phrase :=
    .between ⟨.arithmetic .sub, by decide⟩ call (.atom (.string (.ofText ['x'])))
  let power (base : Phrase) : Phrase :=
    .between ⟨.arithmetic .pow, by decide⟩ base (.unary .bitNot (.array [.atom (.keyword .true)]))
  let p : Phrase := .choice (.unary .not selection) object (power difference)
  let q : Phrase := .choice (.unary .not (.paren selection)) object (power (.paren difference))
  have ht : t.isWritable = true := by rfl
  have hp : p.node = t.unplaced := by rfl
  have hminimal : p.minimal =
      .choice (.unary .not selection) object (power (.paren difference)) := by rfl
  have hq : Relation.ReflTransGen Phrase.AddsParens p.minimal q := by
    rw [hminimal]
    exact .single (.condition _ _ (.operand _ (.here _)))
  exact ⟨t, p, q, ht, hp, rfl, rfl, (parseWithin_of_isWritable ht).2 p q hp hq⟩

end ExprLang
