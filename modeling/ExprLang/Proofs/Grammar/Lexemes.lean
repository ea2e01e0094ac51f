import Mathlib.Data.List.Defs
import ExprLang.Grammar.Language
import ExprLang.Proofs.Grammar.Takes

/-!
# ExprLang.Proofs.Grammar.Lexemes

Reading texts that are written with single spaces between their lexemes.  `Pattern.Reads` speaks of
lexemes alone: which are ahead, which are left, and what is known of the tokens in between.  Its
rules hide the cursors and the blanks, and there is one for each way in which the grammar puts
patterns together between blanks.
-/

namespace ExprLang

open ExprLang.Language

/-! ## Lexemes -/

/-- Whether a text between blanks is one lexeme: a name is a name up to its end, an equals sign
begins `==` or `=~`, and a slash stands alone, since it might begin a comment. -/
def isLexeme : List Char → Bool
  | [] => false
  | c :: w =>
    if isNameStart c then w.all isNamePart
    else if c = '=' then w == ['='] || w == ['~']
    else if c = '/' then w.isEmpty
    else !isBlank c

/-- The characters of one lexeme. -/
structure Lexeme where
  chars : List Char
  valid : isLexeme chars = true

/-- Lexemes with single spaces between them. -/
def spaced : List Lexeme → List Char
  | [] => []
  | [w] => w.chars
  | w :: v :: ws => w.chars ++ ' ' :: spaced (v :: ws)

/-- What follows a lexeme: nothing, or a space and further lexemes. -/
def gapped : List Lexeme → List Char
  | [] => []
  | w :: ws => ' ' :: spaced (w :: ws)

/-- The lexeme of a sign. -/
def sign (s : String) (valid : isLexeme s.toList = true) : Lexeme := ⟨s.toList, valid⟩

namespace Lexeme

def comma : Lexeme := sign "," (by decide)
def colon : Lexeme := sign ":" (by decide)
def mark : Lexeme := sign "?" (by decide)
def openParen : Lexeme := sign "(" (by decide)
def closeParen : Lexeme := sign ")" (by decide)
def openBracket : Lexeme := sign "[" (by decide)
def closeBracket : Lexeme := sign "]" (by decide)
def openBrace : Lexeme := sign "\x7b" (by decide)
def closeBrace : Lexeme := sign "\x7d" (by decide)

/-- The sign before a field or, in the `?.` form, before any step. -/
def dot (optional : Bool) : Lexeme :=
  if optional then sign "?." (by decide) else sign "." (by decide)

end Lexeme

/-- Parts of a list with commas between them. -/
def separated : List (List Lexeme) → List Lexeme
  | [] => []
  | ws :: wss => ws ++ wss.flatMap (.comma :: ·)

theorem Lexeme.chars_ne_nil (w : Lexeme) : w.chars ≠ [] := by
  obtain ⟨chars, valid⟩ := w
  rintro rfl
  cases valid

theorem spaced_cons (w : Lexeme) (L : List Lexeme) : spaced (w :: L) = w.chars ++ gapped L := by
  cases L with
  | nil => rw [spaced, gapped, List.append_nil]
  | cons v L => rw [spaced, gapped]

theorem head?_spaced_cons (w : Lexeme) (L : List Lexeme) :
    (spaced (w :: L)).head? = w.chars.head? := by
  obtain ⟨c, chars, hchars⟩ := List.exists_cons_of_ne_nil w.chars_ne_nil
  rw [spaced_cons, hchars]
  rfl

/-- Whether an expression ends where the lexemes are ahead: at a closing bracket, a comma or a
colon, or at the end of the text. -/
def closes (L : List Lexeme) : Bool :=
  (spaced L).head?.all [')', ']', '\x7d', ',', ':'].contains

theorem closes_cons {w : Lexeme} {c : Char} (hw : w.chars.head? = some c)
    (hc : [')', ']', '\x7d', ',', ':'].contains c = true) (L : List Lexeme) :
    closes (w :: L) = true := by
  rw [closes, head?_spaced_cons, hw]
  exact hc

/-- What follows a lexeme does not continue a name. -/
theorem isNamePart_head?_gapped (L : List Lexeme) : (gapped L).head?.any isNamePart = false := by
  cases L with
  | nil => rfl
  | cons w L => exact (by decide : isNamePart ' ' = false)

/-- No blank begins where a lexeme does. -/
theorem atStart_spaced (L : List Lexeme) : BlankState.atStart (spaced L) = none := by
  cases L with
  | nil => rfl
  | cons w L =>
    obtain ⟨chars, valid⟩ := w
    rw [spaced_cons]
    cases chars with
    | nil => cases valid
    | cons c chars =>
      have hslash : c = '/' → chars = [] := by
        rintro rfl
        simpa [isLexeme, isNameStart, isLetter] using valid
      have hblank : isBlank c = false := by
        cases hblank : isBlank c with
        | false => rfl
        | true =>
          simp only [isBlank, Bool.or_eq_true, beq_iff_eq] at hblank
          rcases hblank with ((rfl | rfl) | rfl) | rfl
          all_goals simp [isLexeme, isNameStart, isLetter, isBlank] at valid
      unfold BlankState.atStart
      split
      · next hcs =>
        cases L <;> simp_all [gapped]
      · next hcs =>
        cases L <;> simp_all [gapped]
      · next c' rest _ _ hcs =>
        rw [List.cons_append, List.cons.injEq] at hcs
        rw [← hcs.1, hblank]
        rfl
      · rfl

theorem blankLength_spaced (L : List Lexeme) : blankLength (spaced L) = 0 :=
  blankRun_of_atStart_eq_none (atStart_spaced L) 0 0

/-- The space before the next lexeme is skipped. -/
theorem drop_blankLength_gapped (L : List Lexeme) :
    (gapped L).drop (blankLength (gapped L)) = spaced L := by
  cases L with
  | nil => rfl
  | cons w L =>
    have hspace : blankLength (gapped (w :: L)) = 1 :=
      blankRun_of_atStart_eq_none (atStart_spaced (w :: L)) 1 1
    rw [hspace]
    rfl

namespace Cursor

variable {k : Cursor} {w : Lexeme} {L : List Lexeme}

theorem skip_of_spaced (h : k.rest = spaced L) (sp : Spacing) : k.skip sp = k :=
  Pattern.skip_eq_self (by rw [h, blankLength_spaced]) sp

theorem rest_skip_of_gapped (h : k.rest = gapped L) : (k.skip .free).rest = spaced L := by
  rw [rest_skip_free, h, drop_blankLength_gapped]

theorem rest_advance_of_spaced (h : k.rest = spaced (w :: L)) :
    (k.advance w.chars.length).rest = gapped L := by
  rw [rest_advance, h, spaced_cons, List.drop_left]

end Cursor

/-! ## Readings between blanks -/

namespace Pattern

/-- Where the lexemes `L₀` are ahead, the pattern reads some of them, leaves `L`, and of the tokens
(the latest first) it is known what `Q` says. -/
def Reads (n : Reader) (x : Pattern) (L₀ L : List Lexeme) (Q : List Token → Prop) : Prop :=
  ∀ k, k.rest = spaced L₀ → ∃ ts k', x.Accepts n .open k ts k' ∧
    (k'.skip .free).rest = spaced L ∧ k'.rest.length < k.rest.length ∧ Q ts

/-- The pattern reads some lexemes and leaves one token. -/
abbrev ReadsOne (n : Reader) (x : Pattern) (L₀ L : List Lexeme) (Q : Token → Prop) : Prop :=
  x.Reads n L₀ L fun ts => ∃ t, ts = [t] ∧ Q t

/-- The pattern cannot be read where the lexemes are ahead, nor looked ahead for. -/
def Refuses (n : Reader) (x : Pattern) (L : List Lexeme) : Prop :=
  ∀ ahead k, k.rest = spaced L → x.Rejects n ⟨.free, ahead⟩ k

variable {n : Reader} {x y : Pattern} {L₀ L₁ L : List Lexeme} {P Q R : List Token → Prop}

/-! ### Refusals -/

theorem Refuses.of_first (h : (x.eats (spaced L).head? || x.idles (spaced L).head?) = false) :
    x.Refuses n L := by
  exact Misses.of_first (blankLength_spaced L) h

theorem Refuses.of_head {w : Lexeme} {c : Char} (hw : w.chars.head? = some c)
    (h : (x.eats (some c) || x.idles (some c)) = false) : x.Refuses n (w :: L) :=
  .of_first (by rw [head?_spaced_cons, hw]; exact h)

theorem Refuses.either (hx : x.Refuses n L) (hy : y.Refuses n L) :
    (Pattern.either x y).Refuses n L :=
  Misses.either hx hy

theorem Refuses.seq (hx : x.Refuses n L) : (Pattern.seq x y).Refuses n L :=
  Misses.seq hx

/-- A sign, and then a pattern that cannot be read. -/
theorem Refuses.text_seq {w : Lexeme} (hx : x.Refuses n L) :
    (Pattern.seq (.text w.chars) x).Refuses n (w :: L) := by
  have hrest : x.Misses n (pastBlanks (gapped L)) := by
    rw [pastBlanks, drop_blankLength_gapped]
    exact hx
  unfold Refuses
  rw [spaced_cons]
  exact hrest.text_seq

theorem Refuses.rule {r : Rule} (hx : x.Refuses n L) : (Pattern.rule r .plain x).Refuses n L :=
  Misses.rule hx

theorem Refuses.choice {xs : List Pattern} (hxs : ∀ x ∈ xs, x.Refuses n L) :
    (Pattern.choice xs).Refuses n L :=
  Misses.choice hxs

/-- A text that the next lexeme does not begin with. -/
theorem Refuses.text {s : List Char} (h : s.isPrefixOf (spaced L) = false) :
    (Pattern.text s).Refuses n L :=
  fun _ _ hk => rejects_text (by rw [hk]; exact h)

/-! ### Rules -/

namespace Reads

theorem mono (hx : x.Reads n L₀ L P) (h : ∀ ts, P ts → Q ts) : x.Reads n L₀ L Q :=
  Takes.mono hx h

/-- A pattern that reads just the characters of the next lexeme. -/
theorem of_takes {w : Lexeme} (hx : x.Takes n (w.chars ++ gapped L) (pastBlanks (gapped L)) Q) :
    x.Reads n (w :: L) L Q := by
  rw [← spaced_cons, pastBlanks, drop_blankLength_gapped] at hx
  exact hx

theorem lexeme {w : Lexeme} (hx : ∀ k, k.rest = w.chars ++ gapped L →
    ∃ ts, x.Accepts n .open k ts (k.advance w.chars.length) ∧ Q ts) : x.Reads n (w :: L) L Q :=
  of_takes (Takes.chars w.chars_ne_nil hx)

theorem text (w : Lexeme) (L : List Lexeme) : (Pattern.text w.chars).Reads n (w :: L) L (· = []) :=
  lexeme fun _ hk => ⟨[], accepts_text hk, rfl⟩

theorem seq (hx : x.Reads n L₀ L₁ P) (hy : y.Reads n L₁ L Q)
    (h : ∀ ts us, P ts → Q us → R (us ++ ts)) : (Pattern.seq x y).Reads n L₀ L R :=
  Takes.seq hx hy h

/-- A sign, then the pattern. -/
theorem text_seq {w : Lexeme} (hx : x.Reads n L₁ L Q) :
    (Pattern.seq (.text w.chars) x).Reads n (w :: L₁) L Q :=
  seq (text w L₁) hx fun ts us hts hus => by rwa [hts, List.append_nil]

/-- The pattern, then a sign. -/
theorem seq_text {w : Lexeme} (hx : x.Reads n L₀ (w :: L) Q) :
    (Pattern.seq x (.text w.chars)).Reads n L₀ L Q :=
  seq hx (text w L) fun ts us hts hus => by rwa [hus, List.nil_append]

/-- Where an option cannot be read, what comes after it is read. -/
theorem maybe_seq (hx : x.Refuses n L₀) (hy : y.Reads n L₀ L Q) :
    (Pattern.seq (.maybe x) y).Reads n L₀ L Q := by
  intro k hk
  obtain ⟨ts, k', hy, hrest, hlt, hQ⟩ := hy k hk
  have hseq := accepts_seq (accepts_maybe_nil (hx false k hk))
    (by rw [Cursor.skip_of_spaced hk]; exact hy)
  rw [List.append_nil] at hseq
  exact ⟨ts, k', hseq, hrest, hlt, hQ⟩

theorem maybe (hx : x.Reads n L₀ L Q) : (Pattern.maybe x).Reads n L₀ L Q := Takes.maybe hx

/-- Looking ahead in vain reads nothing. -/
theorem unless_seq (hx : x.Refuses n L₀) (hy : y.Reads n L₀ L Q) :
    (Pattern.seq (.unless x) y).Reads n L₀ L Q :=
  Takes.unless_seq (blankLength_spaced L₀) hx hy

/-- The first alternative that is not refused. -/
theorem choice {xs ys : List Pattern} (hxs : ∀ z ∈ xs, z.Refuses n L₀) (hx : x.Reads n L₀ L Q) :
    (Pattern.choice (xs ++ x :: ys)).Reads n L₀ L Q :=
  Takes.choice hxs hx

/-- A rule leaves one token around those of its body. -/
theorem rule {r : Rule} (hx : x.Reads n L₀ L Q) :
    (Pattern.rule r .plain x).ReadsOne n L₀ L fun t => t.rule = r ∧ Q t.inner.reverse :=
  Takes.rule hx

/-- The same around a single token. -/
theorem rule_one {r : Rule} {T : Token → Prop} (hx : x.ReadsOne n L₀ L T) :
    (Pattern.rule r .plain x).ReadsOne n L₀ L fun t => t.rule = r ∧ ∃ u, t.inner = [u] ∧ T u :=
  Takes.rule_one hx

/-! ### Lists -/

variable {α : Type} {lex : α → List Lexeme} {T : α → Token → Prop}

/-- The parts that follow in a list begin with a comma. -/
theorem closes_commas (as : List α) (hL : closes L = true) :
    closes (as.flatMap (.comma :: lex ·) ++ L) = true := by
  cases as with
  | nil => exact hL
  | cons a as =>
    rw [List.flatMap_cons, List.cons_append, List.cons_append]
    exact closes_cons (c := ',') rfl rfl _

/-- Parts with commas between them. -/
theorem commaList {a : α} {as : List α} (hx : ∀ b ∈ a :: as, ∀ L', closes L' = true →
      x.ReadsOne n (lex b ++ L') L' (T b)) (hL : closes L = true)
    (hcomma : (word ",").Refuses n L) :
    (commaList x).Reads n (separated ((a :: as).map lex) ++ L) L fun ts =>
      List.Forall₂ T (a :: as) ts.reverse := by
  rw [List.forall_mem_cons] at hx
  rw [List.map_cons, separated, List.flatMap_map, List.append_assoc]
  refine Takes.commaList_cons (fun bs => spaced (bs.flatMap (.comma :: lex ·) ++ L))
    (hx.1 _ (closes_commas as hL)) (fun b hb bs => ?_) hcomma
  rw [List.flatMap_cons, List.cons_append, List.cons_append, List.append_assoc]
  exact text_seq (w := .comma) (hx.2 b hb _ (closes_commas bs hL))

/-- None or more parts with commas between them, up to a closing sign. -/
theorem maybe_commaList {as : List α} {w : Lexeme} (hx : ∀ a ∈ as, ∀ L', closes L' = true →
      x.ReadsOne n (lex a ++ L') L' (T a)) (hL : closes (w :: L) = true)
    (hcomma : (word ",").Refuses n (w :: L)) (hempty : x.Refuses n (w :: L)) :
    (Pattern.seq (.maybe (Language.commaList x)) (.text w.chars)).Reads n
      (separated (as.map lex) ++ w :: L) L fun ts => List.Forall₂ T as ts.reverse := by
  cases as with
  | nil =>
    refine .maybe_seq hempty.seq ((text w L).mono fun ts hts => ?_)
    rw [hts]
    exact .nil
  | cons a as => exact .seq_text (.maybe (commaList hx hL hcomma))

end Reads

end Pattern

end ExprLang
