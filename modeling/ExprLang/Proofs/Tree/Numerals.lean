import ExprLang.Proofs.Grammar.Locality
import ExprLang.Proofs.Number.Radix
import ExprLang.Proofs.Tree.Data

/-!
# ExprLang.Proofs.Tree.Numerals

Every numeral that the grammar reads.

`Pattern.Spans` says what the characters are that a pattern without blanks reads.  So the text that
the rule for numbers reads to its end is a decimal, or digits behind the mark of another radix
(`LiteralOf`), and its tree is the number that it stands for (`takes_numeral`).
-/

namespace ExprLang

open ExprLang.Language Pattern

/-! ## What is read -/

namespace Pattern

/-- Whatever the pattern reads, the characters that it reads are such as `P` says. -/
def Spans (n : Reader) (m : Mode) (x : Pattern) (P : List Char → Prop) : Prop :=
  ∀ k ts k', x.Accepts n m k ts k' → ∃ w, k.rest = w ++ k'.rest ∧ k' = k.advance w.length ∧ P w

variable {n : Reader} {m : Mode} {x y : Pattern} {P Q : List Char → Prop}

namespace Spans

theorem mono (hx : x.Spans n m P) (h : ∀ w, P w → Q w) : x.Spans n m Q := by
  intro k ts k' hacc
  obtain ⟨w, hw, hk, hP⟩ := hx k ts k' hacc
  exact ⟨w, hw, hk, h w hP⟩

theorem text (w : List Char) : (Pattern.text w).Spans n m (· = w) := by
  intro k ts k' hacc
  obtain ⟨⟨l, hl⟩, -, rfl⟩ := accepts_text_iff.mp hacc
  exact ⟨w, by rw [Cursor.rest_advance, ← hl, List.drop_left], rfl, rfl⟩

theorem one (f : Char → Bool) : (Pattern.one f).Spans n m fun w => ∃ c, w = [c] ∧ f c = true := by
  intro k ts k' hacc
  obtain ⟨⟨c, l, hl, hc⟩, -, rfl⟩ := accepts_one_iff.mp hacc
  exact ⟨[c], by rw [Cursor.rest_advance, hl]; rfl, rfl, c, rfl, hc⟩

theorem seq (hn : n.Settled) (hm : m.spacing ≠ .free) (hx : x.Spans n m P) (hy : y.Spans n m Q) :
    (Pattern.seq x y).Spans n m fun w => ∃ u v, w = u ++ v ∧ P u ∧ Q v := by
  intro k ts k' hacc
  obtain ⟨_, _, k₁, hfirst, hsecond, -⟩ := (accepts_seq_iff hn).mp hacc
  rw [Cursor.skip_of_ne_free hm] at hsecond
  obtain ⟨u, hu, rfl, hP⟩ := hx _ _ _ hfirst
  obtain ⟨v, hv, rfl, hQ⟩ := hy _ _ _ hsecond
  refine ⟨u ++ v, ?_, ?_, u, v, rfl, hP, hQ⟩
  · rw [List.append_assoc, ← hv, ← hu]
  · rw [Cursor.advance_advance, List.length_append]

theorem either (hn : n.Settled) (hx : x.Spans n m P) (hy : y.Spans n m Q) :
    (Pattern.either x y).Spans n m fun w => P w ∨ Q w := by
  intro k ts k' hacc
  rcases (accepts_either_iff hn).mp hacc with hfirst | ⟨-, hsecond⟩
  · obtain ⟨w, hw, hk, hP⟩ := hx _ _ _ hfirst
    exact ⟨w, hw, hk, .inl hP⟩
  · obtain ⟨w, hw, hk, hQ⟩ := hy _ _ _ hsecond
    exact ⟨w, hw, hk, .inr hQ⟩

theorem maybe (hn : n.Settled) (hx : x.Spans n m P) :
    (Pattern.maybe x).Spans n m fun w => P w ∨ w = [] := by
  intro k ts k' hacc
  rcases (accepts_maybe_iff hn).mp hacc with hfirst | ⟨-, -, rfl⟩
  · obtain ⟨w, hw, hk, hP⟩ := hx _ _ _ hfirst
    exact ⟨w, hw, hk, .inl hP⟩
  · exact ⟨[], rfl, rfl, .inr rfl⟩

/-- Characters of a class. -/
theorem many (hn : n.Settled) (hp : n.Proceeds) (hm : m.spacing ≠ .free) (f : Char → Bool) :
    (Pattern.many (.one f)).Spans n m fun w => w.all f = true := by
  intro k ts k' hacc
  have hrepeats := (accepts_many_iff hn hp rfl (Cursor.skip_of_ne_free hm k)).mp hacc
  clear hacc
  induction hrepeats with
  | done => exact ⟨[], rfl, rfl, rfl⟩
  | next hone _ _ ih =>
    rw [Cursor.skip_of_ne_free hm] at hone
    obtain ⟨v, hv, rfl, c, rfl, hc⟩ := one f _ _ _ hone
    obtain ⟨w, hw, rfl, hall⟩ := ih
    refine ⟨c :: w, ?_, ?_, ?_⟩
    · rw [hv, hw]
      rfl
    · rw [Cursor.advance_advance, List.length_cons, Nat.add_comm]
      rfl
    · show (c :: w).all f = true
      rw [List.all_cons, hc, hall]
      rfl

/-- Characters of a class, at least one. -/
theorem oneOrMore (hn : n.Settled) (hp : n.Proceeds) (hm : m.spacing ≠ .free) (f : Char → Bool) :
    (Pattern.oneOrMore (.one f)).Spans n m fun w => w ≠ [] ∧ w.all f = true := by
  refine (seq hn hm (one f) (many hn hp hm f)).mono fun w => ?_
  rintro ⟨_, v, rfl, ⟨c, rfl, hc⟩, hall⟩
  exact ⟨List.cons_ne_nil c v, by rw [List.singleton_append, List.all_cons, hc, hall]; rfl⟩

end Spans

end Pattern

/-! ## Numerals -/

/-- Digits of a radix denote a whole number. -/
theorem exists_readRadix {r : Nat} {l : List Char}
    (hl : ∀ c ∈ l, ∃ d, digitValue? c = some d ∧ d < r) : ∃ N, readRadix r l = some N := by
  induction l using List.reverseRecOn with
  | nil => exact ⟨0, rfl⟩
  | append_singleton l c ih =>
    rw [List.forall_mem_append, List.forall_mem_singleton] at hl
    obtain ⟨P, hP⟩ := ih hl.1
    obtain ⟨d, hd, hlt⟩ := hl.2
    exact ⟨r * P + d, readRadix_append_eq_some.mpr ⟨P, d, hP, hd, hlt, rfl⟩⟩

theorem exists_digitValue? {digit : Char → Bool} {r : Nat}
    (hlt : ∀ c, digit c = true → c.toNat < 103)
    (hall : ((List.range 103).all fun k => !digit (Char.ofNat k) ||
      (digitValue? (Char.ofNat k)).any (· < r)) = true) {c : Char} (hc : digit c = true) :
    ∃ d, digitValue? c = some d ∧ d < r := by
  have hdigit := List.all_eq_true.mp hall c.toNat (List.mem_range.mpr (hlt c hc))
  rw [Char.ofNat_toNat, hc, Bool.not_true, Bool.false_or, Option.any_eq_true] at hdigit
  simpa using hdigit

/-- What a decimal is read as: digits, a point and digits, and perhaps an exponent. -/
theorem exists_readDecimal {whole fraction e : List Char} (hwhole : whole.all isDecimalDigit = true)
    (hfraction : fraction.all isDecimalDigit = true) (hne : whole ≠ [] ∨ fraction ≠ [])
    (he : e = [] ∨ ∃ c l p, e = c :: l ∧ (c = 'e' ∨ c = 'E') ∧ readExponent l = some p) :
    ∃ y, readDecimal (whole ++ (Numeral.pointed fraction ++ e)) = some y := by
  have hmark : e.head?.any isDecimalDigit = false := by
    rcases he with rfl | ⟨c, l, p, rfl, rfl | rfl, -⟩ <;> rfl
  have hpoint : (Numeral.pointed fraction ++ e).head?.any isDecimalDigit = false := by
    cases fraction with
    | nil => exact hmark
    | cons c fraction => rfl
  obtain ⟨htake, hdrop⟩ := Numeral.takeWhile_digits hwhole hpoint
  obtain ⟨htake', hdrop'⟩ := Numeral.takeWhile_digits hfraction hmark
  have hempty : ¬(whole = [] ∧ fraction = []) := fun h => hne.elim (· h.1) (· h.2)
  unfold readDecimal
  simp only [htake, hdrop]
  cases fraction with
  | nil =>
    rcases he with rfl | ⟨c, l, p, rfl, rfl | rfl, hp⟩ <;>
      simp_all [Numeral.pointed]
  | cons c fraction =>
    rw [List.cons_append] at htake' hdrop'
    simp only [Numeral.pointed, List.cons_append, htake', hdrop', if_neg hempty]
    rcases he with rfl | ⟨c, l, p, rfl, hc, hp⟩
    · exact ⟨_, rfl⟩
    · simp only [if_pos hc, hp]
      exact ⟨_, rfl⟩

/-- The text is a numeral without a sign, which stands for the number as a literal: a decimal, or
digits behind the mark of another radix. -/
inductive LiteralOf : List Char → Float → Prop
  | decimal {w : List Char} {y : Float} : readDecimal w = some y → LiteralOf w y
  | radix {c : Char} {l : List Char} {b N : Nat} : b ≤ 4 → radixOf? c = some (2 ^ b) → l ≠ [] →
      readRadix (2 ^ b) l = some N → LiteralOf ('0' :: c :: l) (accumulateRadix (2 ^ b) l)

section Reading

variable {n : Reader} {m : Mode}

theorem spans_digits (hn : n.Settled) (hp : n.Proceeds) (hm : m.spacing ≠ .free) :
    digits.Spans n m fun w => w ≠ [] ∧ w.all isDecimalDigit = true :=
  .oneOrMore hn hp hm isDigit

/-- An exponent, of which the sign may be left out. -/
theorem exists_readExponent {s ds : List Char} (hs : s = [] ∨ s = ['+'] ∨ s = ['-']) (hne : ds ≠ [])
    (hds : ds.all isDecimalDigit = true) : ∃ p, readExponent (s ++ ds) = some p := by
  rcases hs with rfl | rfl | rfl
  · obtain ⟨c, ds, rfl⟩ := List.exists_cons_of_ne_nil hne
    have hsign : c ≠ '-' ∧ c ≠ '+' := by
      constructor <;> rintro rfl <;> cases hds
    refine ⟨decimalNat (c :: ds), ?_⟩
    rw [List.nil_append]
    unfold readExponent
    split
    · next heq => exact absurd (List.cons.inj heq).1 hsign.1
    · next heq => exact absurd (List.cons.inj heq).1 hsign.2
    · exact if_pos ⟨hne, hds⟩
  · exact ⟨_, @Numeral.readExponent_marked false ds hne hds⟩
  · exact ⟨_, @Numeral.readExponent_marked true ds hne hds⟩

/-- The body of the rule for decimals. -/
theorem spans_decimal (hn : n.Settled) (hp : n.Proceeds) (hm : m.spacing ≠ .free) :
    (Pattern.seq
      (.either (.seq digits (.maybe (.seq (word ".") digits))) (.seq (word ".") digits))
      (.maybe (all [anyOf ['e', 'E'], .maybe (anyOf ['+', '-']), digits]))).Spans n m fun w =>
        ∃ y, readDecimal w = some y := by
  have hdigits := spans_digits hn hp hm
  have hpointed : (Pattern.seq (word ".") digits).Spans n m fun w =>
      ∃ fraction, w = Numeral.pointed fraction ∧ fraction ≠ [] ∧
        fraction.all isDecimalDigit = true := by
    refine (Spans.seq hn hm (.text _) hdigits).mono ?_
    rintro _ ⟨_, fraction, rfl, rfl, hne, hall⟩
    obtain ⟨c, l, rfl⟩ := List.exists_cons_of_ne_nil hne
    exact ⟨_, rfl, hne, hall⟩
  have hmantissa : (Pattern.either (.seq digits (.maybe (.seq (word ".") digits)))
      (.seq (word ".") digits)).Spans n m fun w => ∃ whole fraction,
        w = whole ++ Numeral.pointed fraction ∧ whole.all isDecimalDigit = true ∧
          fraction.all isDecimalDigit = true ∧ (whole ≠ [] ∨ fraction ≠ []) := by
    refine (Spans.either hn (.seq hn hm hdigits (.maybe hn hpointed)) hpointed).mono ?_
    rintro _ (⟨whole, _, rfl, ⟨hne, hwhole⟩, ⟨fraction, rfl, -, hfraction⟩ | rfl⟩ |
      ⟨fraction, rfl, hne, hfraction⟩)
    · exact ⟨whole, fraction, rfl, hwhole, hfraction, .inl hne⟩
    · exact ⟨whole, [], rfl, hwhole, rfl, .inl hne⟩
    · exact ⟨[], fraction, rfl, rfl, hfraction, .inr hne⟩
  have hexponent : (Pattern.maybe (all [anyOf ['e', 'E'], .maybe (anyOf ['+', '-']),
      digits])).Spans n m fun e => e = [] ∨
        ∃ c l p, e = c :: l ∧ (c = 'e' ∨ c = 'E') ∧ readExponent l = some p := by
    refine (Spans.maybe hn (.seq hn hm (.one _) (.seq hn hm (.maybe hn (.one _)) hdigits))).mono ?_
    rintro _ (⟨_, _, rfl, ⟨c, rfl, hc⟩, s, ds, rfl, hs, hne, hall⟩ | rfl)
    · have hs : s = [] ∨ s = ['+'] ∨ s = ['-'] := by
        rcases hs with ⟨d, rfl, hd⟩ | rfl
        · simpa using hd
        · exact .inl rfl
      obtain ⟨p, hp⟩ := exists_readExponent hs hne hall
      exact .inr ⟨c, s ++ ds, p, rfl, by simpa using hc, hp⟩
    · exact .inl rfl
  refine (Spans.seq hn hm hmantissa hexponent).mono ?_
  rintro _ ⟨_, e, rfl, ⟨whole, fraction, rfl, hwhole, hfraction, hne⟩, he⟩
  rw [List.append_assoc]
  exact exists_readDecimal hwhole hfraction hne he

/-- The body of the rule for digits in another radix. -/
theorem spans_radix (hn : n.Settled) (hp : n.Proceeds) (hm : m.spacing ≠ .free) {lower upper : String}
    {mark mark' : Char} {digit : Char → Bool} {b : Nat} (hlower : lower.toList = ['0', mark])
    (hupper : upper.toList = ['0', mark']) (hmark : radixOf? mark = some (2 ^ b))
    (hmark' : radixOf? mark' = some (2 ^ b))
    (hdigit : ∀ c, digit c = true → ∃ d, digitValue? c = some d ∧ d < 2 ^ b) :
    (Pattern.seq (.either (word lower) (word upper)) (oneOrMore (.one digit))).Spans n m fun w =>
      ∃ c l N, w = '0' :: c :: l ∧ radixOf? c = some (2 ^ b) ∧ l ≠ [] ∧
        readRadix (2 ^ b) l = some N := by
  refine (Spans.seq hn hm (.either hn (.text _) (.text _)) (.oneOrMore hn hp hm digit)).mono ?_
  rintro _ ⟨_, l, rfl, hword, hne, hall⟩
  obtain ⟨N, hN⟩ := exists_readRadix fun c hc => hdigit c (List.all_eq_true.mp hall c hc)
  rcases hword with rfl | rfl
  · exact ⟨mark, l, N, by rw [hlower]; rfl, hmark, hne, hN⟩
  · exact ⟨mark', l, N, by rw [hupper]; rfl, hmark', hne, hN⟩

/-- The token of a lexeme has the characters that are read. -/
theorem exists_lexeme (hn : n.Settled) {r : Rule} {x : Pattern} {P : List Char → Prop}
    (hx : x.Spans n ⟨.sealed, false⟩ P) {k k' : Cursor} {us : List Token}
    (h : (Pattern.rule r .lexeme x).Accepts n ⟨.tight, false⟩ k us k') :
    ∃ t, us = [t] ∧ t.rule = r ∧ k.rest = t.chars ++ k'.rest ∧ k' = k.advance t.chars.length ∧
      P t.chars := by
  obtain ⟨vs, hbody, rfl⟩ := (accepts_rule_iff hn).mp h
  obtain ⟨w, hw, rfl, hP⟩ := hx k vs k' hbody
  refine ⟨_, rfl, rfl, ?_⟩
  rw [Token.chars_mk_advance hw]
  exact ⟨hw, rfl, hP⟩

/-- The token of a numeral without a sign stands for its number. -/
theorem exists_magnitude (hn : n.Settled) (hp : n.Proceeds) {k k' : Cursor} {us : List Token}
    (h : (Pattern.choice [
      radixNumber .hexadecimal "0x" "0X" isHexDigit,
      radixNumber .octal "0o" "0O" fun c => '0' ≤ c && c ≤ '7',
      radixNumber .binary "0b" "0B" fun c => c == '0' || c == '1',
      decimal]).Accepts n ⟨.tight, false⟩ k us k') :
    ∃ t, us = [t] ∧ k.rest = t.chars ++ k'.rest ∧ k' = k.advance t.chars.length ∧
      LiteralOf t.chars t.magnitude := by
  have hsealed : (⟨.sealed, false⟩ : Mode).spacing ≠ .free := by decide
  have hradix : ∀ {r : Rule} {lower upper : String} {mark mark' : Char} {digit : Char → Bool}
      {b : Nat}, lower.toList = ['0', mark] → upper.toList = ['0', mark'] →
      radixOf? mark = some (2 ^ b) → radixOf? mark' = some (2 ^ b) → b ≤ 4 →
      (∀ c, digit c = true → ∃ d, digitValue? c = some d ∧ d < 2 ^ b) →
      (∀ t : Token, t.rule = r → t.magnitude = accumulateRadix (2 ^ b) (t.chars.drop 2)) →
      (radixNumber r lower upper digit).Accepts n ⟨.tight, false⟩ k us k' →
      ∃ t, us = [t] ∧ k.rest = t.chars ++ k'.rest ∧ k' = k.advance t.chars.length ∧
        LiteralOf t.chars t.magnitude := by
    intro r lower upper mark mark' digit b hlower hupper hmark hmark' hb hdigit hmagnitude hacc
    obtain ⟨t, rfl, hr, hrest, hk', c, l, N, hchars, hc, hne, hN⟩ :=
      exists_lexeme hn (spans_radix hn hp hsealed hlower hupper hmark hmark' hdigit) hacc
    refine ⟨t, rfl, hrest, hk', ?_⟩
    rw [hmagnitude t hr, hchars]
    exact .radix hb hc hne hN
  have hle : ∀ a b : Char, a ≤ b ↔ a.toNat ≤ b.toNat := fun _ _ => Iff.rfl
  have hhex : ∀ c, isHexDigit c = true → c.toNat < 103 := by
    intro c hc
    simp [isHexDigit, isDigit, hle] at hc
    omega
  have hoctal : ∀ c : Char, ('0' ≤ c && c ≤ '7') = true → c.toNat < 103 := by
    intro c hc
    simp [hle] at hc
    omega
  have hbinary : ∀ c : Char, (c == '0' || c == '1') = true → c.toNat < 103 := by
    intro c hc
    simp only [Bool.or_eq_true, beq_iff_eq] at hc
    rcases hc with rfl | rfl <;> decide
  obtain ⟨x, hx, hacc⟩ := exists_of_accepts_choice hn h
  simp only [List.mem_cons, List.not_mem_nil, or_false] at hx
  rcases hx with rfl | rfl | rfl | rfl
  · exact hradix (b := 4) rfl rfl rfl rfl (by decide) (fun c hc => exists_digitValue? hhex (by decide) hc)
      (fun t ht => by rw [Token.magnitude, ht]; rfl) hacc
  · exact hradix (b := 3) rfl rfl rfl rfl (by decide) (fun c hc => exists_digitValue? hoctal (by decide) hc)
      (fun t ht => by rw [Token.magnitude, ht]; rfl) hacc
  · exact hradix (b := 1) rfl rfl rfl rfl (by decide) (fun c hc => exists_digitValue? hbinary (by decide) hc)
      (fun t ht => by rw [Token.magnitude, ht]; rfl) hacc
  · obtain ⟨t, rfl, hr, hrest, hk', y, hy⟩ := exists_lexeme hn (spans_decimal hn hp hsealed) hacc
    refine ⟨t, rfl, hrest, hk', ?_⟩
    rw [Token.magnitude, hr]
    dsimp only
    rw [hy]
    exact .decimal hy

/-- Where the rule for numbers reads something without a sign, its token is that of a numeral. -/
theorem exists_numeral (hn : n.Settled) (hp : n.Proceeds) {k k' : Cursor} {ts : List Token}
    (h : number.Accepts n .open k ts k') (hsign : k.rest.head? ≠ some '-') :
    ∃ t w x, ts = [t] ∧ k.rest = w ++ k'.rest ∧ LiteralOf w x ∧ t.rule = .number ∧
      t.numberNode = .ok (.number t.position x) := by
  obtain ⟨us, hbody, rfl⟩ := (accepts_rule_iff hn).mp h
  obtain ⟨vs, ws, k₁, hminus, hmagnitude, rfl⟩ := (accepts_seq_iff hn).mp hbody
  have hnone : vs = [] ∧ k₁ = k := by
    rcases (accepts_maybe_iff hn).mp hminus with hacc | ⟨-, hnone⟩
    · obtain ⟨⟨l, hl⟩, -⟩ := accepts_text_iff.mp hacc
      exact absurd (by rw [← hl]; rfl) hsign
    · exact hnone
  obtain ⟨rfl, rfl⟩ := hnone
  obtain ⟨t, rfl, hrest, rfl, hliteral⟩ := exists_magnitude (k := k₁) hn hp hmagnitude
  have hhead : t.chars.head? ≠ some '-' := by
    intro hhead
    obtain ⟨l, hl⟩ := List.head?_eq_some_iff.mp hhead
    refine hsign ?_
    rw [hrest, hl]
    rfl
  have hchars : (Token.mk .number k₁ ((k₁.advance t.chars.length).offset - k₁.offset)
      [t]).chars = t.chars := Token.chars_mk_advance hrest _ _
  refine ⟨_, t.chars, t.magnitude, rfl, hrest, hliteral, rfl, ?_⟩
  rw [Token.numberNode]
  simp only [Token.inner, List.append_nil, List.reverse_singleton, hchars, if_neg hhead]

end Reading

/-! ## Texts -/

/-- Whether a text is a numeral without a sign: the rule for numbers reads the whole of it. -/
def isNumeral (text : List Char) : Bool :=
  text.head? != some '-' &&
    match number.read (readExpression 0) .open .empty ⟨.ofText text, []⟩ with
    | ⟨_, some p⟩ => p.cursor.rest.isEmpty
    | ⟨_, none⟩ => false

namespace LiteralOf

variable {w : List Char} {x y : Float}

/-- A decimal has no mark of a radix. -/
theorem radixOf?_of_readDecimal {c : Char} {l : List Char} (h : readDecimal ('0' :: c :: l) = some y) :
    radixOf? c = none :=
  radixOf?_of_mem (mem_decimalChars h c (by simp))

/-- A numeral stands for one number. -/
theorem unique (hx : LiteralOf w x) (hy : LiteralOf w y) : x = y := by
  cases hx with
  | decimal hx =>
    cases hy with
    | decimal hy => exact Option.some.inj (hx.symm.trans hy)
    | radix _ hc _ _ =>
      rw [radixOf?_of_readDecimal hx] at hc
      cases hc
  | radix _ hc _ _ =>
    cases hy with
    | decimal hy =>
      rw [radixOf?_of_readDecimal hy] at hc
      cases hc
    | radix _ hc' _ _ => rw [Option.some.inj (hc.symm.trans hc')]

/-- The first character of a numeral. -/
theorem exists_cons (h : LiteralOf w x) : ∃ c l, w = c :: l ∧ c ∈ '.' :: "0123456789".toList := by
  cases h with
  | radix => exact ⟨'0', _, rfl, by decide⟩
  | decimal hy =>
    obtain ⟨hne, -, -⟩ := head?_of_readDecimal hy
    obtain ⟨c, l, rfl⟩ := List.exists_cons_of_ne_nil hne
    refine ⟨c, l, rfl, ?_⟩
    by_cases hc : isDecimalDigit c = true
    · exact List.mem_cons_of_mem _ (mem_of_isDecimalDigit hc)
    · have hpoint : c = '.' := by
        by_contra hpoint
        simp [readDecimal, hc, hpoint] at hy
      rw [hpoint]
      exact List.mem_cons_self

/-- All characters of a numeral are those of numbers. -/
theorem mem_numberChars (h : LiteralOf w x) : ∀ c ∈ w, c ∈ numberChars := by
  cases h with
  | decimal hy => exact fun c hc => List.mem_append_left _ (mem_decimalChars hy c hc)
  | radix hb hc hne hN =>
    refine List.forall_mem_cons.mpr ⟨by decide,
      List.forall_mem_cons.mpr ⟨mem_numberChars_of_radixOf? hc, fun d hd => ?_⟩⟩
    cases hvalue : digitValue? d with
    | none =>
      rw [readRadix_eq_none hd hvalue] at hN
      cases hN
    | some v => exact mem_numberChars_of_digitValue? hvalue

end LiteralOf

/-- The rule for numbers reads a numeral to its end, wherever it stands. -/
theorem accepts_of_isNumeral {w : List Char} (h : isNumeral w = true) (n : Reader) {k : Cursor}
    (hk : k.rest = w) : ∃ ts k', number.Accepts n .open k ts k' ∧ k'.rest = [] := by
  unfold isNumeral at h
  rw [Bool.and_eq_true] at h
  obtain ⟨-, h⟩ := h
  cases hread : number.read (readExpression 0) .open .empty ⟨.ofText w, []⟩ with
  | mk a res =>
    rw [hread] at h
    cases res with
    | none => cases h
    | some p =>
      obtain ⟨ts, hacc, -⟩ :=
        (accepts_or_rejects (settled_readExpression 0) number).accepts_of_read hread
      have hrest₀ : k.rest = (Cursor.ofText w).rest := hk
      obtain ⟨us, k', hacc', hrest, -⟩ := (placeless (placeless_readExpression 0) number).accepts
        (accepts_or_rejects (settled_readExpression 0) number) (f := id) (fun _ _ => rfl)
        hrest₀ hacc
      refine ⟨us, k', ?_, hrest.trans (List.isEmpty_iff.mp h)⟩
      unfold Pattern.Accepts
      rw [read_eq_of_flat n (readExpression 0) (x := number) (by decide)]
      exact hacc'

/-- A text that is a numeral stands for a number, which the rule for numbers reads. -/
theorem takes_numeral {w : List Char} (h : isNumeral w = true) : ∃ x, LiteralOf w x ∧
    ∀ d, number.TakesOne (readExpression d) w [] fun t =>
      t.rule = .number ∧ t.numberNode = .ok (.number t.position x) := by
  have hsign : w.head? ≠ some '-' := by
    unfold isNumeral at h
    rw [Bool.and_eq_true, bne_iff_ne] at h
    exact h.1
  have htakes : ∀ d k, k.rest = w → ∃ t k' x, number.Accepts (readExpression d) .open k [t] k' ∧
      k'.rest = [] ∧ LiteralOf w x ∧ t.rule = .number ∧
      t.numberNode = .ok (.number t.position x) := by
    rintro d k rfl
    obtain ⟨ts, k', hacc, hrest⟩ := accepts_of_isNumeral h (readExpression d) rfl
    obtain ⟨t, w, x, rfl, hw, hliteral, hr, hnode⟩ :=
      exists_numeral (settled_readExpression d) (proceeds_readExpression d) hacc hsign
    rw [hrest, List.append_nil] at hw
    rw [← hw] at hliteral
    exact ⟨t, k', x, hacc, hrest, hliteral, hr, hnode⟩
  obtain ⟨-, -, x, -, -, hx, -⟩ := htakes 0 (.ofText w) rfl
  refine ⟨x, hx, fun d k hk => ?_⟩
  obtain ⟨t, k', y, hacc, hrest, hy, hr, hnode⟩ := htakes d k hk
  obtain rfl := hx.unique hy
  refine ⟨[t], k', hacc, by rw [Cursor.rest_skip, hrest]; rfl, ?_, t, rfl, hr, hnode⟩
  obtain ⟨c, l, rfl, -⟩ := hx.exists_cons
  rw [hrest, hk]
  exact Nat.succ_pos _

/-- A numeral is a statement, with a level for the expression. -/
theorem takes_statement_numeral {w : List Char} (h : isNumeral w = true) : ∃ x, LiteralOf w x ∧
    ∀ d, statement.TakesOne (readExpression (d + 1)) w [] fun u => ∀ limit, 1 ≤ limit →
      ∃ pos, u.build limit 0 = .ok (.number pos x) := by
  obtain ⟨x, hx, htakes⟩ := takes_numeral h
  refine ⟨x, hx, fun d => ?_⟩
  obtain ⟨c, l, rfl, hc⟩ := hx.exists_cons
  have hall : ('.' :: "0123456789".toList).all (fun c => isSolid c &&
      (unaryOps :: assignment :: [grouped, template, array, object, regexp]).all
        (fun z => !(z.eats (some c) || z.idles (some c)))) = true := by decide
  have hhead := List.all_eq_true.mp hall c hc
  rw [Bool.and_eq_true, List.all_cons, List.all_cons, Bool.and_eq_true, Bool.and_eq_true,
    Bool.not_eq_true', Bool.not_eq_true'] at hhead
  obtain ⟨hsolid, hunary, hassignment, hothers⟩ := hhead
  have hoperand : (Pattern.choice ([grouped, template, array, object, regexp] ++ number ::
      [string, literal, variableName])).TakesOne (readExpression d) (c :: l) [] _ :=
    .choice_of_head hsolid hothers (htakes d)
  have hrecurse := takes_recurse (blankLength_cons hsolid l) (.of_head hsolid hunary) hoperand rfl
  show (Pattern.choice ([assignment] ++ .recurse :: [])).TakesOne _ _ _ _
  refine .choice (fun z hz => ?_) (hrecurse.mono ?_)
  · rw [List.mem_singleton.mp hz]
    exact .of_head hsolid hassignment
  · rintro _ ⟨_, rfl, k, k', t, rfl, hr, hnode⟩
    refine ⟨_, rfl, fun limit hlimit => ⟨t.position, ?_⟩⟩
    obtain ⟨rule, start, length, inner⟩ := t
    obtain rfl : rule = .number := hr
    rw [Token.build_expressionToken rfl k k' (by omega), Token.build]
    exact hnode

end ExprLang
