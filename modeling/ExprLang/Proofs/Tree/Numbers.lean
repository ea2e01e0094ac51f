import ExprLang.Proofs.Number.ReadBack
import ExprLang.Proofs.Tree.Atoms
import ExprLang.Tree.Build

/-!
# ExprLang.Proofs.Tree.Numbers

The grammar reads numerals.  `Pattern.Covers` says that a pattern whose parts are adjacent reads just
some characters where others follow; a numeral is read to its end by the rule for decimals
(`covers_decimal`), since nothing that continues it can follow, and with a sign before it by the rule
for numbers (`takes_number`).
-/

namespace ExprLang

open ExprLang.Language Pattern

namespace Pattern

/-- Where `w` is ahead and `l` behind it, the pattern reads `w` and leaves no token. -/
def Covers (n : Reader) (m : Mode) (x : Pattern) (w l : List Char) : Prop :=
  ∀ k, k.rest = w ++ l → x.Accepts n m k [] (k.advance w.length)

variable {n : Reader} {m : Mode} {x y : Pattern} {w w' l : List Char}

namespace Covers

theorem text (w l : List Char) : (Pattern.text w).Covers n m w l := fun _ hk => accepts_text hk

theorem one {f : Char → Bool} {c : Char} (hc : f c = true) (l : List Char) :
    (Pattern.one f).Covers n m [c] l :=
  fun _ hk => accepts_one hk hc

theorem seq (hm : m.spacing ≠ .free) (hx : x.Covers n m w (w' ++ l)) (hy : y.Covers n m w' l) :
    (Pattern.seq x y).Covers n m (w ++ w') l := by
  intro k hk
  rw [List.append_assoc] at hk
  have hrest : (k.advance w.length).rest = w' ++ l := by
    rw [Cursor.rest_advance, hk, List.drop_left]
  have hseq := accepts_seq (hx k hk) (by rw [Cursor.skip_of_ne_free hm]; exact hy _ hrest)
  rwa [Cursor.advance_advance, ← List.length_append] at hseq

theorem maybe (hx : x.Covers n m w l) : (Pattern.maybe x).Covers n m w l :=
  fun k hk => accepts_maybe (hx k hk)

theorem maybe_nil (hx : ∀ k, k.rest = l → x.Rejects n m k) : (Pattern.maybe x).Covers n m [] l :=
  fun k hk => accepts_maybe_nil (hx k hk)

theorem either_left (hx : x.Covers n m w l) : (Pattern.either x y).Covers n m w l :=
  fun k hk => accepts_either_left (hx k hk)

end Covers

/-! ## Numerals -/

theorem rejects_one_of_head {f : Char → Bool} (hl : l.head?.any f = false) {k : Cursor}
    (hk : k.rest = l) : (one f).Rejects n m k := by
  refine rejects_one fun c l' hc => ?_
  rw [hk] at hc
  rwa [hc] at hl

theorem covers_digits (hm : m.spacing ≠ .free) (hne : w ≠ []) (hw : w.all isDecimalDigit = true)
    (hl : l.head?.any isDecimalDigit = false) : digits.Covers n m w l := by
  obtain ⟨c, w, rfl⟩ := List.exists_cons_of_ne_nil hne
  rw [List.all_cons, Bool.and_eq_true] at hw
  exact .seq (w := [c]) hm (.one hw.1 _) fun k hk => accepts_many_one hm hk hw.2 hl

/-- Whether a character can go on with a numeral, or with one in another radix. -/
def continuesNumeral (c : Char) : Bool := isNamePart c || c == '.'

theorem not_continuesNumeral (hl : l.head?.any continuesNumeral = false) :
    l.head?.any isDecimalDigit = false ∧ l.head? ≠ some '.' ∧
      l.head?.any (['e', 'E'].contains ·) = false := by
  cases l with
  | nil => exact ⟨rfl, nofun, rfl⟩
  | cons c l =>
    have hc : continuesNumeral c = false := hl
    have hne : ∀ d, continuesNumeral d = true → c ≠ d := by
      rintro d hd rfl
      rw [hc] at hd
      cases hd
    have hdigit : isDecimalDigit c = false := by
      simp only [continuesNumeral, isNamePart, Bool.or_eq_false_iff] at hc
      exact hc.1.2
    refine ⟨hdigit, fun h => hne '.' (by decide) (Option.some.inj h), ?_⟩
    simp [hne 'e' (by decide), hne 'E' (by decide)]

theorem covers_pointed (hm : m.spacing ≠ .free) (hw : w.all isDecimalDigit = true)
    (hl : l.head?.any isDecimalDigit = false) (hpoint : l.head? ≠ some '.') :
    (Pattern.maybe (.seq (word ".") digits)).Covers n m (Numeral.pointed w) l := by
  cases w with
  | nil =>
    refine .maybe_nil fun k hk => rejects_seq (rejects_text_iff.mpr ?_)
    rintro ⟨l', hl'⟩
    rw [hk] at hl'
    exact hpoint (by rw [← hl']; rfl)
  | cons c w =>
    exact .maybe (.seq (w := ['.']) hm (.text _ _) (covers_digits hm (List.cons_ne_nil c w) hw hl))

theorem covers_marked (hm : m.spacing ≠ .free) {exponent : Option (Bool × List Char)}
    (hne : ∀ p ∈ exponent, p.2 ≠ []) (hall : ∀ p ∈ exponent, p.2.all isDecimalDigit = true)
    (hl : l.head?.any isDecimalDigit = false) (hmark : l.head?.any (['e', 'E'].contains ·) = false) :
    (Pattern.maybe (all [anyOf ['e', 'E'], .maybe (anyOf ['+', '-']), digits])).Covers n m
      (Numeral.marked exponent) l := by
  cases exponent with
  | none => exact .maybe_nil fun k hk => rejects_seq (rejects_one_of_head hmark hk)
  | some p =>
    obtain ⟨negative, ds⟩ := p
    have hdigits : digits.Covers n m ds l := covers_digits hm (hne _ rfl) (hall _ rfl) hl
    have hsign : (Pattern.maybe (anyOf ['+', '-'])).Covers n m [if negative then '-' else '+']
        (ds ++ l) := .maybe (.one (by cases negative <;> decide) _)
    exact .maybe (.seq (w := ['e']) hm (.one (by decide) _) (.seq hm hsign hdigits))

/-- The body of the rule for decimals reads a numeral to its end. -/
theorem covers_decimal (hm : m.spacing ≠ .free) (num : Numeral)
    (hl : l.head?.any continuesNumeral = false) :
    (Pattern.seq
      (.either (.seq digits (.maybe (.seq (word ".") digits))) (.seq (word ".") digits))
      (.maybe (all [anyOf ['e', 'E'], .maybe (anyOf ['+', '-']), digits]))).Covers n m num.chars
        l := by
  obtain ⟨hdigit, hpoint, hmark⟩ := not_continuesNumeral hl
  have hbehind : (Numeral.marked num.exponent ++ l).head?.any isDecimalDigit = false ∧
      (Numeral.marked num.exponent ++ l).head? ≠ some '.' := by
    cases num.exponent with
    | none => exact ⟨hdigit, hpoint⟩
    | some p => exact ⟨rfl, by simp [Numeral.marked]⟩
  have hwhole : (Numeral.pointed num.fraction ++ (Numeral.marked num.exponent ++ l)).head?.any
      isDecimalDigit = false := by
    cases num.fraction with
    | nil => exact hbehind.1
    | cons c w => rfl
  have hmantissa : (Pattern.seq digits (.maybe (.seq (word ".") digits))).Covers n m
      (num.whole ++ Numeral.pointed num.fraction) (Numeral.marked num.exponent ++ l) :=
    .seq hm (covers_digits hm num.whole_ne_nil num.all_whole hwhole)
      (covers_pointed hm num.all_fraction hbehind.1 hbehind.2)
  have hexponent := covers_marked (n := n) hm num.exponent_ne_nil num.all_exponent hdigit hmark
  rw [Numeral.chars, ← List.append_assoc]
  exact .seq hm (.either_left hmantissa) hexponent

end Pattern

/-! ## Numbers -/

variable {n : Reader} {l : List Char}

namespace Numeral

/-- What stands second in a numeral, or behind one of a single digit. -/
theorem second (num : Numeral) {c d : Char} {r : List Char}
    (h : num.chars ++ l = d :: c :: r) :
    isDecimalDigit c = true ∨ c = '.' ∨ c = 'e' ∨ l.head? = some c := by
  obtain ⟨whole, fraction, exponent, hne, hwhole, hfraction, hexponent, hdigits⟩ := num
  obtain ⟨e, whole, rfl⟩ := List.exists_cons_of_ne_nil hne
  have htail : whole ++ (pointed fraction ++ marked exponent) ++ l = c :: r := (List.cons.inj h).2
  cases whole with
  | cons a whole =>
    rw [List.all_cons, List.all_cons, Bool.and_eq_true, Bool.and_eq_true] at hwhole
    rw [List.cons_append, List.cons_append] at htail
    obtain ⟨rfl, -⟩ := List.cons.inj htail
    exact .inl hwhole.2.1
  | nil =>
    cases fraction with
    | cons a fraction =>
      obtain ⟨rfl, -⟩ := List.cons.inj htail
      exact .inr (.inl rfl)
    | nil =>
      cases exponent with
      | some p =>
        obtain ⟨rfl, -⟩ := List.cons.inj htail
        exact .inr (.inr (.inl rfl))
      | none =>
        have hl : l = c :: r := htail
        exact .inr (.inr (.inr (by rw [hl]; rfl)))

/-- A numeral begins with a digit. -/
theorem exists_cons (num : Numeral) : ∃ c w, num.chars = c :: w ∧ isDecimalDigit c = true := by
  obtain ⟨whole, fraction, exponent, hne, hwhole, -, -, -⟩ := num
  obtain ⟨c, w, rfl⟩ := List.exists_cons_of_ne_nil hne
  rw [List.all_cons, Bool.and_eq_true] at hwhole
  exact ⟨c, _, List.cons_append, hwhole.1⟩

end Numeral

/-- No numeral in another radix begins with a decimal numeral. -/
theorem rejects_radixNumber {s : String} {mark : Char} (hs : s.toList = ['0', mark])
    (hmark : (isNamePart mark && !isDecimalDigit mark && mark != 'e') = true) (num : Numeral)
    (hl : l.head?.any continuesNumeral = false) {m : Mode} {k : Cursor}
    (hk : k.rest = num.chars ++ l) : (word s).Rejects n m k := by
  refine rejects_text_iff.mpr ?_
  rintro ⟨r, hr⟩
  simp only [Bool.and_eq_true, Bool.not_eq_true', bne_iff_ne] at hmark
  rw [hk, hs] at hr
  rcases num.second hr.symm with h | rfl | rfl | h
  · rw [hmark.1.2] at h
    cases h
  · exact absurd hmark.1.1 (by decide)
  · exact hmark.2 rfl
  · rw [h, Option.any_some, continuesNumeral, hmark.1.1] at hl
    cases hl

theorem accepts_magnitude (num : Numeral) (hl : l.head?.any continuesNumeral = false) {k : Cursor}
    (hk : k.rest = num.chars ++ l) :
    (Pattern.choice [
      radixNumber .hexadecimal "0x" "0X" isHexDigit,
      radixNumber .octal "0o" "0O" fun c => '0' ≤ c && c ≤ '7',
      radixNumber .binary "0b" "0B" fun c => c == '0' || c == '1',
      decimal]).Accepts n ⟨.tight, false⟩ k
        [.mk .decimal k ((k.advance num.chars.length).offset - k.offset) []]
        (k.advance num.chars.length) := by
  have hradix : ∀ {r : Rule} {v w : String} {digit : Char → Bool} {mark mark' : Char},
      v.toList = ['0', mark] → w.toList = ['0', mark'] →
      (isNamePart mark && !isDecimalDigit mark && mark != 'e') = true →
      (isNamePart mark' && !isDecimalDigit mark' && mark' != 'e') = true →
      (radixNumber r v w digit).Rejects n ⟨.tight, false⟩ k :=
    fun hv hw hmark hmark' => rejects_rule (rejects_seq (rejects_either
      (rejects_radixNumber hv hmark num hl hk) (rejects_radixNumber hw hmark' num hl hk)))
  have hdecimal : decimal.Accepts n ⟨.tight, false⟩ k _ _ :=
    accepts_rule rfl (covers_decimal (by decide) num hl k hk)
  exact accepts_either_right (hradix rfl rfl (by decide) (by decide))
    (accepts_either_right (hradix rfl rfl (by decide) (by decide))
      (accepts_either_right (hradix rfl rfl (by decide) (by decide)) hdecimal))

/-- A numeral behind what the rule for numbers reads as its sign. -/
theorem accepts_number {sign : List Char} (num : Numeral)
    (hl : l.head?.any continuesNumeral = false) {k : Cursor}
    (hsign : (Pattern.maybe (word "-")).Accepts n ⟨.tight, false⟩ k [] (k.advance sign.length))
    (hk : (k.advance sign.length).rest = num.chars ++ l) :
    ∃ len, number.Accepts n .open k
      [.mk .number k ((k.advance (sign ++ num.chars).length).offset - k.offset)
        [.mk .decimal (k.advance sign.length) len []]] (k.advance (sign ++ num.chars).length) ∧
      (Token.mk .decimal (k.advance sign.length) len []).chars = num.chars := by
  have hbody := accepts_seq hsign (accepts_magnitude (n := n) num hl hk)
  have hnumber : number.Accepts n .open k _ _ := accepts_rule rfl hbody
  have hend : (k.advance sign.length).advance num.chars.length =
      k.advance (sign ++ num.chars).length := by
    rw [Cursor.advance_advance, List.length_append]
  refine ⟨_, ?_, Token.chars_mk_advance hk .decimal []⟩
  rw [← hend]
  exact hnumber

/-- A numeral, with a sign perhaps, is read to its end. -/
theorem takes_number (negative : Bool) (num : Numeral) (hl : l.head?.any continuesNumeral = false)
    {y : Float} (hy : readDecimal num.chars = some y) :
    number.TakesOne n ((if negative then ['-'] else []) ++ num.chars ++ l) (pastBlanks l) fun t =>
      t.rule = .number ∧ t.numberNode = .ok (.number t.position (if negative then -y else y)) := by
  obtain ⟨c, w, hchars, hc⟩ := num.exists_cons
  have hne : num.chars ≠ [] := by
    rw [hchars]
    exact List.cons_ne_nil c w
  have hminus : c ≠ '-' := by
    rintro rfl
    cases hc
  refine .chars (by simp [hne]) fun k hk => ?_
  have hsign : (Pattern.maybe (word "-")).Accepts n ⟨.tight, false⟩ k []
      (k.advance (if negative then ['-'] else []).length) := by
    cases negative with
    | true => exact accepts_maybe (accepts_text (w := ['-']) hk)
    | false =>
      refine accepts_maybe_nil (rejects_text_iff.mpr ?_)
      rintro ⟨r, hr⟩
      rw [hk, hchars] at hr
      exact hminus (List.cons.inj hr).1.symm
  have hrest : (k.advance (if negative then ['-'] else []).length).rest = num.chars ++ l := by
    rw [Cursor.rest_advance, hk, List.append_assoc, List.drop_left]
  obtain ⟨len, hnumber, hdigits⟩ := accepts_number (n := n) num hl hsign hrest
  refine ⟨_, hnumber, _, rfl, rfl, ?_⟩
  have hhead : ((if negative then ['-'] else []) ++ num.chars).head? = some '-' ↔
      negative = true := by
    cases negative with
    | true => exact iff_of_true rfl rfl
    | false => simpa [hchars] using hminus
  have hmagnitude : (Token.mk .decimal (k.advance (if negative then ['-'] else []).length) len
      []).magnitude = y := by
    unfold Token.magnitude
    rw [hdigits, hy]
    rfl
  rw [Token.numberNode, Token.inner, Token.chars_mk_advance hk]
  simp only [hhead, hmagnitude]

end ExprLang
