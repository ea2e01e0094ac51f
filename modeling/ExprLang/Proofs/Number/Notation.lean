import ExprLang.Proofs.Number.Comparing
import ExprLang.Proofs.Number.Order
import ExprLang.Proofs.Value.Numbers

/-!
# ExprLang.Proofs.Number.Notation

How numbers are written.

The text of a number is one numeral with a sign perhaps (`Numeral.chars_injective`), it denotes the
shortest decimal of the number exactly (`exists_numeral_layoutDecimal`), and it is in plain notation
just from a millionth up to `1e21` (`mem_layoutDecimal_iff_not_between`), as the order of numbers has
these bounds.
-/

namespace ExprLang

open Binary

/-! ## Numerals -/

namespace Numeral

/-- What a numeral denotes. -/
def value (n : Numeral) : ℚ := decimalNat (n.whole ++ n.fraction) * 10 ^ n.scale

theorem head?_marked (exponent : Option (Bool × List Char)) :
    (marked exponent).head?.any isDecimalDigit = false := by
  cases exponent <;> rfl

theorem head?_pointed_append (fraction : List Char) (exponent : Option (Bool × List Char)) :
    (pointed fraction ++ marked exponent).head?.any isDecimalDigit = false := by
  cases fraction with
  | nil => exact head?_marked exponent
  | cons c fraction => rfl

/-- Exponents are told from their texts. -/
theorem marked_injective : Function.Injective marked := by
  intro a b h
  cases a with
  | none =>
    cases b with
    | none => rfl
    | some p => cases h
  | some p =>
    cases b with
    | none => cases h
    | some q =>
      obtain ⟨negative, digits⟩ := p
      obtain ⟨negative', digits'⟩ := q
      cases negative <;> cases negative' <;> cases h <;> rfl

/-- The digits behind a point and the exponent are told from their text. -/
theorem pointed_append_injective {fraction fraction' : List Char}
    {exponent exponent' : Option (Bool × List Char)} (hfraction : fraction.all isDecimalDigit = true)
    (hfraction' : fraction'.all isDecimalDigit = true)
    (h : pointed fraction ++ marked exponent = pointed fraction' ++ marked exponent') :
    fraction = fraction' ∧ exponent = exponent' := by
  have hpoint : ∀ {c : Char} {l : List Char} {exponent : Option (Bool × List Char)},
      marked exponent ≠ '.' :: (c :: l) := by
    intro c l exponent h
    cases exponent with
    | none => cases h
    | some p => cases h
  cases fraction with
  | nil =>
    cases fraction' with
    | nil => exact ⟨rfl, marked_injective h⟩
    | cons c fraction' => exact absurd h hpoint
  | cons c fraction =>
    cases fraction' with
    | nil => exact absurd h.symm hpoint
    | cons c' fraction' =>
      have htail : c :: fraction ++ marked exponent = c' :: fraction' ++ marked exponent' :=
        (List.cons.inj h).2
      obtain ⟨htake, hdrop⟩ := takeWhile_digits hfraction (head?_marked exponent)
      obtain ⟨htake', hdrop'⟩ := takeWhile_digits hfraction' (head?_marked exponent')
      rw [htail] at htake hdrop
      exact ⟨htake.symm.trans htake', marked_injective (hdrop.symm.trans hdrop')⟩

/-- A text spells one numeral at most. -/
theorem chars_injective : Function.Injective chars := by
  intro a b h
  obtain ⟨htake, hdrop⟩ := takeWhile_digits a.all_whole (head?_pointed_append a.fraction a.exponent)
  obtain ⟨htake', hdrop'⟩ :=
    takeWhile_digits b.all_whole (head?_pointed_append b.fraction b.exponent)
  have htext : a.whole ++ (pointed a.fraction ++ marked a.exponent) =
      b.whole ++ (pointed b.fraction ++ marked b.exponent) := h
  rw [htext] at htake hdrop
  obtain ⟨hfraction, hexponent⟩ :=
    pointed_append_injective a.all_fraction b.all_fraction (hdrop.symm.trans hdrop')
  have hwhole := htake.symm.trans htake'
  cases a
  cases b
  cases hwhole
  cases hfraction
  cases hexponent
  rfl

/-- A mark stands in the text of a numeral if it has an exponent. -/
theorem mem_chars_iff (n : Numeral) : 'e' ∈ n.chars ↔ n.exponent ≠ none := by
  have hdigits : ∀ {l : List Char}, l.all isDecimalDigit = true → 'e' ∉ l := fun hl he =>
    absurd (List.all_eq_true.mp hl 'e' he) (by decide)
  have hpointed : 'e' ∉ pointed n.fraction := by
    have hfraction := hdigits n.all_fraction
    cases h : n.fraction with
    | nil => exact List.not_mem_nil
    | cons c l =>
      rw [h] at hfraction
      exact List.not_mem_cons_of_ne_of_not_mem (by decide) hfraction
  rw [chars, List.mem_append, List.mem_append]
  cases h : n.exponent with
  | none => simp [hdigits n.all_whole, hpointed, marked]
  | some p => simp [marked]

end Numeral

/-! ## Decimals -/

theorem decimalNat_zeros_append (i : Nat) (l : List Char) :
    decimalNat (List.replicate i '0' ++ l) = decimalNat l := by
  induction i with
  | zero => rfl
  | succ i ih => exact ih

/-- The text of a decimal is a numeral that denotes it. -/
theorem exists_numeral_layoutDecimal {d : ShortDecimal} (hd : d.Proper) :
    ∃ n : Numeral, n.chars = layoutDecimal d ∧ n.value = d.value := by
  obtain ⟨n, hchars, i, j, -, hdigits, hscale⟩ := writes_layoutDecimal hd
  refine ⟨n, hchars, ?_⟩
  rw [Numeral.value, hdigits, hscale, decimalNat_zeros_append, decimalNat_zeros,
    decimalNat_digitChars, zpow_sub₀ (by norm_num), ShortDecimal.value]
  push_cast
  field_simp
  norm_cast

/-- A decimal has an exponent in its text if the point is too far away. -/
theorem mem_layoutDecimal_iff {d : ShortDecimal} (hd : d.Proper) :
    'e' ∈ layoutDecimal d ↔ d.exponent < -6 ∨ 20 < d.exponent := by
  have hpos := hd.count_pos
  have hdigits : ∀ {l : List Char}, l.all isDecimalDigit = true → 'e' ∉ l := fun hl he =>
    absurd (List.all_eq_true.mp hl 'e' he) (by decide)
  have hall := hdigits (all_digitChars d.digits)
  have hzeros : ∀ k, 'e' ∉ List.replicate k '0' := fun k => hdigits (all_zeros k)
  have hsplit := fun k => all_digitChars_split d.digits k
  unfold layoutDecimal
  dsimp only
  split
  · next h =>
    refine iff_of_false (fun hmem => ?_) (by omega)
    exact (List.mem_append.mp hmem).elim hall (hzeros _)
  · split
    · next h =>
      refine iff_of_false ?_ (by omega)
      simp [hdigits (hsplit _).1, hdigits (hsplit _).2]
    · split
      · next h =>
        refine iff_of_false ?_ (by omega)
        simp [hall]
      · next h => exact iff_of_true (by simp) (by omega)

/-! ## Bounds -/

section Bounds

variable {m m' : Nat} {e e' k : Int}

/-- The shortest decimal of a number reaches a power of ten if the number reaches the one that the
power is rounded to. -/
theorem le_exponent_iff (h : Canonical m e) (h' : Canonical m' e') (hlow : low m' e' < 10 ^ k)
    (hhigh : 10 ^ k ≤ high m' e') (hself : k ≤ (shortestDecimal m' e').exponent) :
    k ≤ (shortestDecimal m e).exponent ↔ (m' : ℚ) * 2 ^ e' ≤ m * 2 ^ e := by
  obtain ⟨hproper, hnear⟩ := shortestDecimal_spec h
  obtain ⟨hfirst, hnext⟩ := hproper.value_bounds
  constructor
  · intro hk
    by_contra hlt
    have hgap := high_le_low h.rounded h'.rounded
      ((value_lt_iff h.rounded h'.rounded).mp (not_le.mp hlt))
    have hpow : (10 : ℚ) ^ (shortestDecimal m e).exponent < 10 ^ k :=
      ((hfirst.trans hnear.le_high).trans hgap).trans_lt hlow
    exact absurd ((zpow_lt_zpow_iff_right₀ (by norm_num)).mp hpow) (not_lt.mpr hk)
  · intro hle
    rcases hle.lt_or_eq with hlt | heq
    · have hgap := high_le_low h'.rounded h.rounded ((value_lt_iff h'.rounded h.rounded).mp hlt)
      have hpow : (10 : ℚ) ^ k < 10 ^ ((shortestDecimal m e).exponent + 1) :=
        ((hhigh.trans hgap).trans hnear.low_le).trans_lt hnext
      have := (zpow_lt_zpow_iff_right₀ (by norm_num)).mp hpow
      omega
    · obtain ⟨rfl, rfl⟩ := value_injective h'.rounded h.rounded heq
      exact hself

end Bounds

section Limits

variable {x : Float} {s : Bool} {m : Nat} {e : Int}

theorem value?_abs (h : ofFloat x = .finite s m e) (hm : 0 < m) :
    (ofFloat x.abs).value? = some (extended (m * 2 ^ e)) := by
  have hc := canonical_of_ofFloat h hm
  rw [eq_ofParts_of_ofFloat h hm, abs_ofParts hc, value?_ofParts hc]
  rfl

theorem millionth_le_iff (h : ofFloat x = .finite s m e) (hm : 0 < m) :
    -6 ≤ (shortestDecimal m e).exponent ↔ 1e-6 ≤ x.abs := by
  have hparts : ofFloat 1e-6 = .finite false 4722366482869645 (-72) := by decide
  have hexponent : -6 ≤ (shortestDecimal 4722366482869645 (-72)).exponent := by decide +kernel
  have hvalue : (ofFloat 1e-6).value? =
      some (extended ((4722366482869645 : Nat) * 2 ^ (-72 : Int))) := by
    rw [hparts]
    rfl
  rw [float_le_iff hvalue (value?_abs h hm), extended_le_iff]
  refine le_exponent_iff (canonical_of_ofFloat h hm)
    (canonical_of_ofFloat hparts (by decide)) ?_ ?_ hexponent
  · rw [low, gapBelow, if_neg (by decide)]
    norm_num
  · rw [high]
    norm_num

theorem sextillion_le_iff (h : ofFloat x = .finite s m e) (hm : 0 < m) :
    21 ≤ (shortestDecimal m e).exponent ↔ ¬x.abs < 1e21 := by
  have hparts : ofFloat 1e21 = .finite false 7629394531250000 17 := by decide
  have hexponent : 21 ≤ (shortestDecimal 7629394531250000 17).exponent := by decide +kernel
  have hvalue : (ofFloat 1e21).value? =
      some (extended ((7629394531250000 : Nat) * 2 ^ (17 : Int))) := by
    rw [hparts]
    rfl
  rw [float_lt_iff (value?_abs h hm) hvalue, extended_lt_iff, not_lt]
  refine le_exponent_iff (canonical_of_ofFloat h hm)
    (canonical_of_ofFloat hparts (by decide)) ?_ ?_ hexponent
  · rw [low, gapBelow, if_neg (by decide)]
    norm_num
  · rw [high]
    norm_num

/-- A number is in plain notation from a millionth up to `1e21`. -/
theorem mem_layoutDecimal_iff_not_between (h : ofFloat x = .finite s m e) (hm : 0 < m) :
    'e' ∈ layoutDecimal (shortestDecimal m e) ↔ ¬(1e-6 ≤ x.abs ∧ x.abs < 1e21) := by
  have hproper := (shortestDecimal_spec (canonical_of_ofFloat h hm)).1
  rw [mem_layoutDecimal_iff hproper, not_and_or, ← sextillion_le_iff h hm, ← millionth_le_iff h hm]
  omega

end Limits

/-! ## Texts -/

/-- The text of a number but zero is a numeral of its shortest decimal. -/
theorem exists_numeral_of_ne_zero {x : Float} {negative : Bool} {m : Nat} {e : Int}
    (h : ofFloat x = .finite negative m e) (hm : m ≠ 0) : ∃ n : Numeral,
      (formatNumber x).toList = (if negative then ['-'] else []) ++ n.chars ∧
      n.value = (shortestDecimal m e).value ∧
      (n.exponent = none ↔ 1e-6 ≤ x.abs ∧ x.abs < 1e21) := by
  have hm := Nat.pos_of_ne_zero hm
  have hproper := (shortestDecimal_spec (canonical_of_ofFloat h hm)).1
  obtain ⟨n, hchars, hvalue⟩ := exists_numeral_layoutDecimal hproper
  refine ⟨n, ?_, hvalue, ?_⟩
  · rw [formatNumber, h, hchars]
    dsimp only
    rw [if_neg hm.ne', String.toList_ofList]
    cases negative <;> rfl
  · have hplain := mem_layoutDecimal_iff_not_between h hm
    rw [← hchars, n.mem_chars_iff] at hplain
    exact not_iff_not.mp hplain

/-- Numbers of one text are the same number, but for the sign of a zero. -/
theorem eq_or_zero_of_formatNumber_eq {x y : Float} (h : formatNumber x = formatNumber y) :
    x = y ∨ (x = 0.0 ∨ x = -0.0) ∧ (y = 0.0 ∨ y = -0.0) := by
  have hread := Value.parseNumber_formatNumber x
  rw [h, Value.parseNumber_formatNumber y] at hread
  by_cases hx : x = -0.0 <;> by_cases hy : y = -0.0
  · exact .inl (hx.trans hy.symm)
  · rw [if_pos hx, if_neg hy] at hread
    exact .inr ⟨.inr hx, .inl hread⟩
  · rw [if_neg hx, if_pos hy] at hread
    exact .inr ⟨.inl hread.symm, .inr hy⟩
  · rw [if_neg hx, if_neg hy] at hread
    exact .inl hread.symm

/-- Numbers have the same text if they are equal, or both are not a number. -/
theorem formatNumber_eq_iff (x y : Float) :
    formatNumber x = formatNumber y ↔ (x == y) = true ∨ x.isNaN = true ∧ y.isNaN = true := by
  constructor
  · intro h
    rcases eq_or_zero_of_formatNumber_eq h with rfl | ⟨rfl | rfl, rfl | rfl⟩
    · rw [float_beq_self_iff, isNaN_iff]
      tauto
    all_goals exact .inl (by decide)
  · rintro (h | ⟨hx, hy⟩)
    · rcases eq_or_zero_of_beq h with rfl | ⟨rfl | rfl, rfl | rfl⟩
      · rfl
      all_goals decide
    · rw [eq_of_ofFloat_eq_nan (isNaN_iff.mp hx), eq_of_ofFloat_eq_nan (isNaN_iff.mp hy)]

/-- The text of a number denotes its shortest decimal exactly, with its sign; it is in plain notation
from a millionth up to `1e21`, and otherwise it has an exponent, which always carries its sign; and
it is read as the number it was made from.  Numbers have the same text just if they are equal or both
are not a number. -/
theorem formatNumber_faithful :
    (∀ (x : Float) (negative : Bool) (m : Nat) (e : Int), ofFloat x = .finite negative m e → m ≠ 0 →
      (shortestDecimal m e).Proper ∧
      ∃ n : Numeral, (formatNumber x).toList = (if negative then ['-'] else []) ++ n.chars ∧
        n.value = (shortestDecimal m e).value ∧
        (n.exponent = none ↔ 1e-6 ≤ x.abs ∧ x.abs < 1e21) ∧
        parseNumber (formatNumber x).toList = x) ∧
    ∀ x y : Float,
      formatNumber x = formatNumber y ↔ (x == y) = true ∨ x.isNaN = true ∧ y.isNaN = true := by
  refine ⟨fun x negative m e h hm => ?_, formatNumber_eq_iff⟩
  obtain ⟨n, htext, hvalue, hplain⟩ := exists_numeral_of_ne_zero h hm
  have hzero : x ≠ -0.0 := by
    rintro rfl
    have hparts : ofFloat (-0.0) = .finite true 0 (-1074) := by decide
    rw [hparts] at h
    cases h
    exact hm rfl
  refine ⟨(shortestDecimal_spec (canonical_of_ofFloat h (Nat.pos_of_ne_zero hm))).1, n, htext, hvalue,
    hplain, ?_⟩
  rw [Value.parseNumber_formatNumber, if_neg hzero]

/-- A negative number below a millionth, and the two zeros. -/
theorem formatNumber_faithful_small :
    (∃ n : Numeral, "-1.5e-7".toList = '-' :: n.chars ∧ n.value = 15 / 10 ^ 8 ∧ n.exponent ≠ none ∧
      parseNumber "-1.5e-7".toList = -1.5e-7) ∧ formatNumber (-0.0) = formatNumber 0.0 := by
  obtain ⟨hfinite, hsame⟩ := formatNumber_faithful
  have hparts : ofFloat (-1.5e-7) = .finite true 5666839779443574 (-75) := by decide
  have hformat : formatNumber (-1.5e-7) = "-1.5e-7" := by decide +kernel
  have hdecimal : shortestDecimal 5666839779443574 (-75) = ⟨15, 2, -7⟩ := by decide +kernel
  obtain ⟨-, n, htext, hvalue, hplain, hread⟩ := hfinite _ _ _ _ hparts (by decide)
  rw [hformat] at htext hread
  refine ⟨⟨n, htext, ?_, fun h => ?_, hread⟩, (hsame (-0.0) 0.0).mpr (.inl (by decide))⟩
  · rw [hvalue, hdecimal, ShortDecimal.value]
    norm_num
  · exact absurd (hplain.mp h).1 (by decide)

end ExprLang
