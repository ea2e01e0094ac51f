import ExprLang.Number.Layout
import ExprLang.Number.Numeral
import ExprLang.Proofs.Number.Bits

/-!
# ExprLang.Proofs.Number.ReadBack

A number that is written reads back as itself.

What is written is a numeral (`Numeral`): digits, perhaps with a point among them and an exponent
behind.  It denotes the shortest decimal of the number, in one of four layouts
(`writes_layoutDecimal`), and a decimal that is nearest to a number is read as that number
(`Binary.ofScientific_eq`).  Only the sign of a zero is lost (`exists_numeral_formatNumber`).
-/

namespace ExprLang

namespace Binary

open Float.Model Float.Model.UnpackedFloat

variable {m : Nat} {e : Int}

/-! ## Reading decimals -/

/-- The mantissa of a small power of ten. -/
def tenMantissa (k : Nat) : Nat := 10 ^ k * 2 ^ 52 / 2 ^ (10 ^ k).log2

theorem tenMantissa_spec {k : Nat} (hk : k ≤ 22) : 2 ^ 52 ≤ tenMantissa k ∧ tenMantissa k < 2 ^ 53 ∧
    tenMantissa k * 2 ^ (10 ^ k).log2 = 10 ^ k * 2 ^ 52 ∧ (10 ^ k).log2 ≤ 73 := by
  have hall : ∀ k : Fin 23, 2 ^ 52 ≤ tenMantissa k ∧ tenMantissa k < 2 ^ 53 ∧
      tenMantissa k * 2 ^ (10 ^ k.val).log2 = 10 ^ k.val * 2 ^ 52 ∧ (10 ^ k.val).log2 ≤ 73 := by
    decide
  exact hall ⟨k, by omega⟩

theorem canonical_tenMantissa {k : Nat} (hk : k ≤ 22) :
    Canonical (tenMantissa k) ((10 ^ k).log2 - 52) := by
  obtain ⟨hlow, hhigh, -, hlog⟩ := tenMantissa_spec hk
  exact ⟨by omega, hhigh, by omega, by omega, fun h => absurd h (not_lt.mpr hlow)⟩

theorem tenMantissa_mul {k : Nat} (hk : k ≤ 22) :
    (tenMantissa k : ℚ) * 2 ^ ((10 ^ k).log2 - 52 : Int) = 10 ^ k := by
  obtain ⟨-, -, heq, -⟩ := tenMantissa_spec hk
  have heq : (tenMantissa k : ℚ) * 2 ^ (10 ^ k).log2 = 10 ^ k * 2 ^ 52 := by exact_mod_cast heq
  rw [zpow_sub₀ (by norm_num), zpow_natCast, mul_div_assoc', heq]
  norm_cast
  norm_num

theorem toBits_powersOfTen : ∀ k : Fin Float.exactlyRepresentablePowersOfTen.size,
    Float.exactlyRepresentablePowersOfTen[k].toModel.toBits =
      (Float.Model.pack (.finite .positive (tenMantissa k) ((10 ^ k.val).log2 - 52)
        (canonical_tenMantissa (Nat.le_of_lt_succ k.2)).pos)).toBits := by
  decide

/-- The powers of ten that are numbers. -/
theorem unpack_powersOfTen {k : Nat} (hk : k ≤ 22)
    (hlt : k < Float.exactlyRepresentablePowersOfTen.size) :
    Float.exactlyRepresentablePowersOfTen[k].toModel.unpack =
      .finite .positive (tenMantissa k) ((10 ^ k).log2 - 52) (canonical_tenMantissa hk).pos := by
  have hmodel : ∀ {x y : Float.Model}, x.toBits = y.toBits → x = y := by
    rintro ⟨x, hx⟩ ⟨y, hy⟩ h
    cases h
    rfl
  have hpack : Float.exactlyRepresentablePowersOfTen[k].toModel =
      .pack (.finite .positive (tenMantissa k) ((10 ^ k).log2 - 52)
        (canonical_tenMantissa hk).pos) := hmodel (toBits_powersOfTen ⟨k, hlt⟩)
  rw [hpack]
  exact unpack_pack (canonical_tenMantissa hk) .positive

variable {m₁ m₂ : Nat} {e₁ e₂ : Int} {h₁ : 0 < m₁} {h₂ : 0 < m₂}

theorem mul_of_unpack {x y : Float} (h : Canonical m e)
    (hx : x.toModel.unpack = .finite .positive m₁ e₁ h₁)
    (hy : y.toModel.unpack = .finite .positive m₂ e₂ h₂) (hlong : 2 ^ 52 ≤ m₁ * m₂)
    (hnear : Near m e (m₁ * 2 ^ e₁ * (m₂ * 2 ^ e₂))) : x * y = ofParts false m e h.pos := by
  show Float.ofModel (.pack (UnpackedFloat.mul Format.binary64 _ _)) = _
  rw [hx, hy, mul_eq h hlong hnear]
  rfl

theorem div_of_unpack {x y : Float} (h : Canonical m e)
    (hx : x.toModel.unpack = .finite .positive m₁ e₁ h₁)
    (hy : y.toModel.unpack = .finite .positive m₂ e₂ h₂)
    (hnear : Near m e (m₁ * 2 ^ e₁ / (m₂ * 2 ^ e₂))) : x / y = ofParts false m e h.pos := by
  show Float.ofModel (.pack (UnpackedFloat.div Format.binary64 _ _)) = _
  rw [hx, hy, div_eq h hnear]
  rfl

/-- A decimal is multiplied out and rounded once. -/
theorem ofScientific_model (h : Canonical m e) {n : Nat} (hn : 0 < n) {p : Int}
    (hlow : -2048 ≤ p) (hhigh : p ≤ 2048) (hx : Near m e (n * 10 ^ p)) :
    UnpackedFloat.ofScientific Format.binary64 n p = .finite .positive m e h.pos := by
  have hbits : (2 : Int) ^ Format.binary64.exponentBits = 2048 := by decide
  have hmantissa : Format.binary64.mantissaBits = 53 := rfl
  unfold UnpackedFloat.ofScientific
  rw [dif_neg hn.ne', hbits, if_neg (by omega), if_neg (by omega)]
  split
  · next hp =>
    refine mul_eq h ?_ ?_
    · rw [hmantissa, Nat.shiftLeft_eq]
      have := Nat.mul_le_mul hn
        (Nat.mul_le_mul_left (2 ^ 53) (Nat.one_le_pow p.toNat 10 (by decide)))
      rw [mul_assoc]
      omega
    · have hpow : (10 : ℚ) ^ p = 10 ^ p.toNat := by
        rw [← zpow_natCast, Int.toNat_of_nonneg hp]
      convert hx using 1
      rw [hmantissa, Nat.shiftLeft_eq, hpow, zpow_neg, zpow_zero]
      push_cast
      field_simp
  · next hp =>
    refine div_eq h ?_
    have hpow : (10 : ℚ) ^ p = (10 ^ (-p).toNat)⁻¹ := by
      rw [← zpow_natCast, ← zpow_neg, Int.toNat_of_nonneg (by omega), neg_neg]
    convert hx using 1
    rw [hpow, zpow_zero, mul_one, mul_one, div_eq_mul_inv]
    push_cast
    rfl

/-- A decimal that is nearest to a number is read as it. -/
theorem ofScientific_eq (h : Canonical m e) {n k : Nat} (hn : 0 < n) (hk : k ≤ 2048)
    {negative : Bool}
    (hx : Near m e (n * 10 ^ (if negative then -(k : Int) else k))) :
    Float.ofScientific n negative k = ofParts false m e h.pos := by
  unfold Float.ofScientific
  split
  · next hfast =>
    obtain ⟨hlt, hk⟩ := hfast
    obtain ⟨m₁, e₁, h₁, hnat, hlow, hvalue⟩ := ofNat_eq hn hlt
    have hunpack : n.toUInt64.toFloat.toModel.unpack = .finite .positive m₁ e₁ h₁.pos := by
      have hword : n.toUInt64.toNat = n := by
        rw [Nat.toUInt64_eq, UInt64.toNat_ofNat', Nat.mod_eq_of_lt (by omega)]
      show (Float.Model.pack (UnpackedFloat.ofNat Format.binary64 n.toUInt64.toNat)).unpack = _
      rw [hword, hnat]
      exact unpack_pack h₁ .positive
    have hten := tenMantissa_mul hk
    cases negative with
    | true =>
      rw [if_pos rfl, zpow_neg, zpow_natCast, ← div_eq_mul_inv, ← hvalue, ← hten] at hx
      exact div_of_unpack h hunpack (unpack_powersOfTen hk _) hx
    | false =>
      rw [if_neg (by decide), zpow_natCast, ← hvalue, ← hten] at hx
      exact mul_of_unpack h hunpack (unpack_powersOfTen hk _)
        (hlow.trans (Nat.le_mul_of_pos_right _ (canonical_tenMantissa hk).pos)) hx
  · have hexponent : (if negative then Int.negOfNat k else Int.ofNat k) =
        if negative then -(k : Int) else k := by rw [Int.negOfNat_eq]; rfl
    show Float.ofModel (.pack (UnpackedFloat.ofScientific Format.binary64 n
      (if negative then Int.negOfNat k else Int.ofNat k))) = _
    rw [hexponent, ofScientific_model h hn (by split <;> omega) (by split <;> omega) hx]
    rfl

end Binary

/-! ## Digits -/

section Digits

variable {n count : Nat} {l : List Char}

theorem mem_of_isDecimalDigit {c : Char} (hc : isDecimalDigit c = true) :
    c ∈ "0123456789".toList := by
  have hall : ∀ k < 58, 48 ≤ k → Char.ofNat k ∈ "0123456789".toList := by decide
  simp only [isDecimalDigit, Bool.and_eq_true, decide_eq_true_eq, Char.le_def,
    UInt32.le_iff_toNat_le] at hc
  have hmem := hall c.toNat (Nat.lt_succ_of_le hc.2) hc.1
  rwa [Char.ofNat_toNat] at hmem

theorem all_digitChars (n : Nat) : (digitChars n).all isDecimalDigit = true := by
  refine List.all_eq_true.mpr fun c hc => ?_
  have hdigit := Nat.isDigit_of_mem_toDigits (by decide) (by decide) hc
  simp only [Char.isDigit, Bool.and_eq_true, decide_eq_true_eq] at hdigit
  simp only [isDecimalDigit, Bool.and_eq_true, decide_eq_true_eq]
  exact hdigit

theorem digitChars_ne_nil (n : Nat) : digitChars n ≠ [] := Nat.toDigits_ne_nil

theorem decimalNat_digitChars (n : Nat) : decimalNat (digitChars n) = n :=
  Nat.ofDigitChars_ten_toDigits

theorem length_digitChars (hpos : 0 < count) (hlow : 10 ^ (count - 1) ≤ n) (hhigh : n < 10 ^ count) :
    (digitChars n).length = count := by
  have hle : (digitChars n).length ≤ count :=
    (Nat.length_toDigits_le_iff (by decide) hpos).mpr hhigh
  have hge : ¬(digitChars n).length ≤ count - 1 := by
    intro h
    rcases Nat.eq_zero_or_pos (count - 1) with hzero | hpos'
    · have := List.length_pos_iff.mpr (digitChars_ne_nil n)
      omega
    · exact absurd ((Nat.length_toDigits_le_iff (by decide) hpos').mp h) (Nat.not_lt.mpr hlow)
  omega

theorem decimalNat_lt (hl : l.all isDecimalDigit = true) (k : Nat) :
    Nat.ofDigitChars 10 l k < (k + 1) * 10 ^ l.length := by
  induction l generalizing k with
  | nil => simp [Nat.ofDigitChars]
  | cons c l ih =>
    rw [List.all_cons, Bool.and_eq_true] at hl
    have hc : c.toNat - '0'.toNat ≤ 9 := by
      have hle : c.toNat ≤ '9'.toNat := by
        have := hl.1
        simp only [isDecimalDigit, Bool.and_eq_true, decide_eq_true_eq] at this
        exact this.2
      exact Nat.sub_le_sub_right hle _
    rw [Nat.ofDigitChars_cons, List.length_cons, pow_succ]
    calc Nat.ofDigitChars 10 l (10 * k + (c.toNat - '0'.toNat))
        < (10 * k + (c.toNat - '0'.toNat) + 1) * 10 ^ l.length := ih hl.2 _
      _ ≤ (10 * k + 10) * 10 ^ l.length := Nat.mul_le_mul_right _ (by omega)
      _ = (k + 1) * (10 ^ l.length * 10) := by ring

theorem decimalNat_zeros (l : List Char) (j : Nat) :
    decimalNat (l ++ List.replicate j '0') = decimalNat l * 10 ^ j := by
  have hzeros : ∀ j k, Nat.ofDigitChars 10 (List.replicate j '0') k = k * 10 ^ j := by
    intro j
    induction j with
    | zero => simp [Nat.ofDigitChars]
    | succ j ih =>
      intro k
      rw [List.replicate_succ, Nat.ofDigitChars_cons, ih]
      simp
      ring
  show Nat.ofDigitChars 10 _ 0 = Nat.ofDigitChars 10 l 0 * 10 ^ j
  rw [Nat.ofDigitChars_append, hzeros]

/-- A number with as many digits as it is written with has a first digit other than zero. -/
theorem head?_digitChars (hpos : 0 < count) (hlow : 10 ^ (count - 1) ≤ n) (hhigh : n < 10 ^ count) :
    (digitChars n).head? ≠ some '0' := by
  intro hhead
  obtain ⟨l, hl⟩ := List.head?_eq_some_iff.mp hhead
  have hall := all_digitChars n
  have hlength := length_digitChars hpos hlow hhigh
  have hvalue := decimalNat_digitChars n
  rw [hl, List.all_cons, Bool.and_eq_true] at hall
  rw [hl, List.length_cons] at hlength
  rw [hl] at hvalue
  have hlt : decimalNat ('0' :: l) < 1 * 10 ^ l.length := decimalNat_lt hall.2 0
  rw [hvalue, one_mul] at hlt
  rw [← hlength, Nat.add_sub_cancel] at hlow
  omega

end Digits

/-! ## Numerals -/

/-- A decimal numeral: digits, perhaps some behind a point, and perhaps an exponent, negative or not,
that carries its sign. -/
structure Numeral where
  whole : List Char
  fraction : List Char
  exponent : Option (Bool × List Char)
  whole_ne_nil : whole ≠ []
  all_whole : whole.all isDecimalDigit = true
  all_fraction : fraction.all isDecimalDigit = true
  exponent_ne_nil : ∀ p ∈ exponent, p.2 ≠ []
  all_exponent : ∀ p ∈ exponent, p.2.all isDecimalDigit = true

namespace Numeral

/-- The digits behind the point, with the point. -/
def pointed : List Char → List Char
  | [] => []
  | fraction => '.' :: fraction

/-- The exponent behind its mark. -/
def marked : Option (Bool × List Char) → List Char
  | none => []
  | some (negative, digits) => 'e' :: (if negative then '-' else '+') :: digits

/-- The numeral as it is written. -/
def chars (n : Numeral) : List Char := n.whole ++ (pointed n.fraction ++ marked n.exponent)

/-- The power of ten that the exponent stands for. -/
def power : Option (Bool × List Char) → Int
  | none => 0
  | some (negative, digits) => if negative then -(decimalNat digits : Int) else decimalNat digits

/-- The power of ten of the last digit. -/
def scale (n : Numeral) : Int := power n.exponent - n.fraction.length

theorem readExponent_marked {negative : Bool} {digits : List Char} (hne : digits ≠ [])
    (hall : digits.all isDecimalDigit = true) :
    readExponent ((if negative then '-' else '+') :: digits) =
      some (power (some (negative, digits))) := by
  cases negative <;> exact if_pos ⟨hne, hall⟩

theorem takeWhile_digits {l r : List Char} (hl : l.all isDecimalDigit = true)
    (hr : r.head?.any isDecimalDigit = false) :
    (l ++ r).takeWhile isDecimalDigit = l ∧ (l ++ r).dropWhile isDecimalDigit = r := by
  rw [List.all_eq_true] at hl
  rw [List.takeWhile_append_of_pos hl, List.dropWhile_append_of_pos hl]
  cases r with
  | nil => simp
  | cons c r =>
    have hc : isDecimalDigit c = false := hr
    simp [hc]

/-- What a numeral is read as. -/
theorem readDecimal_chars (n : Numeral) :
    readDecimal n.chars = some (nearestDecimal (n.whole ++ n.fraction) n.scale) := by
  obtain ⟨whole, fraction, exponent, hne, hwhole, hfraction, hexponent, hdigits⟩ := n
  have hmark : (marked exponent).head?.any isDecimalDigit = false := by
    cases exponent <;> rfl
  have hpoint : (pointed fraction ++ marked exponent).head?.any isDecimalDigit = false := by
    cases fraction with
    | nil => exact hmark
    | cons c fraction => rfl
  obtain ⟨htake, hdrop⟩ := takeWhile_digits hwhole hpoint
  obtain ⟨htake', hdrop'⟩ := takeWhile_digits hfraction hmark
  have hread : ∀ p, exponent = some p →
      readExponent ((if p.1 then '-' else '+') :: p.2) = some (power (some p)) := by
    rintro p rfl
    exact readExponent_marked (hexponent p rfl) (hdigits p rfl)
  unfold readDecimal
  simp only [chars, scale, htake, hdrop, hne, false_and, if_false]
  cases fraction with
  | nil =>
    cases exponent with
    | none => rfl
    | some p => simp [pointed, marked, hread p rfl]
  | cons c fraction =>
    rw [List.cons_append] at htake' hdrop'
    simp only [pointed, List.cons_append, htake', hdrop']
    cases exponent with
    | none => simp [marked, power]
    | some p => simp [marked, hread p rfl]

end Numeral

/-! ## The layouts of a decimal -/

/-- The digits of a decimal with zeros around them are nearest to what the decimal is nearest to. -/
theorem nearestDecimal_eq {d : ShortDecimal} (hd : d.Proper) {m : Nat} {e : Int}
    (h : Binary.Canonical m e) (hnear : Binary.Near m e d.value) (hlow : -360 ≤ d.exponent)
    (hhigh : d.exponent ≤ 342) (i : Nat) {j : Nat} (hj : j ≤ 21) :
    nearestDecimal (List.replicate i '0' ++ (digitChars d.digits ++ List.replicate j '0'))
      (d.exponent - d.count + 1 - j) = Binary.ofParts false m e h.pos := by
  obtain ⟨hpos, hcount, hdigits, hlt⟩ := hd
  have hlength := length_digitChars hpos hdigits hlt
  have hdrop : (List.replicate i '0' ++ (digitChars d.digits ++ List.replicate j '0')).dropWhile
      (· == '0') = digitChars d.digits ++ List.replicate j '0' := by
    rw [List.dropWhile_append_of_pos (by simp)]
    have hhead := head?_digitChars hpos hdigits hlt
    obtain ⟨c, l, hl⟩ := List.exists_cons_of_ne_nil (digitChars_ne_nil d.digits)
    rw [hl] at hhead ⊢
    have hc : c ≠ '0' := fun h => hhead (by rw [h]; rfl)
    simp [hc]
  have hvalue : decimalNat (digitChars d.digits ++ List.replicate j '0') = d.digits * 10 ^ j := by
    rw [decimalNat_zeros, decimalNat_digitChars]
  have hn : 0 < d.digits * 10 ^ j := by
    have := Nat.one_le_pow (d.count - 1) 10 (by decide)
    exact Nat.mul_pos (by omega) (by positivity)
  have hscaled : ((d.digits * 10 ^ j : Nat) : ℚ) * 10 ^ (d.exponent - d.count + 1 - j : Int) =
      d.value := by
    rw [zpow_sub₀ (by norm_num), ShortDecimal.value]
    push_cast
    field_simp
    norm_cast
  simp only [nearestDecimal, hdrop, hvalue, List.length_append, List.length_replicate, hlength]
  rw [if_neg hn.ne', if_neg (by push_cast; omega), if_neg (by push_cast; omega)]
  split
  · next hp =>
    refine Binary.ofScientific_eq h hn (by omega) ?_
    rw [if_neg (by decide), Int.toNat_of_nonneg hp, hscaled]
    exact hnear
  · next hp =>
    refine Binary.ofScientific_eq h hn (by omega) ?_
    rw [if_pos rfl, Int.toNat_of_nonneg (by omega), neg_neg, hscaled]
    exact hnear

/-- The text is a numeral of the digits of the decimal, with zeros before or behind them. -/
def ShortDecimal.Writes (d : ShortDecimal) (text : List Char) : Prop :=
  ∃ n : Numeral, n.chars = text ∧ ∃ i j, j ≤ 21 ∧
    n.whole ++ n.fraction = List.replicate i '0' ++ (digitChars d.digits ++ List.replicate j '0') ∧
    n.scale = d.exponent - d.count + 1 - j

section Layouts

variable {d : ShortDecimal} {k : Nat}

theorem all_zeros (k : Nat) : (List.replicate k '0').all isDecimalDigit = true := by
  rw [List.all_replicate]
  cases k <;> rfl

theorem all_digitChars_split (n k : Nat) : ((digitChars n).take k).all isDecimalDigit = true ∧
    ((digitChars n).drop k).all isDecimalDigit = true := by
  have hall := all_digitChars n
  rwa [← List.take_append_drop k (digitChars n), List.all_append, Bool.and_eq_true] at hall

theorem take_digitChars_ne_nil (n : Nat) (hk : k ≠ 0) : (digitChars n).take k ≠ [] := by
  rw [Ne, List.take_eq_nil_iff]
  exact not_or.mpr ⟨hk, digitChars_ne_nil n⟩

theorem ShortDecimal.Proper.length_digitChars (h : d.Proper) :
    (digitChars d.digits).length = d.count :=
  ExprLang.length_digitChars h.count_pos h.le_digits h.digits_lt

/-- Zeros behind the digits. -/
theorem writes_zeros (hk : k ≤ 21) (hexponent : d.exponent + 1 = d.count + k) :
    d.Writes (digitChars d.digits ++ List.replicate k '0') := by
  refine ⟨⟨digitChars d.digits ++ List.replicate k '0', [], none, ?_, ?_, rfl, by simp, by simp⟩,
    ?_, 0, k, hk, ?_, ?_⟩
  · simp [digitChars_ne_nil]
  · rw [List.all_append, all_digitChars, all_zeros]
    rfl
  · simp [Numeral.chars, Numeral.pointed, Numeral.marked]
  · simp
  · simp only [Numeral.scale, Numeral.power, List.length_nil]
    omega

/-- The point among the digits. -/
theorem writes_point (hd : d.Proper) (hk : k ≠ 0) (hlt : k < d.count)
    (hexponent : d.exponent + 1 = k) :
    d.Writes ((digitChars d.digits).take k ++ '.' :: (digitChars d.digits).drop k) := by
  have hlength := hd.length_digitChars
  refine ⟨⟨(digitChars d.digits).take k, (digitChars d.digits).drop k, none,
    take_digitChars_ne_nil _ hk, (all_digitChars_split _ k).1, (all_digitChars_split _ k).2,
    by simp, by simp⟩, ?_, 0, 0, by omega, ?_, ?_⟩
  · have hne : (digitChars d.digits).drop k ≠ [] := by
      rw [Ne, List.drop_eq_nil_iff]
      omega
    obtain ⟨c, l, hl⟩ := List.exists_cons_of_ne_nil hne
    simp [Numeral.chars, Numeral.marked, hl, Numeral.pointed]
  · simp
  · simp only [Numeral.scale, Numeral.power, List.length_drop]
    omega

/-- Zeros between the point and the digits. -/
theorem writes_fraction (hd : d.Proper) (hexponent : d.exponent + 1 = -k) :
    d.Writes ('0' :: '.' :: (List.replicate k '0' ++ digitChars d.digits)) := by
  have hlength := hd.length_digitChars
  refine ⟨⟨['0'], List.replicate k '0' ++ digitChars d.digits, none, by simp, rfl, ?_, by simp,
    by simp⟩, ?_, k + 1, 0, by omega, ?_, ?_⟩
  · rw [List.all_append, all_digitChars, all_zeros]
    rfl
  · have hne : List.replicate k '0' ++ digitChars d.digits ≠ [] := by simp [digitChars_ne_nil]
    obtain ⟨c, l, hl⟩ := List.exists_cons_of_ne_nil hne
    simp [Numeral.chars, Numeral.marked, hl, Numeral.pointed]
  · simp [List.replicate_succ]
  · simp only [Numeral.scale, Numeral.power, List.length_append, List.length_replicate]
    omega

/-- An exponent behind the digits, and the point behind the first. -/
theorem writes_exponent (hd : d.Proper) :
    d.Writes ((digitChars d.digits).take 1 ++
      (if (digitChars d.digits).length = 1 then [] else '.' :: (digitChars d.digits).drop 1) ++
      'e' :: (if d.exponent < 0 then '-' else '+') :: digitChars d.exponent.natAbs) := by
  have hlength := hd.length_digitChars
  have hpos := hd.count_pos
  refine ⟨⟨(digitChars d.digits).take 1, (digitChars d.digits).drop 1,
    some (decide (d.exponent < 0), digitChars d.exponent.natAbs),
    take_digitChars_ne_nil _ (by decide), (all_digitChars_split _ 1).1,
    (all_digitChars_split _ 1).2, ?_, ?_⟩, ?_, 0, 0, by omega, ?_, ?_⟩
  · rintro p ⟨⟩
    exact digitChars_ne_nil _
  · rintro p ⟨⟩
    exact all_digitChars _
  · have hpointed : Numeral.pointed ((digitChars d.digits).drop 1) =
        if (digitChars d.digits).length = 1 then [] else '.' :: (digitChars d.digits).drop 1 := by
      split
      · next h => rw [List.drop_eq_nil_iff.mpr h.le, Numeral.pointed]
      · next h =>
        have hne : (digitChars d.digits).drop 1 ≠ [] := by
          rw [Ne, List.drop_eq_nil_iff]
          omega
        obtain ⟨c, l, hl⟩ := List.exists_cons_of_ne_nil hne
        rw [hl, Numeral.pointed]
        exact List.cons_ne_nil c l
    rw [Numeral.chars, hpointed]
    simp only [Numeral.marked, decide_eq_true_eq, List.append_assoc]
  · simp only [List.take_append_drop, List.replicate_zero, List.nil_append, List.append_nil]
  · simp only [Numeral.scale, Numeral.power, decimalNat_digitChars, List.length_drop,
      decide_eq_true_eq]
    split <;> omega

/-- A decimal is laid out as a numeral of its digits. -/
theorem writes_layoutDecimal (hd : d.Proper) : d.Writes (layoutDecimal d) := by
  unfold layoutDecimal
  dsimp only
  split
  · exact writes_zeros (by omega) (by omega)
  · split
    · exact writes_point hd (by omega) (by omega) (by omega)
    · split
      · exact writes_fraction hd (by omega)
      · exact writes_exponent hd

end Layouts

/-! ## Numbers -/

/-- The text of a number other than infinities and what is not a number: a numeral, with a sign
perhaps.  It is read as the number, or as the zero without a sign. -/
theorem exists_numeral_formatNumber {x : Float} {s : Bool} {m : Nat} {e : Int}
    (h : Binary.ofFloat x = .finite s m e) : ∃ (negative : Bool) (n : Numeral) (y : Float),
      (formatNumber x).toList = (if negative then ['-'] else []) ++ n.chars ∧
      readDecimal n.chars = some y ∧
      (if negative then -y else y) = if x = -0.0 then 0.0 else x := by
  unfold formatNumber
  rw [h]
  dsimp only
  by_cases hm : m = 0
  · subst hm
    refine ⟨false, ⟨['0'], [], none, by simp, rfl, rfl, by simp, by simp⟩, 0.0, ?_, ?_, ?_⟩
    · rw [if_pos rfl]
      rfl
    · rw [Numeral.readDecimal_chars]
      rfl
    · rw [Binary.eq_of_ofFloat_eq_zero h]
      cases s <;> decide
  · have hm := Nat.pos_of_ne_zero hm
    have hc := Binary.canonical_of_ofFloat h hm
    obtain ⟨hproper, hnear⟩ := shortestDecimal_spec hc
    obtain ⟨hlow, hhigh⟩ := exponent_shortestDecimal hc
    obtain ⟨n, hchars, i, j, hj, hdigits, hscale⟩ := writes_layoutDecimal hproper
    have hx := Binary.eq_ofParts_of_ofFloat h hm
    have hne : x ≠ -0.0 := by
      rintro rfl
      have hzero : Binary.ofFloat (-0.0) = .finite true 0 (-1074) := by decide
      rw [hzero] at h
      cases h
      exact absurd hm (by decide)
    refine ⟨s, n, Binary.ofParts false m e hm, ?_, ?_, ?_⟩
    · rw [if_neg hm.ne', hchars, String.toList_ofList]
      cases s <;> rfl
    · rw [Numeral.readDecimal_chars, hdigits, hscale,
        nearestDecimal_eq hproper hc hnear hlow hhigh i hj]
    · rw [if_neg hne, hx]
      cases s
      · rfl
      · exact Binary.neg_ofParts hc

end ExprLang
