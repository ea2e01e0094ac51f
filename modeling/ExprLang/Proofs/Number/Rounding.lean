import Mathlib
import ExprLang.Proofs.Number.Shortest

/-!
# ExprLang.Proofs.Number.Rounding

Products and quotients of whole numbers round to the nearest number.

The arithmetic of numbers shortens an exact mantissa bit by bit and keeps two bits of what it drops:
half a unit, and whether there is anything else (`Truncates`).  That is enough to round to the
nearest number (`roundWithAccuracy_eq`), so a product or a quotient that is nearest to a number is
that number (`mul_eq`, `div_eq`).
-/

namespace ExprLang.Binary

open Float.Model Float.Model.UnpackedFloat

/-! ## Mantissas -/

/-- The mantissa and the two bits are what is left of `num / den`: its whole part, whether at least
half a unit was dropped, and whether anything else was. -/
structure Truncates (num den : Nat) (em : ExtendedMantissa) : Prop where
  mantissa : em.mantissa = num / den
  roundBit : em.roundBit = decide (den ≤ 2 * (num % den))
  stickyBit : em.stickyBit = decide (2 * (num % den) % den ≠ 0)

variable {num den : Nat} {em : ExtendedMantissa}

theorem Truncates.shiftRightOne (h : Truncates num den em) (hden : 0 < den) :
    Truncates num (den * 2) em.shiftRightOne := by
  obtain ⟨hmantissa, hround, hsticky⟩ := h
  have hmod : num % (den * 2) = num % den + den * (num / den % 2) := Nat.mod_mul
  have hlt := Nat.mod_lt num hden
  have htwice : 2 * (num % (den * 2)) % (den * 2) = 2 * (num % den) := by
    rw [hmod, Nat.mul_comm den 2, Nat.mul_mod_mul_left, Nat.add_mul_mod_self_left,
      Nat.mod_eq_of_lt hlt]
  refine ⟨?_, ?_, ?_⟩
  · rw [ExtendedMantissa.shiftRightOne, hmantissa, Nat.div_div_eq_div_mul]
  · rw [ExtendedMantissa.shiftRightOne, hmantissa, hmod]
    generalize num % den = r at hlt
    rcases Nat.mod_two_eq_zero_or_one (num / den) with h | h <;> simp [h] <;> omega
  · rw [ExtendedMantissa.shiftRightOne, hround, hsticky, htwice]
    generalize num % den = r at hlt
    by_cases hle : den ≤ 2 * r
    · have hne : r ≠ 0 := by omega
      simp [hle, hne]
    · have hmod : 2 * r % den = 2 * r := Nat.mod_eq_of_lt (by omega)
      simp [hle, hmod]

theorem Truncates.shiftRight (h : Truncates num den em) (hden : 0 < den) (k : Nat) :
    Truncates num (den * 2 ^ k) (em >>> k) := by
  induction k with
  | zero => simpa [HShiftRight.hShiftRight, Nat.repeat] using h
  | succ k ih =>
    rw [pow_succ, ← mul_assoc]
    exact ih.shiftRightOne (Nat.mul_pos hden (Nat.two_pow_pos k))

theorem truncates_ofFraction (num : Nat) (hden : 0 < den) : Truncates num den
    (.ofMantissaAndAccuracy (num / den) (accuracyOfFraction (num % den) den)) := by
  have hlt := Nat.mod_lt num hden
  unfold accuracyOfFraction
  split
  · next h => exact ⟨rfl, by simp [ExtendedMantissa.ofMantissaAndAccuracy, h]; omega,
      by simp [ExtendedMantissa.ofMantissaAndAccuracy, h]⟩
  · next h =>
    cases hcmp : compare (2 * (num % den)) den with
    | lt =>
      rw [Nat.compare_eq_lt] at hcmp
      exact ⟨rfl, by simp [ExtendedMantissa.ofMantissaAndAccuracy]; omega,
        by simp [ExtendedMantissa.ofMantissaAndAccuracy, Nat.mod_eq_of_lt hcmp, h]⟩
    | eq =>
      rw [Nat.compare_eq_eq] at hcmp
      exact ⟨rfl, by simp [ExtendedMantissa.ofMantissaAndAccuracy, hcmp],
        by simp [ExtendedMantissa.ofMantissaAndAccuracy, hcmp]⟩
    | gt =>
      rw [Nat.compare_eq_gt] at hcmp
      refine ⟨rfl, by simp [ExtendedMantissa.ofMantissaAndAccuracy]; omega, ?_⟩
      have hmod : 2 * (num % den) % den = 2 * (num % den) - den := by
        rw [Nat.mod_eq_sub_mod hcmp.le, Nat.mod_eq_of_lt (by omega)]
      simp [ExtendedMantissa.ofMantissaAndAccuracy, hmod]
      omega

/-- The two bits tell on which side of half a unit the rest lies. -/
theorem Truncates.roundedMantissa_eq (h : Truncates num den em) (hden : 0 < den) :
    em.roundedMantissa = if 2 * (num % den) < den then num / den
      else if 2 * (num % den) = den then num / den + num / den % 2 else num / den + 1 := by
  obtain ⟨mantissa, round, sticky⟩ := em
  obtain ⟨hmantissa, hround, hsticky⟩ := h
  have hlt := Nat.mod_lt num hden
  dsimp only at hmantissa hround hsticky
  subst hmantissa hround hsticky
  generalize num % den = r at hlt
  rcases Nat.lt_trichotomy (2 * r) den with h | h | h
  · have hle : ¬den ≤ 2 * r := by omega
    rw [if_pos h, Nat.mod_eq_of_lt h, decide_eq_false hle]
    cases decide (2 * r ≠ 0) <;> rfl
  · rw [if_neg (by omega), if_pos h, h, Nat.mod_self, decide_eq_true (Nat.le_refl den)]
    rfl
  · have hmod : 2 * r % den = 2 * r - den := by
      rw [Nat.mod_eq_sub_mod h.le, Nat.mod_eq_of_lt (by omega)]
    have hne : 2 * r - den ≠ 0 := by omega
    rw [if_neg (by omega), if_neg (by omega), hmod, decide_eq_true h.le, decide_eq_true hne]
    rfl

/-- Rounding goes to the nearest mantissa, and to the even one of two equally near. -/
theorem Truncates.rounded (h : Truncates num den em) (hden : 0 < den) {M : Nat}
    (hlow : (M : ℚ) - 1 / 2 ≤ num / den) (hhigh : (num : ℚ) / den ≤ M + 1 / 2)
    (hodd : M % 2 = 1 → (M : ℚ) - 1 / 2 < num / den ∧ (num : ℚ) / den < M + 1 / 2) :
    em.roundedMantissa = M := by
  have hden' : (0 : ℚ) < den := by exact_mod_cast hden
  rw [le_div_iff₀ hden'] at hlow
  rw [div_le_iff₀ hden'] at hhigh
  rw [lt_div_iff₀ hden', div_lt_iff₀ hden'] at hodd
  have hlow : 2 * (den * M) ≤ 2 * num + den := by
    have : (2 * (den * M) : ℚ) ≤ 2 * num + den := by linarith
    exact_mod_cast this
  have hhigh : 2 * num ≤ 2 * (den * M) + den := by
    have : (2 * num : ℚ) ≤ 2 * (den * M) + den := by linarith
    exact_mod_cast this
  have hodd : M % 2 = 1 → 2 * (den * M) < 2 * num + den ∧ 2 * num < 2 * (den * M) + den := by
    intro h
    obtain ⟨h₁, h₂⟩ := hodd h
    have h₁ : (2 * (den * M) : ℚ) < 2 * num + den := by linarith
    have h₂ : (2 * num : ℚ) < 2 * (den * M) + den := by linarith
    exact ⟨by exact_mod_cast h₁, by exact_mod_cast h₂⟩
  rw [h.roundedMantissa_eq hden]
  have hdiv := Nat.div_add_mod num den
  have hlt := Nat.mod_lt num hden
  generalize num % den = r at hdiv hlt
  generalize num / den = q at hdiv
  -- the whole part is the mantissa or the one before it
  have hcases : q = M ∨ q + 1 = M := by
    have hbelow : ¬q + 2 ≤ M := fun hle => by
      have := Nat.mul_le_mul_left den hle
      rw [Nat.mul_add] at this
      omega
    have habove : ¬M + 1 ≤ q := fun hle => by
      have := Nat.mul_le_mul_left den hle
      rw [Nat.mul_add] at this
      omega
    omega
  rcases hcases with rfl | rfl
  · by_cases htie : 2 * r = den
    · have heven : q % 2 = 0 := by omega
      rw [if_neg (by omega), if_pos htie, heven, Nat.add_zero]
    · rw [if_pos (by omega)]
  · rw [Nat.mul_succ] at hlow hhigh hodd
    rw [if_neg (by omega)]
    split
    · omega
    · rfl

/-! ## Exponents -/

/-- The exponent at which a mantissa has 53 bits, or the least exponent. -/
theorem targetExponent_eq (m : Nat) (e : Int) :
    Format.binary64.targetExponent (totalExponent m e) = max (m.log2 + e - 52) (-1074) := by
  simp only [Format.targetExponent, totalExponent, Format.mantissaBits, Format.minExponent]
  norm_num
  omega

variable {m : Nat} {e t : Int}

/-- Shortening a quotient to the exponent at which it has 53 bits. -/
theorem shiftToTargetExponent_ofFraction (num : Nat) (hden : 0 < den) {T : Int}
    (hT : T = max ((num / den).log2 + t - 52) (-1074)) (ht : t ≤ T) :
    ∃ em, shiftToTargetExponent Format.binary64 (num / den) t (accuracyOfFraction (num % den) den) =
      (em, T) ∧ Truncates num (den * 2 ^ (T - t).toNat) em := by
  refine ⟨_, ?_, (truncates_ofFraction num hden).shiftRight hden _⟩
  rw [shiftToTargetExponent, targetExponent_eq, ← hT, shiftToExponent]
  have hadd : t + ((T - t).toNat : Int) = T := by omega
  simp only [hadd]

/-- An exact mantissa of at most 53 bits stays as it is. -/
theorem shiftToTargetExponent_exact (hm : m < 2 ^ 53) (he : -1074 ≤ e) :
    shiftToTargetExponent Format.binary64 m e .exact = (⟨m, false, false⟩, e) := by
  have hlog : m.log2 ≤ 52 := by
    by_cases h : m = 0
    · rw [h]
      decide
    · exact Nat.lt_succ_iff.mp ((Nat.log2_lt h).mpr hm)
  have hzero : (max (m.log2 + e - 52) (-1074) - e).toNat = 0 := by omega
  rw [shiftToTargetExponent, targetExponent_eq, shiftToExponent, hzero]
  simp [HShiftRight.hShiftRight, Nat.repeat, ExtendedMantissa.ofMantissaAndAccuracy]

/-- A mantissa that rounding has made too long has only its last bit to lose. -/
theorem shiftToTargetExponent_carry (he : -1074 ≤ e) :
    shiftToTargetExponent Format.binary64 (2 ^ 53) e .exact = (⟨2 ^ 52, false, false⟩, e + 1) := by
  have hlog : (2 ^ 53 : Nat).log2 = 53 := Nat.log2_two_pow
  have hone : (max (((53 : Nat) : Int) + e - 52) (-1074) - e).toNat = 1 := by omega
  rw [shiftToTargetExponent, targetExponent_eq, hlog, shiftToExponent, hone]
  simp [HShiftRight.hShiftRight, Nat.repeat, ExtendedMantissa.ofMantissaAndAccuracy,
    ExtendedMantissa.shiftRightOne]

/-! ## Rounding -/

/-- The parts of a positive number, however great: a mantissa of 53 bits, or of fewer bits and the
least exponent. -/
structure Rounded (m : Nat) (e : Int) : Prop where
  pos : 0 < m
  lt : m < 2 ^ 53
  le_exponent : -1074 ≤ e
  normal : m < 2 ^ 52 → e = -1074

theorem Canonical.rounded (h : Canonical m e) : Rounded m e :=
  ⟨h.pos, h.lt, h.le_exponent, h.normal⟩

theorem quotient_lt (num : Nat) (hden : 0 < den) (t : Int) :
    (num : ℚ) / den * 2 ^ t < 2 ^ ((num / den).log2 + 1 + t : Int) := by
  have hlt : num < 2 ^ ((num / den).log2 + 1) * den :=
    (Nat.div_lt_iff_lt_mul hden).mp Nat.lt_log2_self
  have hpow : (2 : ℚ) ^ ((num / den).log2 + 1 + t : Int) =
      2 ^ ((num / den).log2 + 1) * 2 ^ t := by
    rw [zpow_add₀ (by norm_num)]
    norm_cast
  rw [hpow]
  gcongr
  rw [div_lt_iff₀ (by exact_mod_cast hden)]
  exact_mod_cast hlt

theorem le_quotient (hnum : num / den ≠ 0) (hden : 0 < den) (t : Int) :
    (2 : ℚ) ^ ((num / den).log2 + t : Int) ≤ num / den * 2 ^ t := by
  have hle : 2 ^ (num / den).log2 * den ≤ num :=
    (Nat.le_div_iff_mul_le hden).mp (Nat.log2_self_le hnum)
  rw [zpow_add₀ (by norm_num), zpow_natCast]
  gcongr
  rw [le_div_iff₀ (by exact_mod_cast hden)]
  exact_mod_cast hle

/-- What rounds to a number is cut at the exponent of the number, or, just below a power of two, at
the one before it. -/
theorem cut_cases (h : Rounded m e) (hden : 0 < den) {T : Int}
    (hT : T = max ((num / den).log2 + t - 52) (-1074)) (ht : t ≤ T)
    (hx : Near m e (num / den * 2 ^ t)) :
    T = e ∨ T = e - 1 ∧ m = 2 ^ 52 ∧ (num : ℚ) / den * 2 ^ t < m * 2 ^ e := by
  have hupper := quotient_lt num hden t
  have hsmaller : ∀ {n : Int}, (2 : ℚ) ^ n ≤ num / den * 2 ^ t → n ≤ (num / den).log2 + t := by
    intro n hn
    have := (zpow_lt_zpow_iff_right₀ (by norm_num)).mp (hn.trans_lt hupper)
    omega
  have hlarger : ∀ {n : Int}, (num : ℚ) / den * 2 ^ t < 2 ^ n →
      num / den = 0 ∨ (num / den).log2 + t < n := by
    intro n hn
    by_cases hzero : num / den = 0
    · exact .inl hzero
    · exact .inr ((zpow_lt_zpow_iff_right₀ (by norm_num)).mp
        ((le_quotient hzero hden t).trans_lt hn))
  have hzero : num / den = 0 → (num / den).log2 = 0 := by
    intro h
    rw [h]
    decide
  have hmin := h.le_exponent
  have hhigh : (num : ℚ) / den * 2 ^ t < 2 ^ (53 + e) := by
    have hm : (m : ℚ) + 1 ≤ 2 ^ 53 := by exact_mod_cast h.lt
    calc (num : ℚ) / den * 2 ^ t ≤ (m + 1 / 2) * 2 ^ e := hx.le_high
      _ < 2 ^ 53 * 2 ^ e := by
        gcongr
        linarith
      _ = 2 ^ (53 + e) := by
        rw [zpow_add₀ (by norm_num)]
        norm_cast
  have hle : T ≤ e := by
    have := hlarger hhigh
    omega
  by_cases hleast : e = -1074
  · exact .inl (by omega)
  have hm : 2 ^ 52 ≤ m := not_lt.mp fun hlt => hleast (h.normal hlt)
  by_cases hbelow : (2 : ℚ) ^ (52 + e) ≤ num / den * 2 ^ t
  · have := hsmaller hbelow
    exact .inl (by omega)
  · right
    rw [not_le] at hbelow
    have hpow : (2 : ℚ) ^ (52 + e) = 2 ^ 52 * 2 ^ e := by
      rw [zpow_add₀ (by norm_num)]
      norm_cast
    have hpower : m = 2 ^ 52 := by
      refine le_antisymm (not_lt.mp fun hlt => ?_) hm
      have hm : (2 : ℚ) ^ 52 + 1 ≤ m := by exact_mod_cast hlt
      have hgap := gapBelow_le m
      refine absurd hx.low_le (not_le.mpr (hbelow.trans_le ?_))
      rw [hpow, low]
      gcongr
      linarith
    have habove : (2 : ℚ) ^ (51 + e) ≤ num / den * 2 ^ t :=
      calc (2 : ℚ) ^ (51 + e) = 2 ^ 51 * 2 ^ e := by
            rw [zpow_add₀ (by norm_num)]
            norm_cast
        _ ≤ (m - gapBelow m) * 2 ^ e := by
          gcongr
          rw [hpower, gapBelow, if_pos rfl]
          norm_num
        _ ≤ num / den * 2 ^ t := hx.low_le
    have hge := hsmaller habove
    have hlt := hlarger hbelow
    refine ⟨by omega, hpower, hbelow.trans_eq ?_⟩
    rw [hpow, hpower]
    norm_cast

/-- A quotient of whole numbers that is nearest to a number is rounded to it. -/
theorem roundWithAccuracy_eq (h : Rounded m e) (s : Sign) (hden : 0 < den)
    (ht : t ≤ max ((num / den).log2 + t - 52) (-1074)) (hx : Near m e (num / den * 2 ^ t)) :
    roundWithAccuracy Format.binary64 s (num / den) t (accuracyOfFraction (num % den) den) =
      .finite s m e h.pos := by
  generalize hT : max ((num / den).log2 + t - 52) (-1074) = T at ht
  obtain ⟨em, hshift, htruncates⟩ := shiftToTargetExponent_ofFraction num hden hT.symm ht
  have hscaled : (num : ℚ) / (den * 2 ^ (T - t).toNat : Nat) = num / den * 2 ^ t / 2 ^ T := by
    have hpow : (2 : ℚ) ^ T = 2 ^ (T - t).toNat * 2 ^ t := by
      rw [← zpow_natCast, ← zpow_add₀ (by norm_num)]
      congr 1
      omega
    rw [hpow]
    push_cast
    field_simp
  have hpos : (0 : ℚ) < 2 ^ T := by positivity
  have hround : ∀ {M : Nat}, (M - 1 / 2) * 2 ^ T ≤ (num : ℚ) / den * 2 ^ t →
      (num : ℚ) / den * 2 ^ t ≤ (M + 1 / 2) * 2 ^ T →
      (M % 2 = 1 → (M - 1 / 2) * 2 ^ T < (num : ℚ) / den * 2 ^ t ∧
        (num : ℚ) / den * 2 ^ t < (M + 1 / 2) * 2 ^ T) → em.roundedMantissa = M := by
    intro M hlow hhigh hodd
    refine htruncates.rounded (Nat.mul_pos hden (Nat.two_pow_pos _)) ?_ ?_ fun h => ?_
    · rwa [hscaled, le_div_iff₀ hpos]
    · rwa [hscaled, div_le_iff₀ hpos]
    · rw [hscaled, lt_div_iff₀ hpos, div_lt_iff₀ hpos]
      exact hodd h
  unfold roundWithAccuracy
  rw [hshift]
  dsimp only
  have hgap : (m - 1 / 2) * 2 ^ e ≤ low m e := by
    have := gapBelow_le m
    rw [low]
    gcongr
  rcases cut_cases h hden hT.symm ht hx with rfl | ⟨rfl, rfl, hlt⟩
  · rw [hround (hgap.trans hx.low_le) hx.le_high
      fun hodd => ⟨hgap.trans_lt (hx.strict hodd).1, (hx.strict hodd).2⟩,
      shiftToTargetExponent_exact h.lt h.le_exponent]
    exact dif_neg h.pos.ne'
  · have hhalf : (2 : ℚ) ^ e = 2 * 2 ^ (e - 1) := by
      rw [← zpow_one_add₀ (by norm_num)]
      congr 1
      omega
    have hlow := hx.low_le
    rw [low, gapBelow, if_pos rfl, hhalf] at hlow
    rw [hhalf] at hlt
    push_cast at hlow hlt
    rw [hround (M := 2 ^ 53) (by push_cast; linarith) (by push_cast; linarith)
      (fun h => absurd h (by decide)), shiftToTargetExponent_carry (by omega)]
    rw [sub_add_cancel]
    rfl

/-- The same for a whole number. -/
theorem roundWithAccuracy_exact (h : Rounded m e) (s : Sign) {t : Int}
    (ht : t ≤ max (num.log2 + t - 52) (-1074)) (hx : Near m e (num * 2 ^ t)) :
    roundWithAccuracy Format.binary64 s num t .exact = .finite s m e h.pos := by
  have hround := roundWithAccuracy_eq (t := t) h s Nat.one_pos (by rwa [Nat.div_one])
    (by rwa [Nat.cast_one, div_one])
  rwa [Nat.div_one, Nat.mod_one] at hround

/-! ## Products and quotients -/

variable {m₁ m₂ : Nat} {e₁ e₂ : Int} {h₁ : 0 < m₁} {h₂ : 0 < m₂}

theorem mul_eq (h : Canonical m e) (hlong : 2 ^ 52 ≤ m₁ * m₂)
    (hx : Near m e (m₁ * 2 ^ e₁ * (m₂ * 2 ^ e₂))) :
    UnpackedFloat.mul Format.binary64 (.finite .positive m₁ e₁ h₁) (.finite .positive m₂ e₂ h₂) =
      .finite .positive m e h.pos := by
  have hlog : 52 ≤ (m₁ * m₂).log2 := (Nat.le_log2 (by omega)).mpr hlong
  refine roundWithAccuracy_exact h.rounded .positive (by omega) ?_
  convert hx using 1
  rw [zpow_add₀ (by norm_num)]
  push_cast
  ring

/-- A quotient is taken with enough binary digits, or down to the least exponent. -/
theorem cut_quotient (h₁ : 0 < m₁) (h₂ : 0 < m₂)
    (ht : t ≤ max ((m₁.log2 + e₁) - (m₂.log2 + e₂) - 53) (-1074)) {k : Nat} (hk : t + k = e₁ - e₂) :
    t ≤ max ((m₁ * 2 ^ k / m₂).log2 + t - 52) (-1074) := by
  by_cases hlog : m₂.log2 + 1 ≤ m₁.log2 + k
  · have hle : 2 ^ (m₁.log2 + k - (m₂.log2 + 1)) ≤ m₁ * 2 ^ k / m₂ := by
      rw [Nat.le_div_iff_mul_le h₂]
      calc 2 ^ (m₁.log2 + k - (m₂.log2 + 1)) * m₂
          ≤ 2 ^ (m₁.log2 + k - (m₂.log2 + 1)) * 2 ^ (m₂.log2 + 1) :=
            Nat.mul_le_mul_left _ Nat.lt_log2_self.le
        _ = 2 ^ m₁.log2 * 2 ^ k := by
            rw [← pow_add, ← pow_add]
            congr 1
            omega
        _ ≤ m₁ * 2 ^ k := Nat.mul_le_mul_right _ (Nat.log2_self_le h₁.ne')
    have hne : m₁ * 2 ^ k / m₂ ≠ 0 := (Nat.lt_of_lt_of_le (Nat.two_pow_pos _) hle).ne'
    have := (Nat.le_log2 hne).mpr hle
    omega
  · omega

theorem div_eq (h : Canonical m e) (hx : Near m e (m₁ * 2 ^ e₁ / (m₂ * 2 ^ e₂))) :
    UnpackedFloat.div Format.binary64 (.finite .positive m₁ e₁ h₁) (.finite .positive m₂ e₂ h₂) =
      .finite .positive m e h.pos := by
  have htarget : Format.binary64.targetExponent (totalExponent m₁ e₁ - totalExponent m₂ e₂) =
      max ((m₁.log2 + e₁) - (m₂.log2 + e₂) - 53) (-1074) := by
    simp only [Format.targetExponent, totalExponent, Format.mantissaBits, Format.minExponent]
    norm_num
    omega
  simp only [UnpackedFloat.div, divCore, htarget, Nat.shiftLeft_eq]
  generalize hT : min (e₁ - e₂) (max ((m₁.log2 + e₁) - (m₂.log2 + e₂) - 53) (-1074)) = T
  have hk : T + (e₁ - e₂ - T).toNat = e₁ - e₂ := by omega
  refine roundWithAccuracy_eq h.rounded .positive h₂ (cut_quotient h₁ h₂ (by omega) hk) ?_
  convert hx using 1
  have hpow : (2 : ℚ) ^ (e₁ - e₂ - T).toNat * 2 ^ T = 2 ^ e₁ / 2 ^ e₂ := by
    rw [← zpow_natCast, ← zpow_add₀ (by norm_num), ← zpow_sub₀ (by norm_num), add_comm, hk]
  push_cast
  rw [mul_div_mul_comm, ← hpow]
  ring

theorem near_self (m : Nat) (e : Int) : Near m e (m * 2 ^ e) := near_of_lt (low_lt m e) (lt_high m e)

/-- A whole number of at most 53 bits is a number. -/
theorem ofNat_eq {n : Nat} (hn : 0 < n) (hlt : n < 2 ^ 53) :
    ∃ m e, ∃ h : Canonical m e, UnpackedFloat.ofNat Format.binary64 n = .finite .positive m e h.pos ∧
      2 ^ 52 ≤ m ∧ (m : ℚ) * 2 ^ e = n := by
  have hlog : n.log2 ≤ 52 := Nat.lt_succ_iff.mp ((Nat.log2_lt hn.ne').mpr hlt)
  have hhigh : n * 2 ^ (52 - n.log2) < 2 ^ 53 :=
    calc n * 2 ^ (52 - n.log2) < 2 ^ (n.log2 + 1) * 2 ^ (52 - n.log2) :=
          Nat.mul_lt_mul_of_pos_right Nat.lt_log2_self (Nat.two_pow_pos _)
      _ = 2 ^ 53 := by
          rw [← pow_add]
          congr 1
          omega
  have hlow : 2 ^ 52 ≤ n * 2 ^ (52 - n.log2) :=
    calc 2 ^ 52 = 2 ^ n.log2 * 2 ^ (52 - n.log2) := by
          rw [← pow_add]
          congr 1
          omega
      _ ≤ n * 2 ^ (52 - n.log2) := Nat.mul_le_mul_right _ (Nat.log2_self_le hn.ne')
  have hcanonical : Canonical (n * 2 ^ (52 - n.log2)) (n.log2 - 52) :=
    ⟨by omega, hhigh, by omega, by omega, fun h => absurd h (not_lt.mpr hlow)⟩
  refine ⟨_, _, hcanonical, ?_, hlow, ?_⟩
  · have hcompare : compare (n : Int) 0 = .gt := Int.compare_eq_gt.mpr (by omega)
    have hshift : (0 - max ((n.log2 : Int) + 0 - 52) (-1074)).toNat = 52 - n.log2 := by omega
    have hexponent : (0 : Int) - ((52 - n.log2 : Nat) : Int) = n.log2 - 52 := by omega
    simp only [UnpackedFloat.ofNat, UnpackedFloat.ofInt, UnpackedFloat.normalize, hcompare,
      UnpackedFloat.round, decreaseExponent, targetExponent_eq, Int.toNat_natCast, hshift, hexponent,
      Nat.shiftLeft_eq]
    refine roundWithAccuracy_exact hcanonical.rounded .positive ?_ (near_self _ _)
    have := (Nat.le_log2 (by omega)).mpr hlow
    omega
  · have hpow : (2 : ℚ) ^ (52 - n.log2) * 2 ^ ((n.log2 : Int) - 52) = 1 := by
      rw [← zpow_natCast, ← zpow_add₀ (by norm_num), Nat.cast_sub hlog]
      simp
    push_cast
    rw [mul_assoc, hpow, mul_one]

end ExprLang.Binary
