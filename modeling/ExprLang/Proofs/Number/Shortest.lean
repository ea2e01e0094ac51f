import Mathlib.Algebra.Order.Field.Power
import Mathlib.Algebra.Order.Field.Rat
import Mathlib.Data.Rat.Cast.Order
import Mathlib.Tactic.FieldSimp
import Mathlib.Tactic.GCongr
import Mathlib.Tactic.Linarith
import Mathlib.Tactic.NormNum
import Mathlib.Tactic.Positivity
import Mathlib.Tactic.Ring
import ExprLang.Number.Shortest

/-!
# ExprLang.Proofs.Number.Shortest

The shortest decimal of a number lies among those that round to it.

All comparisons of `Shortest` are between whole numbers; here they are read as comparisons of
rationals (`Shortest.holds_iff`).  The decimals of 17 digits are closer to one another than two
neighbouring numbers are, so the search ends within 17 digits
(`Shortest.exists_candidate?_seventeen`), and the decimal it finds has as many digits as it says and
rounds to the number it was made from (`shortestDecimal_spec`).
-/

namespace ExprLang

/-! ## Numbers and what rounds to them -/

namespace Binary

/-- The parts of a positive finite number: a mantissa of 53 bits, or of fewer bits and the least
exponent. -/
structure Canonical (m : Nat) (e : Int) : Prop where
  pos : 0 < m
  lt : m < 2 ^ 53
  le_exponent : -1074 ≤ e
  exponent_le : e ≤ 971
  normal : m < 2 ^ 52 → e = -1074

/-- How far below a mantissa the middle to the next number is: below a power of two the numbers are
twice as close. -/
def gapBelow (m : Nat) : ℚ := if m = 2 ^ 52 then 1 / 4 else 1 / 2

/-- The middle between a number and the one below it. -/
def low (m : Nat) (e : Int) : ℚ := (m - gapBelow m) * 2 ^ e

/-- The middle between a number and the one above it. -/
def high (m : Nat) (e : Int) : ℚ := (m + 1 / 2) * 2 ^ e

/-- No number is nearer to `x` than `m * 2 ^ e`; in the middle between two the even one is taken. -/
structure Near (m : Nat) (e : Int) (x : ℚ) : Prop where
  low_le : low m e ≤ x
  le_high : x ≤ high m e
  strict : m % 2 = 1 → low m e < x ∧ x < high m e

variable {m : Nat} {e : Int} {x : ℚ}

theorem gapBelow_pos (m : Nat) : 0 < gapBelow m := by
  unfold gapBelow
  split <;> norm_num

theorem gapBelow_le (m : Nat) : gapBelow m ≤ 1 / 2 := by
  unfold gapBelow
  split <;> norm_num

theorem low_lt (m : Nat) (e : Int) : low m e < m * 2 ^ e := by
  have := gapBelow_pos m
  unfold low
  gcongr
  linarith

theorem lt_high (m : Nat) (e : Int) : m * 2 ^ e < high m e := by
  unfold high
  gcongr
  linarith

theorem near_of_lt (hlow : low m e < x) (hhigh : x < high m e) : Near m e x :=
  ⟨hlow.le, hhigh.le, fun _ => ⟨hlow, hhigh⟩⟩

end Binary

open Binary

/-! ## Powers -/

theorem twoPow_eq (k : Nat) : twoPow k = 2 ^ k := rfl

theorem tenPow_eq (k : Nat) : tenPow k = 10 ^ k := rfl

/-- Three binary digits hold less than a decimal one. -/
theorem twoPow_le_tenPow {k n : Nat} (h : k ≤ 3 * n) : twoPow k ≤ tenPow n :=
  calc 2 ^ k ≤ 2 ^ (3 * n) := Nat.pow_le_pow_right (by decide) h
    _ = (2 ^ 3) ^ n := pow_mul 2 3 n
    _ ≤ 10 ^ n := Nat.pow_le_pow_left (by decide) n

theorem two_zpow_le {k n : Int} (hn : 0 ≤ n) (h : k ≤ 3 * n) : (2 : ℚ) ^ k ≤ 10 ^ n :=
  calc (2 : ℚ) ^ k ≤ 2 ^ (3 * n) := zpow_le_zpow_right₀ (by norm_num) h
    _ = (2 ^ (3 : Int)) ^ n := zpow_mul 2 3 n
    _ ≤ 10 ^ n := zpow_le_zpow_left₀ hn (by norm_num) (by norm_num)

/-- A power with a whole exponent as a quotient of two powers, one of which is one. -/
theorem zpow_eq_div {b : ℚ} (hb : b ≠ 0) (p : Int) : b ^ p = b ^ p.toNat / b ^ (-p).toNat := by
  rw [eq_div_iff (pow_ne_zero _ hb), ← zpow_natCast, ← zpow_natCast, ← zpow_add₀ hb]
  congr 1
  omega

namespace Shortest

variable {m : Nat} {e : Int}

theorem denominator_pos (m : Nat) (e : Int) : 0 < (interval m e).denominator := by
  unfold interval
  dsimp only
  split
  · exact Nat.one_pos
  · exact Nat.two_pow_pos _

theorem denominator_pos' (m : Nat) (e : Int) : (0 : ℚ) < (interval m e).denominator :=
  Nat.cast_pos.mpr (denominator_pos m e)

/-- The common scale of the parts of an interval. -/
theorem scale_eq (m : Nat) (e : Int) :
    ((if 2 ≤ e then twoPow (e - 2).toNat else 1 : Nat) : ℚ) =
      2 ^ (e - 2) * (interval m e).denominator := by
  unfold interval
  dsimp only
  split
  · next h =>
    rw [twoPow_eq, Nat.cast_one, mul_one, zpow_eq_div (by norm_num),
      show (-(e - 2)).toNat = 0 by omega]
    push_cast
    ring
  · next h =>
    rw [twoPow_eq, zpow_eq_div (by norm_num), show (e - 2).toNat = 0 by omega,
      show (-(e - 2)).toNat = (2 - e).toNat by omega]
    push_cast
    field_simp

theorem quarter (e : Int) : (2 : ℚ) ^ (e - 2) = 2 ^ e / 4 := by
  rw [zpow_sub₀ (by norm_num)]
  norm_num

theorem value_eq (m : Nat) (e : Int) :
    ((interval m e).value : ℚ) = m * 2 ^ e * (interval m e).denominator := by
  have hscale := scale_eq m e
  rw [quarter] at hscale
  have hvalue : (interval m e).value =
      4 * m * (if 2 ≤ e then twoPow (e - 2).toNat else 1) := rfl
  rw [hvalue, Nat.cast_mul, hscale]
  push_cast
  ring

theorem low_eq (hm : 0 < m) :
    ((interval m e).low : ℚ) = low m e * (interval m e).denominator := by
  have hscale := scale_eq m e
  rw [quarter] at hscale
  have hlow : (interval m e).low = (4 * m - (if m = twoPow 52 then 1 else 2)) *
      (if 2 ≤ e then twoPow (e - 2).toNat else 1) := rfl
  have hbelow : (if m = twoPow 52 then 1 else 2) ≤ 4 * m := by split <;> omega
  rw [hlow, Nat.cast_mul, hscale, Nat.cast_sub hbelow, low, gapBelow, twoPow_eq]
  split
  all_goals
    push_cast
    ring

theorem high_eq (m : Nat) (e : Int) :
    ((interval m e).high : ℚ) = high m e * (interval m e).denominator := by
  have hscale := scale_eq m e
  rw [quarter] at hscale
  have hhigh : (interval m e).high =
      (4 * m + 2) * (if 2 ≤ e then twoPow (e - 2).toNat else 1) := rfl
  rw [hhigh, Nat.cast_mul, hscale, high]
  push_cast
  ring

/-- Comparing over two denominators. -/
theorem mul_down_le_iff {x y d : ℚ} (hd : 0 < d) (place : Int) :
    x * d * 10 ^ (-place).toNat ≤ y * 10 ^ place.toNat * d ↔ x ≤ y * 10 ^ place := by
  rw [zpow_eq_div (b := 10) (by norm_num) place, ← mul_div_assoc, le_div_iff₀ (by positivity),
    mul_right_comm x, mul_le_mul_iff_left₀ hd]

theorem le_mul_down_iff {x y d : ℚ} (hd : 0 < d) (place : Int) :
    y * 10 ^ place.toNat * d ≤ x * d * 10 ^ (-place).toNat ↔ y * 10 ^ place ≤ x := by
  rw [zpow_eq_div (b := 10) (by norm_num) place, ← mul_div_assoc, div_le_iff₀ (by positivity),
    mul_right_comm x, mul_le_mul_iff_left₀ hd]

/-- Whether a decimal lies in the interval is whether it is nearest to the number. -/
theorem holds_iff (hm : 0 < m) (q : Nat) (place : Int) :
    holds (interval m e) q place = true ↔ Near m e (q * 10 ^ place) := by
  have hd := denominator_pos' m e
  have hlow : (interval m e).low * tenPow (-place).toNat ≤
      q * tenPow place.toNat * (interval m e).denominator ↔ low m e ≤ q * 10 ^ place := by
    rw [← mul_down_le_iff hd, ← low_eq hm, tenPow_eq, tenPow_eq]
    exact_mod_cast Iff.rfl
  have hhigh : q * tenPow place.toNat * (interval m e).denominator ≤
      (interval m e).high * tenPow (-place).toNat ↔ q * 10 ^ place ≤ high m e := by
    rw [← le_mul_down_iff hd, ← high_eq, tenPow_eq, tenPow_eq]
    exact_mod_cast Iff.rfl
  have hlow' : (interval m e).low * tenPow (-place).toNat <
      q * tenPow place.toNat * (interval m e).denominator ↔ low m e < q * 10 ^ place := by
    rw [← not_le, ← not_le, ← le_mul_down_iff hd, ← low_eq hm, tenPow_eq, tenPow_eq]
    exact_mod_cast Iff.rfl
  have hhigh' : q * tenPow place.toNat * (interval m e).denominator <
      (interval m e).high * tenPow (-place).toNat ↔ q * 10 ^ place < high m e := by
    rw [← not_le, ← not_le, ← mul_down_le_iff hd, ← high_eq, tenPow_eq, tenPow_eq]
    exact_mod_cast Iff.rfl
  have hclosed : (interval m e).closed = (m % 2 == 0) := rfl
  unfold holds
  dsimp only
  rw [hclosed]
  split
  · next heven =>
    rw [Bool.and_eq_true, decide_eq_true_eq, decide_eq_true_eq, hlow, hhigh]
    rw [beq_iff_eq] at heven
    exact ⟨fun h => ⟨h.1, h.2, by omega⟩, fun h => ⟨h.low_le, h.le_high⟩⟩
  · next hodd =>
    rw [Bool.and_eq_true, decide_eq_true_eq, decide_eq_true_eq, hlow', hhigh']
    rw [beq_iff_eq] at hodd
    exact ⟨fun h => near_of_lt h.1 h.2, fun h => h.strict (by omega)⟩

/-! ## The first digit -/

theorem pow_le_of_digitCount {n : Nat} (hn : 0 < n) :
    10 ^ (digitCount n - 1) ≤ n ∧ n < 10 ^ digitCount n := by
  have hpos : 0 < digitCount n := Nat.length_toDigits_pos
  refine ⟨?_, (Nat.length_toDigits_le_iff (by decide) hpos).mp (Nat.le_refl _)⟩
  by_cases hone : digitCount n = 1
  · rw [hone]
    exact hn
  · refine not_lt.mp fun hlt => ?_
    have := (Nat.length_toDigits_le_iff (b := 10) (by decide) (by omega)).mpr hlt
    rw [digitCount] at this hone hpos
    omega

theorem leadingZeros_spec (d fuel value n : Nat) (h : d ≤ value * tenPow fuel) :
    ∃ j, leadingZeros d fuel value n = n + j ∧ d ≤ value * 10 ^ j ∧
      ∀ i < j, value * 10 ^ i < d := by
  induction fuel generalizing value n with
  | zero => exact ⟨0, rfl, h, by simp⟩
  | succ fuel ih =>
    rw [tenPow_eq, pow_succ] at h
    rw [leadingZeros]
    split
    · next hle => exact ⟨0, rfl, by simpa using hle, by simp⟩
    · next hlt =>
      obtain ⟨j, heq, hle, hall⟩ := ih (10 * value) (n + 1) (by rw [tenPow_eq]; linarith)
      refine ⟨j + 1, by rw [heq]; omega, by rw [pow_succ]; linarith, fun i hi => ?_⟩
      cases i with
      | zero => simpa using hlt
      | succ i =>
        have := hall i (by omega)
        rw [pow_succ]
        linarith

/-- The magnitude of a number is the power of ten at or below it. -/
theorem magnitude_spec {i : Interval} (hd : 0 < i.denominator)
    (hfuel : i.denominator ≤ i.value * tenPow 400) :
    (10 : ℚ) ^ magnitude i * i.denominator ≤ i.value ∧
      (i.value : ℚ) < 10 ^ (magnitude i + 1) * i.denominator := by
  unfold magnitude
  split
  · next hle =>
    obtain ⟨hlow, hhigh⟩ := pow_le_of_digitCount (Nat.div_pos hle hd)
    have hpos : 0 < digitCount (i.value / i.denominator) := Nat.length_toDigits_pos
    have hexp : (digitCount (i.value / i.denominator) : Int) - 1 =
        ((digitCount (i.value / i.denominator) - 1 : Nat) : Int) := by omega
    rw [Nat.le_div_iff_mul_le hd] at hlow
    rw [Nat.div_lt_iff_lt_mul hd] at hhigh
    rw [sub_add_cancel, hexp, zpow_natCast, zpow_natCast]
    exact ⟨by exact_mod_cast hlow, by exact_mod_cast hhigh⟩
  · next hlt =>
    obtain ⟨j, heq, hle, hall⟩ := leadingZeros_spec _ _ _ 0 hfuel
    rw [heq, Nat.zero_add]
    have hj : j ≠ 0 := by
      rintro rfl
      rw [pow_zero, Nat.mul_one] at hle
      exact hlt hle
    obtain ⟨j, rfl⟩ := Nat.exists_eq_succ_of_ne_zero hj
    have hprev := hall j (Nat.lt_succ_self j)
    have hneg : -((j + 1 : Nat) : Int) + 1 = -(j : Int) := by omega
    rw [hneg, zpow_neg, zpow_neg, zpow_natCast, zpow_natCast, inv_mul_le_iff₀ (by positivity),
      lt_inv_mul_iff₀ (by positivity), mul_comm, mul_comm _ (i.value : ℚ)]
    exact ⟨by exact_mod_cast hle, by exact_mod_cast hprev⟩

theorem value_pos (hm : 0 < m) (e : Int) : 0 < (interval m e).value := by
  have h : (0 : ℚ) < (interval m e).value := by
    have := denominator_pos' m e
    rw [value_eq]
    positivity
  exact_mod_cast h

theorem denominator_le (hm : 0 < m) {n : Nat} (hn : -e + 2 ≤ 3 * n) :
    (interval m e).denominator ≤ (interval m e).value * tenPow n := by
  have hle : (interval m e).denominator ≤ tenPow n := by
    unfold interval
    dsimp only
    split
    · exact Nat.one_le_pow _ _ (by decide)
    · exact twoPow_le_tenPow (by omega)
  exact hle.trans (Nat.le_mul_of_pos_left _ (value_pos hm e))

/-- The number has its first digit at its magnitude. -/
theorem magnitude_interval (h : Canonical m e) :
    (10 : ℚ) ^ magnitude (interval m e) ≤ m * 2 ^ e ∧
      m * 2 ^ e < (10 : ℚ) ^ (magnitude (interval m e) + 1) := by
  have hd := denominator_pos' m e
  have hspec := magnitude_spec (denominator_pos m e)
    (denominator_le h.pos (by have := h.le_exponent; omega))
  rw [value_eq, mul_le_mul_iff_left₀ hd, mul_lt_mul_iff_left₀ hd] at hspec
  exact hspec

/-! ## Candidates -/

/-- The digits, up to the one at `place`, of the decimal at or just below the value. -/
def below (i : Interval) (place : Int) : Nat :=
  i.value * tenPow (-place).toNat / (tenPow place.toNat * i.denominator)

theorem below_spec (m : Nat) (e place : Int) :
    below (interval m e) place * (10 : ℚ) ^ place ≤ m * 2 ^ e ∧
      m * 2 ^ e < ((below (interval m e) place : ℚ) + 1) * 10 ^ place := by
  have hd := denominator_pos m e
  have hd' := denominator_pos' m e
  have hunit : 0 < tenPow place.toNat * (interval m e).denominator :=
    Nat.mul_pos (Nat.pow_pos (by decide)) hd
  have hle := Nat.div_mul_le_self ((interval m e).value * tenPow (-place).toNat)
    (tenPow place.toNat * (interval m e).denominator)
  have hlt := (Nat.div_lt_iff_lt_mul hunit).mp (Nat.lt_succ_self (below (interval m e) place))
  rw [← below] at hle
  rw [tenPow_eq, tenPow_eq, ← mul_assoc] at hle hlt
  constructor
  · rw [← le_mul_down_iff hd', ← value_eq]
    exact_mod_cast hle
  · rw [← not_le, ← le_mul_down_iff hd', ← value_eq, not_le]
    exact_mod_cast hlt

theorem candidate?_cases {i : Interval} {k : Int} {count q : Nat}
    (h : candidate? i k count = some q) : holds i q (k - count + 1) = true ∧
      (q = below i (k - count + 1) ∨ q = below i (k - count + 1) + 1) := by
  unfold candidate? at h
  dsimp only at h
  rw [← below] at h
  split at h
  · next hlow hhigh =>
    rw [Option.some.injEq] at h
    split at h
    · exact ⟨h ▸ hlow, .inl h.symm⟩
    · exact ⟨h ▸ hhigh, .inr h.symm⟩
  · next hlow _ =>
    rw [Option.some.injEq] at h
    exact ⟨h ▸ hlow, .inl h.symm⟩
  · next _ hhigh =>
    rw [Option.some.injEq] at h
    exact ⟨h ▸ hhigh, .inr h.symm⟩
  · cases h

theorem exists_candidate? {i : Interval} {k : Int} {count : Nat}
    (h : holds i (below i (k - count + 1)) (k - count + 1) = true ∨
      holds i (below i (k - count + 1) + 1) (k - count + 1) = true) :
    ∃ q, candidate? i k count = some q := by
  unfold candidate?
  dsimp only
  rw [← below]
  rcases h with h | h
  · rw [h]
    split <;> simp_all
  · rw [h]
    split <;> simp_all

/-- Where the decimals are closer to one another than the number to its neighbours, one of them is
nearest to it. -/
theorem exists_candidate?_of_lt {k : Int} {count : Nat} (hm : 0 < m)
    (h : (10 : ℚ) ^ (k - count + 1) < high m e - low m e) :
    ∃ q, candidate? (interval m e) k count = some q := by
  obtain ⟨hle, hlt⟩ := below_spec m e (k - count + 1)
  have hlow := low_lt m e
  have hhigh := lt_high m e
  refine exists_candidate? ?_
  rw [holds_iff hm, holds_iff hm]
  push_cast
  by_cases hbelow : low m e < below (interval m e) (k - count + 1) * 10 ^ (k - count + 1)
  · exact .inl (near_of_lt hbelow (by linarith))
  · exact .inr (near_of_lt (by linarith) (by linarith))

/-- A candidate has as many digits as were asked for, or is a power of ten. -/
theorem candidate?_bounds {k : Int} {count q : Nat} (hcount : 0 < count)
    (hk : (10 : ℚ) ^ k ≤ m * 2 ^ e ∧ m * 2 ^ e < (10 : ℚ) ^ (k + 1))
    (h : candidate? (interval m e) k count = some q) : 10 ^ (count - 1) ≤ q ∧ q ≤ 10 ^ count := by
  obtain ⟨hle, hlt⟩ := below_spec m e (k - count + 1)
  have hunit : (0 : ℚ) < 10 ^ (k - count + 1) := by positivity
  have hfirst : (10 : ℚ) ^ k = 10 ^ (count - 1) * 10 ^ (k - count + 1) := by
    rw [← zpow_natCast, ← zpow_add₀ (by norm_num)]
    congr 1
    omega
  have hnext : (10 : ℚ) ^ (k + 1) = 10 ^ count * 10 ^ (k - count + 1) := by
    rw [← zpow_natCast, ← zpow_add₀ (by norm_num)]
    congr 1
    omega
  have hlow : 10 ^ (count - 1) ≤ below (interval m e) (k - count + 1) := by
    have := hk.1.trans_lt hlt
    rw [hfirst, mul_lt_mul_iff_left₀ hunit] at this
    exact Nat.lt_succ_iff.mp (by exact_mod_cast this)
  have hhigh : below (interval m e) (k - count + 1) < 10 ^ count := by
    have := hle.trans_lt hk.2
    rw [hnext, mul_lt_mul_iff_left₀ hunit] at this
    exact_mod_cast this
  rcases (candidate?_cases h).2 with rfl | rfl <;> omega

/-- With 17 digits there is always a candidate. -/
theorem exists_candidate?_seventeen {k : Int} (h : Canonical m e) (hk : (10 : ℚ) ^ k ≤ m * 2 ^ e) :
    ∃ q, candidate? (interval m e) k 17 = some q := by
  refine exists_candidate?_of_lt h.pos ?_
  have hpow : (10 : ℚ) ^ (k - (17 : Nat) + 1) = 10 ^ k / 10 ^ 16 := by
    rw [show k - ((17 : Nat) : Int) + 1 = k - (16 : Nat) by omega, zpow_sub₀ (by norm_num),
      zpow_natCast]
  have hwidth : (m : ℚ) / 10 ^ 16 < 1 / 2 + gapBelow m := by
    unfold gapBelow
    split
    · next hm =>
      rw [hm]
      norm_num
    · have hlt : (m : ℚ) < 2 ^ 53 := by exact_mod_cast h.lt
      rw [div_lt_iff₀ (by norm_num)]
      linarith
  calc (10 : ℚ) ^ (k - (17 : Nat) + 1) ≤ m * 2 ^ e / 10 ^ 16 := by rw [hpow]; gcongr
    _ = m / 10 ^ 16 * 2 ^ e := by ring
    _ < (1 / 2 + gapBelow m) * 2 ^ e := by gcongr
    _ = high m e - low m e := by rw [high, low]; ring

/-! ## The search -/

/-- The search ends with as many digits as a candidate has, or fewer. -/
theorem search_spec (i : Interval) (k : Int) (fuel count : Nat) {c : Nat} (hle : count ≤ c)
    (hlt : c < count + fuel) (h : ∃ q, candidate? i k c = some q) :
    ∃ c' q, count ≤ c' ∧ c' ≤ c ∧ candidate? i k c' = some q ∧
      search i k fuel count = if q = tenPow c' then ⟨1, 1, k + 1⟩ else ⟨q, c', k⟩ := by
  induction fuel generalizing count with
  | zero => omega
  | succ fuel ih =>
    rw [search]
    split
    · next q hq => exact ⟨count, q, Nat.le_refl _, hle, hq, rfl⟩
    · next hnone =>
      have hne : count ≠ c := by
        rintro rfl
        obtain ⟨q, hq⟩ := h
        rw [hq] at hnone
        cases hnone
      obtain ⟨c', q', hle', hlt', hspec⟩ := ih (count + 1) (by omega) (by omega)
      exact ⟨c', q', by omega, hlt', hspec⟩

end Shortest

open Shortest

/-! ## The shortest decimal -/

/-- A decimal that has as many digits as it says, a first digit other than zero, and no more digits
than a number needs. -/
structure ShortDecimal.Proper (d : ShortDecimal) : Prop where
  count_pos : 0 < d.count
  count_le : d.count ≤ 17
  le_digits : 10 ^ (d.count - 1) ≤ d.digits
  digits_lt : d.digits < 10 ^ d.count

/-- The decimal as a rational number. -/
def ShortDecimal.value (d : ShortDecimal) : ℚ := d.digits * 10 ^ (d.exponent - d.count + 1)

namespace ShortDecimal.Proper

variable {d : ShortDecimal}

/-- The first digit stands at the place that the exponent tells. -/
theorem value_bounds (h : d.Proper) :
    (10 : ℚ) ^ d.exponent ≤ d.value ∧ d.value < 10 ^ (d.exponent + 1) := by
  have hpos := h.count_pos
  have hlow : (10 : ℚ) ^ (d.count - 1) ≤ d.digits := by exact_mod_cast h.le_digits
  have hhigh : (d.digits : ℚ) < 10 ^ d.count := by exact_mod_cast h.digits_lt
  have hfirst : (10 : ℚ) ^ d.exponent = 10 ^ (d.count - 1) * 10 ^ (d.exponent - d.count + 1) := by
    rw [← zpow_natCast, ← zpow_add₀ (by norm_num)]
    congr 1
    omega
  have hnext : (10 : ℚ) ^ (d.exponent + 1) = 10 ^ d.count * 10 ^ (d.exponent - d.count + 1) := by
    rw [← zpow_natCast, ← zpow_add₀ (by norm_num)]
    congr 1
    omega
  rw [hfirst, hnext, value]
  constructor <;> gcongr

end ShortDecimal.Proper

section Decimal

variable {m : Nat} {e : Int}

/-- The shortest decimal of a number has as many digits as it says, no more than any candidate has,
and the number is the nearest to it. -/
theorem shortestDecimal_of_candidate (h : Canonical m e) {c : Nat} (hpos : 0 < c) (hle : c ≤ 17)
    (hc : ∃ q, candidate? (interval m e) (magnitude (interval m e)) c = some q) :
    (shortestDecimal m e).Proper ∧ Near m e (shortestDecimal m e).value ∧
      magnitude (interval m e) - c ≤
        (shortestDecimal m e).exponent - (shortestDecimal m e).count := by
  have hk := magnitude_interval h
  obtain ⟨c', q, hone, hle', hq, heq⟩ := search_spec (interval m e) (magnitude (interval m e)) 17 1
    hpos (by omega) hc
  obtain ⟨hlow, hhigh⟩ := candidate?_bounds hone hk hq
  have hnear := (holds_iff h.pos _ _).mp (candidate?_cases hq).1
  have hshortest : shortestDecimal m e = _ := heq
  rw [hshortest, tenPow_eq]
  split
  · next hpow =>
    refine ⟨⟨Nat.one_pos, Nat.one_le_ofNat, Nat.le_refl _, by norm_num⟩, ?_, by dsimp only; omega⟩
    have hvalue : (q : ℚ) * 10 ^ (magnitude (interval m e) - c' + 1) =
        ShortDecimal.value ⟨1, 1, magnitude (interval m e) + 1⟩ := by
      rw [ShortDecimal.value, hpow]
      push_cast
      rw [← zpow_natCast, ← zpow_add₀ (by norm_num), one_mul]
      congr 1
      omega
    rwa [← hvalue]
  · next hne =>
    exact ⟨⟨hone, hle'.trans hle, hlow, lt_of_le_of_ne hhigh hne⟩, hnear, by dsimp only; omega⟩

theorem shortestDecimal_spec (h : Canonical m e) :
    (shortestDecimal m e).Proper ∧ Near m e (shortestDecimal m e).value := by
  obtain ⟨hproper, hnear, -⟩ := shortestDecimal_of_candidate h (c := 17) (by decide) le_rfl
    (exists_candidate?_seventeen h (magnitude_interval h).1)
  exact ⟨hproper, hnear⟩

/-- What rounds to a number is neither very small nor very large. -/
theorem Binary.Near.bounds {x : ℚ} (h : Canonical m e) (hx : Near m e x) :
    (10 : ℚ) ^ (-359 : Int) ≤ x ∧ x ≤ 10 ^ (342 : Int) := by
  have hm : (1 : ℚ) ≤ m := by exact_mod_cast h.pos
  have hm' : (m : ℚ) + 1 ≤ 2 ^ 53 := by exact_mod_cast h.lt
  have hgap := gapBelow_le m
  constructor
  · calc (10 : ℚ) ^ (-359 : Int) = (10 ^ (359 : Int))⁻¹ := zpow_neg 10 359
      _ ≤ (2 ^ (1075 : Int))⁻¹ := inv_anti₀ (by positivity) (two_zpow_le (by decide) (by decide))
      _ = 2 ^ (-1 + -1074 : Int) := (zpow_neg 2 1075).symm
      _ = 1 / 2 * 2 ^ (-1074 : Int) := by rw [zpow_add₀ (by norm_num)]; norm_num
      _ ≤ (m - gapBelow m) * 2 ^ e := by
        gcongr
        · linarith
        · linarith
        · norm_num
        · exact h.le_exponent
      _ ≤ x := hx.low_le
  · calc x ≤ (m + 1 / 2) * 2 ^ e := hx.le_high
      _ ≤ 2 ^ (53 : Int) * 2 ^ (971 : Int) := by
        gcongr
        · norm_num at hm' ⊢
          linarith
        · norm_num
        · exact h.exponent_le
      _ = 2 ^ (1024 : Int) := (zpow_add₀ (by norm_num) 53 971).symm
      _ ≤ 10 ^ (342 : Int) := two_zpow_le (by decide) (by decide)

/-- The exponent of a shortest decimal has three digits at most. -/
theorem exponent_shortestDecimal (h : Canonical m e) :
    -360 ≤ (shortestDecimal m e).exponent ∧ (shortestDecimal m e).exponent ≤ 342 := by
  obtain ⟨hproper, hnear⟩ := shortestDecimal_spec h
  obtain ⟨hlow, hhigh⟩ := hproper.value_bounds
  obtain ⟨hsmall, hlarge⟩ := hnear.bounds h
  have hlt := (zpow_lt_zpow_iff_right₀ (by norm_num)).mp (hsmall.trans_lt hhigh)
  have hle := (zpow_le_zpow_iff_right₀ (by norm_num)).mp (hlow.trans hlarge)
  exact ⟨by omega, hle⟩

end Decimal

end ExprLang
