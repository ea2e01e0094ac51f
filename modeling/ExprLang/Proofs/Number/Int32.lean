import Mathlib.Data.Int.ModEq
import ExprLang.Number.Int32
import ExprLang.Proofs.Number.Truncation

/-!
# ExprLang.Proofs.Number.Int32

The 32-bit integer of a number.

Every step is exact.  The fraction is dropped without loss, the remainder of a whole number is short
enough to be put together again (`Binary.value?_remainder`), and if it is negative one addition makes
it positive, whose result is short as well (`Binary.value?_euclideanRemainder`).  So the lowest 32
bits are those of the number rounded toward zero, however large it is (`toInt32_eq`).  The other way
nothing is lost either (`value?_ofInt32`), and a 32-bit integer comes back from its number
(`toInt32_ofInt32`).
-/

namespace ExprLang

namespace Binary

variable {x : Float} {negative : Bool} {m : Nat} {e : Int}

/-! ## Remainders -/

theorem ofFloat_two_pow : ofFloat 4294967296.0 = .finite false (2 ^ 52) (-20) := by decide

theorem value?_two_pow : (ofFloat 4294967296.0).value? = some (extended (2 ^ 32)) := by
  rw [ofFloat_two_pow, value?]
  norm_num [signed]

/-- The remainder of a whole number is exact. -/
theorem value?_remainder {w : Nat} (h : ofFloat x = .finite negative m e)
    (hw : (m : ℚ) * 2 ^ e = w) : (ofFloat (remainder x 4294967296.0)).value? =
      some (extended (signed negative (w % 2 ^ 32 : Nat))) := by
  obtain ⟨k, hk⟩ := Int.eq_ofNat_of_zero_le (a := -min e (-20)) (by omega)
  have hlow : min e (-20) = -k := by omega
  have hmantissa : m * 2 ^ (e + k).toNat = w * 2 ^ k := by
    have hexponent : ((e + k).toNat : Int) = e + k := by omega
    have hcast : (m : ℚ) * 2 ^ (e + k).toNat = w * 2 ^ k := by
      rw [← zpow_natCast, hexponent, zpow_add₀ (by norm_num), ← mul_assoc, hw, zpow_natCast]
    exact_mod_cast hcast
  have hdivisor : 2 ^ 52 * 2 ^ (-20 + (k : Int)).toNat = 2 ^ 32 * 2 ^ k := by
    rw [← pow_add, ← pow_add]
    congr 1
    omega
  have hmod : w % 2 ^ 32 < 2 ^ 53 := (Nat.mod_lt w (by decide)).trans (by decide)
  unfold remainder
  rw [h, ofFloat_two_pow]
  dsimp only
  rw [if_neg (by decide), hlow, sub_neg_eq_add, sub_neg_eq_add, twoPow_eq, twoPow_eq, hmantissa,
    hdivisor, Nat.mul_mod_mul_right]
  exact value?_pack_shifted negative hmod k

/-- The parts of a whole number. -/
theorem exists_parts_of_whole {z : ℤ} (h : (ofFloat x).value? = some (extended z)) :
    ∃ negative m e w, ofFloat x = .finite negative m e ∧ (m : ℚ) * 2 ^ e = (w : Nat) ∧
      z = if negative then -(w : ℤ) else w := by
  cases hx : ofFloat x with
  | nan =>
    rw [hx] at h
    cases h
  | infinite negative =>
    rw [hx] at h
    cases negative <;> cases h
  | finite negative m e =>
    rw [hx, value?, Option.some.injEq] at h
    have hvalue : signed negative ((m : ℚ) * 2 ^ e) = z := WithTop.coe_inj.mp (WithBot.coe_inj.mp h)
    have hnonneg : (0 : ℚ) ≤ m * 2 ^ e := by positivity
    cases negative with
    | false =>
      have hz : (m : ℚ) * 2 ^ e = z := hvalue
      rw [hz] at hnonneg
      obtain ⟨w, rfl⟩ := Int.eq_ofNat_of_zero_le (Int.cast_nonneg_iff.mp hnonneg)
      exact ⟨false, m, e, w, rfl, by rw [hz, Int.cast_natCast], rfl⟩
    | true =>
      have hz : (m : ℚ) * 2 ^ e = (-z : ℤ) := by
        rw [Int.cast_neg, ← hvalue]
        exact (neg_neg _).symm
      rw [hz] at hnonneg
      obtain ⟨w, hw⟩ := Int.eq_ofNat_of_zero_le (Int.cast_nonneg_iff.mp hnonneg)
      exact ⟨true, m, e, w, rfl, by rw [hz, hw, Int.cast_natCast], (neg_eq_iff_eq_neg.mp hw)⟩

/-- The remainder that is not negative is exact, too: at most one addition is made. -/
theorem value?_euclideanRemainder {z : ℤ} (h : (ofFloat x).value? = some (extended z)) :
    (ofFloat (euclideanRemainder x 4294967296.0)).value? = some (extended (z % 2 ^ 32 : ℤ)) := by
  obtain ⟨negative, m, e, w, hx, hw, hz⟩ := exists_parts_of_whole h
  have hremainder := value?_remainder hx hw
  have hlt := (float_lt_iff hremainder value?_zero).trans extended_lt_iff
  have hmod : w % 2 ^ 32 < 2 ^ 32 := Nat.mod_lt w (by decide)
  unfold euclideanRemainder
  dsimp only
  split
  · next hneg =>
    -- The sum with `2 ^ 32` is below `2 ^ 32`, so that it is not rounded.
    have habs : (4294967296.0 : Float).abs = 4294967296.0 := by decide
    cases negative with
    | false => exact absurd (hlt.mp hneg) (not_lt.mpr (Nat.cast_nonneg _))
    | true =>
      have hsum : signed true (w % 2 ^ 32 : Nat) + 2 ^ 32 = ((z % 2 ^ 32 : ℤ) : ℚ) := by
        have hpos : 0 < w % 2 ^ 32 := Nat.cast_pos.mp (neg_lt_zero.mp (hlt.mp hneg))
        rw [if_pos rfl] at hz
        have hint : z % 2 ^ 32 = 2 ^ 32 - (w % 2 ^ 32 : Nat) := by omega
        rw [hint, Int.cast_sub, Int.cast_natCast, signed, if_pos rfl]
        norm_num
        ring
      rw [habs, ← hsum]
      refine value?_add_of_isRatio hremainder value?_two_pow ?_
      rw [hsum]
      exact isRatio_intCast (by omega)
  · next hneg =>
    rw [hremainder]
    cases negative with
    | false =>
      have hint : z % 2 ^ 32 = (w % 2 ^ 32 : Nat) := by
        rw [if_neg Bool.false_ne_true] at hz
        omega
      rw [hint, Int.cast_natCast]
      rfl
    | true =>
      -- The remainder of a negative number that is not below zero is a zero with a sign.
      have hle : (w % 2 ^ 32 : Nat) = 0 := by
        by_contra hne
        exact hneg (hlt.mpr (neg_lt_zero.mpr (Nat.cast_pos.mpr (Nat.pos_of_ne_zero hne))))
      have hint : z % 2 ^ 32 = 0 := by
        rw [if_pos rfl] at hz
        omega
      rw [hint, hle]
      simp [signed]

theorem isFinite_iff : x.isFinite = true ↔ ∃ q, (ofFloat x).value? = some (extended q) := by
  have hfinite : x.isFinite = x.toModel.unpack.isFinite := rfl
  rw [hfinite, ofFloat_eq]
  cases x.toModel.unpack with
  | notANumber => exact ⟨nofun, nofun⟩
  | infinity s => exact ⟨nofun, by cases s <;> nofun⟩
  | zero s => exact ⟨fun _ => ⟨_, rfl⟩, fun _ => rfl⟩
  | finite s m e hm => exact ⟨fun _ => ⟨_, rfl⟩, fun _ => rfl⟩

/-- An integer of at most 53 bits is exact as a number. -/
theorem value?_ofInt {z : ℤ} (hz : z.natAbs ≤ 2 ^ 53) :
    (ofFloat (Float.ofInt z)).value? = some (extended z) := by
  cases z with
  | ofNat n =>
    have h := isWhole_ofNat (n := n) hz
    rwa [IsWhole, ofWhole_natCast] at h
  | negSucc n =>
    have h : IsWhole (Float.ofNat (n + 1)) (n + 1 : Nat) := isWhole_ofNat hz
    rcases h.parts with ⟨hzero, -⟩ | ⟨m, e, hparts, hm, hvalue⟩
    · exact absurd hzero n.succ_ne_zero
    · have hc := canonical_of_ofFloat hparts hm
      have hneg : Float.ofInt (.negSucc n) = ofParts true m e hc.pos := by
        rw [← neg_ofParts hc, ← eq_ofParts_of_ofFloat hparts hm]
        rfl
      rw [hneg, value?_ofParts hc, hvalue, Int.cast_negSucc]
      rfl

end Binary

open Binary

variable {x : Float} {n : BitVec 32}

/-! ## Rounding toward zero -/

/-- The whole number that a rational number rounds to toward zero. -/
def towardZero (q : ℚ) : ℤ := if 0 ≤ q then ⌊q⌋ else ⌈q⌉

theorem towardZero_signed (negative : Bool) {q : ℚ} (hq : 0 ≤ q) :
    towardZero (signed negative q) = if negative then -⌊q⌋ else ⌊q⌋ := by
  cases negative with
  | false => exact if_pos hq
  | true =>
    rcases hq.eq_or_lt with rfl | hpos
    · simp [towardZero, signed]
    · have hneg : ¬ 0 ≤ signed true q := not_le.mpr (neg_lt_zero.mpr hpos)
      rw [towardZero, if_neg hneg, if_pos rfl]
      exact Int.ceil_neg

theorem towardZero_intCast (z : ℤ) : towardZero z = z := by
  simp [towardZero]

theorem value?_truncate_eq {q : ℚ} (h : (ofFloat x).value? = some (extended q)) :
    (ofFloat (truncate x)).value? = some (extended (towardZero q)) := by
  cases hx : ofFloat x with
  | nan =>
    rw [hx] at h
    cases h
  | infinite negative =>
    rw [hx] at h
    cases negative <;> cases h
  | finite negative m e =>
    rw [hx, value?, Option.some.injEq] at h
    obtain rfl : signed negative ((m : ℚ) * 2 ^ e) = q := WithTop.coe_inj.mp (WithBot.coe_inj.mp h)
    rw [value?_truncate hx, towardZero_signed negative (by positivity), ← cast_wholePart]
    cases negative <;> simp [signed]

/-! ## Integers of 32 bits -/

/-- The 32-bit integer of a finite number has the lowest bits of the number rounded toward zero. -/
theorem toInt32_eq {q : ℚ} (h : (ofFloat x).value? = some (extended q)) :
    toInt32 x = BitVec.ofInt 32 (towardZero q) := by
  generalize hz : towardZero q = z
  have hmod := value?_euclideanRemainder (hz ▸ value?_truncate_eq h)
  have hnonneg : ((z % 2 ^ 32).toNat : ℤ) = z % 2 ^ 32 := by omega
  have hwhole : IsWhole (euclideanRemainder (truncate x) 4294967296.0) (z % 2 ^ 32).toNat := by
    rw [IsWhole, ofWhole_natCast, hmod, ← Int.cast_natCast, hnonneg]
  rw [toInt32, if_pos (isFinite_iff.mpr ⟨q, h⟩)]
  refine BitVec.eq_of_toNat_eq ?_
  rw [UInt32.toNat_toBitVec, hwhole.toNat_toUInt32 (by omega), BitVec.toNat_ofInt]
  rfl

/-- The remainder of a negative number is below zero at first. -/
example : toInt32 (-4294967297.5) = -1 := by decide

theorem toInt32_of_not_isFinite (h : ¬ x.isFinite = true) : toInt32 x = 0 := if_neg h

/-- A 32-bit integer is exact as a number. -/
theorem value?_ofInt32 (n : BitVec 32) : (ofFloat (ofInt32 n)).value? = some (extended n.toInt) := by
  have hlow := n.le_toInt
  have hhigh := n.toInt_lt
  exact value?_ofInt (by omega)

/-- A 32-bit integer comes back from its number. -/
@[simp] theorem toInt32_ofInt32 (n : BitVec 32) : toInt32 (ofInt32 n) = n := by
  rw [toInt32_eq (value?_ofInt32 n), towardZero_intCast, BitVec.ofInt_toInt]

/-- The integer in the range of 32 bits that differs from the number rounded toward zero by a multiple
of `2 ^ 32`; zero for what is no finite number. -/
structure IsInt32 (x : Float) (z : ℤ) : Prop where
  le : -2 ^ 31 ≤ z
  lt : z < 2 ^ 31
  modEq : ∀ q, (ofFloat x).value? = some (extended q) → z ≡ towardZero q [ZMOD 2 ^ 32]
  eq_zero : (∀ q, (ofFloat x).value? ≠ some (extended q)) → z = 0

/-- There is one such integer. -/
theorem isInt32_iff {z : ℤ} : IsInt32 x z ↔ z = (toInt32 x).toInt := by
  constructor
  · intro h
    by_cases hfinite : x.isFinite = true
    · obtain ⟨q, hq⟩ := isFinite_iff.mp hfinite
      have hmod : z % (2 ^ 32 : Nat) = towardZero q % (2 ^ 32 : Nat) := h.modEq q hq
      calc z = z.bmod (2 ^ 32) := (Int.bmod_eq_of_le h.le h.lt).symm
        _ = (towardZero q).bmod (2 ^ 32) := by rw [← Int.emod_bmod, hmod, Int.emod_bmod]
        _ = (toInt32 x).toInt := by rw [toInt32_eq hq, BitVec.toInt_ofInt]
    · rw [toInt32_of_not_isFinite hfinite]
      exact h.eq_zero fun q hq => hfinite (isFinite_iff.mpr ⟨q, hq⟩)
  · rintro rfl
    refine ⟨BitVec.le_toInt _, BitVec.toInt_lt, fun q hq => ?_, fun h => ?_⟩
    · rw [toInt32_eq hq, BitVec.toInt_ofInt]
      exact Int.bmod_emod
    · have hfinite : ¬ x.isFinite = true := fun hfinite => by
        obtain ⟨q, hq⟩ := isFinite_iff.mp hfinite
        exact h q hq
      rw [toInt32_of_not_isFinite hfinite]
      rfl

end ExprLang
