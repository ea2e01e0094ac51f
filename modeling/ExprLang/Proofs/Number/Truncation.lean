import Mathlib.Data.Rat.Floor
import ExprLang.Proofs.Number.Sums

/-!
# ExprLang.Proofs.Number.Truncation

Numbers without their fraction.

The whole part of a number is its rational value rounded down (`Binary.wholePart_eq_floor`).  It has
53 bits at most unless the number was whole before, so that nothing is lost when it is put together
again (`Binary.value?_truncate`), nor when it is taken as a machine word
(`Binary.IsWhole.toNat_toUInt64`).
-/

namespace ExprLang.Binary

open Float.Model Float.Model.UnpackedFloat

variable {m n : Nat} {e : Int}

/-! ## Whole parts -/

theorem wholePart_eq_floor (m : Nat) (e : Int) : wholePart m e = ⌊(m : ℚ) * 2 ^ e⌋₊ := by
  unfold wholePart
  split
  · next he =>
    obtain ⟨k, rfl⟩ := Int.eq_ofNat_of_zero_le he
    have hcast : (m : ℚ) * 2 ^ (k : Int) = (m * 2 ^ k : Nat) := by
      rw [zpow_natCast]
      push_cast
      rfl
    rw [hcast, Nat.floor_natCast, Int.toNat_natCast, twoPow_eq]
  · next he =>
    obtain ⟨k, hk⟩ := Int.eq_ofNat_of_zero_le (a := -e) (by omega)
    have hcast : (m : ℚ) * 2 ^ e = m / (2 ^ k : Nat) := by
      rw [← neg_neg e, hk, zpow_neg, zpow_natCast, ← div_eq_mul_inv]
      push_cast
      rfl
    rw [hcast, Nat.floor_div_eq_div, hk, Int.toNat_natCast, twoPow_eq]

theorem cast_wholePart (m : Nat) (e : Int) : (wholePart m e : ℤ) = ⌊(m : ℚ) * 2 ^ e⌋ := by
  rw [wholePart_eq_floor, Int.natCast_floor_eq_floor (by positivity)]

theorem wholePart_zero (e : Int) : wholePart 0 e = 0 := by
  rw [wholePart_eq_floor, Nat.cast_zero, zero_mul, Nat.floor_zero]

theorem wholePart_of_nonneg (he : 0 ≤ e) : (wholePart m e : ℚ) = m * 2 ^ e := by
  obtain ⟨k, rfl⟩ := Int.eq_ofNat_of_zero_le he
  rw [wholePart, if_pos he, Int.toNat_natCast, twoPow_eq, zpow_natCast]
  push_cast
  rfl

theorem wholePart_lt (hm : m < 2 ^ 53) (he : e < 0) : wholePart m e < 2 ^ 53 := by
  rw [wholePart, if_neg (not_le.mpr he)]
  exact (Nat.div_le_self _ _).trans_lt hm

/-! ## Putting whole numbers together -/

theorem toNat_packComponents (s : Sign) (b : BitVec 11) (f : BitVec 52) :
    BitVec.toNat (packComponents Format.binary64 s b f) =
      (if s == .negative then 2 ^ 63 else 0) + b.toNat * 2 ^ 52 + f.toNat := by
  have hsign : s.toBitVec.toNat * 2 ^ 63 = if s == .negative then 2 ^ 63 else 0 := by
    cases s <;> rfl
  have happend : BitVec.toNat (packComponents Format.binary64 s b f) =
      (s.toBitVec.toNat <<< 11 ||| b.toNat) <<< 52 ||| f.toNat := by
    rw [← BitVec.toNat_append, ← BitVec.toNat_append]
    rfl
  rw [happend, ← Nat.shiftLeft_add_eq_or_of_lt b.isLt, ← Nat.shiftLeft_add_eq_or_of_lt f.isLt,
    Nat.shiftLeft_eq, Nat.shiftLeft_eq, ← hsign]
  ring

/-- The bits of a number of 53 bits. -/
theorem ofBits_eq_ofParts (h : Canonical m e) (hm : 2 ^ 52 ≤ m) (negative : Bool) :
    Float.ofBits (UInt64.ofNat ((if negative then twoPow 63 else 0) +
      (e + 1075).toNat * twoPow 52 + (m - twoPow 52))) = ofParts negative m e h.pos := by
  have hlow := h.le_exponent
  have hhigh := h.exponent_le
  have hlt := h.lt
  generalize hs : (if negative then Sign.negative else Sign.positive) = s
  have hsign : (if s == .negative then 2 ^ 63 else 0) = if negative then twoPow 63 else 0 := by
    subst hs
    cases negative <;> rfl
  have hbits : (UInt64.ofNat ((if negative then twoPow 63 else 0) +
      (e + 1075).toNat * twoPow 52 + (m - twoPow 52))).toBitVec =
        UnpackedFloat.pack Format.binary64 (.finite s m e h.pos) := by
    rw [pack_normal h hm]
    refine BitVec.eq_of_toNat_eq ?_
    have hexponent : (BitVec.ofNat 11 (e + 1075).toNat).toNat = (e + 1075).toNat := by
      rw [BitVec.toNat_ofNat, Nat.mod_eq_of_lt (by omega)]
    have hmantissa : (BitVec.ofNat 52 m).toNat = m - 2 ^ 52 := by
      rw [BitVec.toNat_ofNat]
      omega
    rw [toNat_packComponents, hexponent, hmantissa, hsign, UInt64.toNat_toBitVec,
      UInt64.toNat_ofNat', twoPow_eq, twoPow_eq]
    refine Nat.mod_eq_of_lt ?_
    cases negative
    · rw [if_neg (by decide)]
      omega
    · rw [if_pos rfl]
      omega
  show Float.ofModel (.pack (UnpackedFloat.unpack Format.binary64 (UInt64.ofNat _).toBitVec)) = _
  rw [hbits]
  show Float.ofModel (.pack (Float.Model.pack (.finite s m e h.pos)).unpack) = _
  rw [unpack_pack h, ofParts, hs]

/-- A whole number of at most 53 bits that is put together is that number; zeros at the end of the
mantissa are no matter. -/
theorem value?_pack_shifted (negative : Bool) (hn : n < 2 ^ 53) (k : Nat) :
    (ofFloat (Binary.pack negative (n * 2 ^ k) (-k))).value? =
      some (extended (signed negative n)) := by
  rcases Nat.eq_zero_or_pos n with rfl | hpos
  · have hparts : ofFloat (Binary.pack negative 0 (-k)) = .finite negative 0 (-1074) := by
      rw [Binary.pack, if_pos rfl]
      cases negative <;> decide
    rw [Nat.zero_mul, hparts, value?, Nat.cast_zero, zero_mul]
  · have hlog : n.log2 ≤ 52 := Nat.lt_succ_iff.mp ((Nat.log2_lt hpos.ne').mpr hn)
    obtain ⟨j, hj⟩ := Nat.exists_eq_add_of_le hlog
    have hlower : 2 ^ 52 ≤ n * 2 ^ j := by
      rw [hj, pow_add]
      exact Nat.mul_le_mul_right _ (Nat.log2_self_le hpos.ne')
    have hupper : n * 2 ^ j < 2 ^ 53 := by
      rw [show 53 = n.log2 + 1 + j by omega, pow_add]
      exact Nat.mul_lt_mul_of_pos_right Nat.lt_log2_self (Nat.two_pow_pos j)
    have hc : Canonical (n * 2 ^ j) (-j) :=
      ⟨by omega, hupper, by omega, by omega, fun h => absurd h (not_lt.mpr hlower)⟩
    have hplace : max (-(k : Int) + ((n.log2 + k : Nat) : Int) - 52) (-1074) = -j := by omega
    have hshift : (if -(j : Int) ≤ -k then n * 2 ^ k * twoPow (-(k : Int) - -(j : Int)).toNat
        else n * 2 ^ k / twoPow (-(j : Int) - -(k : Int)).toNat) = n * 2 ^ j := by
      split
      · obtain ⟨i, rfl⟩ := Nat.exists_eq_add_of_le (show k ≤ j by omega)
        rw [show (-(k : Int) - -((k + i : Nat) : Int)).toNat = i by omega, twoPow_eq, mul_assoc,
          pow_add]
      · obtain ⟨i, rfl⟩ := Nat.exists_eq_add_of_le (show j ≤ k by omega)
        rw [show (-(j : Int) - -((j + i : Nat) : Int)).toNat = i by omega, twoPow_eq, pow_add,
          ← mul_assoc, Nat.mul_div_cancel _ (Nat.two_pow_pos i)]
    have hpack : Binary.pack negative (n * 2 ^ k) (-k) = ofParts negative (n * 2 ^ j) (-j) hc.pos := by
      rw [← ofBits_eq_ofParts hc hlower, Binary.pack,
        if_neg (Nat.mul_pos hpos (Nat.two_pow_pos k)).ne', log2_mul_two_pow hpos, hplace]
      dsimp only
      rw [hshift, twoPow_eq 52, if_neg (not_lt.mpr hlower), if_neg (by omega)]
    have hvalue : ((n * 2 ^ j : Nat) : ℚ) * 2 ^ (-(j : Int)) = n := by
      rw [zpow_neg, zpow_natCast]
      push_cast
      field_simp
    rw [hpack, value?_ofParts hc, hvalue]

theorem value?_pack_whole (negative : Bool) (hn : n < 2 ^ 53) :
    (ofFloat (Binary.pack negative n 0)).value? = some (extended (signed negative n)) := by
  have h := value?_pack_shifted negative hn 0
  rwa [pow_zero, Nat.mul_one, Nat.cast_zero, neg_zero] at h

/-- The whole part of a number with the sign of the number. -/
theorem value?_truncate {x : Float} {negative : Bool} (h : ofFloat x = .finite negative m e) :
    (ofFloat (truncate x)).value? = some (extended (signed negative (wholePart m e))) := by
  unfold truncate
  rw [h]
  dsimp only
  split
  · next he => rw [h, value?, wholePart_of_nonneg he]
  · next he =>
    rcases Nat.eq_zero_or_pos m with rfl | hm
    · exact value?_pack_whole negative (wholePart_lt (by decide) (not_le.mp he))
    · have hlt := (canonical_of_ofFloat h hm).lt
      exact value?_pack_whole negative (wholePart_lt hlt (not_le.mp he))

/-! ## Whole numbers and infinities -/

/-- A whole number or an infinity among the rational numbers. -/
def ofWhole (z : WithBot (WithTop ℤ)) : WithBot (WithTop ℚ) := z.map (WithTop.map Int.cast)

theorem ofWhole_strictMono : StrictMono ofWhole := Int.cast_strictMono.withTop_map.withBot_map

theorem ofWhole_intCast (z : ℤ) : ofWhole (z : WithTop ℤ) = extended z := rfl

theorem ofWhole_natCast (n : Nat) : ofWhole n = extended n := by
  have hcast : ofWhole ((n : ℤ) : WithTop ℤ) = extended (n : ℤ) := ofWhole_intCast n
  rwa [Int.cast_natCast] at hcast

/-- The number stands for a whole number or an infinity. -/
def IsWhole (x : Float) (z : WithBot (WithTop ℤ)) : Prop := (ofFloat x).value? = some (ofWhole z)

/-- The whole number that a number rounds to toward zero, or the infinity that it is; zero for what
is not a number. -/
def wholeValue (x : Float) : WithBot (WithTop ℤ) :=
  match ofFloat x with
  | .nan => 0
  | .infinite negative => if negative then ⊥ else ⊤
  | .finite negative m e =>
    ((if negative then -⌊(m : ℚ) * 2 ^ e⌋ else ⌊(m : ℚ) * 2 ^ e⌋ : ℤ) : WithTop ℤ)

section Whole

variable {x y : Float} {z w : WithBot (WithTop ℤ)}

theorem IsWhole.lt_iff (hx : IsWhole x z) (hy : IsWhole y w) : x < y ↔ z < w :=
  (float_lt_iff hx hy).trans ofWhole_strictMono.lt_iff_lt

theorem IsWhole.le_iff (hx : IsWhole x z) (hy : IsWhole y w) : x ≤ y ↔ z ≤ w :=
  (float_le_iff hx hy).trans ofWhole_strictMono.le_iff_le

theorem isWhole_ofNat (hn : n ≤ 2 ^ 53) : IsWhole (Float.ofNat n) n := by
  obtain ⟨a, ha, hbounds⟩ := value?_ofNat n
  rw [IsWhole, ofWhole_natCast, ha, eq_of_bounds (isRatio_natCast hn) hbounds]

theorem isWhole_zero : IsWhole 0.0 0 := value?_zero

/-- Without its fraction a number is whole. -/
theorem isWhole_truncate (hx : x.isNaN = false) : IsWhole (truncate x) (wholeValue x) := by
  unfold IsWhole wholeValue
  cases h : ofFloat x with
  | nan =>
    rw [isNaN_iff.mpr h] at hx
    cases hx
  | infinite negative =>
    have htruncate : truncate x = x := by rw [truncate, h]
    rw [htruncate, h]
    cases negative <;> rfl
  | finite negative m e =>
    rw [value?_truncate h]
    dsimp only
    rw [ofWhole_intCast, ← cast_wholePart]
    cases negative
    · exact congrArg (some ∘ extended) (Int.cast_natCast _).symm
    · exact congrArg (some ∘ extended) (Int.cast_neg _).symm

theorem truncate_zero : truncate 0.0 = 0.0 := by
  have hparts : ofFloat 0.0 = .finite false 0 (-1074) := by decide
  rw [truncate, hparts]
  dsimp only
  rw [if_neg (by decide), wholePart_zero]
  decide

theorem wholeValue_of_isNaN (hx : x.isNaN = true) : wholeValue x = 0 := by
  rw [wholeValue, isNaN_iff.mp hx]

theorem wholeValue_nonneg (hx : ¬x < 0.0) : 0 ≤ wholeValue x := by
  have hzero : ∀ {negative : Bool} {m : Nat} {e : Int}, ofFloat x = .finite negative m e →
      negative = true → m = 0 := by
    rintro _ m e h rfl
    have hvalue : (ofFloat x).value? = some (extended (signed true (m * 2 ^ e))) := by rw [h, value?]
    have hge := not_lt.mp (mt (float_lt_iff hvalue isWhole_zero).mpr hx)
    have hle : (m : ℚ) * 2 ^ e ≤ 0 := neg_nonneg.mp (extended_le_iff.mp hge)
    by_contra hm
    have hpos : (0 : ℚ) < m * 2 ^ e := by
      have := Nat.pos_of_ne_zero hm
      positivity
    exact absurd hle (not_le.mpr hpos)
  unfold wholeValue
  cases h : ofFloat x with
  | nan => exact le_refl 0
  | infinite negative =>
    cases negative with
    | false => exact le_top
    | true =>
      have hvalue : (ofFloat x).value? = some ⊥ := by rw [h]; rfl
      exact absurd ((float_lt_iff hvalue isWhole_zero).mpr (WithBot.bot_lt_coe _)) hx
  | finite negative m e =>
    cases negative with
    | false =>
      exact WithBot.coe_le_coe.mpr (WithTop.coe_le_coe.mpr (Int.floor_nonneg.mpr (by positivity)))
    | true =>
      obtain rfl := hzero h rfl
      simp

theorem signed_nonneg {negative : Bool} {q : ℚ} (hq : 0 < q) (h : 0 ≤ signed negative q) :
    negative = false := by
  cases negative with
  | false => rfl
  | true => exact absurd h (not_le.mpr (neg_lt_zero.mpr hq))

/-- The parts of a whole number: those of zero, or of a number without a sign. -/
theorem IsWhole.parts {n : Nat} (hx : IsWhole x n) :
    (n = 0 ∧ ∃ negative e, ofFloat x = .finite negative 0 e) ∨
      ∃ m e, ofFloat x = .finite false m e ∧ 0 < m ∧ (m : ℚ) * 2 ^ e = n := by
  rw [IsWhole, ofWhole_natCast] at hx
  cases h : ofFloat x with
  | nan =>
    rw [h] at hx
    cases hx
  | infinite negative =>
    rw [h] at hx
    cases negative <;> cases hx
  | finite negative m e =>
    rw [h, value?, Option.some.injEq] at hx
    have hvalue : signed negative ((m : ℚ) * 2 ^ e) = n :=
      WithTop.coe_inj.mp (WithBot.coe_inj.mp hx)
    rcases Nat.eq_zero_or_pos m with rfl | hm
    · refine .inl ⟨?_, negative, e, rfl⟩
      rw [Nat.cast_zero, zero_mul] at hvalue
      cases negative <;> simpa [signed, eq_comm] using hvalue
    · have hpos : (0 : ℚ) < m * 2 ^ e := by positivity
      obtain rfl := signed_nonneg hpos (hvalue.symm ▸ Nat.cast_nonneg n)
      exact .inr ⟨m, e, rfl, hm, hvalue⟩

/-- A number that is whole loses nothing. -/
theorem IsWhole.wholeValue_eq {n : Nat} (hx : IsWhole x n) : wholeValue x = n := by
  rcases hx.parts with ⟨rfl, negative, e, h⟩ | ⟨m, e, h, -, hvalue⟩
  · rw [wholeValue, h]
    simp
  · have hfloor : ⌊(m : ℚ) * 2 ^ e⌋ = n := by rw [hvalue, Int.floor_natCast]
    rw [wholeValue, h]
    dsimp only
    rw [if_neg (by decide), hfloor]
    rfl

/-- A number that reaches a whole number still does without its fraction. -/
theorem le_wholeValue {n : Nat} {a : WithBot (WithTop ℚ)} (hn : 0 < n)
    (hx : (ofFloat x).value? = some a) (hle : extended n ≤ a) : n ≤ wholeValue x := by
  unfold wholeValue
  cases h : ofFloat x with
  | nan =>
    rw [h] at hx
    cases hx
  | infinite negative =>
    rw [h] at hx
    cases negative with
    | false => exact le_top
    | true =>
      cases hx
      cases hle
  | finite negative m e =>
    rw [h, value?, Option.some.injEq] at hx
    rw [← hx, extended_le_iff] at hle
    have hn' : (0 : ℚ) < n := by exact_mod_cast hn
    cases negative with
    | false =>
      have hfloor : (n : ℤ) ≤ ⌊(m : ℚ) * 2 ^ e⌋ := Int.le_floor.mpr (by exact_mod_cast hle)
      exact WithBot.coe_le_coe.mpr (WithTop.coe_le_coe.mpr hfloor)
    | true =>
      have hneg : signed true ((m : ℚ) * 2 ^ e) ≤ 0 := neg_nonpos.mpr (by positivity)
      exact absurd (hn'.trans_le hle) (not_lt.mpr hneg)

end Whole

/-! ## Machine words -/

theorem roundToInt_eq (s : Sign) (m : Nat) (e : Int) :
    roundToInt s m e = s.apply (wholePart m e) := by
  have htruncates : ∀ num k : Nat,
      (ExtendedMantissa.ofMantissaAndAccuracy num .exact >>> k).mantissa = num / 2 ^ k := by
    intro num k
    have h := ((truncates_ofFraction num Nat.one_pos).shiftRight Nat.one_pos k).mantissa
    rwa [Nat.div_one, Nat.mod_one, Nat.one_mul] at h
  simp only [roundToInt, decreaseExponent, shiftToExponent, htruncates, Nat.shiftLeft_eq]
  unfold wholePart
  split
  · next he =>
    rw [show (e - 0).toNat = e.toNat by omega, show (0 - (e - (e.toNat : Int))).toNat = 0 by omega,
      pow_zero, Nat.div_one, twoPow_eq]
  · next he =>
    rw [show (e - 0).toNat = 0 by omega,
      show (0 - (e - ((0 : Nat) : Int))).toNat = (-e).toNat by omega,
      pow_zero, Nat.mul_one, twoPow_eq]

/-- A whole number as an integer, whatever becomes of the infinities. -/
theorem IsWhole.toInt_eq {x : Float} (h : IsWhole x n) (low high : ℤ) :
    x.toModel.unpack.toInt low high = n := by
  rw [IsWhole, ofWhole_natCast] at h
  have hratio := ratio?_of_value? h
  cases hunpack : x.toModel.unpack with
  | infinity | notANumber =>
    rw [hunpack] at hratio
    cases hratio
  | zero s =>
    rw [hunpack, ratio?, Option.some.injEq] at hratio
    obtain rfl : n = 0 := Nat.cast_eq_zero.mp hratio.symm
    rfl
  | finite s m e hm =>
    rw [hunpack, ratio?, Option.some.injEq] at hratio
    have hpos : (0 : ℚ) < m * 2 ^ e := by positivity
    have hnonneg : (0 : ℚ) ≤ n := Nat.cast_nonneg n
    cases s with
    | negative => exact absurd (hratio.trans_ge hnonneg) (not_le.mpr (neg_lt_zero.mpr hpos))
    | positive =>
      have hvalue : (m : ℚ) * 2 ^ e = n := hratio
      rw [UnpackedFloat.toInt, roundToInt_eq, wholePart_eq_floor, hvalue, Nat.floor_natCast]
      rfl

/-- A whole number as a machine word is that number. -/
theorem IsWhole.toNat_toUInt64 {x : Float} (h : IsWhole x n) (hn : n < 2 ^ 64) :
    x.toUInt64.toNat = n := by
  have hword : x.toUInt64 =
      UInt64.ofNatClamp (x.toModel.unpack.toInt 0 (UInt64.size - 1)).toNat := rfl
  rw [hword, h.toInt_eq, Int.toNat_natCast, UInt64.ofNatClamp_eq_ofNat n hn, UInt64.toNat_ofNat',
    Nat.mod_eq_of_lt hn]

/-- A whole number as a machine word of 32 bits is that number. -/
theorem IsWhole.toNat_toUInt32 {x : Float} (h : IsWhole x n) (hn : n < 2 ^ 32) :
    x.toUInt32.toNat = n := by
  have hword : x.toUInt32 =
      UInt32.ofNatClamp (x.toModel.unpack.toInt 0 (UInt32.size - 1)).toNat := rfl
  rw [hword, h.toInt_eq, Int.toNat_natCast, UInt32.ofNatClamp_eq_ofNat n hn, UInt32.toNat_ofNat',
    Nat.mod_eq_of_lt hn]

end ExprLang.Binary
