import ExprLang.Proofs.Number.Rounding

/-!
# ExprLang.Proofs.Number.Bits

Numbers and their bits.  The model of a number unpacks its bits as `Binary.ofFloat` does
(`ofFloat_eq`), so a number is put together again from its parts (`eq_ofParts_of_ofFloat`).  There is
only one of each of the others: one that is not a number, and an infinity and a zero of each sign.
-/

namespace ExprLang.Binary

open Float.Model Float.Model.UnpackedFloat

variable {m : Nat} {e : Int}

/-! ## From the parts to the bits -/

theorem Canonical.log2 (h : Canonical m e) (hm : 2 ^ 52 ≤ m) : m.log2 = 52 :=
  (Nat.log2_eq_iff h.pos.ne').mpr ⟨hm, h.lt⟩

/-- The bits of a number of 53 bits. -/
theorem pack_normal (h : Canonical m e) (hm : 2 ^ 52 ≤ m) (s : Sign) :
    UnpackedFloat.pack Format.binary64 (.finite s m e h.pos) =
      packComponents Format.binary64 s (BitVec.ofNat 11 (e + 1075).toNat) (BitVec.ofNat 52 m) := by
  have hlow := h.le_exponent
  have hhigh := h.exponent_le
  simp only [UnpackedFloat.pack, Format.exponentBias, Format.mantissaBits, h.log2 hm]
  norm_num
  have hexponent : e + 1023 + 52 = e + 1075 := by omega
  rw [hexponent, if_neg (by omega)]

/-- The bits of a number of fewer bits. -/
theorem pack_subnormal (h : Canonical m e) (hm : m < 2 ^ 52) (s : Sign) :
    UnpackedFloat.pack Format.binary64 (.finite s m e h.pos) =
      packComponents Format.binary64 s 0 (BitVec.ofNat 52 m) := by
  obtain rfl := h.normal hm
  have hlog : m.log2 < 52 := (Nat.log2_lt h.pos.ne').mpr hm
  have hne : m.log2 + 1 ≠ 53 := by omega
  simp only [UnpackedFloat.pack, Format.exponentBias, Format.mantissaBits]
  norm_num
  rw [if_neg hne]
  rfl

theorem unpack_pack (h : Canonical m e) (s : Sign) :
    (Float.Model.pack (.finite s m e h.pos)).unpack = .finite s m e h.pos := by
  show UnpackedFloat.unpack Format.binary64 (UnpackedFloat.pack Format.binary64 _) = _
  have hsign : Sign.ofBitVec s.toBitVec = s := by cases s <;> rfl
  rcases lt_or_ge m (2 ^ 52) with hm | hm
  · obtain rfl := h.normal hm
    have hnat : (BitVec.ofNat 52 m).toNat = m := by rw [BitVec.toNat_ofNat, Nat.mod_eq_of_lt hm]
    have hne : BitVec.ofNat 52 m ≠ 0#52 := by
      intro heq
      rw [heq] at hnat
      exact h.pos.ne hnat
    rw [pack_subnormal h hm]
    simp only [UnpackedFloat.unpack, unpackExponent_packComponents, unpackMantissa_packComponents,
      unpackSign_packComponents, hsign, hnat, hne, dite_false]
    rfl
  · have hlow := h.le_exponent
    have hhigh := h.exponent_le
    have hlt := h.lt
    have hexponent : (BitVec.ofNat 11 (e + 1075).toNat).toNat = (e + 1075).toNat := by
      rw [BitVec.toNat_ofNat, Nat.mod_eq_of_lt (by omega)]
    have hzero : BitVec.ofNat 11 (e + 1075).toNat ≠ 0#11 := by
      intro heq
      rw [heq] at hexponent
      simp at hexponent
      omega
    have hones : BitVec.ofNat 11 (e + 1075).toNat ≠ -1#11 := by
      intro heq
      rw [heq] at hexponent
      simp at hexponent
      omega
    have hnat : (1#1 ++ BitVec.ofNat 52 m).toNat = m := by
      rw [BitVec.toNat_append, ← Nat.shiftLeft_add_eq_or_of_lt (BitVec.isLt _), BitVec.toNat_ofNat]
      simp
      omega
    rw [pack_normal h hm]
    simp only [UnpackedFloat.unpack, unpackExponent_packComponents, unpackMantissa_packComponents,
      unpackSign_packComponents, hsign, hexponent, hones, hzero, hnat, if_false]
    congr 1
    simp [Format.exponentBias]
    omega

/-- The number with the parts given. -/
def ofParts (negative : Bool) (m : Nat) (e : Int) (hm : 0 < m) : Float :=
  ⟨.pack (.finite (if negative then .negative else .positive) m e hm)⟩

/-! ## From the bits to the parts -/

/-- Numbers are their bits. -/
theorem eq_of_bits {x y : Float} (h : x.toModel.toBits.toBitVec = y.toModel.toBits.toBitVec) :
    x = y := by
  obtain ⟨⟨⟨x⟩, _⟩⟩ := x
  obtain ⟨⟨⟨y⟩, _⟩⟩ := y
  cases h
  rfl

section Fields

variable (x : Float)

theorem toNat_unpackMantissa :
    (@unpackMantissa Format.binary64 x.toModel.toBits.toBitVec).toNat =
      x.toBits.toNat % twoPow 52 := by
  rw [unpackMantissa_def, BitVec.extractLsb'_toNat]
  rfl

theorem toNat_unpackExponent :
    (@unpackExponent Format.binary64 x.toModel.toBits.toBitVec).toNat =
      x.toBits.toNat / twoPow 52 % twoPow 11 := by
  rw [unpackExponent_def, BitVec.extractLsb'_toNat, Nat.shiftRight_eq_div_pow]
  rfl

/-- What an unpacked number is, taken apart. -/
def ofUnpacked : UnpackedFloat → Binary
  | .notANumber => .nan
  | .infinity s => .infinite (s == .negative)
  | .zero s => .finite (s == .negative) 0 (-1074)
  | .finite s m e _ => .finite (s == .negative) m e

theorem sign_unpackSign :
    (Sign.ofBitVec (@unpackSign Format.binary64 x.toModel.toBits.toBitVec) == .negative) =
      (x.toBits.toNat / twoPow 63 == 1) := by
  have hlt : x.toBits.toNat < 2 ^ 64 := x.toBits.toNat_lt
  have hbit : (@unpackSign Format.binary64 x.toModel.toBits.toBitVec).toNat =
      x.toBits.toNat / twoPow 63 := by
    rw [unpackSign_def, BitVec.extractLsb'_toNat, Nat.shiftRight_eq_div_pow]
    show x.toBits.toNat / 2 ^ 63 % 2 ^ 1 = x.toBits.toNat / 2 ^ 63
    omega
  have hall : ∀ b : BitVec 1, (Sign.ofBitVec b == .negative) = (b.toNat == 1) := by decide
  rw [← hbit]
  exact hall _

/-- Both ways of taking a number apart agree. -/
theorem ofFloat_eq : ofFloat x = ofUnpacked x.toModel.unpack := by
  have hones : @unpackExponent Format.binary64 x.toModel.toBits.toBitVec = -1#11 ↔
      x.toBits.toNat / twoPow 52 % twoPow 11 = 2047 := by
    rw [← BitVec.toNat_inj, toNat_unpackExponent]
    rfl
  have hzeros : @unpackExponent Format.binary64 x.toModel.toBits.toBitVec = 0#11 ↔
      x.toBits.toNat / twoPow 52 % twoPow 11 = 0 := by
    rw [← BitVec.toNat_inj, toNat_unpackExponent]
    rfl
  have hfraction : @unpackMantissa Format.binary64 x.toModel.toBits.toBitVec = 0#52 ↔
      x.toBits.toNat % twoPow 52 = 0 := by
    rw [← BitVec.toNat_inj, toNat_unpackMantissa]
    rfl
  have hone : (1#1 ++ @unpackMantissa Format.binary64 x.toModel.toBits.toBitVec).toNat =
      twoPow 52 + x.toBits.toNat % twoPow 52 := by
    rw [BitVec.toNat_append, ← Nat.shiftLeft_add_eq_or_of_lt (BitVec.isLt _), toNat_unpackMantissa]
    rfl
  unfold ofFloat Float.Model.unpack UnpackedFloat.unpack
  dsimp only
  by_cases h : x.toBits.toNat / twoPow 52 % twoPow 11 = 2047
  · rw [if_pos h, if_pos (hones.mpr h)]
    by_cases h₀ : x.toBits.toNat % twoPow 52 = 0
    · rw [if_pos h₀, if_pos (hfraction.mpr h₀), ofUnpacked, sign_unpackSign]
    · rw [if_neg h₀, if_neg (mt hfraction.mp h₀), ofUnpacked]
  · rw [if_neg h, if_neg (mt hones.mp h)]
    by_cases hz : x.toBits.toNat / twoPow 52 % twoPow 11 = 0
    · rw [if_pos hz, if_pos (hzeros.mpr hz)]
      by_cases h₀ : x.toBits.toNat % twoPow 52 = 0
      · rw [dif_pos (hfraction.mpr h₀), ofUnpacked, sign_unpackSign, h₀]
      · rw [dif_neg (mt hfraction.mp h₀), ofUnpacked, sign_unpackSign, toNat_unpackMantissa,
          toNat_unpackExponent, hz]
        rfl
    · rw [if_neg hz, if_neg (mt hzeros.mp hz), ofUnpacked, sign_unpackSign, hone,
        toNat_unpackExponent]
      rfl

/-- A number is put together again from what it is taken apart into. -/
theorem eq_pack_unpack : x = ⟨.pack x.toModel.unpack⟩ :=
  eq_of_bits (pack_unpack_of_valid x.toModel.valid).symm

variable {x} {s : Bool}

theorem eq_of_ofFloat_eq_nan (h : ofFloat x = .nan) : x = 0.0 / 0.0 := by
  rw [ofFloat_eq] at h
  rw [eq_pack_unpack x]
  cases hx : x.toModel.unpack <;> rw [hx, ofUnpacked] at h <;> cases h
  decide

theorem eq_of_ofFloat_eq_infinite (h : ofFloat x = .infinite s) :
    x = if s then -1.0 / 0.0 else 1.0 / 0.0 := by
  rw [ofFloat_eq] at h
  rw [eq_pack_unpack x]
  cases hx : x.toModel.unpack with
  | infinity sign =>
    rw [hx, ofUnpacked] at h
    cases h
    cases sign <;> decide
  | _ => rw [hx, ofUnpacked] at h; cases h

theorem eq_of_ofFloat_eq_zero (h : ofFloat x = .finite s 0 e) :
    x = if s then -0.0 else 0.0 := by
  rw [ofFloat_eq] at h
  rw [eq_pack_unpack x]
  cases hx : x.toModel.unpack with
  | zero s =>
    rw [hx, ofUnpacked, Binary.finite.injEq] at h
    obtain ⟨rfl, -, -⟩ := h
    cases s <;> decide
  | finite s m e hm =>
    rw [hx, ofUnpacked, Binary.finite.injEq] at h
    exact absurd h.2.1 hm.ne'
  | _ => rw [hx, ofUnpacked] at h; cases h

theorem canonical_of_ofFloat (h : ofFloat x = .finite s m e) (hm : 0 < m) : Canonical m e := by
  unfold ofFloat at h
  dsimp only at h
  have hpow : twoPow 52 = 2 ^ 52 := rfl
  have hfield : x.toBits.toNat / twoPow 52 % twoPow 11 < 2 ^ 11 := Nat.mod_lt _ (by decide)
  have hfraction : x.toBits.toNat % twoPow 52 < 2 ^ 52 := Nat.mod_lt _ (by decide)
  split at h
  · split at h <;> cases h
  · split at h
    · cases h
      exact ⟨hm, by omega, le_refl _, by omega, fun _ => rfl⟩
    · cases h
      exact ⟨hm, by omega, by omega, by omega, by omega⟩

theorem eq_ofParts_of_ofFloat (h : ofFloat x = .finite s m e) (hm : 0 < m) :
    x = ofParts s m e hm := by
  rw [ofFloat_eq] at h
  rw [eq_pack_unpack x]
  cases hx : x.toModel.unpack with
  | zero s =>
    rw [hx, ofUnpacked, Binary.finite.injEq] at h
    exact absurd h.2.1 hm.ne
  | finite s m e hm =>
    rw [hx, ofUnpacked, Binary.finite.injEq] at h
    obtain ⟨rfl, rfl, rfl⟩ := h
    cases s <;> rfl
  | _ => rw [hx, ofUnpacked] at h; cases h

end Fields

theorem neg_ofParts (h : Canonical m e) : -ofParts false m e h.pos = ofParts true m e h.pos := by
  show Float.ofModel (.pack (UnpackedFloat.neg (Float.Model.unpack (.pack _)))) = _
  rw [unpack_pack h]
  rfl

end ExprLang.Binary
