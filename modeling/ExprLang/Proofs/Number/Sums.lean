import ExprLang.Proofs.Number.Order

/-!
# ExprLang.Proofs.Number.Sums

Sums lie on the right side of every number.

A sum of finite numbers is the exact sum, rounded once (`Binary.rounds_add`).  Rounding never passes
a number: what is at most a number is rounded to something that is at most that number, and the same
for at least (`Binary.value?_add`).  So a sum that is itself a number is exact, whatever its parts
are, and a sum that is too great to be exact is still beyond every bound that it passed.
-/

namespace ExprLang.Binary

open Float.Model Float.Model.UnpackedFloat

/-! ## Rounding a sum -/

/-- The unpacked number is what a rational number is rounded to. -/
inductive Rounds : UnpackedFloat → ℚ → Prop
  | zero (s : Sign) : Rounds (.zero s) 0
  | finite (s : Sign) {m : Nat} {e : Int} {x : ℚ} (h : Rounded m e) (hnear : Near m e x) :
      Rounds (.finite s m e h.pos) (signed (s == .negative) x)

section Add

variable {u v : UnpackedFloat} {q r : ℚ}

theorem rounds_round (s : Sign) {n : Nat} (hn : 0 < n) {t : Int} (ht : -1074 ≤ t) :
    Rounds (UnpackedFloat.round Format.binary64 s n t) (signed (s == .negative) (n * 2 ^ t)) := by
  obtain ⟨m, e, h, hnear⟩ := exists_rounded hn ht
  rw [round_eq h s hn hnear]
  exact .finite s h hnear

theorem rounds_normalize (n : Int) {t : Int} (ht : -1074 ≤ t) (s : Sign) :
    Rounds (UnpackedFloat.normalize Format.binary64 n t s) (n * 2 ^ t) := by
  rcases lt_trichotomy n 0 with hneg | rfl | hpos
  · have hround := rounds_round .negative (n := (-n).toNat) (by omega) ht
    have hcast : (((-n).toNat : Nat) : ℚ) = -n := by
      rw [← Int.cast_natCast, Int.toNat_of_nonneg (by omega), Int.cast_neg]
    rw [hcast] at hround
    rw [UnpackedFloat.normalize, Int.compare_eq_lt.mpr hneg]
    convert hround using 1
    simp [signed]
  · rw [Int.cast_zero, zero_mul]
    exact .zero s
  · have hround := rounds_round .positive (n := n.toNat) (by omega) ht
    have hcast : ((n.toNat : Nat) : ℚ) = n := by
      rw [← Int.cast_natCast, Int.toNat_of_nonneg hpos.le]
    rw [hcast] at hround
    rw [UnpackedFloat.normalize, Int.compare_eq_gt.mpr hpos]
    exact hround

theorem rounds_self (hu : IsCanonical u) (hq : ratio? u = some q) : Rounds u q := by
  rcases u with _ | _ | s | ⟨s, m, e, hm⟩ <;> cases hq
  · exact .zero s
  · exact .finite s (Canonical.rounded hu) (near_self m e)

theorem signed_mul (negative : Bool) (q r : ℚ) :
    signed negative q * r = signed negative (q * r) := by
  cases negative with
  | true => exact neg_mul q r
  | false => rfl

theorem cast_apply (s : Sign) (n : Nat) : ((s.apply n : Int) : ℚ) = signed (s == .negative) n := by
  cases s with
  | negative => exact Int.cast_neg _
  | positive => rfl

/-- A sum of finite numbers is rounded once. -/
theorem rounds_add (hu : IsCanonical u) (hv : IsCanonical v) (hq : ratio? u = some q)
    (hr : ratio? v = some r) : Rounds (UnpackedFloat.add Format.binary64 u v) (q + r) := by
  rcases u with _ | _ | s | ⟨s, m, e, hm⟩ <;> rcases v with _ | _ | s' | ⟨s', m', e', hm'⟩ <;>
    cases hq <;> cases hr
  case zero.zero =>
    rw [add_zero]
    cases s <;> cases s' <;> exact .zero _
  case zero.finite =>
    rw [zero_add]
    exact rounds_self hv rfl
  case finite.zero =>
    rw [add_zero]
    exact rounds_self hu rfl
  case finite.finite =>
    have hmin : -1074 ≤ min e e' := le_min (Canonical.le_exponent hu) (Canonical.le_exponent hv)
    have hscale : ∀ (s : Sign) (m : Nat) {e₁ : Int}, min e e' ≤ e₁ →
        ((s.apply (m <<< (e₁ - min e e').toNat) : Int) : ℚ) * 2 ^ min e e' =
          signed (s == .negative) (m * 2 ^ e₁) := by
      intro s m e₁ hle
      have hpow : (2 : ℚ) ^ (e₁ - min e e').toNat * 2 ^ min e e' = 2 ^ e₁ := by
        rw [← zpow_natCast, ← zpow_add₀ (by norm_num)]
        congr 1
        omega
      rw [cast_apply, signed_mul, Nat.shiftLeft_eq, ← hpow]
      push_cast
      rw [mul_assoc]
    rw [← hscale s m (min_le_left e e'), ← hscale s' m' (min_le_right e e'), ← add_mul,
      ← Int.cast_add]
    exact rounds_normalize _ hmin .positive

theorem isCanonical_neg (hv : IsCanonical v) : IsCanonical v.neg := by
  cases v <;> exact hv

theorem ratio?_neg (hr : ratio? v = some r) : ratio? v.neg = some (-r) := by
  rcases v with _ | _ | s | ⟨_ | _, m, e, hm⟩ <;> cases hr
  · rw [neg_zero]
    rfl
  · exact congrArg some (neg_neg _).symm
  · rfl

theorem unpacked_sub_eq (u v : UnpackedFloat) :
    UnpackedFloat.sub Format.binary64 u v = UnpackedFloat.add Format.binary64 u v.neg := by
  rcases u with ⟨_ | _⟩ | _ | ⟨_ | _⟩ | ⟨s, m, e, hm⟩ <;>
    rcases v with ⟨_ | _⟩ | _ | ⟨_ | _⟩ | ⟨_ | _, m', e', hm'⟩
  case finite.finite.negative =>
    simp only [UnpackedFloat.sub, UnpackedFloat.add, UnpackedFloat.neg]
    exact congrArg (UnpackedFloat.normalize _ · _ _) (sub_neg_eq_add _ _)
  all_goals rfl

theorem rounds_sub (hu : IsCanonical u) (hv : IsCanonical v) (hq : ratio? u = some q)
    (hr : ratio? v = some r) : Rounds (UnpackedFloat.sub Format.binary64 u v) (q - r) := by
  rw [unpacked_sub_eq, sub_eq_add_neg]
  exact rounds_add hu (isCanonical_neg hv) hq (ratio?_neg hr)

/-- Nothing finite changes an infinity. -/
theorem add_infinity (hq : ratio? u = some q) (s : Sign) :
    UnpackedFloat.add Format.binary64 u (.infinity s) = .infinity s := by
  rcases u with _ | _ | s' | ⟨s', m, e, hm⟩ <;> cases hq <;> rfl

end Add

/-! ## Rounding and order -/

section Bounds

variable {m m' : Nat} {e e' : Int} {q c : ℚ}

theorem Near.pos (h : Rounded m e) (hnear : Near m e q) : 0 < q := by
  have hm : (1 : ℚ) ≤ m := by exact_mod_cast h.pos
  have hgap := gapBelow_le m
  refine lt_of_lt_of_le ?_ hnear.low_le
  exact mul_pos (by linarith) (by positivity)

/-- Rounding does not pass a number. -/
theorem Near.le_of_le (h : Rounded m e) (h' : Rounded m' e') (hnear : Near m e q)
    (hle : q ≤ m' * 2 ^ e') : (m : ℚ) * 2 ^ e ≤ m' * 2 ^ e' := by
  by_contra hlt
  have hgap := high_le_low h' h ((value_lt_iff h' h).mp (not_le.mp hlt))
  exact absurd (hnear.low_le.trans hle) (not_le.mpr ((lt_high m' e').trans_le hgap))

theorem Near.ge_of_ge (h : Rounded m e) (h' : Rounded m' e') (hnear : Near m e q)
    (hle : m' * 2 ^ e' ≤ q) : (m' : ℚ) * 2 ^ e' ≤ m * 2 ^ e := by
  by_contra hlt
  have hgap := high_le_low h h' ((value_lt_iff h h').mp (not_le.mp hlt))
  exact absurd (hle.trans hnear.le_high) (not_le.mpr (hgap.trans_lt (low_lt m' e')))

/-- A rational number that is a number. -/
def IsRatio (c : ℚ) : Prop := ∃ u, IsCanonical u ∧ ratio? u = some c

theorem IsRatio.neg (hc : IsRatio c) : IsRatio (-c) := by
  obtain ⟨u, hu, hc⟩ := hc
  exact ⟨u.neg, isCanonical_neg hu, ratio?_neg hc⟩

theorem IsRatio.cases (hc : IsRatio c) :
    c ≤ 0 ∨ ∃ m e, Canonical m e ∧ c = m * 2 ^ e := by
  obtain ⟨u, hu, hc⟩ := hc
  rcases u with _ | _ | s | ⟨_ | _, m, e, hm⟩ <;> cases hc
  · exact .inl (le_refl 0)
  · refine .inl (neg_nonpos.mpr ?_)
    positivity
  · exact .inr ⟨m, e, hu, rfl⟩

/-- What is rounded to a positive number of 53 bits lies on the same side of every number; up to a
number, it is no greater than a number can be. -/
theorem bounds_of_near (h : Rounded m e) (hnear : Near m e q) (hc : IsRatio c) :
    (q ≤ c → e ≤ 971 ∧ (m : ℚ) * 2 ^ e ≤ c) ∧ (c ≤ q → c ≤ m * 2 ^ e) := by
  rcases hc.cases with hc | ⟨m', e', hcanonical, rfl⟩
  · refine ⟨fun hle => absurd (hle.trans hc) (not_le.mpr (hnear.pos h)), fun _ => hc.trans ?_⟩
    positivity
  · refine ⟨fun hle => ?_, hnear.ge_of_ge h hcanonical.rounded⟩
    have hvalue := hnear.le_of_le h hcanonical.rounded hle
    have hmax := hcanonical.exponent_le
    have hexponent := mt (value_lt_iff hcanonical.rounded h).mpr (not_lt.mpr hvalue)
    exact ⟨by omega, hvalue⟩

/-- What is nearest to a number, and a number itself, is that number. -/
theorem Near.eq_of_isRatio (h : Rounded m e) (hnear : Near m e q) (hq : IsRatio q) :
    (m : ℚ) * 2 ^ e = q :=
  le_antisymm ((bounds_of_near h hnear hq).1 le_rfl).2 ((bounds_of_near h hnear hq).2 le_rfl)

end Bounds

/-! ## Sums -/

section Sums

variable {u : UnpackedFloat} {q r c : ℚ} {x y : Float}

theorem ratio?_of_value? (hx : (ofFloat x).value? = some (extended q)) :
    ratio? x.toModel.unpack = some q := by
  rw [ofFloat_eq] at hx
  rcases value?_cases hx with ⟨-, h⟩ | ⟨-, h⟩ | ⟨r, hr, h⟩
  · cases h
  · cases h
  · cases h
    exact hr

/-- A number that is too great becomes infinite when it is put into bits. -/
theorem pack_of_gt (s : Sign) {m : Nat} {e : Int} {hm : 0 < m} (he : 971 < e) :
    Float.Model.pack (.finite s m e hm) = Float.Model.pack (.infinity s) := by
  have hbias : (Format.binary64.exponentBias : Int) = 1023 := by decide
  have hwidth : (Format.binary64.mantissaBitsWithoutImplicit : Int) = 52 := by decide
  have hbits : 2 ^ Format.binary64.exponentBits = 2048 := by decide
  have hpack : UnpackedFloat.pack Format.binary64 (.finite s m e hm) =
      packedInfinity Format.binary64 s := by
    unfold UnpackedFloat.pack
    dsimp only
    rw [hbits, hbias, hwidth, if_pos (by omega)]
  unfold Float.Model.pack
  congr 2

/-- What a rational number is rounded to lies on the same side of every number, also if it becomes
infinite when it is put into bits. -/
theorem value?_pack (h : Rounds u q) : ∃ a,
    (ofFloat (.ofModel (.pack u))).value? = some a ∧ ∀ c, IsRatio c →
      (q ≤ c → a ≤ extended c) ∧ (c ≤ q → extended c ≤ a) := by
  cases h with
  | zero s =>
    have hzero : (ofFloat (.ofModel (.pack (.zero s)))).value? = some (extended 0) := by
      have hparts : ofFloat (.ofModel (.pack (.zero s))) = .finite (s == .negative) 0 (-1074) := by
        cases s <;> decide
      rw [hparts]
      cases s <;> simp [value?, signed, extended]
    exact ⟨_, hzero, fun c _ => ⟨extended_le_iff.mpr, extended_le_iff.mpr⟩⟩
  | @finite s m e q h hnear =>
    by_cases hbound : e ≤ 971
    · have hc : Canonical m e := ⟨h.pos, h.lt, h.le_exponent, hbound, h.normal⟩
      refine ⟨extended (signed (s == .negative) (m * 2 ^ e)), ?_, fun c hratio => ?_⟩
      · rw [ofFloat_eq]
        show (ofUnpacked (Float.Model.pack (.finite s m e hc.pos)).unpack).value? = _
        rw [unpack_pack hc]
        rfl
      · rw [extended_le_iff, extended_le_iff]
        cases s with
        | positive => exact ⟨fun hle => ((bounds_of_near h hnear hratio).1 hle).2,
            (bounds_of_near h hnear hratio).2⟩
        | negative =>
          obtain ⟨hle, hge⟩ := bounds_of_near h hnear hratio.neg
          exact ⟨fun hq => neg_le.mp (hge (neg_le.mp hq)),
            fun hq => le_neg.mp (hle (le_neg.mp hq)).2⟩
    · have hinfinite : (ofFloat (.ofModel (.pack (.finite s m e h.pos)))).value? =
          some (if s == .negative then ⊥ else ⊤) := by
        have hparts : ofFloat (.ofModel (.pack (.infinity s))) = .infinite (s == .negative) := by
          cases s <;> decide
        rw [pack_of_gt s (not_le.mp hbound), hparts, value?]
      refine ⟨_, hinfinite, fun c hratio => ?_⟩
      cases s with
      | positive => exact ⟨fun hle => absurd ((bounds_of_near h hnear hratio).1 hle).1 hbound,
          fun _ => le_top⟩
      | negative => exact ⟨fun _ => bot_le, fun hle =>
          absurd ((bounds_of_near h hnear hratio.neg).1 (le_neg.mp hle)).1 hbound⟩

/-- The sum of finite numbers lies on the same side of every number as their exact sum. -/
theorem value?_add (hx : (ofFloat x).value? = some (extended q))
    (hy : (ofFloat y).value? = some (extended r)) : ∃ a, (ofFloat (x + y)).value? = some a ∧
      ∀ c, IsRatio c → (q + r ≤ c → a ≤ extended c) ∧ (c ≤ q + r → extended c ≤ a) :=
  value?_pack (rounds_add (isCanonical_unpack x) (isCanonical_unpack y) (ratio?_of_value? hx)
    (ratio?_of_value? hy))

theorem eq_of_bounds {a : WithBot (WithTop ℚ)} (hq : IsRatio q)
    (h : ∀ c, IsRatio c → (q ≤ c → a ≤ extended c) ∧ (c ≤ q → extended c ≤ a)) : a = extended q :=
  le_antisymm ((h q hq).1 le_rfl) ((h q hq).2 le_rfl)

/-- A sum that is a number is exact. -/
theorem value?_add_of_isRatio (hx : (ofFloat x).value? = some (extended q))
    (hy : (ofFloat y).value? = some (extended r)) (hsum : IsRatio (q + r)) :
    (ofFloat (x + y)).value? = some (extended (q + r)) := by
  obtain ⟨a, ha, hbounds⟩ := value?_add hx hy
  rw [ha, eq_of_bounds hsum hbounds]

/-- A difference that is a number is exact. -/
theorem value?_sub_of_isRatio (hx : (ofFloat x).value? = some (extended q))
    (hy : (ofFloat y).value? = some (extended r)) (hdiff : IsRatio (q - r)) :
    (ofFloat (x - y)).value? = some (extended (q - r)) := by
  obtain ⟨a, ha, hbounds⟩ := value?_pack (rounds_sub (isCanonical_unpack x) (isCanonical_unpack y)
    (ratio?_of_value? hx) (ratio?_of_value? hy))
  have hsub : (ofFloat (x - y)).value? = some a := ha
  rw [hsub, eq_of_bounds hdiff hbounds]

/-- An infinity stays what it is. -/
theorem value?_add_infinite {a : WithBot (WithTop ℚ)} (hx : (ofFloat x).value? = some (extended q))
    (hy : (ofFloat y).value? = some a) (ha : a = ⊥ ∨ a = ⊤) :
    (ofFloat (x + y)).value? = some a := by
  have hadd : ∀ s : Sign, y.toModel.unpack = .infinity s →
      (ofFloat (x + y)).value? = some (if s == .negative then ⊥ else ⊤) := by
    intro s hs
    have hparts : ofFloat (.ofModel (.pack (.infinity s))) = .infinite (s == .negative) := by
      cases s <;> decide
    show (ofFloat (.ofModel (.pack (UnpackedFloat.add Format.binary64 _ _)))).value? = _
    rw [hs, add_infinity (ratio?_of_value? hx), hparts, value?]
  rw [ofFloat_eq] at hy
  rcases value?_cases hy with ⟨hs, rfl⟩ | ⟨hs, rfl⟩ | ⟨r, -, rfl⟩
  · exact hadd .negative hs
  · exact hadd .positive hs
  · rcases ha with ha | ha <;> cases ha

end Sums

/-! ## Whole numbers -/

theorem value?_zero : (ofFloat 0.0).value? = some (extended 0) := by
  have hparts : ofFloat 0.0 = .finite false 0 (-1074) := by decide
  rw [hparts, value?, Nat.cast_zero, zero_mul]
  rfl

theorem isShort_of_le {n : Nat} (hn : n ≤ 2 ^ 53) : IsShort n := by
  rcases hn.lt_or_eq with hlt | rfl
  · exact isShort_of_lt hlt
  · exact ⟨1, 53, by decide, (Nat.one_mul _).symm⟩

theorem isRatio_natCast {n : Nat} (hn : n ≤ 2 ^ 53) : IsRatio n := by
  rcases Nat.eq_zero_or_pos n with rfl | hpos
  · exact ⟨.zero .positive, trivial, congrArg some Nat.cast_zero.symm⟩
  · obtain ⟨m, e, hc, -, hvalue⟩ := (isShort_of_le hn).exists_canonical hpos (by omega)
    exact ⟨.finite .positive m e hc.pos, hc, congrArg some hvalue⟩

theorem isRatio_intCast {k : ℤ} (hk : k.natAbs ≤ 2 ^ 53) : IsRatio k := by
  have hratio := isRatio_natCast hk
  rcases Int.natAbs_eq k with h | h
  · rw [h, Int.cast_natCast]
    exact hratio
  · rw [h, Int.cast_neg, Int.cast_natCast]
    exact hratio.neg

/-- A whole number of more than 64 bits is rounded once. -/
theorem rounds_ofScientific {n : Nat} (hn : 0 < n) :
    Rounds (UnpackedFloat.ofScientific Format.binary64 n 0) n := by
  have hbits : (2 : Int) ^ Format.binary64.exponentBits = 2048 := by decide
  have hshift : 0 < n <<< 53 * 10 ^ 0 := by
    rw [Nat.shiftLeft_eq]
    positivity
  have hvalue : ((n <<< 53 * 10 ^ 0 : Nat) : ℚ) * 2 ^ (-53 + 0 : Int) = n := by
    rw [Nat.shiftLeft_eq]
    push_cast
    norm_num
    ring
  obtain ⟨m, e, h, hnear⟩ := exists_rounded (t := -53 + 0) hshift (by decide)
  have hlog : 53 ≤ (n <<< 53 * 10 ^ 0).log2 := by
    rw [Nat.shiftLeft_eq, pow_zero, Nat.mul_one, log2_mul_two_pow hn]
    omega
  have hround : roundWithAccuracy Format.binary64 .positive (n <<< 53 * 10 ^ 0) (-53 + 0) .exact =
      .finite .positive m e h.pos := roundWithAccuracy_exact h .positive (by omega) hnear
  have hproduct : UnpackedFloat.ofScientific Format.binary64 n 0 = .finite .positive m e h.pos := by
    unfold UnpackedFloat.ofScientific
    rw [dif_neg hn.ne', hbits, if_neg (by decide), if_neg (by omega), if_pos (le_refl 0)]
    exact hround
  rw [hproduct]
  rw [hvalue] at hnear
  exact .finite .positive h hnear

/-- A whole number lies, as a number, on the same side of every number. -/
theorem value?_ofNat (n : Nat) : ∃ a, (ofFloat (Float.ofNat n)).value? = some a ∧
    ∀ c, IsRatio c → ((n : ℚ) ≤ c → a ≤ extended c) ∧ (c ≤ n → extended c ≤ a) := by
  rcases Nat.eq_zero_or_pos n with rfl | hn
  · have hzero : Float.ofNat 0 = 0.0 := by decide
    rw [hzero, Nat.cast_zero]
    exact ⟨extended 0, value?_zero, fun c _ => ⟨extended_le_iff.mpr, extended_le_iff.mpr⟩⟩
  by_cases hlt : n < 2 ^ 64
  · obtain ⟨m, e, hc, hnear⟩ := exists_near hn hlt
    refine ⟨extended (m * 2 ^ e), ?_, fun c hratio => ?_⟩
    · rw [ofNat_of_near hc hn hnear, value?_ofParts hc]
      rfl
    · obtain ⟨hle, hge⟩ := bounds_of_near hc.rounded hnear hratio
      rw [extended_le_iff, extended_le_iff]
      exact ⟨fun h => (hle h).2, hge⟩
  · have hmodel : Float.ofNat n =
        Float.ofModel (.pack (UnpackedFloat.ofScientific Format.binary64 n 0)) := by
      show Float.ofScientific n false 0 = _
      unfold Float.ofScientific
      rw [dif_neg (by omega)]
      rfl
    rw [hmodel]
    exact value?_pack (rounds_ofScientific hn)

/-- A whole number is greater than zero, however it is rounded. -/
theorem zero_lt_ofNat {n : Nat} (hn : 0 < n) : 0.0 < Float.ofNat n := by
  obtain ⟨a, ha, hbounds⟩ := value?_ofNat n
  have hone : ((1 : Nat) : ℚ) ≤ n := by exact_mod_cast hn
  rw [float_lt_iff value?_zero ha]
  exact (extended_lt_iff.mpr (by norm_num)).trans_le
    ((hbounds _ (isRatio_natCast (by decide))).2 hone)

theorem zero_lt_ofNat_iff {n : Nat} : 0.0 < Float.ofNat n ↔ 0 < n := by
  refine ⟨fun h => Nat.pos_of_ne_zero ?_, zero_lt_ofNat⟩
  rintro rfl
  exact absurd h (by decide)

end ExprLang.Binary
