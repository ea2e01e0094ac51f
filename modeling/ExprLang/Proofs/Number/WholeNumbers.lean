import ExprLang.Proofs.Number.ReadBack

/-!
# ExprLang.Proofs.Number.WholeNumbers

Arithmetic on whole numbers.

A whole number of at most 53 significant bits is a number (`IsShort`), any other one is rounded to
the nearest (`exists_near`).  Sums and products of short numbers are exact before they are rounded,
so they are the numbers of the exact results (`ofNat_add`, `ofNat_mul`).  Whatever is rounded on the
way, sums and products of numbers without a sign are numbers without a sign (`isMagnitude`).
-/

namespace ExprLang.Binary

open Float.Model Float.Model.UnpackedFloat

variable {m : Nat} {e : Int}

/-! ## Rounding whole numbers -/

/-- A whole number of at most 53 significant bits. -/
def IsShort (n : Nat) : Prop := ∃ a k, a < 2 ^ 53 ∧ n = a * 2 ^ k

theorem isShort_of_lt {n : Nat} (hn : n < 2 ^ 53) : IsShort n := ⟨n, 0, hn, (Nat.mul_one n).symm⟩

theorem IsShort.mul_two_pow {n : Nat} (hn : IsShort n) (k : Nat) : IsShort (n * 2 ^ k) := by
  obtain ⟨a, j, ha, rfl⟩ := hn
  exact ⟨a, j + k, ha, by rw [pow_add, Nat.mul_assoc]⟩

/-- Dropping the last bits leaves a short number short. -/
theorem IsShort.div_two_pow {n : Nat} (hn : IsShort n) (k : Nat) : IsShort (n / 2 ^ k) := by
  obtain ⟨a, j, ha, rfl⟩ := hn
  rcases Nat.le_total k j with h | h
  · obtain ⟨i, rfl⟩ := Nat.exists_eq_add_of_le h
    refine ⟨a, i, ha, ?_⟩
    rw [pow_add, Nat.mul_left_comm, Nat.mul_div_cancel_left _ (Nat.two_pow_pos k)]
  · obtain ⟨i, rfl⟩ := Nat.exists_eq_add_of_le h
    rw [pow_add, Nat.mul_comm, Nat.mul_div_mul_left _ _ (Nat.two_pow_pos j)]
    exact isShort_of_lt (Nat.lt_of_le_of_lt (Nat.div_le_self a _) ha)

/-- A short number is the number with its parts. -/
theorem IsShort.exists_canonical {n : Nat} (h : IsShort n) (hn : 0 < n) (hlt : n < 2 ^ 64) :
    ∃ m e, Canonical m e ∧ 2 ^ 52 ≤ m ∧ (m : ℚ) * 2 ^ e = n := by
  obtain ⟨a, k, ha, rfl⟩ := h
  have ha₀ : 0 < a := Nat.pos_of_mul_pos_right hn
  obtain ⟨m, e, hc, -, hlow, hvalue⟩ := ofNat_eq ha₀ ha
  have hk : k < 64 := by
    rw [← Nat.pow_lt_pow_iff_right (a := 2) (by decide)]
    exact Nat.lt_of_le_of_lt (Nat.le_mul_of_pos_left _ ha₀) hlt
  have he : e < 1 := by
    have hm : (2 : ℚ) ^ 52 ≤ m := by exact_mod_cast hlow
    have ha' : (a : ℚ) < 2 ^ 53 := by exact_mod_cast ha
    rw [← hvalue] at ha'
    have hpow : (2 : ℚ) ^ e < 2 ^ (1 : Int) := by
      have hpos : (0 : ℚ) < 2 ^ e := by positivity
      rw [zpow_one]
      nlinarith
    exact (zpow_lt_zpow_iff_right₀ (by norm_num)).mp hpow
  have hmin := hc.le_exponent
  refine ⟨m, e + k, ⟨hc.pos, hc.lt, by omega, by omega, fun h => absurd h (not_lt.mpr hlow)⟩, hlow,
    ?_⟩
  rw [zpow_add₀ (by norm_num), zpow_natCast, ← mul_assoc, hvalue]
  push_cast
  rfl

theorem near_of_le {x : ℚ} (hlow : m * 2 ^ e ≤ x) (hhigh : x ≤ high m e)
    (hodd : m % 2 = 1 → x < high m e) : Near m e x :=
  ⟨(low_lt m e).le.trans hlow, hhigh, fun h => ⟨(low_lt m e).trans_le hlow, hodd h⟩⟩

theorem near_of_ge {x : ℚ} (hhigh : x ≤ m * 2 ^ e) (hlow : low m e ≤ x)
    (hodd : m % 2 = 1 → low m e < x) : Near m e x :=
  ⟨hlow, hhigh.trans (lt_high m e).le, fun h => ⟨hodd h, hhigh.trans_lt (lt_high m e)⟩⟩

theorem Near.mul_two_zpow {x : ℚ} (h : Near m e x) (t : Int) : Near m (e + t) (x * 2 ^ t) := by
  have hpos : (0 : ℚ) < 2 ^ t := by positivity
  have hlow : low m (e + t) = low m e * 2 ^ t := by
    rw [low, low, zpow_add₀ (by norm_num), mul_assoc]
  have hhigh : high m (e + t) = high m e * 2 ^ t := by
    rw [high, high, zpow_add₀ (by norm_num), mul_assoc]
  refine ⟨?_, ?_, fun hodd => ?_⟩
  · rw [hlow]
    exact mul_le_mul_of_nonneg_right h.low_le hpos.le
  · rw [hhigh]
    exact mul_le_mul_of_nonneg_right h.le_high hpos.le
  · rw [hlow, hhigh]
    exact ⟨mul_lt_mul_of_pos_right (h.strict hodd).1 hpos,
      mul_lt_mul_of_pos_right (h.strict hodd).2 hpos⟩

/-- A whole number of more than 53 bits is rounded to one of 53. -/
theorem exists_near_of_ge {n : Nat} (hlong : 2 ^ 53 ≤ n) :
    ∃ m, ∃ k : Nat, 2 ^ 52 ≤ m ∧ m < 2 ^ 53 ∧ Near m k n := by
  obtain ⟨k, hk⟩ : ∃ k, n.log2 = 52 + k :=
    Nat.exists_eq_add_of_le ((Nat.le_log2 (by omega)).mpr (by omega))
  have hlog : 2 ^ 52 * 2 ^ k ≤ n := by
    rw [← pow_add, ← hk]
    exact Nat.log2_self_le (by omega)
  have hlog' : n < 2 ^ 53 * 2 ^ k := by
    rw [← pow_add, show 53 + k = n.log2 + 1 by omega]
    exact Nat.lt_log2_self
  have hpos := Nat.two_pow_pos k
  have hq : 2 ^ 52 ≤ n / 2 ^ k := (Nat.le_div_iff_mul_le hpos).mpr hlog
  have hq' : n / 2 ^ k < 2 ^ 53 := (Nat.div_lt_iff_lt_mul hpos).mpr hlog'
  have hsplit : (n : ℚ) = (n / 2 ^ k : Nat) * 2 ^ k + (n % 2 ^ k : Nat) := by
    exact_mod_cast (Nat.div_add_mod' n (2 ^ k)).symm
  have hrest : ((n % 2 ^ k : Nat) : ℚ) < 2 ^ k := by exact_mod_cast Nat.mod_lt n hpos
  have hrest' : (0 : ℚ) ≤ (n % 2 ^ k : Nat) := Nat.cast_nonneg _
  have hhalf : 2 * (n % 2 ^ k) ≤ 2 ^ k ↔ ((n % 2 ^ k : Nat) : ℚ) ≤ 1 / 2 * 2 ^ k := by
    rw [← Nat.cast_le (α := ℚ)]
    push_cast
    constructor <;> intro h <;> linarith
  have hhalf' : 2 * (n % 2 ^ k) < 2 ^ k ↔ ((n % 2 ^ k : Nat) : ℚ) < 1 / 2 * 2 ^ k := by
    rw [← Nat.cast_lt (α := ℚ)]
    push_cast
    constructor <;> intro h <;> linarith
  generalize n / 2 ^ k = q at hq hq' hsplit
  generalize n % 2 ^ k = r at hsplit hrest hrest' hhalf hhalf'
  by_cases hdown : 2 * r < 2 ^ k ∨ 2 * r = 2 ^ k ∧ q % 2 = 0
  · refine ⟨q, k, hq, hq', ?_⟩
    rw [hsplit]
    refine near_of_le ?_ ?_ fun hodd => ?_
    · rw [zpow_natCast]
      linarith
    · rw [high, zpow_natCast]
      have := hhalf.mp (by omega)
      linarith
    · rw [high, zpow_natCast]
      have := hhalf'.mp (by omega)
      linarith
  · have hup := mt hhalf'.mpr (by omega)
    have hup' : q % 2 = 0 → ¬ (r : ℚ) ≤ 1 / 2 * 2 ^ k := fun h => mt hhalf.mpr (by omega)
    rw [not_lt] at hup
    by_cases hcarry : q + 1 = 2 ^ 53
    · -- the next number is a power of two, with another exponent
      refine ⟨2 ^ 52, k + 1, le_refl _, by decide, ?_⟩
      have hpow : (2 : ℚ) ^ ((k + 1 : Nat) : Int) = 2 * 2 ^ k := by
        rw [zpow_natCast, pow_succ, mul_comm]
      have hq₁ : (q : ℚ) = 2 ^ 53 - 1 := by
        rw [eq_sub_iff_add_eq]
        exact_mod_cast hcarry
      rw [hsplit, hq₁]
      refine near_of_ge ?_ ?_ fun hodd => absurd hodd (by decide)
      · rw [hpow]
        push_cast
        linarith
      · rw [low, gapBelow, if_pos rfl, hpow]
        push_cast
        linarith
    · refine ⟨q + 1, k, by omega, by omega, ?_⟩
      rw [hsplit]
      refine near_of_ge ?_ ?_ fun hodd => ?_
      · rw [zpow_natCast]
        push_cast
        linarith
      · rw [low, gapBelow, if_neg (by omega), zpow_natCast]
        push_cast
        linarith
      · rw [low, gapBelow, if_neg (by omega), zpow_natCast]
        have := hup' (by omega)
        push_cast
        linarith

/-- A whole number of at most 53 bits times a power of two is exact. -/
theorem exists_rounded_of_lt {n : Nat} (hn : 0 < n) (hshort : n < 2 ^ 53) {t : Int}
    (ht : -1074 ≤ t) : ∃ m e, Rounded m e ∧ (m : ℚ) * 2 ^ e = n * 2 ^ t := by
  have hlog : n.log2 ≤ 52 := Nat.lt_succ_iff.mp ((Nat.log2_lt hn.ne').mpr hshort)
  generalize hk : min (52 - n.log2) (t + 1074).toNat = k
  have hlower : 2 ^ (n.log2 + k) ≤ n * 2 ^ k := by
    rw [pow_add]
    exact Nat.mul_le_mul_right _ (Nat.log2_self_le hn.ne')
  have hupper : n * 2 ^ k < 2 ^ (n.log2 + 1 + k) := by
    rw [pow_add]
    exact Nat.mul_lt_mul_of_pos_right Nat.lt_log2_self (Nat.two_pow_pos k)
  refine ⟨n * 2 ^ k, t - k, ⟨Nat.mul_pos hn (Nat.two_pow_pos k), ?_, by omega, fun hlt => ?_⟩, ?_⟩
  · exact hupper.trans_le (Nat.pow_le_pow_right (by decide) (by omega))
  · have := (Nat.pow_lt_pow_iff_right (by decide)).mp (hlower.trans_lt hlt)
    omega
  · rw [zpow_sub₀ (by norm_num), zpow_natCast]
    push_cast
    field_simp

/-- A whole number times a power of two is rounded to something, which may be too great to be a
number. -/
theorem exists_rounded {n : Nat} (hn : 0 < n) {t : Int} (ht : -1074 ≤ t) :
    ∃ m e, Rounded m e ∧ Near m e (n * 2 ^ t) := by
  rcases Nat.lt_or_ge n (2 ^ 53) with hshort | hlong
  · obtain ⟨m, e, h, hvalue⟩ := exists_rounded_of_lt hn hshort ht
    exact ⟨m, e, h, hvalue ▸ near_self m e⟩
  · obtain ⟨m, k, hlow, hhigh, hnear⟩ := exists_near_of_ge hlong
    exact ⟨m, k + t, ⟨by omega, hhigh, by omega, fun h => absurd h (not_lt.mpr hlow)⟩,
      hnear.mul_two_zpow t⟩

/-- Every whole number of 64 bits is rounded to some number. -/
theorem exists_near {n : Nat} (hn : 0 < n) (hlt : n < 2 ^ 64) :
    ∃ m e, Canonical m e ∧ Near m e n := by
  obtain ⟨m, e, h, hnear⟩ := exists_rounded (t := 0) hn (by decide)
  rw [zpow_zero, mul_one] at hnear
  have hm : (1 : ℚ) ≤ m := by exact_mod_cast h.pos
  have hgap := gapBelow_le m
  have hpow : (2 : ℚ) ^ (-1 + e) < 2 ^ (64 : Int) :=
    calc (2 : ℚ) ^ (-1 + e) = (1 - 1 / 2) * 2 ^ e := by
          rw [zpow_add₀ (by norm_num)]
          norm_num
      _ ≤ (m - gapBelow m) * 2 ^ e := by gcongr
      _ ≤ n := hnear.low_le
      _ < 2 ^ (64 : Int) := by exact_mod_cast hlt
  have he := (zpow_lt_zpow_iff_right₀ (by norm_num)).mp hpow
  exact ⟨m, e, ⟨h.pos, h.lt, h.le_exponent, by omega, h.normal⟩, hnear⟩

/-! ## Sums and products -/

variable {m₁ m₂ : Nat} {e₁ e₂ : Int} {h₁ : 0 < m₁} {h₂ : 0 < m₂}

theorem log2_mul_two_pow {n : Nat} (hn : 0 < n) (k : Nat) : (n * 2 ^ k).log2 = n.log2 + k := by
  have hpos := Nat.two_pow_pos k
  rw [Nat.log2_eq_iff (Nat.mul_pos hn hpos).ne']
  refine ⟨?_, ?_⟩
  · rw [pow_add]
    exact Nat.mul_le_mul_right _ (Nat.log2_self_le hn.ne')
  · rw [Nat.add_right_comm, pow_add]
    exact Nat.mul_lt_mul_of_pos_right Nat.lt_log2_self hpos

/-- A whole number times a power of two is rounded to the nearest number. -/
theorem round_eq (h : Rounded m e) (s : Sign) {n : Nat} (hn : 0 < n) {t : Int}
    (hx : Near m e (n * 2 ^ t)) :
    UnpackedFloat.round Format.binary64 s n t = .finite s m e h.pos := by
  simp only [UnpackedFloat.round, decreaseExponent, targetExponent_eq, Nat.shiftLeft_eq]
  generalize hk : (t - max (n.log2 + t - 52) (-1074)).toNat = k
  refine roundWithAccuracy_exact h s ?_ ?_
  · rw [log2_mul_two_pow hn]
    omega
  · convert hx using 1
    rw [zpow_sub₀ (by norm_num), zpow_natCast]
    push_cast
    field_simp

theorem normalize_eq (h : Rounded m e) {n : Nat} (hn : 0 < n) {t : Int} (s : Sign)
    (hx : Near m e (n * 2 ^ t)) :
    UnpackedFloat.normalize Format.binary64 n t s = .finite .positive m e h.pos := by
  have hcompare : compare (n : Int) 0 = .gt := Int.compare_eq_gt.mpr (by omega)
  rw [UnpackedFloat.normalize, hcompare]
  exact round_eq h .positive hn hx

theorem add_of_unpack {x y : Float} (h : Canonical m e)
    (hx : x.toModel.unpack = .finite .positive m₁ e₁ h₁)
    (hy : y.toModel.unpack = .finite .positive m₂ e₂ h₂)
    (hnear : Near m e (m₁ * 2 ^ e₁ + m₂ * 2 ^ e₂)) : x + y = ofParts false m e h.pos := by
  have hadd : UnpackedFloat.add Format.binary64 (.finite .positive m₁ e₁ h₁)
      (.finite .positive m₂ e₂ h₂) = .finite .positive m e h.pos := by
    simp only [UnpackedFloat.add, decreaseExponent, Sign.apply, Nat.shiftLeft_eq]
    generalize hk₁ : (e₁ - min e₁ e₂).toNat = k₁
    generalize hk₂ : (e₂ - min e₁ e₂).toNat = k₂
    rw [← Nat.cast_add]
    refine normalize_eq h.rounded (Nat.add_pos_left (Nat.mul_pos h₁ (Nat.two_pow_pos k₁)) _)
      .positive ?_
    convert hnear using 1
    have hscale : ∀ {j : Int} {k : Nat}, (j - min e₁ e₂).toNat = k → min e₁ e₂ ≤ j →
        (2 : ℚ) ^ k * 2 ^ min e₁ e₂ = 2 ^ j := by
      intro j k hk hle
      rw [← zpow_natCast, ← zpow_add₀ (by norm_num)]
      congr 1
      omega
    push_cast
    rw [add_mul, mul_assoc, mul_assoc, hscale hk₁ (min_le_left _ _), hscale hk₂ (min_le_right _ _)]
  show Float.ofModel (.pack (UnpackedFloat.add Format.binary64 _ _)) = _
  rw [hx, hy, hadd]
  rfl

/-- A whole number is the number that it is rounded to. -/
theorem ofNat_of_near (h : Canonical m e) {n : Nat} (hn : 0 < n) (hx : Near m e n) :
    Float.ofNat n = ofParts false m e h.pos := by
  have hscaled : Near m e (n * 10 ^ (if false = true then -((0 : Nat) : Int) else (0 : Nat))) := by
    simpa using hx
  exact ofScientific_eq h hn (by decide) hscaled

theorem unpack_ofParts (h : Canonical m e) :
    (ofParts false m e h.pos).toModel.unpack = .finite .positive m e h.pos :=
  unpack_pack h .positive

/-- What a short number is made of. -/
theorem IsShort.unpack {n : Nat} (h : IsShort n) (hn : 0 < n) (hlt : n < 2 ^ 64) :
    ∃ m e, ∃ hm : 0 < m, (Float.ofNat n).toModel.unpack = .finite .positive m e hm ∧
      2 ^ 52 ≤ m ∧ (m : ℚ) * 2 ^ e = n := by
  obtain ⟨m, e, hc, hlow, hvalue⟩ := h.exists_canonical hn hlt
  refine ⟨m, e, hc.pos, ?_, hlow, hvalue⟩
  rw [ofNat_of_near hc hn (hvalue ▸ near_self m e), unpack_ofParts hc]

/-- The sum of short numbers is the number of their sum. -/
theorem ofNat_add {a b : Nat} (ha : IsShort a) (hb : IsShort b) (ha₀ : 0 < a) (hb₀ : 0 < b)
    (hlt : a + b < 2 ^ 64) : Float.ofNat a + Float.ofNat b = Float.ofNat (a + b) := by
  obtain ⟨m₁, e₁, h₁, hx, -, hvalue₁⟩ := ha.unpack ha₀ (by omega)
  obtain ⟨m₂, e₂, h₂, hy, -, hvalue₂⟩ := hb.unpack hb₀ (by omega)
  obtain ⟨m, e, hc, hnear⟩ := exists_near (Nat.add_pos_left ha₀ b) hlt
  rw [ofNat_of_near hc (Nat.add_pos_left ha₀ b) hnear]
  refine add_of_unpack hc hx hy ?_
  rw [hvalue₁, hvalue₂]
  exact_mod_cast hnear

/-- The product of short numbers is the number of their product. -/
theorem ofNat_mul {a b : Nat} (ha : IsShort a) (hb : IsShort b) (ha₀ : 0 < a) (hb₀ : 0 < b)
    (hlt : a * b < 2 ^ 64) : Float.ofNat a * Float.ofNat b = Float.ofNat (a * b) := by
  have hle : a ≤ a * b := Nat.le_mul_of_pos_right a hb₀
  have hle' : b ≤ a * b := Nat.le_mul_of_pos_left b ha₀
  obtain ⟨m₁, e₁, h₁, hx, hlow, hvalue₁⟩ := ha.unpack ha₀ (by omega)
  obtain ⟨m₂, e₂, h₂, hy, -, hvalue₂⟩ := hb.unpack hb₀ (by omega)
  obtain ⟨m, e, hc, hnear⟩ := exists_near (Nat.mul_pos ha₀ hb₀) hlt
  rw [ofNat_of_near hc (Nat.mul_pos ha₀ hb₀) hnear]
  refine mul_of_unpack hc hx hy (hlow.trans (Nat.le_mul_of_pos_right _ h₂)) ?_
  rw [hvalue₁, hvalue₂]
  exact_mod_cast hnear

/-! ## One -/

/-- Nothing changes by multiplying with one. -/
theorem float_mul_one (x : Float) : x * 1.0 = x := by
  have hone : (1.0 : Float).toModel.unpack = .finite .positive (2 ^ 52) (-52) (by decide) := by
    have hc : Canonical (2 ^ 52) (-52) :=
      ⟨by decide, by decide, by decide, by decide, fun h => absurd h (by decide)⟩
    have heq : (1.0 : Float) = ofParts false (2 ^ 52) (-52) (by decide) := by decide
    rw [heq]
    exact unpack_ofParts hc
  cases h : ofFloat x with
  | nan =>
    obtain rfl := eq_of_ofFloat_eq_nan h
    decide
  | infinite negative =>
    obtain rfl := eq_of_ofFloat_eq_infinite h
    cases negative <;> decide
  | finite negative m e =>
    rcases Nat.eq_zero_or_pos m with rfl | hm
    · obtain rfl := eq_of_ofFloat_eq_zero h
      cases negative <;> decide
    · have hc := canonical_of_ofFloat h hm
      obtain rfl := eq_ofParts_of_ofFloat h hm
      have hmul : ∀ s : Sign, UnpackedFloat.mul Format.binary64 (.finite s m e hm)
          (.finite .positive (2 ^ 52) (-52) (by decide)) = .finite s m e hm := by
        intro s
        have hs : s * .positive = s := by cases s <;> rfl
        have hvalue : ((m * 2 ^ 52 : Nat) : ℚ) * 2 ^ (e + -52 : Int) = m * 2 ^ e := by
          rw [zpow_add₀ (by norm_num)]
          push_cast
          norm_num
          ring
        simp only [UnpackedFloat.mul, hs]
        refine roundWithAccuracy_exact hc.rounded s ?_ ?_
        · rw [log2_mul_two_pow hm]
          omega
        · rw [hvalue]
          exact near_self m e
      show Float.ofModel (.pack (UnpackedFloat.mul Format.binary64 _ _)) = _
      rw [hone]
      unfold ofParts
      dsimp only
      rw [unpack_pack hc, hmul]

/-! ## Numbers without a sign -/

/-- Whether a number has a positive sign, and is one. -/
def isMagnitude : UnpackedFloat → Bool
  | .notANumber => false
  | .infinity s | .zero s | .finite s _ _ _ => s == .positive

variable {u v : UnpackedFloat}

/-- It stays one when it is put into bits, where it may become infinite. -/
theorem isMagnitude_unpack_pack (hu : isMagnitude u = true) :
    isMagnitude (Float.Model.pack u).unpack = true := by
  have hparts : ∀ (b : BitVec 11) (f : BitVec 52), b ≠ -1#11 →
      isMagnitude (UnpackedFloat.unpack Format.binary64
        (packComponents Format.binary64 .positive b f)) = true := by
    intro b f hb
    have hsign : Sign.ofBitVec Sign.positive.toBitVec = .positive := rfl
    unfold UnpackedFloat.unpack
    simp only [unpackExponent_packComponents, unpackMantissa_packComponents,
      unpackSign_packComponents, hsign, if_neg hb]
    split
    · split <;> rfl
    · rfl
  show isMagnitude (UnpackedFloat.unpack Format.binary64
    (UnpackedFloat.pack Format.binary64 u)) = true
  cases u with
  | notANumber => cases hu
  | infinity s | zero s =>
    obtain rfl : s = .positive := eq_of_beq hu
    decide
  | finite s m e hm =>
    obtain rfl : s = .positive := eq_of_beq hu
    unfold UnpackedFloat.pack
    dsimp only
    split
    · decide
    · next hsmall =>
      split
      · refine hparts _ _ fun h => hsmall ?_
        have hnat := congrArg BitVec.toNat h
        rw [BitVec.toNat_ofNat] at hnat
        have hle := Nat.mod_le (e + Format.binary64.exponentBias +
          Format.binary64.mantissaBitsWithoutImplicit).toNat (2 ^ Format.binary64.exponentBits)
        rw [hnat] at hle
        exact Nat.succ_le_succ hle
      · exact hparts _ _ (by decide)

theorem isMagnitude_round (n : Nat) (t : Int) (a : Accuracy) :
    isMagnitude (roundWithAccuracy Format.binary64 .positive n t a) = true := by
  unfold roundWithAccuracy
  dsimp only
  split <;> rfl

theorem isMagnitude_mul (hu : isMagnitude u = true) {m : Nat} {e : Int} {hm : 0 < m} :
    isMagnitude (UnpackedFloat.mul Format.binary64 u (.finite .positive m e hm)) = true := by
  cases u with
  | notANumber => cases hu
  | infinity s | zero s =>
    obtain rfl : s = .positive := eq_of_beq hu
    rfl
  | finite s m e hm =>
    obtain rfl : s = .positive := eq_of_beq hu
    exact isMagnitude_round _ _ _

theorem isMagnitude_add (hu : isMagnitude u = true) (hv : isMagnitude v = true) :
    isMagnitude (UnpackedFloat.add Format.binary64 u v) = true := by
  cases u with
  | notANumber => cases hu
  | infinity s =>
    obtain rfl : s = .positive := eq_of_beq hu
    cases v with
    | notANumber => cases hv
    | infinity s | zero s | finite s m e hm =>
      obtain rfl : s = .positive := eq_of_beq hv
      rfl
  | zero s =>
    obtain rfl : s = .positive := eq_of_beq hu
    cases v with
    | notANumber => cases hv
    | infinity s | zero s | finite s m e hm =>
      obtain rfl : s = .positive := eq_of_beq hv
      rfl
  | finite s m e hm =>
    obtain rfl : s = .positive := eq_of_beq hu
    cases v with
    | notANumber => cases hv
    | infinity s | zero s =>
      obtain rfl : s = .positive := eq_of_beq hv
      rfl
    | finite s m' e' hm' =>
      obtain rfl : s = .positive := eq_of_beq hv
      simp only [UnpackedFloat.add, decreaseExponent, Sign.apply]
      rw [← Nat.cast_add, UnpackedFloat.normalize]
      generalize m <<< _ + m' <<< _ = n
      cases n with
      | zero => rfl
      | succ n => exact isMagnitude_round _ _ _

end ExprLang.Binary
