import Mathlib.Order.Compare
import Mathlib.Order.WithBot
import ExprLang.Proofs.Number.WholeNumbers

/-!
# ExprLang.Proofs.Number.Order

Numbers in order.

A number stands for a rational number or an infinity (`Binary.value?`), and numbers compare as what
they stand for (`Binary.compares`).  The parts of two positive numbers are compared like words, the
exponents first, because the middle between a number and the next lies below the middle between any
greater number and the one before it (`Binary.high_le_low`).
-/

namespace ExprLang.Binary

open Float.Model Float.Model.UnpackedFloat

/-! ## Magnitudes -/

section Magnitudes

variable {m m' : Nat} {e e' : Int}

/-- What rounds to a number is below what rounds to a greater one. -/
theorem high_le_low (h : Rounded m e) (h' : Rounded m' e') (hlt : e < e' ∨ e = e' ∧ m < m') :
    high m e ≤ low m' e' := by
  have hgap := gapBelow_le m'
  unfold high low
  rcases hlt with hlt | ⟨rfl, hlt⟩
  · have hmin := h.le_exponent
    have hlong : 2 ^ 52 ≤ m' := not_lt.mp fun hshort => by
      have := h'.normal hshort
      omega
    have hm : (m : ℚ) + 1 ≤ 2 ^ 53 := by exact_mod_cast h.lt
    have hhalf : (2 : ℚ) ^ 52 - 1 / 4 ≤ m' - gapBelow m' := by
      by_cases heq : m' = 2 ^ 52
      · rw [heq, gapBelow, if_pos rfl]
        norm_num
      · have : (2 : ℚ) ^ 52 + 1 ≤ m' := by exact_mod_cast Nat.lt_of_le_of_ne hlong (Ne.symm heq)
        linarith
    have hpow : (2 : ℚ) * 2 ^ e ≤ 2 ^ e' := by
      rw [← zpow_one_add₀ (by norm_num)]
      exact zpow_le_zpow_right₀ (by norm_num) (by omega)
    calc (m + 1 / 2) * (2 : ℚ) ^ e ≤ (2 ^ 52 - 1 / 4) * (2 * 2 ^ e) := by
          rw [← mul_assoc]
          gcongr
          linarith
      _ ≤ (m' - gapBelow m') * 2 ^ e' := by gcongr
  · have hm : (m : ℚ) + 1 ≤ m' := by exact_mod_cast hlt
    gcongr
    linarith

theorem value_lt_iff (h : Rounded m e) (h' : Rounded m' e') :
    (m : ℚ) * 2 ^ e < m' * 2 ^ e' ↔ e < e' ∨ e = e' ∧ m < m' := by
  have hlt : ∀ {m m' : Nat} {e e' : Int}, Rounded m e → Rounded m' e' →
      e < e' ∨ e = e' ∧ m < m' → (m : ℚ) * 2 ^ e < m' * 2 ^ e' := fun h h' hlt =>
    ((lt_high _ _).trans_le (high_le_low h h' hlt)).trans (low_lt _ _)
  refine ⟨fun hvalue => ?_, hlt h h'⟩
  by_contra hnot
  have hge : (e' < e ∨ e' = e ∧ m' < m) ∨ e' = e ∧ m' = m := by omega
  rcases hge with hgt | ⟨rfl, rfl⟩
  · exact lt_asymm hvalue (hlt h' h hgt)
  · exact lt_irrefl _ hvalue

/-- A number has its parts only. -/
theorem value_injective (h : Rounded m e) (h' : Rounded m' e')
    (heq : (m : ℚ) * 2 ^ e = m' * 2 ^ e') : m = m' ∧ e = e' := by
  have hle := mt (value_lt_iff h h').mpr heq.not_lt
  have hge := mt (value_lt_iff h' h).mpr heq.not_gt
  omega

theorem compares_magnitudes (h : Rounded m e) (h' : Rounded m' e') :
    ((compare e e').then (compare m m')).Compares ((m : ℚ) * 2 ^ e) (m' * 2 ^ e') := by
  rcases lt_trichotomy e e' with he | rfl | he
  · rw [Int.compare_eq_lt.mpr he]
    exact (value_lt_iff h h').mpr (.inl he)
  · rw [Int.compare_eq_eq.mpr rfl]
    rcases lt_trichotomy m m' with hm | rfl | hm
    · rw [Nat.compare_eq_lt.mpr hm]
      exact (value_lt_iff h h').mpr (.inr ⟨rfl, hm⟩)
    · rw [Nat.compare_eq_eq.mpr rfl]
      rfl
    · rw [Nat.compare_eq_gt.mpr hm]
      exact (value_lt_iff h' h).mpr (.inr ⟨rfl, hm⟩)
  · rw [Int.compare_eq_gt.mpr he]
    exact (value_lt_iff h' h).mpr (.inl he)

end Magnitudes

/-! ## Values -/

/-- A rational number with a sign before it. -/
def signed (negative : Bool) (q : ℚ) : ℚ := if negative then -q else q

/-- A rational number among the infinities. -/
def extended (q : ℚ) : WithBot (WithTop ℚ) := (q : WithTop ℚ)

theorem extended_le_iff {q r : ℚ} : extended q ≤ extended r ↔ q ≤ r :=
  WithBot.coe_le_coe.trans WithTop.coe_le_coe

theorem extended_lt_iff {q r : ℚ} : extended q < extended r ↔ q < r :=
  WithBot.coe_lt_coe.trans WithTop.coe_lt_coe

/-- What a number stands for, if it is one: a rational number or an infinity. -/
def value? : Binary → Option (WithBot (WithTop ℚ))
  | nan => none
  | infinite negative => some (if negative then ⊥ else ⊤)
  | finite negative m e => some (extended (signed negative (m * 2 ^ e)))

theorem value?_ofParts {m : Nat} {e : Int} (h : Canonical m e) (negative : Bool) :
    (ofFloat (ofParts negative m e h.pos)).value? =
      some (extended (signed negative (m * 2 ^ e))) := by
  rw [ofFloat_eq, ofParts, unpack_pack h, ofUnpacked]
  cases negative <;> rfl

theorem abs_ofParts {m : Nat} {e : Int} (h : Canonical m e) (negative : Bool) :
    (ofParts negative m e h.pos).abs = ofParts false m e h.pos := by
  show Float.ofModel (.pack (UnpackedFloat.abs (Float.Model.unpack (.pack _)))) = _
  rw [unpack_pack h]
  rfl

/-- The parts of a number are those of a finite one, or there are none. -/
def IsCanonical : UnpackedFloat → Prop
  | .finite _ m e _ => Canonical m e
  | _ => True

theorem isCanonical_unpack (x : Float) : IsCanonical x.toModel.unpack := by
  cases hx : x.toModel.unpack with
  | finite s m e hm =>
    refine canonical_of_ofFloat (x := x) (s := s == .negative) ?_ hm
    rw [ofFloat_eq, hx, ofUnpacked]
  | _ => trivial

section Compare

variable {u v : UnpackedFloat} {q r : ℚ} {a b : WithBot (WithTop ℚ)}

/-- The rational number that a finite number stands for. -/
def ratio? : UnpackedFloat → Option ℚ
  | .zero _ => some 0
  | .finite s m e _ => some (signed (s == .negative) (m * 2 ^ e))
  | _ => none

theorem compares_swap {o : Ordering} (h : o.Compares q r) : o.swap.Compares (-q) (-r) := by
  cases o with
  | lt | gt => exact neg_lt_neg h
  | eq => exact congrArg _ h

theorem compares_ratio (hu : IsCanonical u) (hv : IsCanonical v) (hq : ratio? u = some q)
    (hr : ratio? v = some r) : ∃ o, u.compare v = some o ∧ o.Compares q r := by
  have hpos : ∀ {m : Nat} {e : Int}, 0 < m → (0 : ℚ) < m * 2 ^ e := fun hm => by positivity
  have hneg : ∀ {m : Nat} {e : Int}, 0 < m → -((m : ℚ) * 2 ^ e) < 0 := fun hm =>
    neg_lt_zero.mpr (hpos hm)
  rcases u with _ | _ | s | ⟨_ | _, m, e, hm⟩ <;> rcases v with _ | _ | s' | ⟨_ | _, m', e', hm'⟩ <;>
    cases hq <;> cases hr
  case zero.zero => exact ⟨.eq, rfl, rfl⟩
  case zero.finite.positive => exact ⟨.lt, rfl, hpos hm'⟩
  case zero.finite.negative => exact ⟨.gt, rfl, hneg hm'⟩
  case finite.positive.zero => exact ⟨.gt, rfl, hpos hm⟩
  case finite.negative.zero => exact ⟨.lt, rfl, hneg hm⟩
  case finite.positive.finite.negative => exact ⟨.gt, rfl, (hneg hm').trans (hpos hm)⟩
  case finite.negative.finite.positive => exact ⟨.lt, rfl, (hneg hm).trans (hpos hm')⟩
  case finite.positive.finite.positive =>
    exact ⟨_, rfl, compares_magnitudes (Canonical.rounded hu) (Canonical.rounded hv)⟩
  case finite.negative.finite.negative =>
    exact ⟨_, rfl, compares_swap (compares_magnitudes (Canonical.rounded hu) (Canonical.rounded hv))⟩

/-- What a number stands for is an infinity or a rational number. -/
theorem value?_cases (ha : (ofUnpacked u).value? = some a) :
    u = .infinity .negative ∧ a = ⊥ ∨ u = .infinity .positive ∧ a = ⊤ ∨
      ∃ q, ratio? u = some q ∧ a = extended q := by
  rcases u with ⟨_ | _⟩ | _ | s | ⟨s, m, e, hm⟩ <;> cases ha
  · exact .inl ⟨rfl, rfl⟩
  · exact .inr (.inl ⟨rfl, rfl⟩)
  · refine .inr (.inr ⟨0, rfl, ?_⟩)
    cases s <;> simp [signed]
  · exact .inr (.inr ⟨_, rfl, rfl⟩)

/-- Numbers compare as what they stand for. -/
theorem compares (hu : IsCanonical u) (hv : IsCanonical v) (ha : (ofUnpacked u).value? = some a)
    (hb : (ofUnpacked v).value? = some b) : ∃ o, u.compare v = some o ∧ o.Compares a b := by
  have hfinite : ∀ {u : UnpackedFloat} {q : ℚ}, ratio? u = some q →
      u.compare (.infinity .positive) = some .lt ∧ u.compare (.infinity .negative) = some .gt ∧
        (UnpackedFloat.infinity .positive).compare u = some .gt ∧
        (UnpackedFloat.infinity .negative).compare u = some .lt := by
    intro u q hq
    rcases u with _ | _ | s | ⟨_ | _, m, e, hm⟩ <;> cases hq <;> exact ⟨rfl, rfl, rfl, rfl⟩
  have hbot : ∀ q, ⊥ < extended q := fun q => WithBot.bot_lt_coe _
  have htop : ∀ q, extended q < ⊤ := fun q =>
    WithBot.coe_lt_coe.mpr (WithTop.coe_lt_top q)
  rcases value?_cases ha with ⟨rfl, rfl⟩ | ⟨rfl, rfl⟩ | ⟨q, hq, rfl⟩ <;>
    rcases value?_cases hb with ⟨rfl, rfl⟩ | ⟨rfl, rfl⟩ | ⟨r, hr, rfl⟩
  · exact ⟨.eq, rfl, rfl⟩
  · exact ⟨.lt, rfl, bot_lt_top⟩
  · exact ⟨.lt, (hfinite hr).2.2.2, hbot r⟩
  · exact ⟨.gt, rfl, bot_lt_top⟩
  · exact ⟨.eq, rfl, rfl⟩
  · exact ⟨.gt, (hfinite hr).2.2.1, htop r⟩
  · exact ⟨.gt, (hfinite hq).2.1, hbot q⟩
  · exact ⟨.lt, (hfinite hq).1, htop q⟩
  · obtain ⟨o, ho, hcompares⟩ := compares_ratio hu hv hq hr
    refine ⟨o, ho, ?_⟩
    cases o with
    | lt | gt => exact extended_lt_iff.mpr hcompares
    | eq => exact congrArg extended hcompares

end Compare

section Floats

variable {x y : Float} {a b : WithBot (WithTop ℚ)}

theorem compares_unpack (hx : (ofFloat x).value? = some a) (hy : (ofFloat y).value? = some b) :
    ∃ o, x.toModel.unpack.compare y.toModel.unpack = some o ∧ o.Compares a b := by
  rw [ofFloat_eq] at hx hy
  exact compares (isCanonical_unpack x) (isCanonical_unpack y) hx hy

theorem float_lt_iff (hx : (ofFloat x).value? = some a) (hy : (ofFloat y).value? = some b) :
    x < y ↔ a < b := by
  obtain ⟨o, ho, hcompares⟩ := compares_unpack hx hy
  have hlt : x < y ↔ (x.toModel.unpack.compare y.toModel.unpack == some .lt) = true :=
    decide_eq_true_iff (p := x.toModel < y.toModel)
  rw [hlt, ho, beq_iff_eq, Option.some.injEq, hcompares.eq_lt]

theorem float_le_iff (hx : (ofFloat x).value? = some a) (hy : (ofFloat y).value? = some b) :
    x ≤ y ↔ a ≤ b := by
  obtain ⟨o, ho, hcompares⟩ := compares_unpack hx hy
  have hle : x ≤ y ↔ (x.toModel.unpack.compare y.toModel.unpack).any (·.isLE) = true :=
    decide_eq_true_iff (p := x.toModel ≤ y.toModel)
  rw [hle, ho, ← not_lt, ← hcompares.eq_gt]
  cases o <;> decide

theorem float_eq_iff (hx : (ofFloat x).value? = some a) (hy : (ofFloat y).value? = some b) :
    (x == y) = true ↔ a = b := by
  obtain ⟨o, ho, hcompares⟩ := compares_unpack hx hy
  have heq : (x == y) = true ↔ (x.toModel.unpack.compare y.toModel.unpack == some .eq) = true :=
    Iff.rfl
  rw [heq, ho, beq_iff_eq, Option.some.injEq, hcompares.eq_eq]

theorem isNaN_iff : x.isNaN = true ↔ ofFloat x = .nan := by
  rw [ofFloat_eq]
  show x.toModel.unpack.isNaN = true ↔ _
  cases x.toModel.unpack <;> simp [ofUnpacked, UnpackedFloat.isNaN]

theorem eq_nan_of_value? (hx : (ofFloat x).value? = none) : ofFloat x = .nan := by
  cases h : ofFloat x with
  | nan => rfl
  | infinite | finite =>
    rw [h] at hx
    cases hx

theorem isNaN_of_value? (hx : (ofFloat x).value? = some a) : x.isNaN = false := by
  rw [← Bool.not_eq_true, isNaN_iff]
  intro hnan
  rw [hnan] at hx
  cases hx

end Floats

end ExprLang.Binary
