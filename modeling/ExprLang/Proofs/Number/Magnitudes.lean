import ExprLang.Proofs.Number.Order
import ExprLang.Proofs.Number.Radix
import ExprLang.Proofs.Number.ReadBack

/-!
# ExprLang.Proofs.Number.Magnitudes

A decimal without a sign denotes a number without a sign: the quotient of two such numbers is one,
and so is what a decimal is rounded to, in whatever way it is computed.  So nothing that is read as
a decimal is not a number, and neither is its negative.
-/

namespace ExprLang

namespace Binary

open Float.Model Float.Model.UnpackedFloat

theorem isMagnitude_div {u : UnpackedFloat} (hu : isMagnitude u = true) {m : Nat} {e : Int}
    {hm : 0 < m} :
    isMagnitude (UnpackedFloat.div Format.binary64 u (.finite .positive m e hm)) = true := by
  cases u with
  | notANumber => cases hu
  | infinity s | zero s =>
    obtain rfl : s = .positive := eq_of_beq hu
    rfl
  | finite s m e hm =>
    obtain rfl : s = .positive := eq_of_beq hu
    exact isMagnitude_round _ _ _

theorem isMagnitude_ofNat (n : Nat) :
    isMagnitude (UnpackedFloat.ofNat Format.binary64 n) = true := by
  cases n with
  | zero => rfl
  | succ n => exact isMagnitude_round _ _ _

theorem isMagnitude_unpackedOfScientific (n : Nat) (p : Int) :
    isMagnitude (UnpackedFloat.ofScientific Format.binary64 n p) = true := by
  unfold UnpackedFloat.ofScientific
  split
  · rfl
  · split
    · rfl
    · split
      · rfl
      · split
        · exact isMagnitude_mul rfl
        · exact isMagnitude_div rfl

theorem isMagnitude_ofScientific (n : Nat) (negative : Bool) (k : Nat) :
    isMagnitude (Float.ofScientific n negative k).toModel.unpack = true := by
  unfold Float.ofScientific
  split
  · next hfast =>
    have hlt : k < Float.exactlyRepresentablePowersOfTen.size := Nat.lt_succ_of_le hfast.2
    have hten := unpack_powersOfTen hfast.2 hlt
    have hnat : isMagnitude n.toUInt64.toFloat.toModel.unpack = true :=
      isMagnitude_unpack_pack (isMagnitude_ofNat _)
    have hmul : isMagnitude (n.toUInt64.toFloat *
        Float.exactlyRepresentablePowersOfTen[k]).toModel.unpack = true := by
      refine isMagnitude_unpack_pack ?_
      rw [hten]
      exact isMagnitude_mul hnat
    have hdiv : isMagnitude (n.toUInt64.toFloat /
        Float.exactlyRepresentablePowersOfTen[k]).toModel.unpack = true := by
      refine isMagnitude_unpack_pack ?_
      rw [hten]
      exact isMagnitude_div hnat
    cases negative with
    | true => exact hdiv
    | false => exact hmul
  · exact isMagnitude_unpack_pack (isMagnitude_unpackedOfScientific _ _)

/-- What is not a number is not made one by a sign, and what is one stays one. -/
theorem isNaN_neg (x : Float) : (-x).isNaN = x.isNaN := by
  have hcanonical := isCanonical_unpack x
  show (Float.Model.pack x.toModel.unpack.neg).unpack.isNaN = x.toModel.unpack.isNaN
  cases hx : x.toModel.unpack with
  | notANumber => decide
  | infinity s | zero s => cases s <;> decide
  | finite s m e hm =>
    rw [hx] at hcanonical
    rw [UnpackedFloat.neg, unpack_pack hcanonical]
    rfl

theorem isNaN_of_isMagnitude {x : Float} (hx : isMagnitude x.toModel.unpack = true) :
    x.isNaN = false := by
  show x.toModel.unpack.isNaN = false
  cases h : x.toModel.unpack with
  | notANumber =>
    rw [h] at hx
    cases hx
  | _ => rfl

end Binary

open Binary

theorem isMagnitude_nearestDecimal (digits : List Char) (exponent : Int) :
    isMagnitude (nearestDecimal digits exponent).toModel.unpack = true := by
  have hzero : isMagnitude (0.0 : Float).toModel.unpack = true := by decide
  have hinfinite : isMagnitude (1.0 / 0.0 : Float).toModel.unpack = true := by decide
  unfold nearestDecimal
  dsimp only
  split
  · exact hzero
  · split
    · exact hinfinite
    · split
      · exact hzero
      · split
        · exact isMagnitude_ofScientific _ _ _
        · exact isMagnitude_ofScientific _ _ _

/-- A decimal denotes a number without a sign. -/
theorem isMagnitude_readDecimal {w : List Char} {y : Float} (h : readDecimal w = some y) :
    isMagnitude y.toModel.unpack = true := by
  unfold readDecimal at h
  extract_lets whole afterWhole fraction afterFraction at h
  clear_value afterFraction
  split at h
  · cases h
  · split at h
    · rw [← Option.some.inj h]
      exact isMagnitude_nearestDecimal _ _
    · split at h
      · obtain ⟨e, -, rfl⟩ := Option.map_eq_some_iff.mp h
        exact isMagnitude_nearestDecimal _ _
      · cases h

end ExprLang
