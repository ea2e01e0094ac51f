import ExprLang.Proofs.Number.Reading
import ExprLang.Proofs.Number.WholeNumbers

/-!
# ExprLang.Proofs.Number.Radix

Numerals in another radix, read in two ways.

A literal adds digit after digit and rounds each time; a text is read as a whole number, which must
fit 64 bits.  As long as all digits but the last make a short number, the literal rounds only once,
and both are the same number (`accumulateRadix_eq`, `parseNumber_radix`).  Beyond 64 bits the text
is not a number, while the literal still is (`accumulateRadix_ne_nan`).
-/

namespace ExprLang

open Binary

variable {r N : Nat} {c : Char} {l : List Char}

/-! ## Digits -/

theorem digitValue?_lt {d : Nat} (h : digitValue? c = some d) : d < 16 := by
  have hall : (numberChars.all fun c => (digitValue? c).all (· < 16)) = true := by decide
  have hc := List.all_eq_true.mp hall c (mem_numberChars_of_digitValue? h)
  rw [h] at hc
  simpa using hc

theorem isWhitespace_of_mem_numberChars (hc : c ∈ numberChars) : isWhitespace c = false := by
  have hall : (numberChars.all fun c => !isWhitespace c) = true := by decide
  simpa using List.all_eq_true.mp hall c hc

theorem readRadix_append_eq_some : readRadix r (l ++ [c]) = some N ↔
    ∃ P d, readRadix r l = some P ∧ digitValue? c = some d ∧ d < r ∧ N = r * P + d := by
  rw [readRadix_eq_foldl, readRadix_eq_foldl, List.foldl_append, List.foldl_cons, List.foldl_nil]
  generalize l.foldl (radixStep r) (some 0) = n?
  unfold radixStep
  cases n? with
  | none => simp
  | some P =>
    cases digitValue? c with
    | none => simp
    | some d => simp [eq_comm]

theorem accumulateRadix_append : accumulateRadix r (l ++ [c]) =
    accumulateRadix r l * Float.ofNat r + Float.ofNat ((digitValue? c).getD 0) := by
  simp [accumulateRadix]

/-! ## Literals -/

/-- Nothing is added to a finite number. -/
theorem add_ofNat_zero {x : Float} {m : Nat} {e : Int} {hm : 0 < m}
    (hx : x.toModel.unpack = .finite .positive m e hm) : x + Float.ofNat 0 = x := by
  have hzero : (Float.ofNat 0).toModel.unpack = .zero .positive := by rfl
  conv_rhs => rw [eq_pack_unpack x]
  show Float.ofModel (.pack (Float.Model.UnpackedFloat.add Float.Model.Format.binary64 _ _)) = _
  rw [hzero, hx]
  rfl

/-- One digit more, exact but for the last rounding. -/
theorem ofNat_step {b P d : Nat} (hb : b ≤ 4) (hd : d < 2 ^ b) (hP : IsShort P)
    (hlt : 2 ^ b * P + d < 2 ^ 64) :
    Float.ofNat P * Float.ofNat (2 ^ b) + Float.ofNat d = Float.ofNat (2 ^ b * P + d) := by
  have hpow : 2 ^ b ≤ 2 ^ 4 := Nat.pow_le_pow_right (by decide) hb
  rcases Nat.eq_zero_or_pos P with rfl | hP₀
  · have hall : ∀ b : Fin 5, ∀ d : Fin 16,
        Float.ofNat 0 * Float.ofNat (2 ^ b.val) + Float.ofNat d = Float.ofNat d := by decide
    rw [Nat.mul_zero, Nat.zero_add]
    exact hall ⟨b, by omega⟩ ⟨d, by omega⟩
  · have hradix : IsShort (2 ^ b) := isShort_of_lt (by omega)
    have hproduct : 0 < P * 2 ^ b := Nat.mul_pos hP₀ (Nat.two_pow_pos b)
    rw [Nat.mul_comm] at hlt ⊢
    rw [ofNat_mul hP hradix hP₀ (Nat.two_pow_pos b) (by omega)]
    rcases Nat.eq_zero_or_pos d with rfl | hd₀
    · obtain ⟨m, e, hm, hunpack, -, -⟩ := (hP.mul_two_pow b).unpack hproduct (by omega)
      exact add_ofNat_zero hunpack
    · exact ofNat_add (hP.mul_two_pow b) (isShort_of_lt (by omega)) hproduct hd₀ hlt

/-- A literal of 64 bits is the number of its digits, if these are a short number without the last
one. -/
theorem accumulateRadix_eq {b : Nat} (hb : b ≤ 4) (h : readRadix (2 ^ b) l = some N)
    (hlt : N < 2 ^ 64) (hshort : IsShort (N / 2 ^ b)) :
    accumulateRadix (2 ^ b) l = Float.ofNat N := by
  induction l using List.reverseRecOn generalizing N with
  | nil =>
    obtain rfl : 0 = N := Option.some.inj h
    show (0.0 : Float) = Float.ofNat 0
    decide
  | append_singleton l c ih =>
    obtain ⟨P, d, hP, hd, hdlt, rfl⟩ := readRadix_append_eq_some.mp h
    rw [Nat.mul_add_div (Nat.two_pow_pos b), Nat.div_eq_of_lt hdlt, Nat.add_zero] at hshort
    have hle : P ≤ 2 ^ b * P := Nat.le_mul_of_pos_left P (Nat.two_pow_pos b)
    rw [accumulateRadix_append, ih hP (by omega) (hshort.div_two_pow b), hd, Option.getD_some,
      ofNat_step hb hdlt hshort hlt]

/-- A literal is a number without a sign, however long it is. -/
theorem isMagnitude_accumulateRadix {b : Nat} (hb : b ≤ 4) (l : List Char) :
    isMagnitude (accumulateRadix (2 ^ b) l).toModel.unpack = true := by
  induction l using List.reverseRecOn with
  | nil =>
    show isMagnitude (0.0 : Float).toModel.unpack = true
    decide
  | append_singleton l c ih =>
    have hall : ∀ d : Fin 16, isMagnitude (Float.ofNat d).toModel.unpack = true := by decide
    have hdigit : (digitValue? c).getD 0 < 16 := by
      cases hc : digitValue? c with
      | none => decide
      | some d => exact digitValue?_lt hc
    have hpow : 2 ^ b ≤ 2 ^ 4 := Nat.pow_le_pow_right (by decide) hb
    obtain ⟨m, e, hm, hradix, -, -⟩ :=
      (isShort_of_lt (n := 2 ^ b) (by omega)).unpack (Nat.two_pow_pos b) (by omega)
    rw [accumulateRadix_append]
    refine isMagnitude_unpack_pack (isMagnitude_add ?_ (hall ⟨_, hdigit⟩))
    refine isMagnitude_unpack_pack ?_
    rw [hradix]
    exact isMagnitude_mul ih

theorem accumulateRadix_ne_nan {b : Nat} (hb : b ≤ 4) (l : List Char) :
    accumulateRadix (2 ^ b) l ≠ 0.0 / 0.0 := by
  intro h
  have hmagnitude := isMagnitude_accumulateRadix hb l
  rw [h] at hmagnitude
  exact absurd hmagnitude (by decide)

/-! ## Texts -/

/-- The number of a text in a radix. -/
theorem parseNumber_radix (hc : radixOf? c = some r) (hl : l ≠ []) (h : readRadix r l = some N) :
    parseNumber ('0' :: c :: l) = if N < 2 ^ 64 then Float.ofNat N else 0.0 / 0.0 := by
  have hchars : ∀ d ∈ '0' :: c :: l, isWhitespace d = false := by
    refine List.forall_mem_cons.mpr ⟨by decide, List.forall_mem_cons.mpr
      ⟨isWhitespace_of_mem_numberChars (mem_numberChars_of_radixOf? hc), fun d hd => ?_⟩⟩
    cases hvalue : digitValue? d with
    | none =>
      rw [readRadix_eq_none hd hvalue] at h
      cases h
    | some v => exact isWhitespace_of_mem_numberChars (mem_numberChars_of_digitValue? hvalue)
  have htrim := trimWhitespace_eq_self hchars
  by_cases hlt : N < 2 ^ 64
  · have hword : readWord r l = some N := by
      rw [readWord, if_neg hl, h, twoPow_eq]
      exact Option.filter_eq_some_iff.mpr ⟨rfl, decide_eq_true hlt⟩
    simp only [parseNumber, htrim, hc, hword, if_pos hlt]
  · have hword : readWord r l = none := by
      rw [readWord, if_neg hl, h, twoPow_eq, Option.filter_some, decide_eq_false hlt]
      rfl
    simp only [parseNumber, htrim, hc, hword, if_neg hlt]

end ExprLang
