import ExprLang.Function.Host
import ExprLang.Function.Library
import ExprLang.Proofs.Number.Truncation

/-!
# ExprLang.Proofs.Text.Slices

Parts of texts.

The function `substr` counts with numbers that are rounded.  Where a part begins and ends is said here
in whole numbers and infinities (`partStart`, `partEnd`), and the rounding makes no difference: a sum
is exact as long as it can lie inside the text, and whatever is beyond an end of the text stays there
(`isWhole_substrStart`, `isWhole_substrEnd`).
-/

namespace ExprLang

open Binary

/-! ## Bounds -/

section Bounds

variable {x y : Float} {a b : WithBot (WithTop ℚ)} {z w : WithBot (WithTop ℤ)}

theorem value?_maxNumber (hx : (ofFloat x).value? = some a) (hy : (ofFloat y).value? = some b) :
    (ofFloat (maxNumber x y)).value? = some (max a b) := by
  rw [maxNumber, isNaN_of_value? hx, isNaN_of_value? hy, if_neg (by decide), if_neg (by decide)]
  split
  · next hlt => rw [hy, max_eq_right_of_lt ((float_lt_iff hx hy).mp hlt)]
  · next hlt => rw [hx, max_eq_left (not_lt.mp (mt (float_lt_iff hx hy).mpr hlt))]

theorem value?_minNumber (hx : (ofFloat x).value? = some a) (hy : (ofFloat y).value? = some b) :
    (ofFloat (minNumber x y)).value? = some (min a b) := by
  rw [minNumber, isNaN_of_value? hx, isNaN_of_value? hy, if_neg (by decide), if_neg (by decide)]
  split
  · next hlt => rw [hy, min_eq_right_of_lt ((float_lt_iff hy hx).mp hlt)]
  · next hlt => rw [hx, min_eq_left (not_lt.mp (mt (float_lt_iff hy hx).mpr hlt))]

theorem isWhole_maxNumber (hx : IsWhole x z) (hy : IsWhole y w) :
    IsWhole (maxNumber x y) (max z w) := by
  rw [IsWhole, ofWhole_strictMono.monotone.map_max]
  exact value?_maxNumber hx hy

theorem isWhole_minNumber (hx : IsWhole x z) (hy : IsWhole y w) :
    IsWhole (minNumber x y) (min z w) := by
  rw [IsWhole, ofWhole_strictMono.monotone.map_min]
  exact value?_minNumber hx hy

end Bounds

/-! ## Beginnings and ends -/

/-- Where a part of a text of `n` characters begins: a place, or one that counts from the end, but
inside the text. -/
noncomputable def partStart (n : Nat) (p : WithBot (WithTop ℤ)) : WithBot (WithTop ℤ) :=
  if p < 0 then max (n + p) 0 else min p n

/-- Where a part of a text of `n` characters ends that begins at `start`: after some characters, or
with the text. -/
noncomputable def partEnd (n : Nat) (start : WithBot (WithTop ℤ)) :
    Option (WithBot (WithTop ℤ)) → WithBot (WithTop ℤ)
  | some l => min (start + max l 0) n
  | none => n

section Places

variable {n i : Nat} {x y : Float} {z : WithBot (WithTop ℤ)}

theorem whole_cases (z : WithBot (WithTop ℤ)) : z = ⊥ ∨ z = ⊤ ∨ ∃ k : ℤ, z = (k : WithTop ℤ) := by
  induction z using WithBot.recBotCoe with
  | bot => exact .inl rfl
  | coe z =>
    induction z using WithTop.recTopCoe with
    | top => exact .inr (.inl rfl)
    | coe k => exact .inr (.inr ⟨k, rfl⟩)

theorem whole_lt_iff {j k : ℤ} :
    ((j : WithTop ℤ) : WithBot (WithTop ℤ)) < (k : WithTop ℤ) ↔ j < k :=
  WithBot.coe_lt_coe.trans WithTop.coe_lt_coe

theorem whole_le_iff {j k : ℤ} :
    ((j : WithTop ℤ) : WithBot (WithTop ℤ)) ≤ (k : WithTop ℤ) ↔ j ≤ k :=
  WithBot.coe_le_coe.trans WithTop.coe_le_coe

/-- A place before the beginning of a text is moved there, and the sum that finds it is exact if it
is not. -/
theorem isWhole_max_add {k : ℤ} (hn : n ≤ 2 ^ 53) (hk : k < 0) (hx : IsWhole x (k : WithTop ℤ)) :
    IsWhole (maxNumber (Float.ofNat n + x) 0.0) (max (n + (k : WithTop ℤ)) 0) := by
  have hsize := isWhole_ofNat hn
  rw [IsWhole, ofWhole_natCast] at hsize
  by_cases hle : 0 ≤ n + k
  · have hsum : IsRatio ((n : ℚ) + k) := by
      have hratio : IsRatio ((n + k : ℤ) : ℚ) := isRatio_intCast (by omega)
      rwa [Int.cast_add, Int.cast_natCast] at hratio
    have hadd : IsWhole (Float.ofNat n + x) ((n + k : ℤ) : WithTop ℤ) := by
      rw [IsWhole, ofWhole_intCast, Int.cast_add, Int.cast_natCast]
      exact value?_add_of_isRatio hsize hx hsum
    exact isWhole_maxNumber hadd isWhole_zero
  · obtain ⟨a, ha, hbounds⟩ := value?_add hsize hx
    have hneg : (n : ℚ) + k ≤ 0 := by
      have : n + k ≤ 0 := by omega
      exact_mod_cast this
    have hzero : a ≤ ofWhole 0 := (hbounds 0 (isRatio_intCast (k := 0) (by decide))).1 hneg
    have hstart : max ((n : WithBot (WithTop ℤ)) + (k : WithTop ℤ)) 0 = 0 :=
      max_eq_right (whole_le_iff.mpr (by omega : (n : ℤ) + k ≤ 0))
    have hmax := value?_maxNumber ha isWhole_zero
    rw [IsWhole, hstart]
    rwa [max_eq_right hzero] at hmax

theorem isWhole_substrStart (hn : n ≤ 2 ^ 53) (hx : IsWhole x z) :
    IsWhole (substrStart (Float.ofNat n) x) (partStart n z) := by
  have hsize := isWhole_ofNat hn
  unfold substrStart partStart
  split
  · next hneg =>
    have hz := (hx.lt_iff isWhole_zero).mp hneg
    rw [if_pos hz]
    rcases whole_cases z with rfl | rfl | ⟨k, rfl⟩
    · rw [IsWhole, ofWhole_natCast] at hsize
      exact isWhole_maxNumber (value?_add_infinite hsize hx (.inl rfl)) isWhole_zero
    · exact absurd hz (not_lt.mpr le_top)
    · exact isWhole_max_add hn (whole_lt_iff.mp hz) hx
  · next hneg =>
    rw [if_neg (mt (hx.lt_iff isWhole_zero).mpr hneg)]
    exact isWhole_minNumber hx hsize

/-- An end behind the end of a text is moved there, and the sum that finds it is exact if it is not. -/
theorem isWhole_min_add {k : ℤ} (hn : n ≤ 2 ^ 53) (hi : i ≤ n) (hk : 0 ≤ k) (hx : IsWhole x i)
    (hy : IsWhole y (k : WithTop ℤ)) :
    IsWhole (minNumber (x + y) (Float.ofNat n)) (min (i + (k : WithTop ℤ)) n) := by
  have hsize := isWhole_ofNat hn
  rw [IsWhole, ofWhole_natCast] at hx
  by_cases hle : i + k ≤ 2 ^ 53
  · have hsum : IsRatio ((i : ℚ) + k) := by
      have hratio : IsRatio ((i + k : ℤ) : ℚ) := isRatio_intCast (by omega)
      rwa [Int.cast_add, Int.cast_natCast] at hratio
    have hadd : IsWhole (x + y) ((i + k : ℤ) : WithTop ℤ) := by
      rw [IsWhole, ofWhole_intCast, Int.cast_add, Int.cast_natCast]
      exact value?_add_of_isRatio hx hy hsum
    exact isWhole_minNumber hadd hsize
  · obtain ⟨a, ha, hbounds⟩ := value?_add hx hy
    have hlarge : ((2 ^ 53 : Nat) : ℚ) ≤ i + k := by
      have : ((2 ^ 53 : Nat) : ℤ) ≤ i + k := by omega
      exact_mod_cast this
    have hbound := (hbounds _ (isRatio_natCast (le_refl (2 ^ 53)))).2 hlarge
    have hend : min ((i : WithBot (WithTop ℤ)) + (k : WithTop ℤ)) n = n :=
      min_eq_right (whole_le_iff.mpr (by omega : (n : ℤ) ≤ i + k))
    have hmin := value?_minNumber ha hsize
    have hle : ofWhole n ≤ a := by
      rw [ofWhole_natCast]
      exact (extended_le_iff.mpr (by exact_mod_cast hn)).trans hbound
    rw [IsWhole, hend]
    rwa [min_eq_right hle] at hmin

theorem isWhole_substrEnd_some (hn : n ≤ 2 ^ 53) (hi : i ≤ n) (hx : IsWhole x i)
    (hy : IsWhole y z) :
    IsWhole (substrEnd (Float.ofNat n) x (some y)) (partEnd n i (some z)) := by
  have hsize := isWhole_ofNat hn
  have hmax := isWhole_maxNumber hy isWhole_zero
  have hnonneg : 0 ≤ max z 0 := le_max_right z 0
  show IsWhole (minNumber (x + maxNumber y 0.0) (Float.ofNat n)) (min (i + max z 0) n)
  generalize max z 0 = w at hmax hnonneg
  rcases whole_cases w with rfl | rfl | ⟨k, rfl⟩
  · cases hnonneg
  · rw [IsWhole, ofWhole_natCast] at hx
    exact isWhole_minNumber (value?_add_infinite hx hmax (.inr rfl)) hsize
  · exact isWhole_min_add hn hi (whole_le_iff.mp hnonneg) hx hmax

theorem isWhole_substrEnd {l : Option Float} {w : Option (WithBot (WithTop ℤ))} (hn : n ≤ 2 ^ 53)
    (hi : i ≤ n) (hx : IsWhole x i) (hl : Option.Rel IsWhole l w) :
    IsWhole (substrEnd (Float.ofNat n) x l) (partEnd n i w) := by
  cases hl with
  | none => exact isWhole_ofNat hn
  | some hy => exact isWhole_substrEnd_some hn hi hx hy

/-- What lies inside a text is a place of it. -/
theorem exists_place (hlow : 0 ≤ z) (hhigh : z ≤ n) : ∃ i : Nat, z = i ∧ i ≤ n := by
  rcases whole_cases z with rfl | rfl | ⟨k, rfl⟩
  · cases hlow
  · exact absurd hhigh (not_le.mpr (WithBot.coe_lt_coe.mpr (WithTop.coe_lt_top _)))
  · obtain ⟨i, rfl⟩ := Int.eq_ofNat_of_zero_le (whole_le_iff.mp hlow)
    exact ⟨i, rfl, Int.ofNat_le.mp (whole_le_iff.mp hhigh)⟩

theorem natCast_nonneg (n : Nat) : (0 : WithBot (WithTop ℤ)) ≤ n :=
  whole_le_iff.mpr (Int.natCast_nonneg n)

theorem natCast_inj (h : (i : WithBot (WithTop ℤ)) = (n : Nat)) : i = n :=
  Int.ofNat.inj (WithTop.coe_inj.mp (WithBot.coe_inj.mp h))

theorem exists_partStart (n : Nat) (p : WithBot (WithTop ℤ)) :
    ∃ i : Nat, partStart n p = i ∧ i ≤ n := by
  unfold partStart
  split
  · next hneg =>
    refine exists_place (le_max_right _ _) (max_le ?_ (natCast_nonneg n))
    exact (add_le_add_right hneg.le _).trans_eq (add_zero _)
  · next hneg =>
    exact exists_place (le_min (not_lt.mp hneg) (natCast_nonneg n)) (min_le_right _ _)

theorem exists_partEnd (hi : i ≤ n) (l : Option (WithBot (WithTop ℤ))) :
    ∃ j : Nat, partEnd n i l = j ∧ i ≤ j ∧ j ≤ n := by
  cases l with
  | none => exact ⟨n, rfl, hi, le_refl n⟩
  | some l =>
    have hle : (i : WithBot (WithTop ℤ)) ≤ min (i + max l 0) n :=
      le_min (le_add_of_nonneg_right (le_max_right l 0)) (whole_le_iff.mpr (Int.ofNat_le.mpr hi))
    obtain ⟨j, hj, hjn⟩ := exists_place ((natCast_nonneg i).trans hle) (min_le_right _ _)
    rw [hj] at hle
    exact ⟨j, hj, Int.ofNat_le.mp (whole_le_iff.mp hle), hjn⟩

end Places

/-! ## Parts -/

section Parts

variable {text : List Char} {x y : Float} {i j : Nat}

theorem isWhole_sub (hx : IsWhole x j) (hy : IsWhole y i) (hj : j ≤ 2 ^ 53) (hi : i ≤ j) :
    IsWhole (x - y) (j - i : Nat) := by
  rw [IsWhole, ofWhole_natCast] at hx hy ⊢
  have hcast : (j : ℚ) - i = (j - i : Nat) := (Nat.cast_sub hi).symm
  have hdiff : IsRatio ((j : ℚ) - i) := hcast ▸ isRatio_natCast (by omega)
  rw [← hcast]
  exact value?_sub_of_isRatio hx hy hdiff

/-- The characters from where a part begins to where it ends. -/
theorem exists_substr_eq (hn : text.length ≤ 2 ^ 53) (pos : Option Float) {l : Option Float}
    {p : WithBot (WithTop ℤ)} {w : Option (WithBot (WithTop ℤ))} (hpos : IsWhole (pos.getD 0.0) p)
    (hl : Option.Rel IsWhole l w) : ∃ i j : Nat, i = partStart text.length p ∧
      j = partEnd text.length i w ∧ substr text pos l = (text.drop i).take (j - i) := by
  obtain ⟨i, hi, hin⟩ := exists_partStart text.length p
  obtain ⟨j, hj, hij, hjn⟩ := exists_partEnd hin w
  have hstart := isWhole_substrStart hn hpos
  rw [hi] at hstart
  have hstop := isWhole_substrEnd hn hin hstart hl
  rw [hj] at hstop
  refine ⟨i, j, hi.symm, hj.symm, ?_⟩
  unfold substr
  dsimp only
  split
  · next hle =>
    have hji := Int.ofNat_le.mp (whole_le_iff.mp ((hstop.le_iff hstart).mp hle))
    rw [Nat.sub_eq_zero_of_le hji, List.take_zero]
  · rw [hstart.toNat_toUInt64 (by omega), (isWhole_sub hstop hstart (by omega) hij).toNat_toUInt64
      (by omega)]

/-- A part from the beginning and the part from its end on make up a text. -/
theorem substr_append (text : List Char) {z : WithBot (WithTop ℤ)} (hn : text.length ≤ 2 ^ 53)
    (hx : IsWhole x z) (hz : 0 ≤ z) : substr text (some 0.0) (some x) ++ substr text (some x) none = text := by
  obtain ⟨i, j, hi, hj, hfirst⟩ :=
    exists_substr_eq hn (some 0.0) isWhole_zero (Option.Rel.some hx)
  obtain ⟨i', j', hi', hj', hrest⟩ := exists_substr_eq hn (some x) hx Option.Rel.none
  rw [partStart, if_neg (lt_irrefl 0), min_eq_left (natCast_nonneg _)] at hi
  obtain rfl : i = 0 := natCast_inj hi
  rw [partStart, if_neg (not_lt.mpr hz)] at hi'
  rw [partEnd, max_eq_left hz, Nat.cast_zero, zero_add, ← hi'] at hj
  obtain rfl := natCast_inj hj
  obtain rfl := natCast_inj hj'
  rw [hfirst, hrest, Nat.sub_zero, List.drop_zero,
    List.take_of_length_le (l := text.drop j) (by rw [List.length_drop]), List.take_append_drop]

end Parts

/-! ## Arguments -/

/-- The whole number of an argument, or nothing if it is left out. -/
def givenWhole (args : List Value) (i : Nat) : Option (WithBot (WithTop ℤ)) :=
  match LibraryFunction.argument args i with
  | .undefined => none
  | v => some (wholeValue v.toNumber)

theorem isWhole_argument (x : Float) :
    IsWhole (if x.isNaN then 0.0 else truncate x) (wholeValue x) := by
  cases hx : x.isNaN with
  | false => exact isWhole_truncate hx
  | true =>
    rw [wholeValue_of_isNaN hx]
    exact isWhole_zero

theorem rel_wholeArgument (args : List Value) (i : Nat) :
    Option.Rel IsWhole (LibraryFunction.wholeArgument args i) (givenWhole args i) := by
  unfold LibraryFunction.wholeArgument givenWhole
  cases LibraryFunction.argument args i with
  | undefined => exact .none
  | _ => exact .some (isWhole_argument _)

theorem isWhole_getD {l : Option Float} {w : Option (WithBot (WithTop ℤ))}
    (h : Option.Rel IsWhole l w) : IsWhole (l.getD 0.0) (w.getD 0) := by
  cases h with
  | none => exact isWhole_zero
  | some h => exact h

theorem call_substr (receiver : Value) (args : List Value)
    (hn : (LibraryFunction.textArgument args 0).length ≤ 2 ^ 53) : ∃ start stop : Nat,
      start = partStart (LibraryFunction.textArgument args 0).length ((givenWhole args 1).getD 0) ∧
      stop = partEnd (LibraryFunction.textArgument args 0).length start (givenWhole args 2) ∧
      LibraryFunction.substr.call receiver args = .ok (.string (String.ofList
        (((LibraryFunction.textArgument args 0).drop start).take (stop - start)))) := by
  obtain ⟨start, stop, hstart, hstop, hsubstr⟩ :=
    exists_substr_eq hn _ (isWhole_getD (rel_wholeArgument args 1)) (rel_wholeArgument args 2)
  exact ⟨start, stop, hstart, hstop, by rw [LibraryFunction.call, hsubstr]⟩

/-- The first characters of a text and the rest. -/
theorem call_substr_split (receiver v : Value) {x : Float} (hn : v.stringify.length ≤ 2 ^ 53)
    (hx : ¬x < 0.0) : ∃ s t : String,
      LibraryFunction.substr.call receiver [v, .number 0.0, .number x] = .ok (.string s) ∧
      LibraryFunction.substr.call receiver [v, .number x] = .ok (.string t) ∧
      s ++ t = v.stringify := by
  have hzero : LibraryFunction.wholeArgument [v, .number 0.0, .number x] 1 = some 0.0 := by
    show some (if (0.0 : Float).isNaN then 0.0 else truncate 0.0) = some 0.0
    rw [isNaN_of_value? isWhole_zero, if_neg (by decide), truncate_zero]
  have happend := substr_append v.stringify.toList hn (isWhole_argument x)
    (wholeValue_nonneg hx)
  refine ⟨_, _, by rw [LibraryFunction.call, hzero], rfl, ?_⟩
  rw [← String.ofList_append]
  exact (congrArg String.ofList happend).trans String.ofList_toList

/-! ## Places -/

/-- Among `n` characters the number stands for the place `i`; behind them it need only be behind
them, too. -/
def IsPlace (n : Nat) (x : Float) (i : Nat) : Prop :=
  wholeValue x = i ∨ n ≤ wholeValue x ∧ n ≤ i

section Places

variable {n i k : Nat} {x y : Float} {s : String}

theorem natCast_le_iff : (i : WithBot (WithTop ℤ)) ≤ (k : Nat) ↔ i ≤ k :=
  whole_le_iff.trans Int.ofNat_le

theorem isPlace_of_isWhole (hx : IsWhole x i) : IsPlace n x i := .inl hx.wholeValue_eq

/-- A whole number stands for its place, however it is rounded. -/
theorem isPlace_ofNat (hn : n ≤ 2 ^ 53) (i : Nat) : IsPlace n (Float.ofNat i) i := by
  rcases Nat.le_total i (2 ^ 53) with hi | hi
  · exact isPlace_of_isWhole (isWhole_ofNat hi)
  · obtain ⟨a, ha, hbounds⟩ := value?_ofNat i
    have hle := (hbounds _ (isRatio_natCast (le_refl (2 ^ 53)))).2 (Nat.cast_le.mpr hi)
    exact .inr ⟨(natCast_le_iff.mpr hn).trans (le_wholeValue (by decide) ha hle), hn.trans hi⟩

theorem IsPlace.partStart_eq (hx : IsPlace n x i) :
    partStart n (wholeValue x) = (min i n : Nat) := by
  have hmin : ∀ {z : WithBot (WithTop ℤ)}, n ≤ z → partStart n z = n := by
    intro z hz
    rw [partStart, if_neg (not_lt.mpr ((natCast_nonneg n).trans hz)), min_eq_right hz]
  rcases hx with hx | ⟨hx, hi⟩
  · rw [hx, partStart, if_neg (not_lt.mpr (natCast_nonneg i))]
    rcases Nat.le_total i n with h | h
    · rw [min_eq_left (natCast_le_iff.mpr h), min_eq_left h]
    · rw [min_eq_right (natCast_le_iff.mpr h), min_eq_right h]
  · rw [hmin hx, min_eq_right hi]

theorem IsPlace.partEnd_eq (hy : IsPlace n y k) (i : Nat) :
    partEnd n i (some (wholeValue y)) = (min (i + k) n : Nat) := by
  rw [partEnd]
  rcases hy with hy | ⟨hy, hk⟩
  · rw [hy, max_eq_left (natCast_nonneg k)]
    rcases Nat.le_total (i + k) n with h | h
    · rw [min_eq_left h]
      exact min_eq_left (natCast_le_iff.mpr h)
    · rw [min_eq_right h]
      exact min_eq_right (natCast_le_iff.mpr h)
  · rw [min_eq_right (by omega : n ≤ i + k), max_eq_left ((natCast_nonneg n).trans hy)]
    exact min_eq_right (hy.trans (le_add_of_nonneg_left (natCast_nonneg i)))

/-- Between places a part is what its name says. -/
theorem call_substr_between (receiver : Value) (hn : s.length ≤ 2 ^ 53)
    (hx : IsPlace s.length x i) (hy : IsPlace s.length y k) :
    LibraryFunction.substr.call receiver [.string s, .number x, .number y] =
      .ok (.string (String.ofList ((s.toList.drop i).take k))) := by
  obtain ⟨start, stop, hstart, hstop, hcall⟩ :=
    call_substr receiver [.string s, .number x, .number y] hn
  obtain rfl : start = min i s.length := natCast_inj (hstart.trans hx.partStart_eq)
  obtain rfl : stop = min (min i s.length + k) s.length :=
    natCast_inj (hstop.trans (hy.partEnd_eq _))
  have hpart : (s.toList.drop (min i s.length)).take
      (min (min i s.length + k) s.length - min i s.length) = (s.toList.drop i).take k := by
    have hlength : s.toList.length = s.length := rfl
    rcases Nat.le_total i s.length with h | h
    · rw [min_eq_left h, List.take_eq_take_iff, List.length_drop]
      omega
    · rw [min_eq_right h, List.drop_of_length_le h, List.drop_of_length_le (le_refl s.length),
        List.take_nil, List.take_nil]
  rw [hcall, ← hpart]
  rfl

/-- From a place on a part is what its name says. -/
theorem call_substr_from (receiver : Value) (hn : s.length ≤ 2 ^ 53) (hx : IsPlace s.length x i) :
    LibraryFunction.substr.call receiver [.string s, .number x] =
      .ok (.string (String.ofList (s.toList.drop i))) := by
  obtain ⟨start, stop, hstart, hstop, hcall⟩ :=
    call_substr receiver [.string s, .number x] hn
  obtain rfl : start = min i s.length := natCast_inj (hstart.trans hx.partStart_eq)
  obtain rfl : stop = s.length := natCast_inj hstop
  have hpart : (s.toList.drop (min i s.length)).take (s.length - min i s.length) =
      s.toList.drop i := by
    rcases Nat.le_total i s.length with h | h
    · have hlength : (s.toList.drop i).length ≤ s.length - i := by
        rw [List.length_drop, String.length_toList]
      rw [min_eq_left h, List.take_of_length_le hlength]
    · rw [min_eq_right h, List.drop_of_length_le h, List.drop_of_length_le (le_refl s.length),
        List.take_nil]
  rw [hcall, ← hpart]
  rfl

end Places

/-- The function `substr` takes the characters from a beginning to an end that are found as in exact
arithmetic, however large the arguments are, if the number of characters is itself exact.  So the
first characters of a text and the rest make up the text. -/
theorem substr_exact :
    (Registry.standard.resolve "substr").map (·.behaviour) = some (.library .substr) ∧
    (∀ (receiver : Value) (args : List Value),
      (LibraryFunction.textArgument args 0).length ≤ 2 ^ 53 →
      let text := LibraryFunction.textArgument args 0
      ∃ start stop : Nat, start = partStart text.length ((givenWhole args 1).getD 0) ∧
        stop = partEnd text.length start (givenWhole args 2) ∧
        LibraryFunction.substr.call receiver args =
          .ok (.string (String.ofList ((text.drop start).take (stop - start))))) ∧
    ∀ (receiver v : Value) (x : Float), v.stringify.length ≤ 2 ^ 53 → ¬x < 0.0 →
      ∃ s t : String,
        LibraryFunction.substr.call receiver [v, .number 0.0, .number x] = .ok (.string s) ∧
        LibraryFunction.substr.call receiver [v, .number x] = .ok (.string t) ∧
        s ++ t = v.stringify :=
  ⟨by decide, call_substr,
    fun receiver v _ => call_substr_split receiver v⟩

/-- A part that begins four characters before the end and is longer than all numbers, and a text in
two parts. -/
theorem substr_exact_beyond :
    let args : List Value := [.string "añb€c", .number (-4.0), .number (1.0 / 0.0)]
    (LibraryFunction.textArgument args 0).length ≤ 2 ^ 53 ∧
      LibraryFunction.substr.call .undefined args = .ok (.string "ñb€c") ∧
      "añb€c".length ≤ 2 ^ 53 ∧ ¬(2.5 : Float) < 0.0 ∧ ∃ s t : String,
        LibraryFunction.substr.call .undefined [.string "añb€c", .number 0.0, .number 2.5] =
          .ok (.string s) ∧
        LibraryFunction.substr.call .undefined [.string "añb€c", .number 2.5] = .ok (.string t) ∧
        s ++ t = "añb€c" := by
  intro args
  have hsize : (LibraryFunction.textArgument args 0).length ≤ 2 ^ 53 := by decide
  obtain ⟨start, stop, hstart, hstop, hcall⟩ := substr_exact.2.1 .undefined args hsize
  have hparts : ofFloat (-4.0) = .finite true (2 ^ 52) (-50) := by decide
  have hinfinite : ofFloat (1.0 / 0.0) = .infinite false := by decide
  have hlength : (LibraryFunction.textArgument args 0).length = 5 := by decide
  have hp : givenWhole args 1 = some ((-4 : ℤ) : WithTop ℤ) := by
    show some (wholeValue (-4.0)) = _
    rw [wholeValue, hparts]
    norm_num
  have hl : givenWhole args 2 = some ⊤ := by
    show some (wholeValue (1.0 / 0.0)) = _
    rw [wholeValue, hinfinite]
    rfl
  rw [hlength, hp] at hstart
  obtain rfl : start = 1 := natCast_inj (hstart.trans (by decide))
  rw [hlength, hl] at hstop
  obtain rfl : stop = 5 := natCast_inj (hstop.trans (by decide))
  have hpart : String.ofList (((LibraryFunction.textArgument args 0).drop 1).take (5 - 1)) =
      "ñb€c" := by decide
  rw [hpart] at hcall
  have hnonneg : ¬(2.5 : Float) < 0.0 := by decide
  exact ⟨hsize, hcall, by decide, hnonneg,
    substr_exact.2.2 .undefined (.string "añb€c") 2.5 (by decide) hnonneg⟩

end ExprLang
