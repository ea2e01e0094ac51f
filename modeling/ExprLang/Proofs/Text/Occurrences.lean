import ExprLang.Eval.Operators
import ExprLang.Proofs.Text.Slices
import ExprLang.Proofs.Value.Splitting

/-!
# ExprLang.Proofs.Text.Occurrences

Where a text stands in another.

The operators on texts and the functions `index` and `substr` speak of the same occurrence.  A search
finds the first place at which a text stands (`isLeast_findText`), also when it starts later
(`indexIn_eq_some`), and a text stands at a place just if `substr` takes it from there
(`call_substr_eq_iff`).
-/

namespace ExprLang

open Binary

/-! ## The first place -/

/-- The text stands in another at a place. -/
def StandsAt (needle text : List Char) (i : Nat) : Prop :=
  (text.drop i).take needle.length = needle

section Search

variable {needle text : List Char} {i j : Nat}

theorem standsAt_zero_iff : StandsAt needle text 0 ↔ needle.isPrefixOf text = true := by
  rw [List.isPrefixOf_iff_prefix, List.prefix_iff_eq_take, eq_comm, StandsAt, List.drop_zero]

theorem standsAt_drop_iff : StandsAt needle (text.drop i) j ↔ StandsAt needle text (i + j) := by
  rw [StandsAt, StandsAt, List.drop_drop]

theorem standsAt_of_findText (h : findText needle text = some i) : StandsAt needle text i := by
  obtain ⟨u, v, rfl, rfl⟩ := append_of_findText h
  simp [StandsAt]

theorem add_length_le_of_findText (h : findText needle text = some i) :
    i + needle.length ≤ text.length := by
  obtain ⟨u, v, rfl, rfl⟩ := append_of_findText h
  simp only [List.length_append]
  omega

theorem not_standsAt_of_findText (h : findText needle text = some i) (hj : j < i) :
    ¬StandsAt needle text j := by
  induction text generalizing i j with
  | nil =>
    rw [findText] at h
    split at h
    · cases h
      omega
    · cases h
  | cons c text ih =>
    rw [findText] at h
    split at h
    · cases h
      omega
    · next hpre =>
      obtain ⟨k, hk, rfl⟩ := Option.map_eq_some_iff.mp h
      cases j with
      | zero => exact mt standsAt_zero_iff.mp hpre
      | succ j => exact ih hk (by omega)

theorem not_standsAt_of_findText_eq_none (h : findText needle text = none) (i : Nat) :
    ¬StandsAt needle text i := by
  induction text generalizing i with
  | nil =>
    rw [findText] at h
    split at h
    · cases h
    · next hne =>
      intro hstands
      rw [StandsAt, List.drop_nil, List.take_nil] at hstands
      exact hne (List.isEmpty_iff.mpr hstands.symm)
  | cons c text ih =>
    rw [findText] at h
    split at h
    · cases h
    · next hpre =>
      cases i with
      | zero => exact mt standsAt_zero_iff.mp hpre
      | succ i => exact ih (Option.map_eq_none_iff.mp h) i

/-- A text is found at the first place where it stands. -/
theorem isLeast_findText (h : findText needle text = some i) :
    IsLeast {j | StandsAt needle text j} i :=
  ⟨standsAt_of_findText h, fun _ hj => not_lt.mp fun hlt => not_standsAt_of_findText h hlt hj⟩

/-- The same from a place on. -/
theorem indexIn_eq_some {start : Option Float} (h : indexIn text needle start = some i) :
    IsLeast {j | searchStart text.length start ≤ j ∧ StandsAt needle text j} i := by
  obtain ⟨k, hk, rfl⟩ := Option.map_eq_some_iff.mp h
  obtain ⟨hstands, hleast⟩ := isLeast_findText hk
  refine ⟨⟨Nat.le_add_right _ _, standsAt_drop_iff.mp hstands⟩, ?_⟩
  rintro j ⟨hle, hj⟩
  obtain ⟨j, rfl⟩ := Nat.exists_eq_add_of_le hle
  exact Nat.add_le_add_left (hleast (standsAt_drop_iff.mpr hj)) _

theorem indexIn_eq_none {start : Option Float} (h : indexIn text needle start = none)
    (hj : searchStart text.length start ≤ j) : ¬StandsAt needle text j := by
  obtain ⟨j, rfl⟩ := Nat.exists_eq_add_of_le hj
  rw [← standsAt_drop_iff]
  exact not_standsAt_of_findText_eq_none (Option.map_eq_none_iff.mp h) j

end Search

/-! ## Where a search starts -/

/-- A search starts at a place of the text or at its end. -/
theorem searchStart_eq {n : Nat} {l : Option Float} {w : Option (WithBot (WithTop ℤ))}
    (hn : n ≤ 2 ^ 53) (h : Option.Rel IsWhole l w) :
    (searchStart n l : WithBot (WithTop ℤ)) = max 0 (min (w.getD 0) n) := by
  cases h with
  | none => exact (max_eq_left (min_le_left 0 _)).symm
  | @some x z hx =>
    rw [searchStart, Option.getD_some]
    split
    · next hneg =>
      have hz := (hx.lt_iff isWhole_zero).mp hneg
      rw [max_eq_left ((min_le_left _ _).trans hz.le)]
      rfl
    · next hneg =>
      have hz := not_lt.mp (mt (hx.lt_iff isWhole_zero).mpr hneg)
      rw [max_eq_right (le_min hz (natCast_nonneg n))]
      split
      · next hlt => rw [min_eq_right (((isWhole_ofNat hn).lt_iff hx).mp hlt).le]
      · next hlt =>
        have hzn := not_lt.mp (mt ((isWhole_ofNat hn).lt_iff hx).mpr hlt)
        obtain ⟨i, rfl, hi⟩ := exists_place hz hzn
        rw [min_eq_left hzn, hx.toNat_toUInt64 (by omega)]

/-! ## Texts as values -/

section Values

variable {s t : String} {i : Nat}

/-- A text stands at a place if it is the part that begins there. -/
theorem call_substr_eq_iff (receiver : Value) (hn : s.length ≤ 2 ^ 53) :
    LibraryFunction.substr.call receiver [.string s, .ofNat i, .ofNat (Value.string t).count] =
      .ok (.string t) ↔ StandsAt t.toList s.toList i := by
  rw [Value.ofNat, Value.ofNat, call_substr_between receiver hn (isPlace_ofNat hn _)
    (isPlace_ofNat hn _), Except.ok.injEq, Value.string.injEq]
  constructor
  · intro h
    exact (String.toList_ofList.symm.trans (congrArg String.toList h))
  · intro h
    exact (congrArg String.ofList h).trans String.ofList_toList

theorem call_index (receiver : Value) (args : List Value) :
    LibraryFunction.index.call receiver args =
      .ok ((indexIn (LibraryFunction.textArgument args 0) (LibraryFunction.textArgument args 1)
        (LibraryFunction.wholeArgument args 2)).elim (.number (-1.0)) .ofNat) := by
  rw [LibraryFunction.call]
  cases indexIn (LibraryFunction.textArgument args 0) (LibraryFunction.textArgument args 1)
    (LibraryFunction.wholeArgument args 2) <;> rfl

theorem ofNat_ne_neg_one (i : Nat) : Float.ofNat i ≠ -1.0 := by
  obtain ⟨a, ha, hbounds⟩ := value?_ofNat i
  have hparts : ofFloat (-1.0) = .finite true (2 ^ 52) (-52) := by decide
  have hone : (ofFloat (-1.0)).value? = some (extended (-1)) := by
    rw [hparts, value?]
    norm_num [signed]
  intro h
  rw [h, hone, Option.some.injEq] at ha
  have hle := (hbounds _ (isRatio_natCast (Nat.zero_le _))).2 (Nat.cast_nonneg i)
  rw [← ha, extended_le_iff] at hle
  norm_num at hle

/-- Without an occurrence nothing is taken away, and nothing is shared. -/
theorem sub_div_of_findText_eq_none (h : findText t.toList s.toList = none) :
    (Value.string s).sub (.string t) = .string s ∧ (Value.string s).div (.string t) = .string "" := by
  simp [Value.sub, Value.div, Value.stringify, removeFirst, h]

/-- The first occurrence is shared, and what is before and behind it is left. -/
theorem sub_div_of_findText (h : findText t.toList s.toList = some i) :
    (Value.string s).sub (.string t) =
        .string (String.ofList (s.toList.take i) ++ String.ofList (s.toList.drop (i + t.length))) ∧
      (Value.string s).div (.string t) = .string t := by
  have hlength : t.toList.length = t.length := String.length_toList
  simp [Value.sub, Value.div, Value.stringify, removeFirst, h, hlength]

/-- Behind an occurrence in a text there is a place. -/
theorem isWhole_add_count (hn : s.length ≤ 2 ^ 53) (h : findText t.toList s.toList = some i) :
    IsWhole (Float.ofNat i + Float.ofNat t.length) (i + t.length : Nat) := by
  have hle : i + t.length ≤ s.length := add_length_le_of_findText h
  have hx := isWhole_ofNat (n := i) (by omega)
  have hy := isWhole_ofNat (n := t.length) (by omega)
  rw [IsWhole, ofWhole_natCast] at hx hy ⊢
  have hsum : IsRatio ((i : ℚ) + t.length) := by
    rw [← Nat.cast_add]
    exact isRatio_natCast (by omega)
  rw [Nat.cast_add]
  exact value?_add_of_isRatio hx hy hsum

end Values

/-- The operators on texts and the functions on them agree on the first occurrence: what is shared
is the text that is looked for, and what is left is what `substr` takes before and behind the place
that `index` tells.  From any start on, `index` tells the first place from which `substr` takes the
text. -/
theorem text_operators_agree :
    (∀ (receiver : Value) (s t : String), s.length ≤ 2 ^ 53 → ∃ x : Float,
      LibraryFunction.index.call receiver [.string s, .string t] = .ok (.number x) ∧
      (x = -1.0 → (Value.string s).sub (.string t) = .string s ∧
        (Value.string s).div (.string t) = .string "") ∧
      (x ≠ -1.0 → (Value.string s).div (.string t) = .string t ∧
        LibraryFunction.substr.call receiver
          [.string s, .number x, .ofNat (Value.string t).count] = .ok (.string t) ∧
        ∃ u v : String,
          LibraryFunction.substr.call receiver [.string s, .number 0.0, .number x] =
            .ok (.string u) ∧
          LibraryFunction.substr.call receiver
            [.string s, (Value.number x).add (.ofNat (Value.string t).count)] = .ok (.string v) ∧
          (Value.string s).sub (.string t) = .string (u ++ v))) ∧
    ∀ (receiver : Value) (s t : String) (start : Value), s.length ≤ 2 ^ 53 →
      let first := max 0 (min ((givenWhole [.string s, .string t, start] 2).getD 0) s.length)
      let occurs (i : Nat) := first ≤ i ∧ LibraryFunction.substr.call receiver
        [.string s, .ofNat i, .ofNat (Value.string t).count] = .ok (.string t)
      let found := LibraryFunction.index.call receiver [.string s, .string t, start]
      (∃ i, IsLeast {i | occurs i} i ∧ found = .ok (.ofNat i)) ∨
        (∀ i, ¬occurs i) ∧ found = .ok (.number (-1.0)) := by
  refine ⟨fun receiver s t hn => ?_, fun receiver s t start hn => ?_⟩
  · have hcall : LibraryFunction.index.call receiver [.string s, .string t] =
        .ok ((findText t.toList s.toList).elim (.number (-1.0)) .ofNat) := by
      rw [call_index]
      simp [LibraryFunction.textArgument, LibraryFunction.wholeArgument, LibraryFunction.argument,
        Value.stringify, indexIn, searchStart]
    cases h : findText t.toList s.toList with
    | none =>
      rw [h] at hcall
      exact ⟨-1.0, hcall, fun _ => sub_div_of_findText_eq_none h, fun hne => absurd rfl hne⟩
    | some i =>
      rw [h] at hcall
      obtain ⟨hsub, hdiv⟩ := sub_div_of_findText h
      have hplace := isPlace_ofNat (n := s.length) hn i
      refine ⟨Float.ofNat i, hcall, fun hne => absurd hne (ofNat_ne_neg_one i), fun _ =>
        ⟨hdiv, (call_substr_eq_iff receiver hn).mpr (standsAt_of_findText h), _, _,
          call_substr_between receiver hn (isPlace_of_isWhole isWhole_zero) hplace,
          call_substr_from receiver hn (isPlace_of_isWhole (isWhole_add_count hn h)), hsub⟩⟩
  · intro first occurs found
    have hfirst : (searchStart s.length
        (LibraryFunction.wholeArgument [.string s, .string t, start] 2) : WithBot (WithTop ℤ)) =
          first := searchStart_eq hn (rel_wholeArgument _ 2)
    have hoccurs : ∀ i, occurs i ↔ searchStart s.length
        (LibraryFunction.wholeArgument [.string s, .string t, start] 2) ≤ i ∧
          StandsAt t.toList s.toList i := by
      intro i
      rw [← natCast_le_iff, hfirst, ← call_substr_eq_iff receiver hn]
    have hcall := call_index receiver [.string s, .string t, start]
    cases h : indexIn s.toList t.toList
      (LibraryFunction.wholeArgument [.string s, .string t, start] 2) with
    | none =>
      refine .inr ⟨fun i hi => ?_, hcall.trans (congrArg _ (congrArg (Option.elim · _ _) h))⟩
      obtain ⟨hle, hstands⟩ := (hoccurs i).mp hi
      exact indexIn_eq_none h hle hstands
    | some i =>
      refine .inl ⟨i, ?_, hcall.trans (congrArg _ (congrArg (Option.elim · _ _) h))⟩
      simp only [hoccurs]
      exact indexIn_eq_some h

/-- Occurrences that overlap, and a search that starts with a fraction. -/
theorem text_operators_agree_overlapping :
    let s := "añañañ"
    let t := "ñañ"
    s.length ≤ 2 ^ 53 ∧ Float.ofNat 1 ≠ -1.0 ∧
      LibraryFunction.index.call .undefined [.string s, .string t] = .ok (.ofNat 1) ∧
      (∃ u v : String, LibraryFunction.substr.call .undefined
          [.string s, .number 0.0, .ofNat 1] = .ok (.string u) ∧
        LibraryFunction.substr.call .undefined
          [.string s, (Value.ofNat 1).add (.ofNat (Value.string t).count)] = .ok (.string v) ∧
        (Value.string s).sub (.string t) = .string (u ++ v)) ∧
      (LibraryFunction.index.call .undefined [.string s, .string t, .number 2.5] =
          .ok (.number (-1.0)) ∨
        ∃ i, 2 ≤ i ∧ LibraryFunction.index.call .undefined [.string s, .string t, .number 2.5] =
          .ok (.ofNat i)) := by
  intro s t
  have hsize : s.length ≤ 2 ^ 53 := by decide
  have hplace : indexIn s.toList t.toList none = some 1 := by decide
  have hindex : LibraryFunction.index.call .undefined [.string s, .string t] = .ok (.ofNat 1) :=
    (call_index _ _).trans (congrArg _ (congrArg (Option.elim · _ _) hplace))
  obtain ⟨x, hx, -, hfound⟩ := text_operators_agree.1 .undefined s t hsize
  rw [hindex] at hx
  cases hx
  have hparts : ofFloat 2.5 = .finite false (5 * 2 ^ 50) (-51) := by decide
  have hstart : wholeValue 2.5 = (2 : Nat) := by
    rw [wholeValue, hparts]
    norm_num
  refine ⟨hsize, ofNat_ne_neg_one 1, hindex, (hfound (ofNat_ne_neg_one 1)).2.2, ?_⟩
  rcases text_operators_agree.2 .undefined s t (.number 2.5) hsize with ⟨i, hi, hcall⟩ | ⟨-, hcall⟩
  · refine .inr ⟨i, ?_, hcall⟩
    have hgiven : givenWhole [.string s, .string t, .number 2.5] 2 = some (wholeValue 2.5) := rfl
    have hfirst := hi.1.1
    rw [hgiven, Option.getD_some, hstart, min_eq_left (natCast_le_iff.mpr (by decide)),
      max_eq_right (natCast_nonneg 2)] at hfirst
    exact natCast_le_iff.mp hfirst
  · exact .inl hcall

end ExprLang
