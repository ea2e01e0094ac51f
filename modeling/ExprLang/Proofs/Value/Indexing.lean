import ExprLang.Proofs.Engine.Expressions
import ExprLang.Proofs.Number.Notation
import ExprLang.Proofs.Number.Truncation
import ExprLang.Value.Property

/-!
# ExprLang.Proofs.Value.Indexing

The items of an array under numbers.

A number that is a key goes by its text, and an array looks for an item only if the text has digits
and nothing else.  A whole number is written out without a point and an exponent up to `1e21`, and
exactly up to `2 ^ 53` (`indexOf?_of_isWhole`).  The other way round, a text of digits denotes what
is nearest to the number it was made from, so that up to `2 ^ 53` it is the number
(`isWhole_of_indexOf?`).  An array of up to `2 ^ 53` items thus has, under every number, the item at
that place and no other.
-/

namespace ExprLang

open Binary

/-! ## Texts of digits -/

namespace Numeral

/-- A numeral with nothing but digits in its text has neither a point nor an exponent. -/
theorem of_all_chars {n : Numeral} (h : n.chars.all isDecimalDigit = true) :
    n.fraction = [] ∧ n.exponent = none := by
  rw [chars, List.all_append, List.all_append, Bool.and_eq_true, Bool.and_eq_true] at h
  obtain ⟨-, hfraction, hexponent⟩ := h
  constructor
  · cases hn : n.fraction with
    | nil => rfl
    | cons c l =>
      rw [hn] at hfraction
      cases hfraction
  · cases hn : n.exponent with
    | none => rfl
    | some p =>
      rw [hn] at hexponent
      cases hexponent

theorem value_of_all_chars {n : Numeral} (h : n.chars.all isDecimalDigit = true) :
    n.value = decimalNat n.chars := by
  obtain ⟨hfraction, hexponent⟩ := of_all_chars h
  rw [value, chars, scale, hfraction, hexponent]
  simp [pointed, marked, power]

end Numeral

/-- A decimal that is a whole number below `1e21` is written with digits alone. -/
theorem layoutDecimal_whole {d : ShortDecimal} (hcount : d.count ≤ d.exponent + 1)
    (hexponent : d.exponent ≤ 20) : layoutDecimal d ≠ [] ∧
      (layoutDecimal d).all isDecimalDigit = true ∧ (decimalNat (layoutDecimal d) : ℚ) = d.value := by
  have hlayout : layoutDecimal d =
      digitChars d.digits ++ List.replicate (d.exponent + 1 - d.count).toNat '0' := by
    rw [layoutDecimal]
    exact if_pos ⟨hcount, by omega⟩
  rw [hlayout, List.all_append, all_digitChars, all_zeros, decimalNat_zeros, decimalNat_digitChars,
    ShortDecimal.value]
  refine ⟨List.append_ne_nil_of_left_ne_nil (digitChars_ne_nil _) _, rfl, ?_⟩
  push_cast
  rw [← zpow_natCast]
  congr 2
  omega

/-! ## Whole numbers -/

section Whole

variable {m i : Nat} {e : Int} {k : Float}

open Shortest in
/-- The shortest decimal of a whole number is the number, and its digits end before the point. -/
theorem shortestDecimal_whole (h : Canonical m e) (hvalue : (m : ℚ) * 2 ^ e = i) (hi : i < 2 ^ 53) :
    (shortestDecimal m e).count ≤ (shortestDecimal m e).exponent + 1 ∧
      (shortestDecimal m e).value = i := by
  obtain ⟨hfirst, hnext⟩ := magnitude_interval h
  rw [hvalue] at hfirst hnext
  have hi' : (i : ℚ) < 2 ^ 53 := by exact_mod_cast hi
  have hone : (1 : ℚ) ≤ i := by
    have hpos : (0 : ℚ) < i := hvalue ▸ mul_pos (by exact_mod_cast h.pos) (by positivity)
    exact_mod_cast hpos
  have hlow : 0 < magnitude (interval m e) + 1 :=
    (zpow_lt_zpow_iff_right₀ (a := (10 : ℚ)) (by norm_num)).mp (by simpa using hone.trans_lt hnext)
  have hhigh : magnitude (interval m e) < 16 :=
    (zpow_lt_zpow_iff_right₀ (a := (10 : ℚ)) (by norm_num)).mp
      (hfirst.trans_lt (hi'.trans (by norm_num)))
  obtain ⟨c, hc⟩ := Int.eq_ofNat_of_zero_le hlow.le
  have hcandidate : ∃ q, candidate? (interval m e) (magnitude (interval m e)) c = some q := by
    have hplace : magnitude (interval m e) - c + 1 = 0 := by omega
    obtain ⟨hle, hlt⟩ := below_spec m e 0
    rw [zpow_zero, mul_one, hvalue] at hle hlt
    have hbelow : below (interval m e) 0 = i := by
      have hle' : below (interval m e) 0 ≤ i := by exact_mod_cast hle
      have hlt' : i < below (interval m e) 0 + 1 := by exact_mod_cast hlt
      omega
    refine exists_candidate? (.inl ?_)
    rw [hplace, hbelow, holds_iff h.pos, zpow_zero, mul_one, ← hvalue]
    exact near_self m e
  obtain ⟨hproper, hnear, hplace⟩ := shortestDecimal_of_candidate h (by omega) (by omega) hcandidate
  have hcount : (shortestDecimal m e).count ≤ (shortestDecimal m e).exponent + 1 := by omega
  refine ⟨hcount, ?_⟩
  obtain ⟨n, hn⟩ : ∃ n : Nat, (shortestDecimal m e).value = n := by
    obtain ⟨j, hj⟩ := Int.eq_ofNat_of_zero_le
      (show 0 ≤ (shortestDecimal m e).exponent - (shortestDecimal m e).count + 1 by omega)
    refine ⟨(shortestDecimal m e).digits * 10 ^ j, ?_⟩
    rw [ShortDecimal.value, hj]
    push_cast
    rfl
  rw [hn] at hnear ⊢
  have hsmall : n ≤ 2 ^ 53 := by
    by_contra hlarge
    have hge := (bounds_of_near h.rounded hnear (isRatio_natCast le_rfl)).2
      (by exact_mod_cast (not_le.mp hlarge).le)
    rw [hvalue] at hge
    exact absurd (by exact_mod_cast hge) (not_le.mpr hi)
  rw [← hvalue, hnear.eq_of_isRatio h.rounded (isRatio_natCast hsmall)]

theorem indexOf?_eq_some_iff {key : String} : Value.indexOf? key = some i ↔
    key.toList ≠ [] ∧ key.toList.all isDecimalDigit = true ∧ decimalNat key.toList = i := by
  rw [Value.indexOf?, Option.ite_none_right_eq_some, Option.some.injEq, and_assoc]

/-- A whole number names its place by its text. -/
theorem indexOf?_of_isWhole (hk : IsWhole k i) (hi : i < 2 ^ 53) :
    Value.indexOf? (formatNumber k) = some i := by
  rcases hk.parts with ⟨rfl, negative, e, h⟩ | ⟨m, e, h, hm, hvalue⟩
  · have htext : formatNumber k = "0" := by
      rw [formatNumber, h]
      exact if_pos rfl
    rw [htext]
    decide
  · have hc := canonical_of_ofFloat h hm
    obtain ⟨hcount, hdecimal⟩ := shortestDecimal_whole hc hvalue hi
    have hexponent : (shortestDecimal m e).exponent ≤ 20 := by
      have hfirst := (shortestDecimal_spec hc).1.value_bounds.1
      have hi' : (i : ℚ) < 2 ^ 53 := by exact_mod_cast hi
      rw [hdecimal] at hfirst
      have := (zpow_lt_zpow_iff_right₀ (a := (10 : ℚ)) (n := 16) (by norm_num)).mp
        (hfirst.trans_lt (hi'.trans (by norm_num)))
      omega
    obtain ⟨hne, hall, hnat⟩ := layoutDecimal_whole hcount hexponent
    have htext : (formatNumber k).toList = layoutDecimal (shortestDecimal m e) := by
      rw [formatNumber, h]
      dsimp only
      rw [if_neg hm.ne', if_neg (by decide), String.toList_ofList]
    rw [indexOf?_eq_some_iff, htext]
    rw [hdecimal] at hnat
    exact ⟨hne, hall, by exact_mod_cast hnat⟩

/-- A text that names a place is that of the whole number. -/
theorem isWhole_of_indexOf? (h : Value.indexOf? (formatNumber k) = some i) (hi : i ≤ 2 ^ 53) :
    IsWhole k i := by
  cases hk : ofFloat k with
  | nan =>
    have htext : Value.indexOf? (formatNumber (0.0 / 0.0)) = none := by decide
    rw [eq_of_ofFloat_eq_nan hk, htext] at h
    cases h
  | infinite negative =>
    have htext : ∀ negative : Bool, Value.indexOf?
        (formatNumber (if negative then -1.0 / 0.0 else 1.0 / 0.0)) = none := by decide
    rw [eq_of_ofFloat_eq_infinite hk, htext] at h
    cases h
  | finite negative m e =>
    rcases Nat.eq_zero_or_pos m with rfl | hm
    · have htext : formatNumber k = "0" := by
        rw [formatNumber, hk]
        exact if_pos rfl
      have hzero : Value.indexOf? "0" = some 0 := by decide
      rw [htext, hzero] at h
      cases h
      rw [IsWhole, hk, ofWhole_natCast, value?, Nat.cast_zero, zero_mul]
      cases negative <;> simp [signed]
    · obtain ⟨n, htext, hvalue, -⟩ := exists_numeral_of_ne_zero hk hm.ne'
      obtain ⟨-, hall, hnat⟩ := indexOf?_eq_some_iff.mp h
      rw [htext, List.all_append, Bool.and_eq_true] at hall
      cases negative with
      | true => exact absurd hall.1 (by decide)
      | false =>
        have hc := canonical_of_ofFloat hk hm
        have hnear := (shortestDecimal_spec hc).2
        have hdigits : decimalNat n.chars = i := by rwa [htext] at hnat
        rw [← hvalue, n.value_of_all_chars hall.2, hdigits] at hnear
        rw [IsWhole, hk, ofWhole_natCast, value?,
          hnear.eq_of_isRatio hc.rounded (isRatio_natCast hi)]
        rfl

theorem isWhole_iff_beq (hi : i ≤ 2 ^ 53) : IsWhole k i ↔ (k == Float.ofNat i) = true := by
  cases hk : (ofFloat k).value? with
  | none =>
    refine iff_of_false (fun h => ?_) (fun h => ?_)
    · rw [IsWhole, hk] at h
      cases h
    · have hself := float_beq_trans h (float_beq_comm k (Float.ofNat i) ▸ h)
      exact float_beq_self_iff.mp hself (eq_nan_of_value? hk)
  | some a =>
    rw [IsWhole, hk, float_eq_iff hk (isWhole_ofNat hi), Option.some.injEq]

/-- Up to `2 ^ 53` a number names the place that it equals, and no other. -/
theorem indexOf?_formatNumber (hi : i < 2 ^ 53) :
    Value.indexOf? (formatNumber k) = some i ↔ (k == Float.ofNat i) = true := by
  rw [← isWhole_iff_beq hi.le]
  exact ⟨fun h => isWhole_of_indexOf? h hi.le, fun h => indexOf?_of_isWhole h hi⟩

end Whole

/-! ## Items -/

section Items

variable {items : List Value} {k : Float}

theorem formatNumber_ne_length (k : Float) : formatNumber k ≠ "length" := by
  intro h
  have hread := Value.parseNumber_formatNumber k
  have hnan : parseNumber "length".toList = 0.0 / 0.0 := by decide
  rw [h, hnan] at hread
  split at hread
  · exact absurd hread (by decide)
  · rw [← hread] at h
    exact absurd h (by decide)

namespace Value

/-- The item under a number, or undefined. -/
theorem property?_array_number (items : List Value) (k : Float) :
    ((array items).property? (number k).stringify).getD undefined =
      ((indexOf? (formatNumber k)).bind fun i => items[i]?).getD undefined := by
  rw [stringify, property?, if_neg (formatNumber_ne_length k)]

theorem property?_of_beq {i : Nat} (hlength : items.length ≤ 2 ^ 53) (hi : i < items.length)
    (hk : (k == Float.ofNat i) = true) :
    ((array items).property? (number k).stringify).getD undefined = items[i] := by
  rw [property?_array_number, (indexOf?_formatNumber (hi.trans_le hlength)).mpr hk,
    Option.bind_some, List.getElem?_eq_getElem hi, Option.getD_some]

theorem property?_of_forall_beq (hlength : items.length ≤ 2 ^ 53)
    (hk : ∀ i < items.length, (k == Float.ofNat i) = false) :
    ((array items).property? (number k).stringify).getD undefined = undefined := by
  rw [property?_array_number]
  cases hindex : indexOf? (formatNumber k) with
  | none => rfl
  | some i =>
    have hi : items.length ≤ i := by
      by_contra hlt
      have hlt := not_le.mp hlt
      have hbeq := (indexOf?_formatNumber (hlt.trans_le hlength)).mp hindex
      rw [hk i hlt] at hbeq
      cases hbeq
    rw [Option.bind_some, List.getElem?_eq_none hi, Option.getD_none]

end Value

end Items

/-! ## Texts -/

namespace Node

/-- The form of `a[k]`. -/
def indexesArray : Node → Bool
  | .select _ (.var _ a) [⟨.var _ k, false, _⟩] => a == "a" && k == "k"
  | _ => false

/-- The forms of `a.length` and `a["length"]`. -/
def asksLength : Node → Bool
  | .select _ (.var _ a) [⟨.identifier _ key, false, _⟩]
  | .select _ (.var _ a) [⟨.string _ key, false, _⟩] => a == "a" && key == "length"
  | _ => false

section Has

variable {σ : Type} {s : Surroundings σ} {state : Bag} {tree : Node} {items : List Value}
  {v w : Value}

theorem has_of_indexesArray (h : tree.indexesArray = true)
    (ha : Scope.lookup ⟨s.vars, state⟩ "a" = some (.array items))
    (hk : Scope.lookup ⟨s.vars, state⟩ "k" = some v)
    (hw : ((Value.array items).property? v.stringify).getD .undefined = w) :
    tree.Has s state w := by
  unfold indexesArray at h
  split at h
  · simp only [Bool.and_eq_true, beq_iff_eq] at h
    obtain ⟨rfl, rfl⟩ := h
    exact has_select _ _ (has_var _ ha) rfl (has_var _ hk) hw
  · cases h

theorem has_of_asksLength (h : tree.asksLength = true)
    (ha : Scope.lookup ⟨s.vars, state⟩ "a" = some (.array items)) :
    tree.Has s state (.ofNat items.length) := by
  unfold asksLength at h
  split at h
  · simp only [Bool.and_eq_true, beq_iff_eq] at h
    obtain ⟨rfl, rfl⟩ := h
    exact has_select _ _ (has_var _ ha) rfl (has_identifier _ _) rfl
  · simp only [Bool.and_eq_true, beq_iff_eq] at h
    obtain ⟨rfl, rfl⟩ := h
    exact has_select _ _ (has_var _ ha) rfl (has_string _ _) rfl
  · cases h

end Has

end Node

open Value

/-- Under a number that equals the place of an item an array has that item, and under every other
number undefined; under `length` it has the number of its items.  Beyond `2 ^ 53` items there are
whole numbers that a number cannot equal. -/
theorem array_index_exact :
    (∀ (items : List Value) (k : Float), items.length ≤ 2 ^ 53 →
      (∀ i (hi : i < items.length), (k == Float.ofNat i) = true →
        ((array items).property? (number k).stringify).getD undefined = items[i]) ∧
      ((∀ i < items.length, (k == Float.ofNat i) = false) →
        ((array items).property? (number k).stringify).getD undefined = undefined) ∧
      (array items).property? "length" = some (ofNat items.length)) ∧
    ∀ {σ : Type} (o : Options) (calls : Host σ) (host host' : σ) (history : List Call)
      (functions : Registry) (vars state : Bag) (items : List Value) (k : Float),
      2 ≤ o.maxDepth → items.length ≤ 2 ^ 53 →
      Scope.lookup ⟨vars, state⟩ "a" = some (.array items) →
      Scope.lookup ⟨vars, state⟩ "k" = some (.number k) →
      let value (text : String) := ((Engine.afterCalls o calls host history functions).evaluate text
        calls vars state host').1.result
      (∀ i (hi : i < items.length), (k == Float.ofNat i) = true →
        value "a[k]" = .ok items[i]) ∧
      ((∀ i < items.length, (k == Float.ofNat i) = false) → value "a[k]" = .ok undefined) ∧
      value "a.length" = .ok (ofNat items.length) ∧
      value "a[\"length\"]" = .ok (ofNat items.length) := by
  refine ⟨fun items k hlength => ⟨fun i hi => property?_of_beq hlength hi,
    property?_of_forall_beq hlength, rfl⟩, ?_⟩
  intro σ o calls host host' history functions vars state items k hdepth hlength ha hk value
  have hvalue : ∀ {text : String} {form : Node → Bool} {v : Value},
      (parseWithin 2 text).toOption.any form = true →
      (∀ tree, form tree = true → tree.Has ⟨vars, functions, calls⟩ state v) →
      value text = .ok v := by
    intro text form v hform hhas
    obtain ⟨tree, hparse, htree⟩ := exists_parseWithin_of_any hform hdepth
    exact Engine.result_evaluate hparse (hhas tree htree) host host' history
  have hindex : ∀ {v : Value}, ((array items).property? (number k).stringify).getD undefined = v →
      value "a[k]" = .ok v := by
    intro v hv
    have hform : (parseWithin 2 "a[k]").toOption.any Node.indexesArray = true := by decide +kernel
    exact hvalue hform fun tree h => Node.has_of_indexesArray h ha hk hv
  have hname : (parseWithin 2 "a.length").toOption.any Node.asksLength = true := by decide +kernel
  have hkey : (parseWithin 2 "a[\"length\"]").toOption.any Node.asksLength = true := by
    decide +kernel
  exact ⟨fun i hi hbeq => hindex (property?_of_beq hlength hi hbeq),
    fun hnone => hindex (property?_of_forall_beq hlength hnone),
    hvalue hname fun tree h => Node.has_of_asksLength h ha,
    hvalue hkey fun tree h => Node.has_of_asksLength h ha⟩

/-- The zero with a sign is the first place, and half a number is no place. -/
theorem array_index_exact_zero :
    let items : List Value := [.null, .boolean true]
    let vars (k : Float) : Bag := [("a", .array items), ("k", .number k)]
    let value (k : Float) (text : String) := ((Engine.afterCalls .standard .none () []
      .standard).evaluate text .none (vars k) [] ()).1.result
    value (-0.0) "a[k]" = .ok .null ∧ value 0.5 "a[k]" = .ok .undefined ∧
      value (-1.0) "a[k]" = .ok .undefined ∧ value (0.0 / 0.0) "a[k]" = .ok .undefined ∧
      value 0.5 "a.length" = .ok (.number 2.0) := by
  intro items vars value
  have htexts := fun k => array_index_exact.2 .standard .none () () [] .standard (vars k) [] items k
    (by decide) (by decide) rfl rfl
  have hother : ∀ {k : Float}, (∀ i < 2, (k == Float.ofNat i) = false) →
      value k "a[k]" = .ok .undefined := fun h => (htexts _).2.1 h
  have htwo : Float.ofNat 2 = 2.0 := by decide
  refine ⟨(htexts (-0.0)).1 0 (by decide) (by decide), hother (by decide), hother (by decide),
    hother (by decide), ?_⟩
  rw [← htwo]
  exact (htexts 0.5).2.2.1

end ExprLang
