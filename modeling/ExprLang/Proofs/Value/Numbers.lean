import ExprLang.Proofs.Number.Reading
import ExprLang.Value.Conversion

/-!
# ExprLang.Proofs.Value.Numbers

The number of an array.

An array is turned into a number by its text.  The text of a single item is the item's own, and where
that reads back as the item the array has the item's number (`Value.parseNumber_stringify`): not for
undefined, whose text is empty, and not for truth values, whose texts are words.  The texts of several
items have a comma between them, which no number has.
-/

namespace ExprLang.Value

/-- The number of the text of a number: the number, or the zero without a sign. -/
theorem parseNumber_formatNumber (x : Float) :
    parseNumber (formatNumber x).toList = if x = -0.0 then 0.0 else x := by
  cases h : Binary.ofFloat x with
  | nan =>
    obtain rfl := Binary.eq_of_ofFloat_eq_nan h
    decide
  | infinite negative =>
    obtain rfl := Binary.eq_of_ofFloat_eq_infinite h
    cases negative <;> decide
  | finite negative m e =>
    obtain ⟨negative, n, y, htext, hread, hy⟩ := exists_numeral_formatNumber h
    rw [htext, parseNumber_of_readDecimal hread, hy]

/-- No number has a comma, a slash or a bracket in its text. -/
theorem not_mem_numberChars : ',' ∉ numberChars ∧ '/' ∉ numberChars ∧ '[' ∉ numberChars := by
  decide

theorem stringify_singleton (x : Value) : (array [x]).stringify = x.stringify := by
  simp [stringify, stringifyAll]

theorem toNumber_singleton (x : Value) :
    (array [x]).toNumber = parseNumber x.stringify.toList := by
  rw [toNumber, stringify_singleton]

theorem mem_intercalate (x y : Value) (items : List Value) :
    ',' ∈ (array (x :: y :: items)).stringify.toList := by
  simp [stringify, stringifyAll]

/-- The number of the text of a value is that of the value. -/
theorem parseNumber_stringify {x : Value} (hundefined : x ≠ undefined)
    (hboolean : ∀ b, x ≠ boolean b) (hzero : x ≠ number (-0.0)) :
    parseNumber x.stringify.toList = x.toNumber := by
  cases x with
  | undefined => exact absurd rfl hundefined
  | boolean b => exact absurd rfl (hboolean b)
  | number x =>
    have hx : x ≠ -0.0 := fun h => hzero (h ▸ rfl)
    rw [stringify, parseNumber_formatNumber, if_neg hx]
    rfl
  | null | string | array => rfl
  | regexp r =>
    exact parseNumber_eq_nan (c := '/') (by simp [stringify, RegExp.text]) (by decide)
      not_mem_numberChars.2.1
  | map entries =>
    exact parseNumber_eq_nan (c := '[') (by simp [stringify]) (by decide) not_mem_numberChars.2.2
  | function f =>
    exact parseNumber_eq_nan (c := '[') (by simp [stringify]) (by decide) not_mem_numberChars.2.2

/-- Several items are no number. -/
theorem toNumber_several (x y : Value) (items : List Value) :
    (array (x :: y :: items)).toNumber = 0.0 / 0.0 :=
  parseNumber_eq_nan (mem_intercalate x y items) (by decide) not_mem_numberChars.1

/-- An empty array is zero, an array of one item is the number of the item's text, and an array of
more is not a number.  The number of the item's text is that of the item, but for undefined, truth
values and the sign of a zero. -/
theorem toNumber_array :
    (array []).toNumber = 0.0 ∧
    (∀ x : Value, (array [x]).toNumber = parseNumber x.stringify.toList ∧
      (x ≠ undefined → (∀ b, x ≠ boolean b) → x ≠ number (-0.0) →
        (array [x]).toNumber = x.toNumber)) ∧
    (array [undefined]).toNumber = 0.0 ∧ (∀ b, (array [boolean b]).toNumber = 0.0 / 0.0) ∧
    (array [number (-0.0)]).toNumber = 0.0 ∧
    ∀ items : List Value, 2 ≤ items.length → (array items).toNumber = 0.0 / 0.0 := by
  refine ⟨rfl, fun x => ⟨toNumber_singleton x, fun hundefined hboolean hzero => ?_⟩, rfl, fun b => ?_,
    ?_, fun items hitems => ?_⟩
  · rw [toNumber_singleton, parseNumber_stringify hundefined hboolean hzero]
  · cases b <;> decide
  · rw [toNumber_singleton, stringify, parseNumber_formatNumber, if_pos rfl]
  · cases items with
    | nil => simp at hitems
    | cons x items =>
      cases items with
      | nil => simp at hitems
      | cons y items => exact toNumber_several x y items

/-- A nested array with a blank text for a number, and a list of two. -/
theorem toNumber_array_of_text :
    (array [array [string " 0x1F "]]).toNumber = (array [string " 0x1F "]).toNumber ∧
      (array [null, null]).toNumber = 0.0 / 0.0 := by
  obtain ⟨-, hone, -, -, -, hmany⟩ := toNumber_array
  exact ⟨(hone (array [string " 0x1F "])).2 nofun nofun nofun, hmany [null, null] (by decide)⟩

/-- Truth values and undefined are other numbers than the arrays of one of them; there is only one
value that is not a number, so that these are differences. -/
theorem toNumber_singleton_ne : (array [boolean true]).toNumber ≠ (boolean true).toNumber ∧
    (array [undefined]).toNumber ≠ undefined.toNumber := by
  decide

end ExprLang.Value
