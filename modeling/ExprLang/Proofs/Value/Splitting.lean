import ExprLang.Eval.Operators
import ExprLang.Function.Library
import Mathlib.Data.List.Basic

/-!
# ExprLang.Proofs.Value.Splitting

Taking away and intersecting split a value in two.

What an operand takes out of a container is told by a test on items and one on names
(`Value.takes`, `Value.takesName`): `a - b` is the part of `a` that fails the test and `a / b` the
part that passes it (`Value.sub_eq_part`, `Value.div_eq_part`), so that everything else follows from
what is true of parts.  A text loses the first occurrence of another and shares that occurrence with
it.
-/

namespace ExprLang

/-! ## Texts -/

/-- A text is found where it stands. -/
theorem append_of_findText {needle text : List Char} {i : Nat} (h : findText needle text = some i) :
    ∃ u v, text = u ++ needle ++ v ∧ u.length = i := by
  induction text generalizing i with
  | nil =>
    rw [findText] at h
    split at h
    · next hempty =>
      obtain rfl := List.isEmpty_iff.mp hempty
      exact ⟨[], [], rfl, Option.some.inj h⟩
    · cases h
  | cons c text ih =>
    rw [findText] at h
    split at h
    · next hpre =>
      obtain ⟨v, hv⟩ := List.isPrefixOf_iff_prefix.mp hpre
      exact ⟨[], v, hv.symm, Option.some.inj h⟩
    · obtain ⟨j, hj, rfl⟩ := Option.map_eq_some_iff.mp h
      obtain ⟨u, v, rfl, rfl⟩ := ih hj
      exact ⟨c :: u, v, rfl, rfl⟩

/-- Without its first occurrence a text is shorter by just that occurrence. -/
theorem length_removeFirst {needle text : List Char} {i : Nat}
    (h : findText needle text = some i) :
    (removeFirst needle text).length + needle.length = text.length := by
  obtain ⟨u, v, rfl, rfl⟩ := append_of_findText h
  rw [removeFirst, h]
  simp only [List.length_append, List.length_take, List.length_drop]
  omega

theorem removeFirst_of_findText_eq_none {needle text : List Char}
    (h : findText needle text = none) : removeFirst needle text = text := by
  rw [removeFirst, h]

namespace Value

variable {a b : Value}

/-- What a text loses to a value and what it has in common with it make up its length. -/
theorem count_string (s : String) (b : Value) :
    (string s).count = ((string s).sub b).count + ((string s).div b).count := by
  simp only [sub, div, count, stringify, ← String.length_toList, String.toList_ofList]
  cases h : findText b.stringify.toList s.toList with
  | none => simp [removeFirst_of_findText_eq_none h]
  | some i => simpa using (length_removeFirst h).symm

/-! ## Containers -/

/-- Whether a value takes an item out of an array: as one of its own items, by a name whose entry
counts as true, or as the value itself. -/
def takes : Value → Value → Bool
  | array members, item => hasMember false members item
  | map entries, item => entryTruthy entries item.stringify
  | b, item => item.equals b

/-- Whether a value takes the entry under a name out of a map: by an item whose text is the name, by
an entry of that name that counts as true, or by its own text. -/
def takesName : Value → String → Bool
  | array members, name => members.any fun m => m.stringify == name
  | map entries, name => entryTruthy entries name
  | b, name => name == b.stringify

/-- The items of an array that pass a test, or the entries of a map whose names do. -/
def part (a : Value) (item : Value → Bool) (name : String → Bool) : Value :=
  match a with
  | array items => array (items.filter item)
  | map entries => map (entries.filter fun e => name e.1)
  | a => a

theorem sub_eq_part (ha : a.isContainer = true) (hb : b.valueClass ≠ .string) :
    a.sub b = a.part (fun v => !b.takes v) fun n => !b.takesName n := by
  cases a with
  | array items | map entries =>
    cases b with
    | string s => exact absurd rfl hb
    | _ => rfl
  | _ => cases ha

theorem div_eq_part (ha : a.isContainer = true) (hb : b.valueClass ≠ .string) :
    a.div b = a.part b.takes b.takesName := by
  cases a with
  | array items | map entries =>
    cases b with
    | string s => exact absurd rfl hb
    | _ => rfl
  | _ => cases ha

theorem isContainer_part (a : Value) (p : Value → Bool) (p' : String → Bool) :
    (a.part p p').isContainer = a.isContainer := by
  cases a <;> rfl

/-- A part of a part passes both tests. -/
theorem part_part (a : Value) (p q : Value → Bool) (p' q' : String → Bool) :
    (a.part p p').part q q' = a.part (fun v => p v && q v) fun n => p' n && q' n := by
  cases a <;> simp [part, Bool.and_comm]

/-- Nothing passes no test. -/
theorem toArray_part_false (ha : a.isContainer = true) :
    (a.part (fun _ => false) fun _ => false).toArray = [] := by
  cases a with
  | array items | map entries => simp [part, toArray]
  | _ => cases ha

/-- What passes a test and what fails it are all there is. -/
theorem count_part_add (ha : a.isContainer = true) (p : Value → Bool) (p' : String → Bool) :
    a.count = (a.part (fun v => !p v) fun n => !p' n).count + (a.part p p').count := by
  cases a with
  | array items =>
    rw [Nat.add_comm]
    exact List.length_eq_length_filter_add p
  | map entries =>
    rw [Nat.add_comm]
    exact List.length_eq_length_filter_add fun e : String × Value => p' e.1
  | _ => cases ha

/-- A container is split by any operand that is no text: what is left of it and what it has in
common with the operand are its parts by one test, in the order they had; the counts add up, a
second time changes nothing, and the two have nothing in common.  The counts of a text add up too. -/
theorem split_sub_div :
    (∀ a b : Value, a.isContainer = true → b.valueClass ≠ .string →
      a.sub b = a.part (fun v => !b.takes v) (fun n => !b.takesName n) ∧
      a.div b = a.part b.takes b.takesName ∧
      a.count = (a.sub b).count + (a.div b).count ∧
      (a.sub b).sub b = a.sub b ∧ (a.div b).div b = a.div b ∧
      ((a.sub b).div b).toArray = [] ∧ ((a.div b).sub b).toArray = []) ∧
    ∀ (s : String) (b : Value),
      (string s).count = ((string s).sub b).count + ((string s).div b).count := by
  refine ⟨fun a b ha hb => ?_, count_string⟩
  have hsub : ∀ c : Value, c.isContainer = true →
      c.sub b = c.part (fun v => !b.takes v) fun n => !b.takesName n := fun _ hc => sub_eq_part hc hb
  have hdiv : ∀ c : Value, c.isContainer = true → c.div b = c.part b.takes b.takesName :=
    fun _ hc => div_eq_part hc hb
  have hleft : (a.sub b).isContainer = true := by rw [hsub a ha, isContainer_part, ha]
  have hcommon : (a.div b).isContainer = true := by rw [hdiv a ha, isContainer_part, ha]
  refine ⟨hsub a ha, hdiv a ha, ?_, ?_, ?_, ?_, ?_⟩
  · rw [hsub a ha, hdiv a ha]
    exact count_part_add ha _ _
  · rw [hsub _ hleft, hsub a ha, part_part]
    simp
  · rw [hdiv _ hcommon, hdiv a ha, part_part]
    simp
  · rw [hdiv _ hleft, hsub a ha, part_part]
    simpa using toArray_part_false ha
  · rw [hsub _ hcommon, hdiv a ha, part_part]
    simpa using toArray_part_false ha

/-- What is not a number is never taken, and equal items are taken together. -/
theorem split_array_with_repetitions :
    (array [number (0.0 / 0.0), null, boolean true, null]).sub (array [null, number (0.0 / 0.0)]) =
        array [number (0.0 / 0.0), boolean true] ∧
      (array [number (0.0 / 0.0), null, boolean true, null]).div (array [null, number (0.0 / 0.0)]) =
        array [null, null] ∧
      (array [number (0.0 / 0.0), null, boolean true, null]).count = 2 + 2 := by
  obtain ⟨hsub, hdiv, hcount, -⟩ := split_sub_div.1
    (array [number (0.0 / 0.0), null, boolean true, null]) (array [null, number (0.0 / 0.0)]) rfl
    nofun
  have hnan : (array [null, number (0.0 / 0.0)]).takes (number (0.0 / 0.0)) = false := by
    decide +kernel
  have hnull : (array [null, number (0.0 / 0.0)]).takes null = true := rfl
  have htrue : (array [null, number (0.0 / 0.0)]).takes (boolean true) = false := rfl
  have hrest : (array [number (0.0 / 0.0), null, boolean true, null]).sub
      (array [null, number (0.0 / 0.0)]) = array [number (0.0 / 0.0), boolean true] := by
    rw [hsub]
    simp [part, hnan, hnull, htrue]
  have hcommon : (array [number (0.0 / 0.0), null, boolean true, null]).div
      (array [null, number (0.0 / 0.0)]) = array [null, null] := by
    rw [hdiv]
    simp [part, hnan, hnull, htrue]
  rw [hrest, hcommon] at hcount
  exact ⟨hrest, hcommon, hcount⟩

end Value

end ExprLang
