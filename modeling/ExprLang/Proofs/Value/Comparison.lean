import ExprLang.Proofs.Text.Collation
import ExprLang.Proofs.Value.Equality

/-!
# ExprLang.Proofs.Value.Comparison

The laws of comparison.

Two containers are compared by whether each is part of the other (`compare_containers`), so their
comparisons are those of a preorder: all that is missing is `a <= a`, which fails where `a` holds what
is not a number.  Texts are compared as they are collated and everything else as numbers, and what a
comparison says of two values its converse says of them in the other order.
-/

namespace ExprLang

open Value

variable {a b c : Value} {keyed : Bool}

/-! ## Containers -/

/-- A comparison of sets by whether the first is part of the second and the second part of the
first. -/
def RelationalOp.onSets (op : RelationalOp) (subset superset : Bool) : Bool :=
  match op with
  | .eq => subset && superset
  | .neq => !(subset && superset)
  | .le => subset
  | .lt => subset && !superset
  | .ge => superset
  | _ => superset && !subset

/-- Whether the members of two containers are compared by their texts: names of maps are. -/
def Value.keyedWith (a b : Value) : Bool := a.valueClass != .array || b.valueClass != .array

/-- Whether the members of a container are members of another. -/
def Value.partOf (a b : Value) : Bool := isSubset (a.keyedWith b) a.toArray b.toArray

theorem keyedWith_comm (a b : Value) : a.keyedWith b = b.keyedWith a := Bool.or_comm _ _

theorem isContainer_eq_of_valueClass (h : a.valueClass = b.valueClass) :
    a.isContainer = b.isContainer := by
  have hclass : ∀ v : Value, v.isContainer = (v.valueClass == .array || v.valueClass == .object) := by
    intro v
    cases v <;> rfl
  rw [hclass, hclass, h]

theorem compare_containers (ha : a.isContainer = true) (hb : b.isContainer = true)
    (op : RelationalOp) : op.compare a b = op.onSets (a.partOf b) (b.partOf a) := by
  rw [partOf, partOf, keyedWith_comm b a]
  cases a with
  | array as | map es =>
    cases b with
    | array bs | map fs => cases op <;> rfl
    | _ => cases hb
  | _ => cases ha

theorem partOf_trans (hb : b.valueClass = a.valueClass) (hc : c.valueClass = a.valueClass)
    (h : a.partOf b = true) (h' : b.partOf c = true) : a.partOf c = true := by
  rw [partOf, keyedWith, hb] at h
  rw [partOf, keyedWith, hb, hc] at h'
  rw [partOf, keyedWith, hc]
  exact isSubset_trans h h'

/-! ## Texts and numbers -/

theorem exists_string_of_valueClass (h : a.valueClass = .string) : ∃ s, a = .string s := by
  cases a with
  | string s => exact ⟨s, rfl⟩
  | _ => cases h

theorem compare_string_swap (s t : String) :
    RelationalOp.le.compare (.string s) (.string t) = RelationalOp.ge.compare (.string t) (.string s) ∧
    RelationalOp.lt.compare (.string s) (.string t) = RelationalOp.gt.compare (.string t) (.string s) := by
  have hswap := (collate_eq ▸ ordersTexts_of_lawful : OrdersTexts collate).swap s.toList t.toList
  simp only [RelationalOp.compare_string, RelationalOp.onTexts, hswap]
  cases collate s.toList t.toList <;> exact ⟨rfl, rfl⟩

/-- Values that are no texts are compared as numbers unless both are containers. -/
theorem compareValues_eq (ha : a.valueClass ≠ .string) (hb : b.valueClass ≠ .string)
    (h : (a.isContainer && b.isContainer) = false) (op : RelationalOp) :
    compareValues op a b = compareNumbers op a b := by
  cases a with
  | string s => exact absurd rfl ha
  | array as | map es =>
    cases b with
    | string t => exact absurd rfl hb
    | array bs | map fs => cases h
    | _ => rfl
  | _ =>
    cases b with
    | string t => exact absurd rfl hb
    | _ => rfl

/-- What a comparison of two values says, its converse says of them in the other order, if both are
texts or neither is. -/
theorem compare_swap (h : a.valueClass = .string ↔ b.valueClass = .string) :
    RelationalOp.le.compare a b = RelationalOp.ge.compare b a ∧
    RelationalOp.lt.compare a b = RelationalOp.gt.compare b a := by
  by_cases ha : a.valueClass = .string
  · obtain ⟨s, rfl⟩ := exists_string_of_valueClass ha
    obtain ⟨t, rfl⟩ := exists_string_of_valueClass (h.mp ha)
    exact compare_string_swap s t
  have hb := mt h.mpr ha
  cases hboth : a.isContainer && b.isContainer with
  | true =>
    rw [Bool.and_eq_true] at hboth
    simp only [compare_containers hboth.1 hboth.2, compare_containers hboth.2 hboth.1]
    exact ⟨rfl, rfl⟩
  | false =>
    have hboth' : (b.isContainer && a.isContainer) = false := by rwa [Bool.and_comm]
    simp only [RelationalOp.compare, compareValues_eq ha hb hboth, compareValues_eq hb ha hboth']
    exact ⟨rfl, rfl⟩

/-! ## Laws -/

/-- The comparisons of containers are those of a preorder but for `a <= a`: each has a converse,
equality is `<=` both ways and `<` is `<=` without equality; among arrays, and among maps, `<=` is
transitive and `<` is transitive and never holds of a container and itself.  The converses are such
of all values that are both texts or both none. -/
theorem comparison_laws :
    (∀ a b : Value, a.isContainer = true → b.isContainer = true →
      RelationalOp.le.compare a b = RelationalOp.ge.compare b a ∧
      RelationalOp.lt.compare a b = RelationalOp.gt.compare b a ∧
      RelationalOp.eq.compare a b = RelationalOp.eq.compare b a ∧
      RelationalOp.eq.compare a b =
        (RelationalOp.le.compare a b && RelationalOp.ge.compare a b) ∧
      RelationalOp.lt.compare a b =
        (RelationalOp.le.compare a b && !RelationalOp.eq.compare a b)) ∧
    (∀ a b c : Value, a.isContainer = true → b.valueClass = a.valueClass →
      c.valueClass = a.valueClass →
      RelationalOp.lt.compare a a = false ∧
      (RelationalOp.le.compare a b = true → RelationalOp.le.compare b c = true →
        RelationalOp.le.compare a c = true) ∧
      (RelationalOp.lt.compare a b = true → RelationalOp.lt.compare b c = true →
        RelationalOp.lt.compare a c = true)) ∧
    ∀ a b : Value, (a.valueClass = .string ↔ b.valueClass = .string) →
      RelationalOp.le.compare a b = RelationalOp.ge.compare b a ∧
      RelationalOp.lt.compare a b = RelationalOp.gt.compare b a := by
  refine ⟨fun a b ha hb => ?_, fun a b c ha hb hc => ?_, fun a b h => compare_swap h⟩
  · simp only [compare_containers ha hb, compare_containers hb ha]
    cases a.partOf b <;> cases b.partOf a <;> exact ⟨rfl, rfl, rfl, rfl, rfl⟩
  · have hcontainer : ∀ d : Value, d.valueClass = a.valueClass → d.isContainer = true := by
      intro d hd
      rwa [isContainer_eq_of_valueClass hd]
    simp only [compare_containers ha ha, compare_containers ha (hcontainer b hb),
      compare_containers (hcontainer b hb) (hcontainer c hc), compare_containers ha (hcontainer c hc),
      RelationalOp.onSets, Bool.and_eq_true, Bool.not_eq_true', Bool.and_not_self, true_and]
    refine ⟨partOf_trans hb hc, fun h h' => ⟨partOf_trans hb hc h.1 h'.1, ?_⟩⟩
    -- if the last were part of the first it would be part of the second
    refine Bool.eq_false_iff.mpr fun hback => ?_
    exact absurd (partOf_trans hc.symm (hb.trans hc.symm) hback h.1) (Bool.eq_false_iff.mp h'.2)

/-- Three arrays, the greatest of which holds what is not a number and is not even less than or
equal to itself. -/
theorem comparison_laws_nan :
    let a := Value.array [.number 1]
    let b := Value.array [.string "1", .number 1]
    let c := Value.array [.number 1, .string "1", .array [.number (0.0 / 0.0)]]
    a.isContainer = true ∧ b.valueClass = a.valueClass ∧ c.valueClass = a.valueClass ∧
      RelationalOp.lt.compare a b = true ∧ RelationalOp.lt.compare b c = true ∧
      RelationalOp.lt.compare a c = true ∧ RelationalOp.le.compare c c = false := by
  intro a b c
  have hab : RelationalOp.lt.compare a b = true := by decide
  have hbc : RelationalOp.lt.compare b c = true := by decide
  have hc : RelationalOp.le.compare c c = false := by decide
  exact ⟨rfl, rfl, rfl, hab, hbc, (comparison_laws.2.1 a b c rfl rfl rfl).2.2 hab hbc, hc⟩

end ExprLang
