import ExprLang.Proofs.Engine.Expressions
import ExprLang.Proofs.Number.Sums
import ExprLang.Proofs.Value.Equality

/-!
# ExprLang.Proofs.Value.Membership

The ways to ask for a member.

Whether a value is among the items of an array can be asked of the function `in`, of the comparison
of sets, and of what an array has in common with the value; each has a definition of its own, and
they look at the pair from either side, so that they agree because equality is symmetric
(`membership_agrees`).  In the same way `<=` asks whether nothing is left of a difference.
-/

namespace ExprLang

open Value

variable {as : List Value} {x : Value}

/-! ## Values -/

/-- A whole number is greater than zero as a value. -/
theorem ofNat_gt_zero (n : Nat) :
    RelationalOp.gt.compare (.ofNat n) (.number 0.0) = decide (0 < n) :=
  decide_eq_decide.mpr Binary.zero_lt_ofNat_iff

theorem le_singleton (as : List Value) (x : Value) :
    RelationalOp.le.compare (.array [x]) (.array as) = containsItem as x :=
  Bool.and_true _

theorem count_filter_pos (p : Value → Bool) (as : List Value) :
    decide (0 < (array (as.filter p)).count) = as.any p := by
  rw [Bool.eq_iff_iff, decide_eq_true_eq, count, List.length_filter_pos_iff, List.any_eq_true]

/-- An array has something in common with a single item if that is one of its items. -/
theorem count_div_singleton (as : List Value) (x : Value) :
    decide (0 < ((array as).div (array [x])).count) = containsItem as x := by
  have hmember : (fun v => hasMember false [x] v) = fun v => v.equals x := by
    funext v
    exact (Bool.or_false _).trans (equals_comm x v)
  rw [div, count_filter_pos, hmember, containsItem]

theorem count_div_scalar (as : List Value) (hx : x.valueClass = .scalar) :
    decide (0 < ((array as).div x).count) = containsItem as x := by
  have hdiv : (array as).div x = array (as.filter fun v => v.equals x) := by
    cases x with
    | string s | array items | map es => cases hx
    | _ => rfl
  rw [hdiv, count_filter_pos, containsItem]

/-- An array is part of another if nothing is left of their difference. -/
theorem array_le_iff (as bs : List Value) :
    RelationalOp.le.compare (.array as) (.array bs) = true ↔ (array as).sub (array bs) = array [] := by
  have hle : RelationalOp.le.compare (.array as) (.array bs) = isSubset false as bs := rfl
  rw [hle, isSubset_iff, sub, array.injEq, List.filter_eq_nil_iff]
  simp only [Bool.not_eq_true', Bool.not_eq_false]

/-- The names of a map are spelled by an array if nothing is left of their difference. -/
theorem map_le_iff (es : Bag) (bs : List Value) :
    RelationalOp.le.compare (.map es) (.array bs) = true ↔ (map es).sub (array bs) = map [] := by
  have hle : RelationalOp.le.compare (.map es) (.array bs) =
      isSubset true (es.map fun e => string e.1) bs := rfl
  rw [hle, isSubset_iff, List.forall_mem_map, sub, map.injEq, List.filter_eq_nil_iff]
  simp only [Bool.not_eq_true', Bool.not_eq_false]
  rfl

/-! ## Texts -/

namespace Node

/-- The form of `in(a, x)`. -/
def callsIn : Node → Bool
  | .call _ (.var _ f) [.var _ a, .var _ x] false => f == "in" && a == "a" && x == "x"
  | _ => false

/-- The form of `[x] <= a`. -/
def comparesItem : Node → Bool
  | .relational _ .le (.array _ [.var _ x]) (.var _ a) => x == "x" && a == "a"
  | _ => false

/-- The form of `x`. -/
def namesItem : Node → Bool
  | .var _ x => x == "x"
  | _ => false

/-- The form of `[x]`. -/
def listsItem : Node → Bool
  | .array _ [.var _ x] => x == "x"
  | _ => false

/-- The form of `count(a / ..) > 0`. -/
def countsCommon (operand : Node → Bool) : Node → Bool
  | .relational _ .gt (.call _ (.var _ f) [.arithmetic _ .div (.var _ a) n] false) (.number _ z) =>
    f == "count" && a == "a" && operand n && decide (z = 0.0)
  | _ => false

section Has

variable {σ : Type} {s : Surroundings σ} {state : Bag} {tree : Node} {f : Function} {v : Value}

theorem has_of_callsIn (h : tree.callsIn = true)
    (ha : Scope.lookup ⟨s.vars, state⟩ "a" = some (.array as))
    (hx : Scope.lookup ⟨s.vars, state⟩ "x" = some x)
    (hin : Scope.lookup ⟨s.vars, state⟩ "in" = none) (hf : s.functions.resolve "in" = some f)
    (hlibrary : f.behaviour = .library .contains) :
    tree.Has s state (.boolean (containsItem as x)) := by
  unfold callsIn at h
  split at h
  · simp only [Bool.and_eq_true, beq_iff_eq] at h
    obtain ⟨⟨rfl, rfl⟩, rfl⟩ := h
    exact has_call _ _ hin hf hlibrary (.cons (has_var _ ha) (.cons (has_var _ hx) .nil)) rfl
  · cases h

theorem has_of_comparesItem (h : tree.comparesItem = true)
    (ha : Scope.lookup ⟨s.vars, state⟩ "a" = some (.array as))
    (hx : Scope.lookup ⟨s.vars, state⟩ "x" = some x) :
    tree.Has s state (.boolean (containsItem as x)) := by
  unfold comparesItem at h
  split at h
  · simp only [Bool.and_eq_true, beq_iff_eq] at h
    obtain ⟨rfl, rfl⟩ := h
    rw [← le_singleton]
    exact has_relational _ (by decide) (by decide) (has_array _ (.cons (has_var _ hx) .nil)) (has_var _ ha)
  · cases h

theorem has_of_namesItem (h : tree.namesItem = true)
    (hx : Scope.lookup ⟨s.vars, state⟩ "x" = some x) : tree.Has s state x := by
  unfold namesItem at h
  split at h
  · obtain rfl := eq_of_beq h
    exact has_var _ hx
  · cases h

theorem has_of_listsItem (h : tree.listsItem = true)
    (hx : Scope.lookup ⟨s.vars, state⟩ "x" = some x) : tree.Has s state (.array [x]) := by
  unfold listsItem at h
  split at h
  · obtain rfl := eq_of_beq h
    exact has_array _ (.cons (has_var _ hx) .nil)
  · cases h

theorem has_of_countsCommon {operand : Node → Bool} (h : tree.countsCommon operand = true)
    (hoperand : ∀ n, operand n = true → n.Has s state v)
    (ha : Scope.lookup ⟨s.vars, state⟩ "a" = some (.array as))
    (hcount : Scope.lookup ⟨s.vars, state⟩ "count" = none)
    (hf : s.functions.resolve "count" = some f) (hlibrary : f.behaviour = .library .count) :
    tree.Has s state (.boolean (decide (0 < ((Value.array as).div v).count))) := by
  unfold countsCommon at h
  split at h
  · simp only [Bool.and_eq_true, beq_iff_eq, decide_eq_true_eq] at h
    obtain ⟨⟨⟨rfl, rfl⟩, hn⟩, rfl⟩ := h
    rw [← ofNat_gt_zero]
    exact has_relational _ (by decide) (by decide) (has_call _ _ hcount hf hlibrary
      (.cons (has_arithmetic _ .div (has_var _ ha) (hoperand _ hn)) .nil) rfl) (has_number _ 0.0)
  · cases h

end Has

end Node

/-- The ways to ask for a member agree: `in(a, x)`, `[x] <= a` and `count(a / [x]) > 0` have one
value for an array and any value, and so has `count(a / x) > 0` if the value is neither a text nor a
container.  An array or the names of a map are part of an array if nothing is left of their
difference. -/
theorem membership_agrees :
    (∀ {σ : Type} (o : Options) (calls : Host σ) (host host' : σ) (history : List Call)
      (functions : Registry) (vars state : Bag) (as : List Value) (x : Value) (f g : Function),
      6 ≤ o.maxDepth →
      Scope.lookup ⟨vars, state⟩ "a" = some (.array as) → Scope.lookup ⟨vars, state⟩ "x" = some x →
      Scope.lookup ⟨vars, state⟩ "in" = none → Scope.lookup ⟨vars, state⟩ "count" = none →
      functions.resolve "in" = some f → f.behaviour = .library .contains →
      functions.resolve "count" = some g → g.behaviour = .library .count →
      let value (text : String) := ((Engine.afterCalls o calls host history functions).evaluate text
        calls vars state host').1.result
      value "in(a, x)" = .ok (.boolean (containsItem as x)) ∧
      value "[x] <= a" = .ok (.boolean (containsItem as x)) ∧
      value "count(a / [x]) > 0" = .ok (.boolean (containsItem as x)) ∧
      (x.valueClass = .scalar →
        value "count(a / x) > 0" = .ok (.boolean (containsItem as x)))) ∧
    (∀ as bs : List Value, RelationalOp.le.compare (.array as) (.array bs) = true ↔
      (array as).sub (array bs) = array []) ∧
    ∀ (es : Bag) (bs : List Value), RelationalOp.le.compare (.map es) (.array bs) = true ↔
      (map es).sub (array bs) = map [] := by
  refine ⟨?_, array_le_iff, map_le_iff⟩
  intro σ o calls host host' history functions vars state as x f g hdepth ha hx hin hcount hf hfin
    hg hgcount value
  have hvalue : ∀ {text : String} {form : Node → Bool} {v : Value},
      (parseWithin 6 text).toOption.any form = true →
      (∀ tree, form tree = true → tree.Has ⟨vars, functions, calls⟩ state v) →
      value text = .ok v := by
    intro text form v hform hhas
    obtain ⟨tree, hparse, htree⟩ := exists_parseWithin_of_any hform hdepth
    exact Engine.result_evaluate hparse (hhas tree htree) host host' history
  refine ⟨?_, ?_, ?_, fun hscalar => ?_⟩
  · have hform : (parseWithin 6 "in(a, x)").toOption.any Node.callsIn = true := by decide +kernel
    exact hvalue hform fun tree h => Node.has_of_callsIn h ha hx hin hf hfin
  · have hform : (parseWithin 6 "[x] <= a").toOption.any Node.comparesItem = true := by
      decide +kernel
    exact hvalue hform fun tree h => Node.has_of_comparesItem h ha hx
  · have hform : (parseWithin 6 "count(a / [x]) > 0").toOption.any
        (Node.countsCommon Node.listsItem) = true := by decide +kernel
    rw [← count_div_singleton]
    exact hvalue hform fun tree h => Node.has_of_countsCommon h
      (fun n hn => Node.has_of_listsItem hn hx) ha hcount hg hgcount
  · have hform : (parseWithin 6 "count(a / x) > 0").toOption.any
        (Node.countsCommon Node.namesItem) = true := by decide +kernel
    rw [← count_div_scalar as hscalar]
    exact hvalue hform fun tree h => Node.has_of_countsCommon h
      (fun n hn => Node.has_of_namesItem hn hx) ha hcount hg hgcount

/-- Zero among items that are not equal to it, and the zero with the other sign. -/
theorem membership_agrees_zero :
    let as : List Value := [.number (0.0 / 0.0), .string "0", .array [.number 0], .number (-0.0)]
    let vars : Bag := [("a", .array as), ("x", .number 0.0)]
    let value (text : String) := ((Engine.afterCalls .standard .none () [] .standard).evaluate text
      .none vars [] ()).1.result
    (Value.number 0.0).valueClass = .scalar ∧ containsItem as (.number 0.0) = true ∧
      value "in(a, x)" = .ok (.boolean true) ∧ value "[x] <= a" = .ok (.boolean true) ∧
      value "count(a / [x]) > 0" = .ok (.boolean true) ∧
      value "count(a / x) > 0" = .ok (.boolean true) := by
  intro as vars value
  have hcontains : containsItem as (.number 0.0) = true := by decide
  have hin : Registry.standard.resolve "in" = some ⟨"in", .library .contains, 1⟩ := by decide
  have hcount : Registry.standard.resolve "count" = some ⟨"count", .library .count, 0⟩ := by decide
  obtain ⟨hcall, hpart, hcommon, hscalar⟩ := membership_agrees.1 .standard .none () () [] .standard
    vars [] as (.number 0.0) _ _ (by decide) rfl rfl rfl rfl hin rfl hcount rfl
  rw [hcontains] at hcall hpart hcommon hscalar
  exact ⟨rfl, hcontains, hcall, hpart, hcommon, hscalar rfl⟩

end ExprLang
