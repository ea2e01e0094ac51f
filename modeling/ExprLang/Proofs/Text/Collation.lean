import ExprLang.Eval.Operators
import Mathlib.Order.Compare

/-!
# ExprLang.Proofs.Text.Collation

The order of texts is total.

Collation puts one comparison behind another, and each of them compares what some projection makes of
the texts.  A projection keeps a comparison an order (`transCmp_on`) and putting one behind another
does too; the last one has no projection, so that only a text itself is equal to it.  Nothing is used
of the lower case letters (`collateBy`): the fold may lengthen texts or make one of several.
-/

namespace ExprLang

open Std (OrientedCmp TransCmp LawfulEqCmp)

variable {lower : Char → List Char} {upper : Char → Bool}

/-! ## Orders -/

/-- A comparison of projections is as good an order as that of what they are. -/
theorem transCmp_on (cmp : β → β → Ordering) [TransCmp cmp] (f : α → β) :
    TransCmp fun a b => cmp (f a) (f b) where
  eq_swap := OrientedCmp.eq_swap
  isLE_trans := TransCmp.isLE_trans

theorem compareLists_eq (cmp : α → α → Ordering) : compareLists cmp = List.compareLex cmp := by
  funext as bs
  induction as generalizing bs with
  | nil => cases bs <;> rfl
  | cons a as ih =>
    cases bs with
    | nil => rfl
    | cons b bs =>
      rw [compareLists, ih, List.compareLex]
      cases cmp a b <;> rfl

instance {cmp : α → α → Ordering} [TransCmp cmp] : TransCmp (compareLists cmp) :=
  compareLists_eq cmp ▸ inferInstance

instance {cmp : α → α → Ordering} [LawfulEqCmp cmp] : LawfulEqCmp (compareLists cmp) :=
  compareLists_eq cmp ▸ inferInstance

instance : TransCmp compareChars := transCmp_on compare Char.toNat

instance : TransCmp compareCases := transCmp_on compare Bool.toNat

instance : LawfulEqCmp compareChars where
  compare_self := Std.ReflCmp.compare_self
  eq_of_compare h := Char.toNat_inj.mp (Std.LawfulEqCmp.eq_of_compare h)

/-! ## Collation -/

/-- The order of two texts by what a table makes of their characters. -/
def compareFolded (lower : Char → List Char) (s t : List Char) : Ordering :=
  compareLists compareChars (s.flatMap lower) (t.flatMap lower)

/-- The order of two texts by which of their characters are in a class. -/
def compareCapitals (upper : Char → Bool) (s t : List Char) : Ordering :=
  compareLists compareCases (s.map upper) (t.map upper)

instance : TransCmp (compareFolded lower) :=
  transCmp_on (compareLists compareChars) _

instance : TransCmp (compareCapitals upper) :=
  transCmp_on (compareLists compareCases) _

/-- Collation by any table of lower case letters and any class of upper case ones. -/
def collateBy (lower : Char → List Char) (upper : Char → Bool) : List Char → List Char → Ordering :=
  compareLex (compareFolded lower)
    (compareLex (compareCapitals upper) (compareLists compareChars))

theorem collate_eq : collate = collateBy lowerChar isUppercase := rfl

instance : TransCmp (collateBy lower upper) :=
  inferInstanceAs (TransCmp (compareLex _ (compareLex _ _)))

instance : LawfulEqCmp (collateBy lower upper) where
  compare_self := Std.ReflCmp.compare_self
  eq_of_compare h :=
    -- equal texts are told by the last comparison, which sees them as they are
    Std.LawfulEqCmp.eq_of_compare (Ordering.then_eq_eq.mp (Ordering.then_eq_eq.mp h).2).2

/-! ## Texts as values -/

/-- A comparison that puts texts in a total order. -/
structure OrdersTexts (order : List Char → List Char → Ordering) : Prop where
  swap : ∀ s t, order t s = (order s t).swap
  lt_trans : ∀ s t u, order s t = .lt → order t u = .lt → order s u = .lt
  eq_trans : ∀ s t u, order s t = .eq → order t u = .eq → order s u = .eq
  eq_iff : ∀ s t, order s t = .eq ↔ s = t

/-- The comparisons of two texts, where they are put in an order. -/
def RelationalOp.onTexts (op : RelationalOp) (order : List Char → List Char → Ordering)
    (s t : String) : Bool :=
  match op with
  | .eq => s == t
  | .neq => s != t
  | .le => order s.toList t.toList != .gt
  | .lt => order s.toList t.toList == .lt
  | .ge => order s.toList t.toList != .lt
  | _ => order s.toList t.toList == .gt

theorem ordersTexts_of_lawful {order : List Char → List Char → Ordering} [TransCmp order]
    [LawfulEqCmp order] : OrdersTexts order where
  swap _ _ := OrientedCmp.eq_swap
  lt_trans _ _ _ := TransCmp.lt_trans
  eq_trans _ _ _ := TransCmp.eq_trans
  eq_iff _ _ := Std.LawfulEqCmp.compare_eq_iff_eq

theorem RelationalOp.compare_string (op : RelationalOp) (s t : String) :
    op.compare (.string s) (.string t) = op.onTexts collate s t := by
  cases op <;> rfl

/-- Whether a comparison holds of what is in an order. -/
def RelationalOp.holds (op : RelationalOp) (o : Ordering) : Bool :=
  match op with
  | .eq => o == .eq
  | .neq => o != .eq
  | .le => o != .gt
  | .lt => o == .lt
  | .ge => o != .lt
  | _ => o == .gt

theorem RelationalOp.countP_holds (o : Ordering) :
    [RelationalOp.lt, .eq, .gt].countP (fun op => op.holds o) = 1 := by
  cases o <;> rfl

theorem RelationalOp.holds_le (o : Ordering) :
    RelationalOp.le.holds o = (RelationalOp.lt.holds o || RelationalOp.eq.holds o) := by
  cases o <;> rfl

namespace OrdersTexts

variable {order : List Char → List Char → Ordering}

/-- In a total order the comparisons are those of where two texts are in it: equality too. -/
theorem onTexts_eq (h : OrdersTexts order) (op : RelationalOp) (s t : String) :
    op.onTexts order s t = op.holds (order s.toList t.toList) := by
  have hiff : s = t ↔ order s.toList t.toList = .eq :=
    String.toList_inj.symm.trans (h.eq_iff _ _).symm
  have heq : (s == t) = (order s.toList t.toList == .eq) := by
    rw [Bool.eq_iff_iff, beq_iff_eq, beq_iff_eq, hiff]
  cases op with
  | eq => exact heq
  | neq => exact congrArg not heq
  | _ => rfl

/-- Of two texts one is before the other, or they are the same, and just one of the three. -/
theorem trichotomy (h : OrdersTexts order) (s t : String) :
    [RelationalOp.lt, .eq, .gt].countP (fun op => op.onTexts order s t) = 1 := by
  simp only [h.onTexts_eq]
  exact RelationalOp.countP_holds _

theorem le_onTexts (h : OrdersTexts order) (s t : String) :
    RelationalOp.le.onTexts order s t =
      (RelationalOp.lt.onTexts order s t || RelationalOp.eq.onTexts order s t) := by
  simp only [h.onTexts_eq]
  exact RelationalOp.holds_le _

end OrdersTexts

/-- Whatever the table of lower case letters, collation puts texts in a total order.  So of any two
texts as values just one is less than, equal to or greater than the other, and `<=` is `<` or `==`. -/
theorem compare_string_total :
    (∀ lower upper, OrdersTexts (collateBy lower upper) ∧ ∀ s t : String,
      [RelationalOp.lt, .eq, .gt].countP (fun op => op.onTexts (collateBy lower upper) s t) = 1 ∧
      RelationalOp.le.onTexts (collateBy lower upper) s t =
        (RelationalOp.lt.onTexts (collateBy lower upper) s t ||
          RelationalOp.eq.onTexts (collateBy lower upper) s t)) ∧
    collate = collateBy lowerChar isUppercase ∧
    ∀ s t : String,
      [RelationalOp.lt, .eq, .gt].countP (fun op => op.compare (.string s) (.string t)) = 1 ∧
      RelationalOp.le.compare (.string s) (.string t) =
        (RelationalOp.lt.compare (.string s) (.string t) ||
          RelationalOp.eq.compare (.string s) (.string t)) := by
  have horder : OrdersTexts collate := collate_eq ▸ ordersTexts_of_lawful
  refine ⟨fun lower upper => ?_, collate_eq, fun s t => ?_⟩
  · have hlaws : OrdersTexts (collateBy lower upper) := ordersTexts_of_lawful
    exact ⟨hlaws, fun s t => ⟨hlaws.trichotomy s t, hlaws.le_onTexts s t⟩⟩
  · simp only [RelationalOp.compare_string]
    exact ⟨horder.trichotomy s t, horder.le_onTexts s t⟩

end ExprLang
