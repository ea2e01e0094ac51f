import ExprLang.Proofs.Number.Notation
import ExprLang.Proofs.Value.Contents
import ExprLang.Proofs.Value.Equality
import ExprLang.Value.TypePair

/-!
# ExprLang.Proofs.Value.Congruence

What equality of values means.

A value equals itself just if what is not a number stands nowhere in it (`Value.equals_self_iff`).
Values are equal in one of five ways (`Value.equal_of_equals`), and in each of them they count alike
as true and are of one class.  Their texts and their numbers are the same too if functions of one
identity carry one name (`Value.NamedAlike`): names show in texts, and equality does not look at them.
-/

namespace ExprLang

namespace Value

variable {a b c d : Value} {as bs : List Value}

/-! ## Values that equal themselves -/

/-- Whether a value is the number that is not a number. -/
def isNaN : Value → Bool
  | number x => x.isNaN
  | _ => false

/-- What is not a number stands somewhere in the value. -/
def HasNaN (v : Value) : Prop := ∃ w : Value, w.isNaN = true ∧ w.Within v

theorem hasNaN_iff (v : Value) : v.HasNaN ↔ v.isNaN = true ∨ ∃ c ∈ v.contents, c.HasNaN := by
  constructor
  · rintro ⟨w, hw, hwithin⟩
    rcases within_iff.mp hwithin with rfl | ⟨c, hc, h⟩
    · exact .inl hw
    · exact .inr ⟨c, hc, w, hw, h⟩
  · rintro (hv | ⟨c, hc, w, hw, h⟩)
    · exact ⟨v, hv, .refl⟩
    · exact ⟨w, hw, .inside hc h⟩

theorem equalItems_self_iff (vs : List Value) :
    equalItems vs vs = true ↔ ∀ v ∈ vs, v.equals v = true := by
  induction vs with
  | nil => simp [equalItems]
  | cons v vs ih => rw [equalItems, Bool.and_eq_true, ih, List.forall_mem_cons]

theorem equalEntries_self_iff (es : List (String × Value)) :
    equalEntries es es = true ↔ ∀ v ∈ es.map Prod.snd, v.equals v = true := by
  induction es with
  | nil => simp [equalEntries]
  | cons e es ih =>
    rw [equalEntries, beq_self_eq_true, Bool.true_and, Bool.and_eq_true, ih, List.map_cons,
      List.forall_mem_cons]

theorem equals_self_iff_contents (v : Value) :
    v.equals v = true ↔ v.isNaN = false ∧ ∀ c ∈ v.contents, c.equals c = true := by
  cases v with
  | number x =>
    rw [equals, Binary.float_beq_self_iff, ne_eq, ← Binary.isNaN_iff]
    simp [isNaN, contents]
  | array vs => simp [equals, isNaN, contents, equalItems_self_iff]
  | map es => simp only [equals, isNaN, contents, equalEntries_self_iff, true_and]
  | _ => simp [equals, isNaN, contents]

/-- A value equals itself just if what is not a number stands nowhere in it. -/
theorem equals_self_iff (v : Value) : v.equals v = true ↔ ¬ v.HasNaN := by
  induction v using enclosed with
  | around v ih =>
    rw [equals_self_iff_contents, hasNaN_iff, not_or, not_exists, Bool.not_eq_true]
    refine and_congr_right fun _ => forall_congr' fun c => ?_
    rw [not_and]
    exact forall_congr' (ih c)

/-! ## Values that are equal -/

/-- The ways for two values to be equal. -/
inductive Equal : Value → Value → Prop
  | same (v : Value) : Equal v v
  | number {x y : Float} (h : (x == y) = true) : Equal (number x) (number y)
  | array {as bs : List Value} (h : equalItems as bs = true) : Equal (array as) (array bs)
  | map {es fs : List (String × Value)} (h : equalEntries es fs = true) : Equal (map es) (map fs)
  | function {f g : Function} (h : f.serial = g.serial) : Equal (function f) (function g)

theorem equal_of_equals (h : a.equals b = true) : Equal a b := by
  cases a with
  | null =>
    cases b with
    | null => exact .same _
    | _ => cases h
  | undefined =>
    cases b with
    | undefined => exact .same _
    | _ => cases h
  | boolean x =>
    cases b with
    | boolean y => exact eq_of_beq h ▸ .same _
    | _ => cases h
  | number x =>
    cases b with
    | number y => exact .number h
    | _ => cases h
  | string s =>
    cases b with
    | string t => exact eq_of_beq h ▸ .same _
    | _ => cases h
  | regexp r =>
    cases b with
    | regexp q => exact eq_of_beq h ▸ .same _
    | _ => cases h
  | array as =>
    cases b with
    | array bs => exact .array h
    | _ => cases h
  | map es =>
    cases b with
    | map fs => exact .map h
    | _ => cases h
  | function f =>
    cases b with
    | function g => exact .function (eq_of_beq h)
    | _ => cases h

theorem truthy_eq_of_equals (h : a.equals b = true) : a.truthy = b.truthy := by
  cases equal_of_equals h with
  | number hxy =>
    rcases Binary.eq_or_zero_of_beq hxy with rfl | ⟨rfl | rfl, rfl | rfl⟩
    · rfl
    all_goals decide
  | _ => rfl

theorem valueClass_eq_of_equals (h : a.equals b = true) : a.valueClass = b.valueClass := by
  cases equal_of_equals h <;> rfl

/-- Functions of one identity that stand in the two values, one in each, carry one name. -/
def NamedAlike (a b : Value) : Prop :=
  ∀ f g : Function, (function f).Within a → (function g).Within b → f.serial = g.serial →
    f.name = g.name

theorem NamedAlike.of_mem_contents (h : a.NamedAlike b) (hc : c ∈ a.contents)
    (hd : d ∈ b.contents) : c.NamedAlike d :=
  fun f g hf hg => h f g (.inside hc hf) (.inside hd hg)

theorem stringifyAll_eq_of_equalItems (h : equalItems as bs = true)
    (hitem : ∀ a ∈ as, ∀ b ∈ bs, a.equals b = true → a.stringify = b.stringify) :
    stringifyAll as = stringifyAll bs := by
  induction as generalizing bs with
  | nil =>
    cases bs with
    | nil => rfl
    | cons b bs => cases h
  | cons a as ih =>
    cases bs with
    | nil => cases h
    | cons b bs =>
      rw [equalItems, Bool.and_eq_true] at h
      rw [stringifyAll, stringifyAll, hitem a List.mem_cons_self b List.mem_cons_self h.1,
        ih h.2 fun a ha b hb => hitem a (.tail _ ha) b (.tail _ hb)]

theorem stringify_eq_of_equals (h : a.equals b = true) (hnames : a.NamedAlike b) :
    a.stringify = b.stringify := by
  induction a using contained generalizing b with
  | plain a hplain =>
    cases equal_of_equals h with
    | same => rfl
    | number hxy => exact (formatNumber_eq_iff _ _).mpr (.inl hxy)
    | array | map => cases hplain
    | function hserial => rw [stringify, stringify, hnames _ _ .refl .refl hserial]
  | items as ih =>
    cases equal_of_equals h with
    | same => rfl
    | array hitems =>
      rw [stringify, stringify, stringifyAll_eq_of_equalItems hitems fun a ha b hb hab =>
        ih a ha hab (hnames.of_mem_contents ha hb)]
  | entries es =>
    -- whatever they hold, all maps have one text
    cases equal_of_equals h <;> rfl

/-- The numbers of equal values are equal, or both are not a number. -/
theorem toNumber_of_equals (h : a.equals b = true) (hnames : a.NamedAlike b) :
    (a.toNumber == b.toNumber) = true ∨ a.toNumber.isNaN = true ∧ b.toNumber.isNaN = true := by
  have hself : ∀ x : Float, (x == x) = true ∨ x.isNaN = true ∧ x.isNaN = true :=
    fun x => (formatNumber_eq_iff x x).mp rfl
  -- arrays are the numbers of their texts, which is where the names come in
  have htext := stringify_eq_of_equals h hnames
  cases equal_of_equals h with
  | number hxy => exact .inl hxy
  | array =>
    rw [toNumber, toNumber, htext]
    exact hself _
  | same | map | function => exact hself _

end Value

open Value

/-! ## Laws -/

/-- Equality is symmetric and transitive, and a value equals itself just if what is not a number
stands nowhere in it.  Equal values count alike as true and make the same kind of operation with any
third value; and if functions of one identity carry one name, they have the same text and the same
number. -/
theorem equality_laws :
    (∀ a b : Value, a.equals b = b.equals a) ∧
    (∀ a b c : Value, a.equals b = true → b.equals c = true → a.equals c = true) ∧
    (∀ a : Value, a.equals a = true ↔ ¬ a.HasNaN) ∧
    ∀ a b : Value, a.equals b = true →
      a.truthy = b.truthy ∧
      (∀ c : Value, TypePair.of a c = TypePair.of b c ∧ TypePair.of c a = TypePair.of c b) ∧
      (a.NamedAlike b → a.stringify = b.stringify ∧
        ((a.toNumber == b.toNumber) = true ∨
          a.toNumber.isNaN = true ∧ b.toNumber.isNaN = true)) := by
  refine ⟨equals_comm, fun a b c => equals_trans, equals_self_iff, fun a b h => ?_⟩
  refine ⟨truthy_eq_of_equals h, fun c => ?_, fun hnames => ?_⟩
  · rw [TypePair.of, TypePair.of, TypePair.of, TypePair.of, valueClass_eq_of_equals h]
    exact ⟨rfl, rfl⟩
  · exact ⟨stringify_eq_of_equals h hnames, toNumber_of_equals h hnames⟩

/-- Two arrays of a zero and a function; they are not a number. -/
theorem equality_laws_zeros :
    let f : Function := ⟨"f", .host 0, 7⟩
    let a := Value.array [.number (-0.0), .function f]
    let b := Value.array [.number 0.0, .function f]
    a.equals b = true ∧ b.equals a = true ∧ a.equals a = true ∧ ¬ a.HasNaN ∧ a.NamedAlike b ∧
      a.truthy = b.truthy ∧ TypePair.of a (.map []) = TypePair.of b (.map []) ∧
      a.stringify = b.stringify ∧ a.toNumber.isNaN = true ∧ b.toNumber.isNaN = true := by
  intro f a b
  obtain ⟨hcomm, htrans, hself, hequal⟩ := equality_laws
  have hab : a.equals b = true := by decide
  have hba : b.equals a = true := hcomm a b ▸ hab
  have haa : a.equals a = true := htrans a b a hab hba
  have hfunction : ∀ {x : Float} {g : Function},
      (function g).Within (.array [.number x, .function f]) → g = f := by
    intro x g hg
    rcases within_iff.mp hg with hg | ⟨c, hc, hg⟩
    · cases hg
    · simp only [contents, List.mem_cons, List.not_mem_nil, or_false] at hc
      rcases within_iff.mp hg with rfl | ⟨d, hd, -⟩
      · simpa using hc
      · rcases hc with rfl | rfl <;> cases hd
  have hnames : a.NamedAlike b := by
    intro g g' hg hg' _
    rw [hfunction hg, hfunction hg']
  obtain ⟨htruthy, hpair, hsame⟩ := hequal a b hab
  obtain ⟨htext, hnumber⟩ := hsame hnames
  have hne : ¬ (a.toNumber == b.toNumber) = true := by decide
  exact ⟨hab, hba, haa, (hself a).mp haa, hnames, htruthy, (hpair (.map [])).1, htext,
    hnumber.resolve_left hne⟩

end ExprLang
