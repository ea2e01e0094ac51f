import ExprLang.Eval.Operators
import ExprLang.Proofs.Number.Comparing

/-!
# ExprLang.Proofs.Value.Equality

Equality of values is a partial equivalence.

It is symmetric and transitive (`Value.equals_comm`, `Value.equals_trans`), but a value that holds
what is not a number does not equal itself.  So is being the same member of a set, by the values or
by their texts (`sameMember`); what follows for subsets is all that the comparisons of containers
use.
-/

namespace ExprLang

namespace Value

mutual

theorem equals_comm (a b : Value) : a.equals b = b.equals a :=
  match a with
  | null | undefined => by cases b <;> rfl
  | boolean x => by
    cases b with
    | boolean y => exact Bool.beq_comm
    | _ => rfl
  | number x => by
    cases b with
    | number y => exact Binary.float_beq_comm x y
    | _ => rfl
  | string s => by
    cases b with
    | string t => exact Bool.beq_comm
    | _ => rfl
  | regexp r => by
    cases b with
    | regexp q => exact Bool.beq_comm
    | _ => rfl
  | array as => by
    cases b with
    | array bs => exact equalItems_comm as bs
    | _ => rfl
  | map es => by
    cases b with
    | map fs => exact equalEntries_comm es fs
    | _ => rfl
  | function f => by
    cases b with
    | function g => exact Bool.beq_comm
    | _ => rfl

theorem equalItems_comm (as bs : List Value) : equalItems as bs = equalItems bs as :=
  match as, bs with
  | [], [] => rfl
  | [], _ :: _ => rfl
  | _ :: _, [] => rfl
  | a :: as, b :: bs => by
    rw [equalItems, equalItems, equals_comm a b, equalItems_comm as bs]

theorem equalEntries_comm (es fs : List (String × Value)) : equalEntries es fs = equalEntries fs es :=
  match es, fs with
  | [], [] => rfl
  | [], _ :: _ => rfl
  | _ :: _, [] => rfl
  | (m, a) :: es, (n, b) :: fs => by
    have hname : (m == n) = (n == m) := Bool.beq_comm
    rw [equalEntries, equalEntries, hname, equals_comm a b, equalEntries_comm es fs]

end

mutual

theorem equals_trans {a b c : Value} (h : a.equals b = true) (h' : b.equals c = true) :
    a.equals c = true :=
  match a with
  | null => by
    cases b with
    | null => exact h'
    | _ => cases h
  | undefined => by
    cases b with
    | undefined => exact h'
    | _ => cases h
  | boolean x => by
    cases b with
    | boolean y => exact eq_of_beq h ▸ h'
    | _ => cases h
  | number x => by
    cases b with
    | number y =>
      cases c with
      | number z => exact Binary.float_beq_trans h h'
      | _ => cases h'
    | _ => cases h
  | string s => by
    cases b with
    | string t => exact eq_of_beq h ▸ h'
    | _ => cases h
  | regexp r => by
    cases b with
    | regexp q => exact eq_of_beq h ▸ h'
    | _ => cases h
  | array as => by
    cases b with
    | array bs =>
      cases c with
      | array cs => exact @equalItems_trans as bs cs h h'
      | _ => cases h'
    | _ => cases h
  | map es => by
    cases b with
    | map fs =>
      cases c with
      | map gs => exact @equalEntries_trans es fs gs h h'
      | _ => cases h'
    | _ => cases h
  | function f => by
    cases b with
    | function g =>
      cases c with
      | function k => exact beq_of_eq ((eq_of_beq (α := Nat) h).trans (eq_of_beq (α := Nat) h'))
      | _ => cases h'
    | _ => cases h

theorem equalItems_trans {as bs cs : List Value} (h : equalItems as bs = true)
    (h' : equalItems bs cs = true) : equalItems as cs = true :=
  match as, bs, cs with
  | [], [], _ => h'
  | a :: as, b :: bs, c :: cs => by
    rw [equalItems, Bool.and_eq_true] at h h' ⊢
    exact ⟨equals_trans h.1 h'.1, equalItems_trans h.2 h'.2⟩

theorem equalEntries_trans {es fs gs : List (String × Value)} (h : equalEntries es fs = true)
    (h' : equalEntries fs gs = true) : equalEntries es gs = true :=
  match es, fs, gs with
  | [], [], _ => h'
  | (m, a) :: es, (n, b) :: fs, (k, c) :: gs => by
    simp only [equalEntries, Bool.and_eq_true, beq_iff_eq] at h h' ⊢
    exact ⟨⟨h.1.1.trans h'.1.1, equals_trans h.1.2 h'.1.2⟩, equalEntries_trans h.2 h'.2⟩

end

end Value

/-! ## Members of sets -/

variable {keyed : Bool} {a b c : Value} {as bs cs : List Value}

theorem sameMember_trans (h : sameMember keyed a b = true) (h' : sameMember keyed b c = true) :
    sameMember keyed a c = true := by
  cases keyed with
  | false => exact Value.equals_trans h h'
  | true => exact beq_of_eq ((eq_of_beq (α := String) h).trans (eq_of_beq (α := String) h'))

theorem hasMember_iff : hasMember keyed as a = true ↔ ∃ m ∈ as, sameMember keyed m a = true :=
  List.any_eq_true

theorem isSubset_iff : isSubset keyed as bs = true ↔ ∀ a ∈ as, hasMember keyed bs a = true :=
  List.all_eq_true

/-- A member of a part is a member of the whole. -/
theorem hasMember_of_isSubset (hsubset : isSubset keyed as bs = true)
    (h : hasMember keyed as a = true) : hasMember keyed bs a = true := by
  obtain ⟨m, hm, hsame⟩ := hasMember_iff.mp h
  obtain ⟨n, hn, hsame'⟩ := hasMember_iff.mp (isSubset_iff.mp hsubset m hm)
  exact hasMember_iff.mpr ⟨n, hn, sameMember_trans hsame' hsame⟩

theorem isSubset_trans (h : isSubset keyed as bs = true) (h' : isSubset keyed bs cs = true) :
    isSubset keyed as cs = true :=
  isSubset_iff.mpr fun a ha => hasMember_of_isSubset h' (isSubset_iff.mp h a ha)

end ExprLang
