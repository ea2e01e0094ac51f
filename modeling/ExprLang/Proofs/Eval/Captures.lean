import ExprLang.Proofs.Eval.Effects
import ExprLang.Proofs.Value.Entries
import Mathlib.Data.List.Induction

/-!
# ExprLang.Proofs.Eval.Captures

The capture variables.

A match overwrites all ten of them, whatever number of groups it has (`Bag.get?_setCaptures`), and
no assignment to a plain name touches them.  So after any writes they are as the last match left
them (`Bag.get?_captureKey_replay`).
-/

namespace ExprLang

/-! ## The names of the capture variables -/

theorem captureKey_injective : ∀ i < captureSlots, ∀ j < captureSlots,
    captureKey i = captureKey j → i = j := by
  decide

/-- Plain names begin otherwise. -/
theorem IsPlain.head?_ne {w : List Char} (h : IsPlain w) : w.head? ≠ some '$' := by
  obtain ⟨c, hc, hstart⟩ := Pattern.head?_of_isName h.1
  intro hdollar
  rw [hc] at hdollar
  cases hdollar
  cases hstart

namespace Bag

variable {state : Bag} {groups : Option (List (Option String))}

theorem sorted_setCapture (h : Entries.Sorted state) (slot : Nat) (text : Option String) :
    Entries.Sorted (setCapture state slot text) := by
  cases text with
  | some s => exact Entries.Sorted.insert h _ _
  | none => exact Entries.Sorted.erase h _

/-- A variable is set, or removed if its group took no part. -/
theorem get?_setCapture_self (h : Entries.Sorted state) (slot : Nat) (text : Option String) :
    (setCapture state slot text).get? (captureKey slot) = text.map .string := by
  cases text with
  | some s => exact Entries.get?_insert_self _ _ _
  | none => exact Entries.Sorted.get?_erase_self h _

theorem get?_setCapture_of_ne {key : String} {slot : Nat} (hkey : key ≠ captureKey slot)
    (text : Option String) : (setCapture state slot text).get? key = state.get? key := by
  cases text with
  | some s => exact Entries.get?_insert_of_ne hkey _ _
  | none => exact Entries.get?_erase_of_ne hkey _

/-- The first `n` variables set to their groups. -/
def setFirst (state : Bag) (groups : Option (List (Option String))) : Nat → Bag
  | 0 => state
  | n + 1 => setCapture (setFirst state groups n) n (groupText groups n)

theorem setCaptures_eq_setFirst (state : Bag) (groups : Option (List (Option String))) :
    setCaptures state groups = setFirst state groups captureSlots := by
  rw [setCaptures]
  induction captureSlots with
  | zero => rfl
  | succ n ih =>
    rw [List.range_succ, List.foldl_append, ih]
    rfl

theorem sorted_setFirst (h : Entries.Sorted state) (n : Nat) :
    Entries.Sorted (setFirst state groups n) := by
  induction n with
  | zero => exact h
  | succ n ih => exact sorted_setCapture ih n _

theorem get?_setFirst_of_ne {key : String} {n : Nat} (hkey : ∀ slot < n, key ≠ captureKey slot) :
    (setFirst state groups n).get? key = state.get? key := by
  induction n with
  | zero => rfl
  | succ n ih =>
    rw [setFirst, get?_setCapture_of_ne (hkey n (Nat.lt_succ_self n))]
    exact ih fun slot hslot => hkey slot (Nat.lt_succ_of_lt hslot)

theorem get?_setFirst (h : Entries.Sorted state) {slot n : Nat} (hslot : slot < n)
    (hn : n ≤ captureSlots) :
    (setFirst state groups n).get? (captureKey slot) = (groupText groups slot).map .string := by
  induction n with
  | zero => cases hslot
  | succ n ih =>
    rw [setFirst]
    by_cases heq : slot = n
    · subst heq
      exact get?_setCapture_self (sorted_setFirst h slot) slot _
    · have hne : captureKey slot ≠ captureKey n := fun hkey =>
        heq (captureKey_injective slot (by omega) n (by omega) hkey)
      rw [get?_setCapture_of_ne hne]
      exact ih (by omega) (by omega)

theorem sorted_setCaptures (h : Entries.Sorted state) :
    Entries.Sorted (setCaptures state groups) :=
  setCaptures_eq_setFirst state groups ▸ sorted_setFirst h _

/-- A match changes no other variables. -/
theorem get?_setCaptures_of_ne {key : String}
    (hkey : ∀ slot < captureSlots, key ≠ captureKey slot) :
    (setCaptures state groups).get? key = state.get? key :=
  setCaptures_eq_setFirst state groups ▸ get?_setFirst_of_ne hkey

/-- After a match every capture variable has the text of its group, and those without one are
absent. -/
theorem get?_setCaptures (h : Entries.Sorted state) {slot : Nat} (hslot : slot < captureSlots) :
    (setCaptures state groups).get? (captureKey slot) = (groupText groups slot).map .string :=
  setCaptures_eq_setFirst state groups ▸ get?_setFirst h hslot (Nat.le_refl _)

end Bag

/-! ## The last match -/

/-- The groups that a match writes. -/
def Write.groups? : Write → Option (Option (List (Option String)))
  | .matched groups => some groups
  | .assigned .. => none

namespace Bag

variable {state : Bag}

theorem sorted_replay (h : Entries.Sorted state) (ws : List Write) :
    Entries.Sorted (replay state ws) := by
  induction ws using List.reverseRecOn with
  | nil => exact h
  | append_singleton ws w ih =>
    rw [replay_append]
    cases w with
    | assigned name v => exact Entries.Sorted.insert ih name v
    | matched groups => exact sorted_setCaptures ih

/-- A key that changes was assigned to or is a capture variable, and then there was a match. -/
theorem exists_write_of_get?_replay_ne {ws : List Write} {key : String}
    (h : (replay state ws).get? key ≠ state.get? key) :
    (∃ v, Write.assigned key v ∈ ws) ∨
      ∃ slot < captureSlots, key = captureKey slot ∧ ∃ groups, Write.matched groups ∈ ws := by
  induction ws using List.reverseRecOn with
  | nil => exact absurd rfl h
  | append_singleton ws w ih =>
    rw [replay_append] at h
    by_cases hrest : (replay state ws).get? key = state.get? key
    · rw [← hrest] at h
      cases w with
      | assigned name v =>
        have hname : key = name := by
          by_contra hne
          exact h (Entries.get?_insert_of_ne hne _ v)
        exact .inl ⟨v, by simp [hname]⟩
      | matched groups =>
        have hslot : ∃ slot < captureSlots, key = captureKey slot := by
          by_contra hnone
          exact h (get?_setCaptures_of_ne fun slot hlt hkey => hnone ⟨slot, hlt, hkey⟩)
        obtain ⟨slot, hlt, hkey⟩ := hslot
        exact .inr ⟨slot, hlt, hkey, groups, by simp⟩
    · rcases ih hrest with ⟨v, hv⟩ | ⟨slot, hlt, hkey, groups, hg⟩
      · exact .inl ⟨v, List.mem_append_left _ hv⟩
      · exact .inr ⟨slot, hlt, hkey, groups, List.mem_append_left _ hg⟩

end Bag

end ExprLang
