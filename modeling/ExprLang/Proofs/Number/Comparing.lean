import ExprLang.Proofs.Number.WholeNumbers

/-!
# ExprLang.Proofs.Number.Comparing

Numbers as they compare.

Two numbers are equal if neither is what is not a number and they are the same but for the sign of a
zero (`float_beq_iff`, `eq_or_zero_of_beq`), so that equality is symmetric and transitive, though not
reflexive (`float_beq_self_iff`).
-/

namespace ExprLang.Binary

open Float.Model Float.Model.UnpackedFloat

/-! ## Equality -/

/-- What a number is compared as: nothing if it is not a number, and zero without its sign. -/
def comparand : UnpackedFloat → Option UnpackedFloat
  | .notANumber => none
  | .zero _ => some (.zero .positive)
  | u => some u

theorem unpacked_beq_iff (u v : UnpackedFloat) :
    u.beq v = true ↔ ∃ w, comparand u = some w ∧ comparand v = some w := by
  have hsign : ∀ s : Sign, compare s s = .eq := by decide
  have hparts : ∀ (m m' : Nat) (e e' : Int),
      (compare e e').then (compare m m') = .eq ↔ m' = m ∧ e' = e := by
    intro m m' e e'
    rw [Ordering.then_eq_eq, compare_eq_iff_eq, compare_eq_iff_eq, and_comm, eq_comm, @eq_comm _ e]
  rw [UnpackedFloat.beq, beq_iff_eq]
  rcases u with ⟨_ | _⟩ | _ | s | ⟨_ | _, m, e, hm⟩ <;>
    rcases v with ⟨_ | _⟩ | _ | s' | ⟨_ | _, m', e', hm'⟩ <;>
    simp [UnpackedFloat.compare, comparand, hsign, hparts]

theorem float_beq_iff {x y : Float} : (x == y) = true ↔
    ∃ w, comparand x.toModel.unpack = some w ∧ comparand y.toModel.unpack = some w :=
  unpacked_beq_iff _ _

theorem float_beq_comm (x y : Float) : (x == y) = (y == x) := by
  rw [Bool.eq_iff_iff, float_beq_iff, float_beq_iff]
  exact exists_congr fun w => and_comm

theorem float_beq_trans {x y z : Float} (h : (x == y) = true) (h' : (y == z) = true) :
    (x == z) = true := by
  obtain ⟨w, hx, hy⟩ := float_beq_iff.mp h
  obtain ⟨w', hy', hz⟩ := float_beq_iff.mp h'
  obtain rfl : w = w' := Option.some.inj (hy.symm.trans hy')
  exact float_beq_iff.mpr ⟨w, hx, hz⟩

theorem float_beq_self_iff {x : Float} : (x == x) = true ↔ ofFloat x ≠ .nan := by
  rw [float_beq_iff, ofFloat_eq]
  cases x.toModel.unpack <;> simp [comparand, ofUnpacked]

theorem comparand_cases {u w : UnpackedFloat} (h : comparand u = some w) :
    u = w ∨ (∃ s, u = .zero s) ∧ w = .zero .positive := by
  cases u <;> simp_all [comparand]

theorem eq_zero_of_unpack {x : Float} {s : Sign} (h : x.toModel.unpack = .zero s) :
    x = 0.0 ∨ x = -0.0 := by
  rw [eq_pack_unpack x, h]
  cases s <;> decide

/-- Equal numbers are the same, but for the sign of a zero. -/
theorem eq_or_zero_of_beq {x y : Float} (h : (x == y) = true) :
    x = y ∨ (x = 0.0 ∨ x = -0.0) ∧ (y = 0.0 ∨ y = -0.0) := by
  obtain ⟨w, hx, hy⟩ := float_beq_iff.mp h
  rcases comparand_cases hx with hu | ⟨⟨s, hu⟩, hw⟩ <;>
    rcases comparand_cases hy with hv | ⟨⟨s', hv⟩, hw'⟩
  · exact .inl (by rw [eq_pack_unpack x, eq_pack_unpack y, hu, hv])
  · exact .inr ⟨eq_zero_of_unpack (hu.trans hw'), eq_zero_of_unpack hv⟩
  · exact .inr ⟨eq_zero_of_unpack hu, eq_zero_of_unpack (hv.trans hw)⟩
  · exact .inr ⟨eq_zero_of_unpack hu, eq_zero_of_unpack hv⟩

end ExprLang.Binary
