import ExprLang.Value.Basic

/-!
# ExprLang.Proofs.Value.Contents

What is inside a value.

The contents of a container are the values directly inside it (`Value.contents`), and a value is
within another if it is that value or within one of its contents (`Value.Within`).  What contents
hand on to the container around them holds of all values (`Value.contained`, `Value.enclosed`).
-/

namespace ExprLang.Value

/-- The values directly inside: the items of an array and the values of a map. -/
def contents : Value → List Value
  | array items => items
  | map entries => entries.map Prod.snd
  | _ => []

/-- The value `w` is `v` or stands somewhere inside it. -/
inductive Within (w : Value) : Value → Prop
  | refl : Within w w
  | inside {c v : Value} (hc : c ∈ v.contents) (h : Within w c) : Within w v

theorem within_iff {w v : Value} : w.Within v ↔ w = v ∨ ∃ c ∈ v.contents, w.Within c := by
  constructor
  · intro h
    cases h with
    | refl => exact .inl rfl
    | inside hc h => exact .inr ⟨_, hc, h⟩
  · rintro (rfl | ⟨c, hc, h⟩)
    · exact .refl
    · exact .inside hc h

/-- What holds of the values without others inside, and of a container if it holds of all values in
it, holds of all values. -/
theorem contained {P : Value → Prop} (plain : ∀ v, v.isContainer = false → P v)
    (items : ∀ vs, (∀ v ∈ vs, P v) → P (array vs))
    (entries : ∀ es, (∀ e ∈ es, P e.2) → P (map es)) (v : Value) : P v :=
  match v with
  | array vs => items vs fun w _ => contained plain items entries w
  | map es => entries es fun e _ => contained plain items entries e.2
  | null | undefined | boolean _ | number _ | string _ | regexp _ | function _ => plain _ rfl
termination_by sizeOf v
decreasing_by
  · have := List.sizeOf_lt_of_mem ‹w ∈ vs›
    simp only [array.sizeOf_spec]
    omega
  · have := List.sizeOf_lt_of_mem ‹e ∈ es›
    obtain ⟨name, w⟩ := e
    simp only [map.sizeOf_spec, Prod.mk.sizeOf_spec] at *
    omega

/-- What holds of a value if it holds of its contents holds of all values. -/
theorem enclosed {P : Value → Prop} (around : ∀ v : Value, (∀ c ∈ v.contents, P c) → P v)
    (v : Value) : P v := by
  induction v using contained with
  | plain v hplain =>
    refine around v fun c hc => ?_
    cases v with
    | array vs => cases hplain
    | map es => cases hplain
    | _ => cases hc
  | items vs ih => exact around (array vs) ih
  | entries es ih => exact around (map es) (List.forall_mem_map.mpr ih)

end ExprLang.Value
