import ExprLang.Value.Entries
import Mathlib.Data.List.Sort
import Mathlib.Data.String.Basic

/-!
# ExprLang.Proofs.Value.Entries

Sorted entries as a finite map.  Looking up after `insert` and `erase` reads as it does for any map
(`Entries.get?_insert`, `Entries.get?_erase`), both keep the entries sorted, and sorted entries
name exactly what can be looked up, each name once (`Entries.mem_names_iff`,
`Entries.Sorted.nodup_names`).
-/

namespace ExprLang.Entries

variable {α : Type}

/-- Each name once, in order. -/
def Sorted (es : Entries α) : Prop :=
  es.Pairwise fun a b => a.1 < b.1

theorem sorted_nil : Sorted ([] : Entries α) := List.Pairwise.nil

theorem Sorted.tail {e : String × α} {es : Entries α} (h : Sorted (e :: es)) : Sorted es :=
  (List.pairwise_cons.mp h).2

/-! ## Looking up -/

@[simp] theorem get?_nil (k : String) : get? k ([] : Entries α) = none := rfl

theorem mem_of_get? {k : String} {v : α} {es : Entries α} (h : es.get? k = some v) :
    (k, v) ∈ es := by
  induction es with
  | nil => contradiction
  | cons e es ih =>
    obtain ⟨n, w⟩ := e
    by_cases hn : n = k
    · rw [get?, if_pos hn, Option.some.injEq] at h
      rw [hn, h]
      exact List.mem_cons_self
    · rw [get?, if_neg hn] at h
      exact List.mem_cons_of_mem _ (ih h)

theorem Sorted.get?_of_mem {es : Entries α} (h : Sorted es) {k : String} {v : α}
    (hmem : (k, v) ∈ es) : es.get? k = some v := by
  induction es with
  | nil => contradiction
  | cons e es ih =>
    rcases List.mem_cons.mp hmem with rfl | hmem
    · rw [get?, if_pos rfl]
    · have hk : e.1 < k := (List.pairwise_cons.mp h).1 (k, v) hmem
      rw [get?, if_neg hk.ne, ih h.tail hmem]

/-- Sorted entries are known from what can be looked up. -/
theorem Sorted.ext {es es' : Entries α} (h : Sorted es) (h' : Sorted es')
    (hget : ∀ k, es.get? k = es'.get? k) : es = es' := by
  have hmem : ∀ e, e ∈ es ↔ e ∈ es' := fun e =>
    ⟨fun he => mem_of_get? ((hget e.1).symm.trans (h.get?_of_mem he)),
      fun he => mem_of_get? ((hget e.1).trans (h'.get?_of_mem he))⟩
  have hnodup : ∀ {es : Entries α}, Sorted es → es.Nodup := fun h =>
    h.imp fun hlt heq => hlt.ne (congrArg Prod.fst heq)
  exact ((List.perm_ext_iff_of_nodup (hnodup h) (hnodup h')).mpr hmem).eq_of_pairwise
    (fun a b _ _ hab hba => absurd hba hab.asymm) h h'

theorem get?_eq_none_of_lt {k : String} {es : Entries α} (h : ∀ e ∈ es, k < e.1) :
    es.get? k = none := by
  induction es with
  | nil => rfl
  | cons e es ih =>
    have hk : k < e.1 := h e List.mem_cons_self
    rw [get?, if_neg hk.ne']
    exact ih fun e' he' => h e' (List.mem_cons_of_mem _ he')

/-! ## Inserting -/

theorem mem_insert {k : String} {v : α} {es : Entries α} {e : String × α}
    (h : e ∈ es.insert k v) : e = (k, v) ∨ e ∈ es := by
  induction es with
  | nil => exact Or.inl (List.mem_singleton.mp h)
  | cons f es ih =>
    obtain ⟨n, w⟩ := f
    rw [insert] at h
    split at h
    · exact List.mem_cons.mp h
    · split at h
      · exact (List.mem_cons.mp h).imp_right (List.mem_cons_of_mem _)
      · rcases List.mem_cons.mp h with rfl | h
        · exact Or.inr List.mem_cons_self
        · exact (ih h).imp_right (List.mem_cons_of_mem _)

theorem Sorted.insert {es : Entries α} (h : Sorted es) (k : String) (v : α) :
    Sorted (es.insert k v) := by
  induction es with
  | nil => exact List.pairwise_singleton _ _
  | cons f es ih =>
    obtain ⟨n, w⟩ := f
    obtain ⟨hf, hes⟩ := List.pairwise_cons.mp h
    rw [Entries.insert]
    split
    · rename_i hlt
      refine List.pairwise_cons.mpr ⟨fun e he => ?_, h⟩
      rcases List.mem_cons.mp he with rfl | he
      · exact hlt
      · exact hlt.trans (hf e he)
    · rename_i hnlt
      split
      · rename_i heq
        subst heq
        exact List.pairwise_cons.mpr ⟨hf, hes⟩
      · rename_i hne
        refine List.pairwise_cons.mpr ⟨fun e he => ?_, ih hes⟩
        rcases mem_insert he with rfl | he
        · exact lt_of_le_of_ne (not_lt.mp hnlt) hne
        · exact hf e he

@[simp] theorem get?_insert_self (es : Entries α) (k : String) (v : α) :
    (es.insert k v).get? k = some v := by
  induction es with
  | nil => simp [Entries.insert, get?]
  | cons f es ih =>
    obtain ⟨n, w⟩ := f
    rw [Entries.insert]
    split
    · rw [get?, if_pos rfl]
    · split
      · rw [get?, if_pos rfl]
      · rename_i hne
        rw [get?, if_neg hne, ih]

theorem get?_insert_of_ne {j k : String} (hjk : j ≠ k) (es : Entries α) (v : α) :
    (es.insert k v).get? j = es.get? j := by
  induction es with
  | nil => simp [Entries.insert, get?, hjk.symm]
  | cons f es ih =>
    obtain ⟨n, w⟩ := f
    rw [Entries.insert]
    split
    · rw [get?, if_neg hjk.symm]
    · split
      · rename_i heq
        rw [get?, if_neg hjk.symm, get?, if_neg (heq ▸ hjk.symm)]
      · rw [get?, get?, ih]

/-- Inserting changes one name. -/
theorem get?_insert (es : Entries α) (j k : String) (v : α) :
    (es.insert k v).get? j = if j = k then some v else es.get? j := by
  by_cases h : j = k
  · rw [if_pos h, h, get?_insert_self]
  · rw [if_neg h, get?_insert_of_ne h]

/-- An entry behind all others is put at the end. -/
theorem insert_of_lt {k : String} {v : α} {es : Entries α} (h : ∀ e ∈ es, e.1 < k) :
    es.insert k v = es ++ [(k, v)] := by
  induction es with
  | nil => rfl
  | cons e es ih =>
    obtain ⟨n, w⟩ := e
    have hn : n < k := h (n, w) List.mem_cons_self
    rw [insert, if_neg (not_lt.mpr hn.le), if_neg hn.ne,
      ih fun e he => h e (List.mem_cons_of_mem _ he)]
    rfl

/-- Sorted entries are put one behind the other. -/
theorem insertAll_of_sorted {es more : Entries α} (h : Sorted (es ++ more)) :
    es.insertAll more = es ++ more := by
  induction more generalizing es with
  | nil => exact (List.append_nil es).symm
  | cons e more ih =>
    obtain ⟨k, v⟩ := e
    have hinsert : es.insert k v = es ++ [(k, v)] :=
      insert_of_lt fun e he => (List.pairwise_append.mp h).2.2 e he (k, v) List.mem_cons_self
    have happend : es ++ (k, v) :: more = (es ++ [(k, v)]) ++ more := by
      rw [List.append_assoc, List.singleton_append]
    rw [happend] at h ⊢
    rw [insertAll, List.foldl_cons, hinsert]
    exact ih h

theorem Sorted.insertAll {es : Entries α} (h : Sorted es) : Entries.insertAll [] es = es :=
  @insertAll_of_sorted α [] es h

/-! ## Erasing -/

theorem erase_sublist (k : String) (es : Entries α) : (es.erase k).Sublist es := by
  induction es with
  | nil => exact List.Sublist.refl _
  | cons f es ih =>
    obtain ⟨n, w⟩ := f
    rw [erase]
    split
    · exact List.sublist_cons_self _ _
    · exact ih.cons_cons _

theorem Sorted.erase {es : Entries α} (h : Sorted es) (k : String) : Sorted (es.erase k) :=
  List.Pairwise.sublist (erase_sublist k es) h

theorem Sorted.get?_erase_self {es : Entries α} (h : Sorted es) (k : String) :
    (es.erase k).get? k = none := by
  induction es with
  | nil => rfl
  | cons f es ih =>
    obtain ⟨n, w⟩ := f
    rw [Entries.erase]
    split
    · rename_i heq
      exact get?_eq_none_of_lt fun e he => heq ▸ (List.pairwise_cons.mp h).1 e he
    · rename_i hne
      rw [get?, if_neg hne, ih h.tail]

theorem get?_erase_of_ne {j k : String} (hjk : j ≠ k) (es : Entries α) :
    (es.erase k).get? j = es.get? j := by
  induction es with
  | nil => rfl
  | cons f es ih =>
    obtain ⟨n, w⟩ := f
    rw [Entries.erase]
    split
    · rename_i heq
      rw [get?, if_neg (heq ▸ hjk.symm)]
    · rw [get?, get?, ih]

/-- Erasing changes one name. -/
theorem Sorted.get?_erase {es : Entries α} (h : Sorted es) (j k : String) :
    (es.erase k).get? j = if j = k then none else es.get? j := by
  by_cases hjk : j = k
  · rw [if_pos hjk, hjk, h.get?_erase_self]
  · rw [if_neg hjk, get?_erase_of_ne hjk]

/-! ## Several entries -/

/-- Looking up among the entries whose names pass a test. -/
theorem get?_filter (p : String → Bool) (es : Entries α) (k : String) :
    get? k (es.filter fun e => p e.1) = if p k then es.get? k else none := by
  induction es with
  | nil => exact (ite_self none).symm
  | cons e es ih =>
    obtain ⟨n, v⟩ := e
    by_cases hn : n = k
    · subst hn
      cases hp : p n with
      | true => simp [hp, get?]
      | false => simpa [hp] using ih
    · cases hp : p n with
      | true => simpa [hp, get?, hn] using ih
      | false => simpa [hp, get?, hn] using ih

/-- Looking up after putting one value under some names. -/
theorem get?_insertAll_map {β : Type} (f : β → String) (v : α) (bs : List β) (es : Entries α)
    (k : String) : get? k (es.insertAll (bs.map fun b => (f b, v))) =
      if bs.any fun b => f b == k then some v else es.get? k := by
  induction bs generalizing es with
  | nil => rfl
  | cons b bs ih =>
    have hstep : es.insertAll ((b :: bs).map fun b => (f b, v)) =
        (es.insert (f b) v).insertAll (bs.map fun b => (f b, v)) := rfl
    rw [hstep, ih, get?_insert, List.any_cons]
    by_cases hb : k = f b
    · simp [hb]
    · have hb' : (f b == k) = false := beq_false_of_ne (Ne.symm hb)
      rw [if_neg hb, hb', Bool.false_or]

/-- Looking up after putting sorted entries: those come first. -/
theorem Sorted.get?_insertAll {more : Entries α} (h : Sorted more) (es : Entries α) (k : String) :
    get? k (es.insertAll more) = (more.get? k).or (es.get? k) := by
  induction more generalizing es with
  | nil => rfl
  | cons e more ih =>
    obtain ⟨n, v⟩ := e
    have hstep : es.insertAll ((n, v) :: more) = (es.insert n v).insertAll more := rfl
    rw [hstep, ih h.tail, get?_insert, get?]
    by_cases hn : n = k
    · subst hn
      rw [if_pos rfl, if_pos rfl, get?_eq_none_of_lt (List.pairwise_cons.mp h).1]
      rfl
    · rw [if_neg hn, if_neg (Ne.symm hn)]

theorem sorted_insertAll {es : Entries α} (h : Sorted es) (more : List (String × α)) :
    Sorted (es.insertAll more) := by
  induction more generalizing es with
  | nil => exact h
  | cons e more ih => exact ih (h.insert e.1 e.2)

/-- Entries put to sorted entries that are then put to others. -/
theorem insertAll_insertAll {es more : Entries α} (h : Sorted es) (hmore : Sorted more)
    (last : List (String × α)) :
    es.insertAll (more.insertAll last) = (es.insertAll more).insertAll last := by
  induction last generalizing more with
  | nil => rfl
  | cons e last ih =>
    have hinsert : es.insertAll (more.insert e.1 e.2) = (es.insertAll more).insert e.1 e.2 := by
      refine (sorted_insertAll h _).ext ((sorted_insertAll h _).insert _ _) fun k => ?_
      rw [(hmore.insert e.1 e.2).get?_insertAll, get?_insert, get?_insert, hmore.get?_insertAll]
      split <;> rfl
    exact (ih (hmore.insert e.1 e.2)).trans (congrArg (insertAll · last) hinsert)

/-! ## Names -/

theorem Sorted.nodup_names {es : Entries α} (h : Sorted es) : es.names.Nodup :=
  List.pairwise_map.mpr (h.imp fun hlt => hlt.ne)

/-- The names are those that can be looked up. -/
theorem mem_names_iff {es : Entries α} {k : String} :
    k ∈ es.names ↔ (es.get? k).isSome := by
  induction es with
  | nil => simp [names]
  | cons f es ih =>
    obtain ⟨n, w⟩ := f
    by_cases hn : n = k
    · simp [names, get?, hn]
    · have hk : ¬ k = n := fun h => hn h.symm
      rw [get?, if_neg hn, ← ih]
      simp [names, hk]

end ExprLang.Entries
