import ExprLang.Engine.Cache
import ExprLang.Proofs.Value.Entries
import Mathlib.Data.List.Nodup

/-!
# ExprLang.Proofs.Engine.Recency

The two indexes of a cache, the slots by text and the texts by tick, and what keeps them together
(`Linked`): the same texts stand in both, one to one, at distinct ticks none of which is ahead of
the clock.

What the pair means is the list of its values in the order of their last uses (`uses`).  Each
operation on the pair has one equation over this list: using a text moves it to the front
(`Linked.uses_touch`), giving up the oldest drops the end (`Linked.uses_evict`).
-/

namespace ExprLang

variable {α : Type}

/-! ## Ticks -/

namespace Recency

/-- A tick later than all others is listed last. -/
theorem insert_eq_append {tick : UInt64} {key : String} {r : Recency}
    (h : ∀ e ∈ r, e.1 < tick) : r.insert tick key = r ++ [(tick, key)] := by
  induction r with
  | nil => rfl
  | cons e r ih =>
    obtain ⟨t, k⟩ := e
    have ht : t < tick := h _ List.mem_cons_self
    rw [insert, if_neg (by rw [UInt64.lt_iff_toNat_lt] at *; omega),
      if_neg (fun heq => UInt64.lt_irrefl _ (heq ▸ ht)),
      ih fun e he => h e (List.mem_cons_of_mem _ he), List.cons_append]

/-- Where each text has one tick, taking a tick off the list takes its text off. -/
theorem erase_eq_filter {tick : UInt64} {key : String} {r : Recency}
    (h : ∀ e ∈ r, e.1 = tick ↔ e.2 = key) (hnd : (r.map Prod.snd).Nodup) :
    r.erase tick = r.filter (·.2 ≠ key) := by
  induction r with
  | nil => rfl
  | cons e r ih =>
    obtain ⟨t, k⟩ := e
    have hkt : t = tick ↔ k = key := h _ List.mem_cons_self
    obtain ⟨hk, hnd⟩ := List.nodup_cons.mp hnd
    rw [erase]
    by_cases ht : t = tick
    · have hrest : ∀ e ∈ r, decide (e.2 ≠ key) = true := by
        intro e he
        have hne : e.2 ≠ k := fun heq => hk (List.mem_map.mpr ⟨e, he, heq⟩)
        simpa [hkt.mp ht] using hne
      rw [if_pos ht, List.filter_cons_of_neg (by simp [hkt.mp ht]), List.filter_eq_self.mpr hrest]
    · rw [if_neg ht, List.filter_cons_of_pos (by simpa using fun heq => ht (hkt.mpr heq)),
        ih (fun e he => h e (List.mem_cons_of_mem _ he)) hnd]

end Recency

/-- The next tick is later than all before it, until the clock runs out. -/
theorem lt_clock_add_one {t clock : UInt64} (ht : t ≤ clock) (h : clock.toNat + 1 < 2 ^ 64) :
    t < clock + 1 := by
  rw [UInt64.le_iff_toNat_le] at ht
  rw [UInt64.lt_iff_toNat_lt, UInt64.toNat_add]
  simp only [UInt64.toNat_one]
  omega

/-! ## The two indexes -/

/-- The slots and the list of recent uses belong together. -/
structure Linked (slots : Entries (Slot α)) (recency : Recency) (clock : UInt64) : Prop where
  sorted : slots.Sorted
  /-- The ticks are distinct, the oldest first. -/
  ordered : recency.Pairwise fun a b => a.1 < b.1
  /-- No tick is ahead of the clock. -/
  current : ∀ e ∈ recency, e.1 ≤ clock
  /-- A text is listed under the tick of its slot, and every slot is listed. -/
  listed : ∀ tick key, (tick, key) ∈ recency ↔ ∃ slot, slots.get? key = some slot ∧ slot.tick = tick

/-- The texts and their values, the one used last first. -/
def uses (slots : Entries (Slot α)) (recency : Recency) : List (String × α) :=
  (recency.filterMap fun e => (slots.get? e.2).map fun s => (e.2, s.value)).reverse

namespace Linked

variable {slots : Entries (Slot α)} {recency : Recency} {clock : UInt64}

theorem empty (clock : UInt64) : Linked (α := α) [] [] clock where
  sorted := Entries.sorted_nil
  ordered := List.Pairwise.nil
  current := by simp
  listed := by simp

theorem mono (h : Linked slots recency clock) {clock' : UInt64} (hc : clock ≤ clock') :
    Linked slots recency clock' :=
  { h with current := fun e he => UInt64.le_trans (h.current e he) hc }

/-- A listed text has a slot. -/
theorem get?_of_mem (h : Linked slots recency clock) {e : UInt64 × String} (he : e ∈ recency) :
    ∃ slot, slots.get? e.2 = some slot ∧ slot.tick = e.1 :=
  (h.listed e.1 e.2).mp he

/-- Each text is listed once. -/
theorem nodup_keys (h : Linked slots recency clock) : (recency.map Prod.snd).Nodup := by
  refine List.pairwise_map.mpr (h.ordered.imp_of_mem ?_)
  intro a b ha hb hlt heq
  obtain ⟨s, hs, hst⟩ := h.get?_of_mem ha
  obtain ⟨s', hs', hst'⟩ := h.get?_of_mem hb
  rw [heq, hs', Option.some.injEq] at hs
  rw [← hst, ← hst', hs] at hlt
  exact UInt64.lt_irrefl _ hlt

/-- A tick stands for one text. -/
theorem key_unique (h : Linked slots recency clock) {tick : UInt64} {j k : String}
    (hj : (tick, j) ∈ recency) (hk : (tick, k) ∈ recency) : j = k := by
  have hnd : (recency.map Prod.fst).Nodup :=
    List.pairwise_map.mpr (h.ordered.imp UInt64.ne_of_lt)
  exact congrArg Prod.snd (List.inj_on_of_nodup_map hnd hj hk rfl)

theorem mem_keys_iff (h : Linked slots recency clock) {key : String} :
    key ∈ recency.map Prod.snd ↔ (slots.get? key).isSome := by
  constructor
  · intro hk
    obtain ⟨e, he, rfl⟩ := List.mem_map.mp hk
    obtain ⟨s, hs, _⟩ := h.get?_of_mem he
    rw [hs]
    rfl
  · intro hk
    obtain ⟨s, hs⟩ := Option.isSome_iff_exists.mp hk
    exact List.mem_map.mpr ⟨(s.tick, key), (h.listed _ _).mpr ⟨s, hs, rfl⟩, rfl⟩

/-- The two indexes are of one size. -/
theorem length_eq (h : Linked slots recency clock) : slots.length = recency.length := by
  have hperm : List.Perm (Entries.names slots) (recency.map Prod.snd) := by
    rw [List.perm_ext_iff_of_nodup h.sorted.nodup_names h.nodup_keys]
    intro key
    rw [Entries.mem_names_iff, h.mem_keys_iff]
  simpa [Entries.names] using hperm.length_eq

/-! ## Uses -/

/-- The uses in the order in which the texts are listed. -/
theorem reverse_uses (slots : Entries (Slot α)) (recency : Recency) :
    (uses slots recency).reverse =
      recency.filterMap fun e => (slots.get? e.2).map fun s => (e.2, s.value) := by
  rw [uses, List.reverse_reverse]

theorem uses_cons {e : UInt64 × String} {slot : Slot α} (hs : slots.get? e.2 = some slot)
    (recency : Recency) :
    uses slots (e :: recency) = uses slots recency ++ [(e.2, slot.value)] := by
  simp [uses, hs]

theorem uses_append (slots : Entries (Slot α)) (r₁ r₂ : Recency) :
    uses slots (r₁ ++ r₂) = uses slots r₂ ++ uses slots r₁ := by
  simp [uses]

/-- The uses name the listed texts. -/
theorem keys_uses (h : Linked slots recency clock) :
    (uses slots recency).map Prod.fst = (recency.map Prod.snd).reverse := by
  have hfound : ∀ e ∈ recency, (slots.get? e.2).isSome := fun e he =>
    h.mem_keys_iff.mp (List.mem_map_of_mem he)
  clear h
  induction recency with
  | nil => rfl
  | cons e r ih =>
    obtain ⟨s, hs⟩ := Option.isSome_iff_exists.mp (hfound e List.mem_cons_self)
    rw [uses_cons hs, List.map_append, ih fun e' he' => hfound e' (List.mem_cons_of_mem _ he')]
    simp

theorem length_uses (h : Linked slots recency clock) :
    (uses slots recency).length = slots.length := by
  rw [h.length_eq, ← List.length_map Prod.fst, h.keys_uses, List.length_reverse, List.length_map]

theorem mem_uses_iff (h : Linked slots recency clock) {key : String} {v : α} :
    (key, v) ∈ uses slots recency ↔ ∃ slot, slots.get? key = some slot ∧ slot.value = v := by
  rw [← List.mem_reverse, reverse_uses, List.mem_filterMap]
  constructor
  · rintro ⟨e, _, he⟩
    obtain ⟨s, hs, heq⟩ := Option.map_eq_some_iff.mp he
    obtain ⟨rfl, rfl⟩ := Prod.mk.inj heq
    exact ⟨s, hs, rfl⟩
  · rintro ⟨s, hs, rfl⟩
    exact ⟨(s.tick, key), (h.listed _ _).mpr ⟨s, hs, rfl⟩, by simp [hs]⟩

/-- To look up a text among the uses is to look up its slot. -/
theorem lookup_uses (h : Linked slots recency clock) (key : String) :
    (uses slots recency).lookup key = (slots.get? key).map Slot.value := by
  cases hs : slots.get? key with
  | none =>
    rw [Option.map_none, List.lookup_eq_none_iff]
    rintro ⟨k, v⟩ hm
    obtain ⟨s, hs', _⟩ := h.mem_uses_iff.mp hm
    have hne : key ≠ k := fun heq => by rw [heq, hs'] at hs; contradiction
    simpa using hne
  | some s =>
    obtain ⟨l₁, l₂, hl⟩ := List.append_of_mem (h.mem_uses_iff.mpr ⟨s, hs, rfl⟩)
    have hnd : ((uses slots recency).map Prod.fst).Nodup := by
      rw [h.keys_uses, List.nodup_reverse]
      exact h.nodup_keys
    rw [hl, List.map_append, List.map_cons, List.nodup_append] at hnd
    rw [Option.map_some, List.lookup_eq_some_iff]
    refine ⟨l₁, l₂, hl, fun p hp => ?_⟩
    have hne := hnd.2.2 p.1 (List.mem_map_of_mem hp) key List.mem_cons_self
    simpa using Ne.symm hne

/-! ## Using a text -/

/-- The list of recent uses without a text. -/
def without (slots : Entries (Slot α)) (recency : Recency) (key : String) : Recency :=
  match slots.get? key with
  | some slot => recency.erase slot.tick
  | none => recency

theorem without_eq_filter (h : Linked slots recency clock) (key : String) :
    without slots recency key = recency.filter (·.2 ≠ key) := by
  cases hs : slots.get? key with
  | none =>
    have hne : ∀ e ∈ recency, decide (e.2 ≠ key) = true := by
      intro e he
      have := h.mem_keys_iff.mp (List.mem_map_of_mem he)
      refine decide_eq_true fun heq => ?_
      rw [heq, hs] at this
      contradiction
    rw [without, hs, List.filter_eq_self.mpr hne]
  | some s =>
    rw [without, hs]
    refine Recency.erase_eq_filter (fun e he => ?_) h.nodup_keys
    obtain ⟨s', hs', ht'⟩ := h.get?_of_mem he
    constructor
    · intro ht
      have hmem : (s.tick, e.2) ∈ recency := ht ▸ he
      obtain ⟨s'', hs'', ht''⟩ := (h.listed _ _).mp hmem
      have hlisted : (s.tick, key) ∈ recency := (h.listed _ _).mpr ⟨s, hs, rfl⟩
      exact key_unique h hmem hlisted
    · intro hk
      rw [hk, hs, Option.some.injEq] at hs'
      rw [← ht', hs']

/-- Using a text at the next tick keeps the two indexes together. -/
theorem touch (h : Linked slots recency clock) (hc : clock.toNat + 1 < 2 ^ 64) (key : String)
    (v : α) : Linked (slots.insert key ⟨v, clock + 1⟩)
      ((without slots recency key).insert (clock + 1) key) (clock + 1) := by
  have hold : ∀ e ∈ recency, e.1 < clock + 1 := fun e he => lt_clock_add_one (h.current e he) hc
  have hkept : ∀ e ∈ recency.filter (·.2 ≠ key), e ∈ recency ∧ e.2 ≠ key := by simp
  rw [h.without_eq_filter, Recency.insert_eq_append fun e he => hold e (hkept e he).1]
  refine ⟨h.sorted.insert _ _, ?_, ?_, ?_⟩
  · refine List.pairwise_append.mpr ⟨h.ordered.filter _, List.pairwise_singleton _ _, ?_⟩
    intro a ha b hb
    rw [List.mem_singleton.mp hb]
    exact hold a (hkept a ha).1
  · intro e he
    rcases List.mem_append.mp he with he | he
    · exact UInt64.le_of_lt (hold e (hkept e he).1)
    · rw [List.mem_singleton.mp he]
      exact UInt64.le_refl _
  · intro tick k
    rw [List.mem_append, List.mem_singleton, Entries.get?_insert]
    by_cases hk : k = key
    · rw [if_pos hk]
      constructor
      · rintro (hm | heq)
        · exact absurd hk (hkept _ hm).2
        · exact ⟨_, rfl, (Prod.mk.inj heq).1.symm⟩
      · rintro ⟨s, hs, ht⟩
        rw [Option.some.injEq] at hs
        exact Or.inr (by rw [hk, ← ht, ← hs])
    · rw [if_neg hk, ← h.listed]
      constructor
      · rintro (hm | heq)
        · exact (hkept _ hm).1
        · exact absurd (Prod.mk.inj heq).2 hk
      · intro hm
        exact Or.inl (by simpa [hk] using hm)

/-- Where a text is not listed, what its slot holds does not matter. -/
theorem uses_insert_filter (slots : Entries (Slot α)) (recency : Recency) (key : String)
    (slot : Slot α) : uses (slots.insert key slot) (recency.filter (·.2 ≠ key)) =
      (uses slots recency).filter (·.1 ≠ key) := by
  rw [uses, uses, List.filter_reverse]
  refine congrArg List.reverse ?_
  induction recency with
  | nil => rfl
  | cons e r ih =>
    by_cases hk : e.2 = key
    · rw [List.filter_cons_of_neg (by simpa using hk), ih, List.filterMap_cons]
      cases slots.get? e.2 <;> simp [hk]
    · rw [List.filter_cons_of_pos (by simpa using hk), List.filterMap_cons, List.filterMap_cons, ih,
        Entries.get?_insert_of_ne hk]
      cases slots.get? e.2 <;> simp [hk]

/-- The text used comes to the front, in place of its earlier use. -/
theorem uses_touch (h : Linked slots recency clock) (hc : clock.toNat + 1 < 2 ^ 64) (key : String)
    (v : α) : uses (slots.insert key ⟨v, clock + 1⟩)
        ((without slots recency key).insert (clock + 1) key) =
      (key, v) :: (uses slots recency).filter (·.1 ≠ key) := by
  have hold : ∀ e ∈ recency, e.1 < clock + 1 := fun e he => lt_clock_add_one (h.current e he) hc
  rw [h.without_eq_filter,
    Recency.insert_eq_append fun e he => hold e (List.mem_filter.mp he).1, uses_append,
    uses_insert_filter, uses_cons (e := (clock + 1, key)) (Entries.get?_insert_self _ _ _)]
  rfl

/-! ## Giving up the oldest -/

/-- Giving up the text listed first keeps the two indexes together. -/
theorem dropOldest {t : UInt64} {k : String} (h : Linked slots ((t, k) :: recency) clock) :
    Linked (slots.erase k) recency clock := by
  obtain ⟨hfirst, hrest⟩ := List.pairwise_cons.mp h.ordered
  have hne : ∀ e ∈ recency, e.2 ≠ k := by
    intro e he heq
    exact (List.nodup_cons.mp h.nodup_keys).1 (List.mem_map.mpr ⟨e, he, heq⟩)
  refine ⟨h.sorted.erase k, hrest, fun e he => h.current e (List.mem_cons_of_mem _ he), ?_⟩
  intro tick key
  rw [h.sorted.get?_erase]
  by_cases hk : key = k
  · rw [if_pos hk]
    constructor
    · intro hm
      exact absurd hk (hne _ hm)
    · rintro ⟨s, hs, _⟩
      contradiction
  · rw [if_neg hk, ← h.listed, List.mem_cons]
    constructor
    · exact Or.inr
    · rintro (heq | hm)
      · exact absurd (Prod.mk.inj heq).2 hk
      · exact hm

/-- The text given up is the last among the uses. -/
theorem uses_dropOldest {t : UInt64} {k : String} (h : Linked slots ((t, k) :: recency) clock) :
    ∃ v, uses slots ((t, k) :: recency) = uses (slots.erase k) recency ++ [(k, v)] := by
  obtain ⟨s, hs, _⟩ := h.get?_of_mem List.mem_cons_self
  have hne : ∀ e ∈ recency, e.2 ≠ k := by
    intro e he heq
    exact (List.nodup_cons.mp h.nodup_keys).1 (List.mem_map.mpr ⟨e, he, heq⟩)
  refine ⟨s.value, ?_⟩
  rw [uses_cons hs, uses, uses]
  refine congrArg (fun l => List.reverse l ++ _) (List.filterMap_congr fun e he => ?_)
  rw [Entries.get?_erase_of_ne (hne e he)]

/-- Giving up values until `limit` are left keeps the two indexes together and the values used
last. -/
theorem evict (h : Linked slots recency clock) (limit : Nat) :
    Linked (Cache.evict limit slots recency).1 (Cache.evict limit slots recency).2 clock ∧
      uses (Cache.evict limit slots recency).1 (Cache.evict limit slots recency).2 =
        (uses slots recency).take limit := by
  induction recency generalizing slots with
  | nil => exact ⟨h, by simp [Cache.evict, uses]⟩
  | cons e r ih =>
    obtain ⟨t, k⟩ := e
    have hlen := h.length_eq
    rw [Cache.evict]
    split
    · rename_i hlt
      obtain ⟨hlinked, huses⟩ := ih h.dropOldest
      obtain ⟨v, hv⟩ := h.uses_dropOldest
      have hle : limit ≤ (uses (slots.erase k) r).length := by
        rw [h.dropOldest.length_uses, h.dropOldest.length_eq]
        rw [hlen, List.length_cons] at hlt
        omega
      exact ⟨hlinked, by rw [huses, hv, List.take_append_of_le_length hle]⟩
    · rename_i hnlt
      have hle : (uses slots ((t, k) :: r)).length ≤ limit := by
        rw [h.length_uses]
        omega
      exact ⟨h, (List.take_of_length_le hle).symm⟩

end Linked

end ExprLang
