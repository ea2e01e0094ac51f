import ExprLang.Proofs.Engine.Recency

/-!
# ExprLang.Proofs.Engine.LeastRecent

The cache against a reference: a list of texts and values in the order of their last uses, cut off
at the limit (`Lru`).  Whatever is asked of the two, in whatever order, they answer alike
(`Cache.serveAll_eq_reference`).

The cache means a reference (`Cache.toLru`), and each operation has one equation that says so.
They hold as long as the clock has ticks left; `Request.ticks` counts what a request may take, and
`exists_serveAll_ne_reference` shows that this is what has to be counted.
-/

namespace ExprLang

variable {α ε σ τ : Type}

/-! ## The reference -/

/-- A cache as a list of texts and values, the one used last first. -/
structure Lru (α : Type) where
  limit : Nat
  uses : List (String × α)

namespace Lru

def empty (limit : Nat) : Lru α := ⟨limit, []⟩

/-- Gives up what exceeds the limit. -/
def trim (l : Lru α) : Lru α := { l with uses := l.uses.take l.limit }

/-- Moves a text to the front. -/
def touch (l : Lru α) (key : String) (value : α) : Lru α :=
  { l with uses := (key, value) :: l.uses.filter (·.1 ≠ key) }

def get (l : Lru α) (key : String) : Option α × Lru α :=
  match l.uses.lookup key with
  | some v => (some v, l.touch key v)
  | none => (none, l)

def insert (l : Lru α) (key : String) (value : α) : Lru α := (l.touch key value).trim

def setLimit (l : Lru α) (limit : Nat) : Lru α := { l with limit := limit }.trim

def clear (l : Lru α) : Lru α := { l with uses := [] }

def contains (l : Lru α) (key : String) : Bool := (l.uses.lookup key).isSome

def size (l : Lru α) : Nat := l.uses.length

/-- The value under a text, or else the one made for it, which is kept unless making it fails. -/
def getOrCompile (l : Lru α) (key : String) (compile : σ → Except ε α × σ) (s : σ) :
    Except ε α × Lru α × σ :=
  match l.get key with
  | (some v, l) => (.ok v, l, s)
  | (none, l) =>
    match compile s with
    | (.ok v, s) => (.ok v, l.insert key v, s)
    | (.error e, s) => (.error e, l, s)

end Lru

/-! ## The cache means a reference -/

namespace Cache

/-- The reference that a cache stands for. -/
def toLru (c : Cache α) : Lru α := ⟨c.limit, ExprLang.uses c.slots c.recency⟩

/-- The indexes of a cache belong together, and it is within its limit. -/
structure Sound (c : Cache α) : Prop where
  linked : Linked c.slots c.recency c.clock
  fits : c.size ≤ c.limit

variable {c : Cache α}

theorem Sound.empty (limit : Nat) : (Cache.empty limit : Cache α).Sound :=
  ⟨Linked.empty 0, Nat.zero_le _⟩

theorem Sound.size_eq (h : c.Sound) : c.size = c.toLru.size := h.linked.length_uses.symm

theorem Sound.lookup_eq (h : c.Sound) (key : String) :
    c.toLru.uses.lookup key = (c.slots.get? key).map Slot.value := h.linked.lookup_uses key

theorem Sound.contains_eq (h : c.Sound) (key : String) :
    c.contains key = c.toLru.contains key := by
  rw [contains, Lru.contains, h.lookup_eq, Option.isSome_map]

/-- The next tick does not overflow the clock. -/
theorem toNat_tick (hc : c.clock.toNat + 1 < 2 ^ 64) :
    (c.clock + 1).toNat = c.clock.toNat + 1 := by
  rw [UInt64.toNat_add, UInt64.toNat_one]
  omega

theorem clock_le_tick (hc : c.clock.toNat + 1 < 2 ^ 64) : c.clock ≤ c.clock + 1 :=
  UInt64.le_of_lt (lt_clock_add_one (UInt64.le_refl _) hc)

/-! ### Shrinking -/

/-- Shrinking gives up the oldest uses. -/
theorem toLru_shrink (h : Linked c.slots c.recency c.clock) (limit : Nat) :
    (c.shrink limit).toLru = ⟨c.limit, c.toLru.uses.take limit⟩ := by
  rw [toLru, shrink]
  exact congrArg _ (h.evict limit).2

theorem sound_shrink (h : Linked c.slots c.recency c.clock) : (c.shrink c.limit).Sound := by
  have hlinked : Linked (c.shrink c.limit).slots (c.shrink c.limit).recency c.clock :=
    (h.evict c.limit).1
  refine ⟨hlinked, ?_⟩
  rw [size, ← hlinked.length_uses]
  change (c.shrink c.limit).toLru.uses.length ≤ c.limit
  rw [toLru_shrink h, List.length_take]
  exact Nat.min_le_left _ _

theorem toLru_setLimit (h : c.Sound) (limit : Nat) :
    (c.setLimit limit).toLru = c.toLru.setLimit limit :=
  toLru_shrink (c := { c with limit := limit }) h.linked limit

theorem Sound.setLimit (h : c.Sound) (limit : Nat) : (c.setLimit limit).Sound :=
  sound_shrink (c := { c with limit := limit }) h.linked

/-! ### Clearing -/

theorem Sound.clear (c : Cache α) : c.clear.Sound := ⟨Linked.empty _, Nat.zero_le _⟩

/-! ### Using a text -/

/-- Puts a value under a text at the next tick. -/
def touch (c : Cache α) (key : String) (v : α) : Cache α :=
  { c with
    clock := c.clock + 1
    slots := c.slots.insert key ⟨v, c.clock + 1⟩
    recency := (Linked.without c.slots c.recency key).insert (c.clock + 1) key }

theorem linked_touch (h : c.Sound) (hc : c.clock.toNat + 1 < 2 ^ 64) (key : String) (v : α) :
    Linked (c.touch key v).slots (c.touch key v).recency (c.touch key v).clock :=
  h.linked.touch hc key v

theorem toLru_touch (h : c.Sound) (hc : c.clock.toNat + 1 < 2 ^ 64) (key : String) (v : α) :
    (c.touch key v).toLru = c.toLru.touch key v :=
  congrArg (Lru.mk c.limit) (h.linked.uses_touch hc key v)

/-! ### Getting -/

theorem get_of_some {key : String} {slot : Slot α} (hs : c.slots.get? key = some slot) :
    c.get key = (some slot.value, c.touch key slot.value) := by
  rw [get, hs, touch, Linked.without, hs]

theorem get_of_none {key : String} (hs : c.slots.get? key = none) :
    c.get key = (none, { c with clock := c.clock + 1 }) := by
  rw [get, hs]

/-- Getting finds what the reference finds, and moves it to the front. -/
theorem toLru_get (h : c.Sound) (hc : c.clock.toNat + 1 < 2 ^ 64) (key : String) :
    (c.get key).1 = (c.toLru.get key).1 ∧ (c.get key).2.toLru = (c.toLru.get key).2 := by
  have hlookup := h.lookup_eq key
  cases hs : c.slots.get? key with
  | none =>
    rw [hs, Option.map_none] at hlookup
    rw [get_of_none hs, Lru.get, hlookup]
    exact ⟨rfl, rfl⟩
  | some slot =>
    rw [hs, Option.map_some] at hlookup
    rw [get_of_some hs, Lru.get, hlookup]
    exact ⟨rfl, toLru_touch h hc key slot.value⟩

theorem clock_get (c : Cache α) (key : String) : (c.get key).2.clock = c.clock + 1 := by
  cases hs : c.slots.get? key with
  | none => rw [get_of_none hs]
  | some slot =>
    rw [get_of_some hs]
    rfl

/-- A text that is found was held already, so that nothing has to be given up for it. -/
theorem Sound.get (h : c.Sound) (hc : c.clock.toNat + 1 < 2 ^ 64) (key : String) :
    (c.get key).2.Sound := by
  cases hs : c.slots.get? key with
  | none =>
    rw [get_of_none hs]
    exact ⟨h.linked.mono (clock_le_tick hc), h.fits⟩
  | some slot =>
    rw [get_of_some hs]
    have hlinked := linked_touch h hc key slot.value
    have hlookup := h.lookup_eq key
    rw [hs, Option.map_some] at hlookup
    have hlen : (c.toLru.uses.filter (·.1 ≠ key)).length < c.toLru.uses.length := by
      obtain ⟨l₁, l₂, hl, _⟩ := List.lookup_eq_some_iff.mp hlookup
      refine List.length_filter_lt_length_iff_exists.mpr ⟨(key, slot.value), ?_, by simp⟩
      rw [hl]
      simp
    have hfits := h.fits
    rw [h.size_eq, Lru.size] at hfits
    refine ⟨hlinked, ?_⟩
    rw [size, ← hlinked.length_uses]
    change (c.touch key slot.value).toLru.uses.length ≤ c.limit
    rw [toLru_touch h hc, Lru.touch, List.length_cons]
    exact Nat.le_trans hlen hfits

/-! ### Inserting -/

theorem insert_of_limit_ne (hl : c.limit ≠ 0) (key : String) (v : α) :
    c.insert key v = (c.touch key v).shrink c.limit := by
  rw [insert, if_neg hl]
  rfl

theorem insert_of_limit_eq (hl : c.limit = 0) (key : String) (v : α) : c.insert key v = c := by
  rw [insert, if_pos hl]

theorem toLru_insert (h : c.Sound) (hc : c.clock.toNat + 1 < 2 ^ 64) (key : String) (v : α) :
    (c.insert key v).toLru = c.toLru.insert key v := by
  by_cases hl : c.limit = 0
  · have hnil : c.toLru.uses = [] := List.eq_nil_of_length_eq_zero (by
      have hfits := h.fits
      rw [h.size_eq, Lru.size] at hfits
      omega)
    have hlimit : c.toLru.limit = 0 := hl
    rw [insert_of_limit_eq hl, Lru.insert, Lru.trim, Lru.touch, hlimit, List.take_zero, ← hnil,
      ← hlimit]
  · rw [insert_of_limit_ne hl, toLru_shrink (linked_touch h hc key v), toLru_touch h hc]
    rfl

theorem Sound.insert (h : c.Sound) (hc : c.clock.toNat + 1 < 2 ^ 64) (key : String) (v : α) :
    (c.insert key v).Sound := by
  by_cases hl : c.limit = 0
  · rw [insert_of_limit_eq hl]
    exact h
  · rw [insert_of_limit_ne hl]
    exact sound_shrink (linked_touch h hc key v)

theorem clock_insert_le (hc : c.clock.toNat + 1 < 2 ^ 64) (key : String) (v : α) :
    (c.insert key v).clock.toNat ≤ c.clock.toNat + 1 := by
  by_cases hl : c.limit = 0
  · rw [insert_of_limit_eq hl]
    exact Nat.le_succ _
  · rw [insert_of_limit_ne hl]
    exact (toNat_tick hc).le

/-! ### Getting or making -/

/-- Two ticks at most are taken: one to look, and one to keep the value made. -/
theorem getOrCompile_eq_reference (h : c.Sound) (hc : c.clock.toNat + 2 < 2 ^ 64) (key : String)
    (compile : σ → Except ε α × σ) (s : σ) :
    (c.getOrCompile key compile s).1 = (c.toLru.getOrCompile key compile s).1 ∧
      (c.getOrCompile key compile s).2.1.toLru = (c.toLru.getOrCompile key compile s).2.1 ∧
      (c.getOrCompile key compile s).2.2 = (c.toLru.getOrCompile key compile s).2.2 ∧
      (c.getOrCompile key compile s).2.1.Sound ∧
      (c.getOrCompile key compile s).2.1.clock.toNat ≤ c.clock.toNat + 2 := by
  have hc₁ : c.clock.toNat + 1 < 2 ^ 64 := by omega
  obtain ⟨hfound, hkept⟩ := toLru_get h hc₁ key
  have hsound := h.get hc₁ key
  have hclock : (c.get key).2.clock.toNat = c.clock.toNat + 1 := by
    rw [clock_get, toNat_tick hc₁]
  rw [getOrCompile, Lru.getOrCompile]
  generalize c.get key = g at *
  generalize c.toLru.get key = g' at *
  obtain ⟨v, c₁⟩ := g
  obtain ⟨v', l₁⟩ := g'
  dsimp only at hfound hkept hsound hclock
  subst hfound hkept
  cases v with
  | some v => exact ⟨rfl, rfl, rfl, hsound, hclock ▸ Nat.le_succ _⟩
  | none =>
    dsimp only
    obtain ⟨r, s'⟩ := compile s
    cases r with
    | error e => exact ⟨rfl, rfl, rfl, hsound, hclock ▸ Nat.le_succ _⟩
    | ok v =>
      have hc₂ : c₁.clock.toNat + 1 < 2 ^ 64 := by omega
      have hle := clock_insert_le hc₂ key v
      exact ⟨rfl, toLru_insert hsound hc₂ key v, rfl, hsound.insert hc₂ key v, by dsimp only; omega⟩

end Cache

/-! ## Requests -/

/-- What can be asked of a cache. -/
inductive Request (α ε σ : Type)
  | get (key : String)
  | insert (key : String) (value : α)
  /-- Making a value may fail, and may have an effect. -/
  | getOrCompile (key : String) (compile : σ → Except ε α × σ)
  | setLimit (limit : Nat)
  | clear
  | contains (key : String)

/-- The ticks of the clock that a request takes at most: one for each `get` and each `insert`, those
that `getOrCompile` makes included. -/
def Request.ticks : Request α ε σ → Nat
  | get _ | insert _ _ => 1
  | getOrCompile _ _ => 2
  | setLimit _ | clear | contains _ => 0

/-- The ticks that requests take at most. -/
def totalTicks : List (Request α ε σ) → Nat
  | [] => 0
  | r :: rs => r.ticks + totalTicks rs

/-- What a request gives back. -/
inductive Answer (α ε : Type)
  | done
  | found (value : Option α)
  | made (result : Except ε α)
  | held (b : Bool)

/-- What can be seen of a cache once a request is answered. -/
structure Observation (α ε : Type) where
  answer : Answer α ε
  /-- How often a value was made so far, successfully or not. -/
  compilations : Nat
  limit : Nat
  size : Nat
  contains : String → Bool

/-- The operations of a cache. -/
structure CacheOps (τ α ε σ : Type) where
  get : τ → String → Option α × τ
  insert : τ → String → α → τ
  getOrCompile : τ → String → (σ → Except ε α × σ) → σ → Except ε α × τ × σ
  setLimit : τ → Nat → τ
  clear : τ → τ
  contains : τ → String → Bool
  limit : τ → Nat
  size : τ → Nat

def Cache.ops : CacheOps (Cache α) α ε σ :=
  ⟨Cache.get, Cache.insert, Cache.getOrCompile, Cache.setLimit, Cache.clear, Cache.contains,
    Cache.limit, Cache.size⟩

def Lru.ops : CacheOps (Lru α) α ε σ :=
  ⟨Lru.get, Lru.insert, Lru.getOrCompile, Lru.setLimit, Lru.clear, Lru.contains, Lru.limit,
    Lru.size⟩

/-- A cache in use, with what making values has an effect on and how often one was made. -/
structure Serving (τ σ : Type) where
  cache : τ
  outside : σ
  compilations : Nat

/-- Makes a value and counts it. -/
def counted (compile : σ → Except ε α × σ) : σ × Nat → Except ε α × (σ × Nat) := fun s =>
  let (r, outside) := compile s.1
  (r, outside, s.2 + 1)

namespace CacheOps

variable (o : CacheOps τ α ε (σ × Nat))

/-- Answers a request. -/
def serve (x : Serving τ σ) : Request α ε σ → Answer α ε × Serving τ σ
  | .get key =>
    let (v, c) := o.get x.cache key
    (.found v, { x with cache := c })
  | .insert key v => (.done, { x with cache := o.insert x.cache key v })
  | .getOrCompile key compile =>
    let (r, c, outside, n) :=
      o.getOrCompile x.cache key (counted compile) (x.outside, x.compilations)
    (.made r, ⟨c, outside, n⟩)
  | .setLimit limit => (.done, { x with cache := o.setLimit x.cache limit })
  | .clear => (.done, { x with cache := o.clear x.cache })
  | .contains key => (.held (o.contains x.cache key), x)

/-- What is seen after an answer. -/
def observe (a : Answer α ε) (x : Serving τ σ) : Observation α ε :=
  ⟨a, x.compilations, o.limit x.cache, o.size x.cache, o.contains x.cache⟩

/-- Answers requests one after the other. -/
def serveAll : List (Request α ε σ) → Serving τ σ → List (Observation α ε) × Serving τ σ
  | [], x => ([], x)
  | r :: rs, x =>
    let (a, x) := o.serve x r
    let (os, y) := serveAll rs x
    (o.observe a x :: os, y)

end CacheOps

/-! ## The cache answers as the reference does -/

/-- The reference in the place of the cache. -/
def Serving.toLru (x : Serving (Cache α) σ) : Serving (Lru α) σ := { x with cache := x.cache.toLru }

theorem observe_eq_reference {x : Serving (Cache α) σ} (h : x.cache.Sound) (a : Answer α ε) :
    Cache.ops.observe a x = Lru.ops.observe (σ := σ) a x.toLru := by
  have hsize : x.cache.size = x.cache.toLru.size := h.size_eq
  have hcontains : x.cache.contains = x.cache.toLru.contains := funext h.contains_eq
  simp only [CacheOps.observe, Cache.ops, Lru.ops, Serving.toLru, hsize, hcontains]
  rfl

/-- One request is answered alike, and leaves a cache that stands for the reference's. -/
theorem serve_eq_reference {x : Serving (Cache α) σ} (h : x.cache.Sound) (r : Request α ε σ)
    (hc : x.cache.clock.toNat + r.ticks < 2 ^ 64) :
    (Cache.ops.serve x r).1 = (Lru.ops.serve x.toLru r).1 ∧
      (Cache.ops.serve x r).2.toLru = (Lru.ops.serve x.toLru r).2 ∧
      (Cache.ops.serve x r).2.cache.Sound ∧
      (Cache.ops.serve x r).2.cache.clock.toNat ≤ x.cache.clock.toNat + r.ticks := by
  obtain ⟨c, outside, n⟩ := x
  dsimp only at h hc
  cases r with
  | get key =>
    obtain ⟨hfound, hkept⟩ := Cache.toLru_get h hc key
    refine ⟨congrArg Answer.found hfound, ?_, h.get hc key, ?_⟩
    · exact congrArg (fun l => Serving.mk l outside n) hkept
    · exact ((congrArg UInt64.toNat (Cache.clock_get c key)).trans (Cache.toNat_tick hc)).le
  | insert key v =>
    refine ⟨rfl, ?_, h.insert hc key v, Cache.clock_insert_le hc key v⟩
    exact congrArg (fun l => Serving.mk l outside n) (Cache.toLru_insert h hc key v)
  | getOrCompile key compile =>
    obtain ⟨hmade, hkept, heffect, hsound, hclock⟩ :=
      Cache.getOrCompile_eq_reference h hc key (counted compile) (outside, n)
    refine ⟨congrArg Answer.made hmade, ?_, hsound, hclock⟩
    simp only [CacheOps.serve, Cache.ops, Lru.ops, Serving.toLru, hkept, heffect]
  | setLimit limit =>
    refine ⟨rfl, ?_, h.setLimit limit, Nat.le_refl _⟩
    exact congrArg (fun l => Serving.mk l outside n) (Cache.toLru_setLimit h limit)
  | clear => exact ⟨rfl, rfl, Cache.Sound.clear c, Nat.le_refl _⟩
  | contains key =>
    exact ⟨congrArg Answer.held (h.contains_eq key), rfl, h, Nat.le_refl _⟩

/-- Requests are answered alike from a sound cache on. -/
theorem serveAll_eq_of_sound (rs : List (Request α ε σ)) {x : Serving (Cache α) σ}
    (h : x.cache.Sound) (hc : x.cache.clock.toNat + totalTicks rs < 2 ^ 64) :
    (Cache.ops.serveAll rs x).1 = (Lru.ops.serveAll rs x.toLru).1 ∧
      (Cache.ops.serveAll rs x).2.toLru = (Lru.ops.serveAll rs x.toLru).2 ∧
      (Cache.ops.serveAll rs x).2.cache.Sound := by
  induction rs generalizing x with
  | nil => exact ⟨rfl, rfl, h⟩
  | cons r rs ih =>
    rw [totalTicks] at hc
    obtain ⟨hanswer, hkept, hsound, hclock⟩ := serve_eq_reference h r (by omega)
    obtain ⟨hanswers, hend, hsoundEnd⟩ := ih hsound (by omega)
    rw [hkept] at hanswers hend
    refine ⟨?_, hend, hsoundEnd⟩
    rw [CacheOps.serveAll, CacheOps.serveAll]
    refine congrArg₂ List.cons ?_ hanswers
    rw [observe_eq_reference hsound, hkept, hanswer]

theorem CacheOps.serveAll_cons (o : CacheOps τ α ε (σ × Nat)) (r : Request α ε σ)
    (rs : List (Request α ε σ)) (x : Serving τ σ) : o.serveAll (r :: rs) x =
      (o.observe (o.serve x r).1 (o.serve x r).2 :: (o.serveAll rs (o.serve x r).2).1,
        (o.serveAll rs (o.serve x r).2).2) := rfl

theorem CacheOps.serveAll_append (o : CacheOps τ α ε (σ × Nat)) (rs rs' : List (Request α ε σ))
    (x : Serving τ σ) : o.serveAll (rs ++ rs') x =
      ((o.serveAll rs x).1 ++ (o.serveAll rs' (o.serveAll rs x).2).1,
        (o.serveAll rs' (o.serveAll rs x).2).2) := by
  induction rs generalizing x with
  | nil => rfl
  | cons r rs ih => rw [List.cons_append, serveAll_cons, serveAll_cons, ih, List.cons_append]

/-- A cache with room for one text that holds one. -/
def Cache.holding (key : String) (tick : UInt64) : Cache Unit :=
  ⟨1, tick, [(key, ⟨(), tick⟩)], [(tick, key)]⟩

/-- Compiles a text. -/
def Request.compile (key : String) : Request Unit Unit Unit :=
  .getOrCompile key fun s => (.ok (), s)

/-- Compiles two texts in turn. -/
def alternating : Nat → String → String → List (Request Unit Unit Unit)
  | 0, _, _ => []
  | n + 1, a, b => .compile a :: alternating n b a

theorem length_alternating (n : Nat) (a b : String) : (alternating n a b).length = n := by
  induction n generalizing a b with
  | zero => rfl
  | succ n ih => rw [alternating, List.length_cons, ih]

theorem totalTicks_alternating (n : Nat) (a b : String) :
    totalTicks (alternating n a b) = 2 * n := by
  induction n generalizing a b with
  | zero => rfl
  | succ n ih =>
    rw [alternating, totalTicks, ih]
    change 2 + 2 * n = 2 * (n + 1)
    omega

theorem Cache.toLru_holding (key : String) (tick : UInt64) :
    (holding key tick).toLru = ⟨1, [(key, ())]⟩ := by
  simp [toLru, holding, uses, Entries.get?]

theorem Cache.get_holding {a b : String} (hab : b ≠ a) (t : UInt64) :
    (holding b t).get a = (none, { holding b t with clock := t + 1 }) :=
  get_of_none (by simp [holding, Entries.get?, hab])

/-- As long as there are ticks left the new text takes the place of the old one. -/
theorem Cache.insert_holding {a b : String} (hab : b ≠ a) {t : UInt64} (hlt : t < t + 1 + 1) :
    ({ holding b t with clock := t + 1 } : Cache Unit).insert a () = holding a (t + 1 + 1) := by
  have hnlt : ¬ t + 1 + 1 < t := fun h => UInt64.lt_irrefl _ (UInt64.lt_trans h hlt)
  have hne : ¬ t = t + 1 + 1 := UInt64.ne_of_lt hlt
  by_cases hba : a < b
  · simp [insert, holding, Entries.insert, Entries.get?, Entries.erase, Recency.insert, shrink,
      evict, hab, hba, hnlt, hne, hab.symm]
  · simp [insert, holding, Entries.insert, Entries.get?, Entries.erase, Recency.insert, shrink,
      evict, hab, hba, hnlt, hne]

/-- Past the end of the clock the new text seems the oldest, and is given up at once. -/
theorem Cache.insert_holding_past {a b : String} (hab : b ≠ a) {t : UInt64} (hlt : t + 1 + 1 < t) :
    (({ holding b t with clock := t + 1 } : Cache Unit).insert a ()).contains a = false := by
  by_cases hba : a < b
  · simp [insert, contains, holding, Entries.insert, Entries.get?, Entries.erase, Recency.insert,
      shrink, evict, hab, hba, hlt]
  · simp [insert, contains, holding, Entries.insert, Entries.get?, Entries.erase, Recency.insert,
      shrink, evict, hab, hba, hlt]

theorem serve_compile {a b : String} (hab : b ≠ a) (t : UInt64) (n : Nat) :
    (Cache.ops.serve (ε := Unit) ⟨Cache.holding b t, (), n⟩ (.compile a)).2 =
      ⟨({ Cache.holding b t with clock := t + 1 } : Cache Unit).insert a (), (), n + 1⟩ := by
  simp only [CacheOps.serve, Request.compile, Cache.ops, Cache.getOrCompile,
    Cache.get_holding hab t, counted]

/-- The text compiled last is held, as long as there are ticks left. -/
theorem serveAll_alternating (n : Nat) {a b : String} (hab : b ≠ a) {t : UInt64} (m : Nat)
    (ht : t.toNat + 2 * n < 2 ^ 64) :
    ∃ c d t', d ≠ c ∧ t'.toNat = t.toNat + 2 * n ∧
      (Cache.ops.serveAll (ε := Unit) (alternating n a b) ⟨Cache.holding b t, (), m⟩).2 =
        ⟨Cache.holding d t', (), m + n⟩ := by
  induction n generalizing a b t m with
  | zero => exact ⟨a, b, t, hab, by simp, rfl⟩
  | succ n ih =>
    have h1 : (t + 1).toNat = t.toNat + 1 := by
      rw [UInt64.toNat_add, UInt64.toNat_one]
      omega
    have h2 : (t + 1 + 1).toNat = t.toNat + 2 := by
      rw [UInt64.toNat_add, h1, UInt64.toNat_one]
      omega
    have hlt : t < t + 1 + 1 := by
      rw [UInt64.lt_iff_toNat_lt, h2]
      omega
    obtain ⟨c, d, t', hcd, ht', hrun⟩ := ih hab.symm (t := t + 1 + 1) (m + 1) (by omega)
    refine ⟨c, d, t', hcd, by omega, ?_⟩
    rw [alternating, CacheOps.serveAll_cons, serve_compile hab, Cache.insert_holding hab hlt, hrun,
      Nat.add_right_comm, Nat.add_assoc]

theorem Lru.serve_compile {c d : String} (hcd : d ≠ c) (m : Nat) :
    (Lru.ops.serve (ε := Unit) ⟨⟨1, [(d, ())]⟩, (), m⟩ (.compile c)).2.cache.contains c = true := by
  have hnone : [(d, ())].lookup c = none := by
    rw [List.lookup_eq_none_iff]
    simpa using hcd.symm
  simp [CacheOps.serve, Request.compile, ops, getOrCompile, get, hnone, counted, insert, touch, trim,
    contains]

/-- Where the clock runs out with the last of some compilations, the text compiled last is held by
the reference alone. -/
theorem exists_ne_reference_of_ticks {n : Nat} (hn : 2 * n + 4 = 2 ^ 64) :
    ∃ rs : List (Request Unit Unit Unit), rs.length = n + 2 ∧
      (Cache.ops.serveAll rs ⟨.empty 1, (), 0⟩).1 ≠ (Lru.ops.serveAll rs ⟨.empty 1, (), 0⟩).1 := by
  have htwo : (2 : UInt64).toNat = 2 := rfl
  have hfirst : (Cache.ops.serve (ε := Unit) ⟨.empty 1, (), 0⟩ (.compile "b")).2 =
      ⟨Cache.holding "b" 2, (), 1⟩ := rfl
  obtain ⟨c, d, t, hcd, ht, hrun⟩ :=
    serveAll_alternating n (a := "a") (b := "b") (by decide) (t := 2) 1 (by omega)
  have hpast : t + 1 + 1 < t := by
    rw [UInt64.lt_iff_toNat_lt, UInt64.toNat_add, UInt64.toNat_add, UInt64.toNat_one]
    omega
  let rs : List (Request Unit Unit Unit) := .compile "b" :: alternating n "a" "b"
  have hrs : (Cache.ops.serveAll rs ⟨.empty 1, (), 0⟩).2 = ⟨Cache.holding d t, (), 1 + n⟩ := by
    rw [CacheOps.serveAll_cons, hfirst, hrun]
  have hticks : totalTicks rs < 2 ^ 64 := by
    rw [totalTicks, totalTicks_alternating, Request.compile, Request.ticks]
    omega
  have href : (Lru.ops.serveAll rs ⟨.empty 1, (), 0⟩).2 = ⟨⟨1, [(d, ())]⟩, (), 1 + n⟩ := by
    obtain ⟨_, href, _⟩ := serveAll_eq_of_sound rs (x := ⟨.empty 1, (), 0⟩) (Cache.Sound.empty 1)
      (by change 0 + totalTicks rs < 2 ^ 64; omega)
    rw [hrs, Serving.toLru, Cache.toLru_holding] at href
    exact href.symm
  refine ⟨rs ++ [.compile c], by simp [rs, length_alternating], fun heq => ?_⟩
  rw [CacheOps.serveAll_append, CacheOps.serveAll_append, hrs, href] at heq
  have hlast := (List.cons.inj (List.append_inj' heq rfl).2).1
  have hheld : (Cache.ops.serve ⟨Cache.holding d t, (), 1 + n⟩ (.compile c)).2.cache.contains c =
      (Lru.ops.serve ⟨⟨1, [(d, ())]⟩, (), 1 + n⟩ (.compile c)).2.cache.contains c :=
    congrArg (fun o => o.contains c) hlast
  rw [serve_compile hcd, Lru.serve_compile hcd] at hheld
  exact absurd ((Cache.insert_holding_past hcd hpast).symm.trans hheld) (by decide)

/-- It is the ticks that count, not the requests: 2 ^ 63 compilations make the clock run out, after
which a cache no longer answers as the reference does. -/
theorem exists_serveAll_ne_reference :
    ∃ rs : List (Request Unit Unit Unit), rs.length = 2 ^ 63 ∧
      (Cache.ops.serveAll rs ⟨.empty 1, (), 0⟩).1 ≠ (Lru.ops.serveAll rs ⟨.empty 1, (), 0⟩).1 :=
  exists_ne_reference_of_ticks (n := 2 ^ 63 - 2) (by decide)

end ExprLang
