import ExprLang.Value.Entries

/-!
# ExprLang.Engine.Cache

A bounded store of values under texts that gives up what was used longest ago.

Every use takes a fresh tick of a clock.  A slot remembers the tick of its last use, and `recency`
lists the texts by these ticks, so that the text to give up next stands first.
-/

namespace ExprLang

/-- A value in a cache with the tick of its last use. -/
structure Slot (α : Type) where
  value : α
  tick : UInt64

/-- Texts by the ticks of their last uses, the oldest first. -/
abbrev Recency : Type := List (UInt64 × String)

namespace Recency

/-- Lists a text under a tick. -/
def insert (tick : UInt64) (key : String) : Recency → Recency
  | [] => [(tick, key)]
  | (t, k) :: rest =>
    if tick < t then (tick, key) :: (t, k) :: rest
    else if t = tick then (tick, key) :: rest
    else (t, k) :: insert tick key rest

/-- Takes the text under a tick off the list. -/
def erase (tick : UInt64) : Recency → Recency
  | [] => []
  | (t, k) :: rest => if t = tick then rest else (t, k) :: erase tick rest

end Recency

/-- A cache of values under texts. -/
structure Cache (α : Type) where
  /-- The number of values kept; none at all if it is zero. -/
  limit : Nat
  clock : UInt64
  slots : Entries (Slot α)
  recency : Recency

/-- The limit of a cache that is not given one. -/
def defaultCacheLimit : Nat := 100

namespace Cache

variable {α : Type}

/-- A cache without values. -/
def empty (limit : Nat) : Cache α := ⟨limit, 0, [], []⟩

/-- The number of values. -/
def size (c : Cache α) : Nat := c.slots.length

/-- Whether there is a value under a text.  To ask is not to use it. -/
def contains (c : Cache α) (key : String) : Bool := (c.slots.get? key).isSome

/-- Gives up values, those used longest ago first, until at most `limit` are left. -/
def evict (limit : Nat) (slots : Entries (Slot α)) : Recency → Entries (Slot α) × Recency
  | [] => (slots, [])
  | (t, k) :: rest =>
    if limit < slots.length then evict limit (slots.erase k) rest else (slots, (t, k) :: rest)

/-- Gives up what exceeds a limit. -/
def shrink (c : Cache α) (limit : Nat) : Cache α :=
  let (slots, recency) := evict limit c.slots c.recency
  { c with slots := slots, recency := recency }

/-- Changes the limit. -/
def setLimit (c : Cache α) (limit : Nat) : Cache α := { c with limit := limit }.shrink limit

/-- Gives up all values. -/
def clear (c : Cache α) : Cache α := { c with slots := [], recency := [] }

/-- The value under a text, which counts as a use of it. -/
def get (c : Cache α) (key : String) : Option α × Cache α :=
  let tick := c.clock + 1
  match c.slots.get? key with
  | some slot =>
    (some slot.value,
      { c with
        clock := tick
        slots := c.slots.insert key ⟨slot.value, tick⟩
        recency := (c.recency.erase slot.tick).insert tick key })
  | none => (none, { c with clock := tick })

/-- Puts a value under a text, in place of the one that was there. -/
def insert (c : Cache α) (key : String) (value : α) : Cache α :=
  if c.limit = 0 then c
  else
    let tick := c.clock + 1
    let recency :=
      match c.slots.get? key with
      | some slot => c.recency.erase slot.tick
      | none => c.recency
    { c with
      clock := tick
      slots := c.slots.insert key ⟨value, tick⟩
      recency := recency.insert tick key }.shrink c.limit

/-- The value under a text, or else the one that `compile` makes for it, which is then kept.  A
failure is not kept.  Making a value may have an effect. -/
def getOrCompile {ε σ : Type} (c : Cache α) (key : String)
    (compile : σ → Except ε α × σ) (s : σ) : Except ε α × Cache α × σ :=
  match c.get key with
  | (some value, c) => (.ok value, c, s)
  | (none, c) =>
    match compile s with
    | (.ok value, s) => (.ok value, c.insert key value, s)
    | (.error e, s) => (.error e, c, s)

end Cache

end ExprLang
