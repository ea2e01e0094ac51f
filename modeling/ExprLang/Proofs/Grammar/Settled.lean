import ExprLang.Proofs.Grammar.Accepts
import ExprLang.Proofs.Grammar.Blanks

/-!
# ExprLang.Proofs.Grammar.Settled

From a place in the text a pattern is either accepted or rejected, whatever was read and noted
before (`Pattern.accepts_or_rejects`), and where it is accepted, the tokens and the end are settled.
So a reading can be taken apart again: `Pattern.accepts_seq_iff` and its kin say what the parts of a
pattern did where the pattern was accepted.

How far a reading goes is compared for two readers at once (`Pattern.leads_of_fitsIn`): where these do
the same before less than so many characters, so does a pattern that comes to itself only behind one
of them.  With both readers the same this says that a pattern reads on (`Pattern.leads_reaches`).
-/

namespace ExprLang

/-! ## Accepted or rejected -/

/-- The reader either succeeds or fails from a place. -/
def Reader.Settled (r : Reader) : Prop :=
  ∀ m k, (∃ ts k', r.Accepts m k ts k') ∨ r.Rejects m k

namespace Reader

variable {r : Reader} {m : Mode} {k k₁ k₂ : Cursor} {ts us : List Token}

theorem Accepts.not_rejects (h : r.Accepts m k ts k₁) : ¬ r.Rejects m k := by
  intro h'
  obtain ⟨a, ha⟩ := h .empty []
  obtain ⟨b, hb⟩ := h' .empty []
  rw [ha] at hb
  cases hb

/-- What is accepted is settled. -/
theorem Accepts.unique (h : r.Accepts m k ts k₁) (h' : r.Accepts m k us k₂) :
    ts = us ∧ k₁ = k₂ := by
  obtain ⟨a, ha⟩ := h .empty []
  obtain ⟨b, hb⟩ := h' .empty []
  rw [ha] at hb
  simp only [List.append_nil, Reading.mk.injEq, Option.some.injEq, Progress.mk.injEq] at hb
  exact ⟨hb.2.2, hb.2.1⟩

/-- One reading that succeeds says what is accepted. -/
theorem Settled.accepts_of_read (hr : r.Settled) {a a' : Attempts} {q : Progress}
    (h : r m a ⟨k, us⟩ = ⟨a', some q⟩) : ∃ ts, r.Accepts m k ts q.cursor ∧ q.tokens = ts ++ us := by
  rcases hr m k with ⟨ts, k', hacc⟩ | hrej
  · obtain ⟨b, hb⟩ := hacc a us
    rw [h] at hb
    simp only [Reading.mk.injEq, Option.some.injEq] at hb
    obtain ⟨-, rfl⟩ := hb
    exact ⟨ts, hacc, rfl⟩
  · obtain ⟨b, hb⟩ := hrej a us
    rw [h] at hb
    cases hb

end Reader

/-- A repetition succeeds, whichever fuel it runs with. -/
theorem accepts_repeatReading {r : Reader} (hr : r.Settled) (m : Mode) (fuel : Nat) (k : Cursor) :
    ∃ ts k', ∀ a us, ∃ a',
      repeatReading r m fuel a ⟨k, us⟩ = ⟨a', some ⟨k', ts ++ us⟩⟩ := by
  induction fuel generalizing k with
  | zero => exact ⟨[], k, fun a us => ⟨a, rfl⟩⟩
  | succ fuel ih =>
    rcases hr m (k.skip m.spacing) with ⟨ts, k₁, hacc⟩ | hrej
    · obtain ⟨us, k', hrep⟩ := ih k₁
      refine ⟨us ++ ts, k', fun a vs => ?_⟩
      obtain ⟨a₁, h₁⟩ := hacc a vs
      obtain ⟨a₂, h₂⟩ := hrep a₁ (ts ++ vs)
      refine ⟨a₂, ?_⟩
      simp only [repeatReading, Progress.skip_mk, h₁, h₂, List.append_assoc]
    · refine ⟨[], k, fun a vs => ?_⟩
      obtain ⟨a₁, h₁⟩ := hrej a vs
      exact ⟨a₁, by simp only [repeatReading, Progress.skip_mk, h₁]; rfl⟩

namespace Pattern

variable {n : Reader} {x y : Pattern} {m : Mode} {k k' k₁ k₂ : Cursor} {ts us : List Token}

/-- Where a pattern of a visible rule is accepted, what the rule leaves. -/
theorem accepts_rule_of_body {r : Rule} {kind : RuleKind}
    (hx : x.Accepts n { m with spacing := kind.body m.spacing } k ts k') :
    (rule r kind x).Accepts n m k
      (if Mode.visible { m with spacing := kind.outer m.spacing } then
        [.mk r k (k'.offset - k.offset) ts.reverse] else []) k' := by
  cases hvis : Mode.visible { m with spacing := kind.outer m.spacing } with
  | true => exact accepts_rule hvis hx
  | false => exact accepts_rule_silent hvis hx

theorem accepts_or_rejects (hn : n.Settled) (x : Pattern) : (x.read n).Settled := by
  induction x with
  | text w =>
    intro m k
    cases h : w.isPrefixOf k.rest with
    | true =>
      obtain ⟨l, hl⟩ := List.isPrefixOf_iff_prefix.mp h
      exact .inl ⟨_, _, accepts_text hl.symm⟩
    | false => exact .inr (rejects_text h)
  | one f =>
    intro m k
    by_cases h : ∃ c l, k.rest = c :: l ∧ f c = true
    · obtain ⟨c, l, hk, hc⟩ := h
      exact .inl ⟨_, _, accepts_one hk hc⟩
    · refine .inr (rejects_one fun c l hk => ?_)
      rw [← Bool.not_eq_true]
      exact fun hc => h ⟨c, l, hk, hc⟩
  | stop =>
    intro m k
    cases h : k.rest with
    | nil => exact .inl ⟨_, _, accepts_stop h⟩
    | cons c l => exact .inr fun a us => ⟨a, by simp only [read_stop, h]⟩
  | seq x y ihx ihy =>
    intro m k
    rcases ihx m k with ⟨ts, k₁, hx⟩ | hx
    · rcases ihy m (k₁.skip m.spacing) with ⟨us, k', hy⟩ | hy
      · exact .inl ⟨_, _, accepts_seq hx hy⟩
      · exact .inr (rejects_seq_right hx hy)
    · exact .inr (rejects_seq hx)
  | either x y ihx ihy =>
    intro m k
    rcases ihx m k with ⟨ts, k', hx⟩ | hx
    · exact .inl ⟨_, _, accepts_either_left hx⟩
    · rcases ihy m k with ⟨ts, k', hy⟩ | hy
      · exact .inl ⟨_, _, accepts_either_right hx hy⟩
      · exact .inr (rejects_either hx hy)
  | maybe x ih =>
    intro m k
    rcases ih m k with ⟨ts, k', hx⟩ | hx
    · exact .inl ⟨_, _, accepts_maybe hx⟩
    · exact .inl ⟨_, _, accepts_maybe_nil hx⟩
  | many x ih =>
    intro m k
    left
    rcases ih m k with ⟨ts, k₁, hx⟩ | hx
    · obtain ⟨us, k', hrep⟩ := accepts_repeatReading ih m (k₁.rest.length + 1) k₁
      refine ⟨us ++ ts, k', fun a vs => ?_⟩
      obtain ⟨a₁, h₁⟩ := hx a vs
      obtain ⟨a₂, h₂⟩ := hrep a₁ (ts ++ vs)
      exact ⟨a₂, by simp only [read_many, h₁, h₂, List.append_assoc]⟩
    · refine ⟨[], k, fun a vs => ?_⟩
      obtain ⟨a₁, h₁⟩ := hx a vs
      exact ⟨a₁, by simp only [read_many, h₁]; rfl⟩
  | «unless» x ih =>
    intro m k
    rcases ih { m with ahead := true } k with ⟨ts, k', hx⟩ | hx
    · exact .inr (rejects_unless hx)
    · exact .inl ⟨_, _, accepts_unless hx⟩
  | rule r kind x ih =>
    intro m k
    rcases ih { m with spacing := kind.body m.spacing } k with ⟨ts, k', hx⟩ | hx
    · exact .inl ⟨_, _, accepts_rule_of_body hx⟩
    · exact .inr (rejects_rule hx)
  | recurse => exact hn

/-! ## Taking readings apart -/

theorem accepts_text_iff {w : List Char} : (text w).Accepts n m k ts k' ↔
    w <+: k.rest ∧ ts = [] ∧ k' = k.advance w.length := by
  constructor
  · intro h
    cases hw : w.isPrefixOf k.rest with
    | false => exact absurd (rejects_text hw) h.not_rejects
    | true =>
      obtain ⟨l, hl⟩ := List.isPrefixOf_iff_prefix.mp hw
      exact ⟨⟨l, hl⟩, h.unique (accepts_text hl.symm)⟩
  · rintro ⟨⟨l, hl⟩, rfl, rfl⟩
    exact accepts_text hl.symm

theorem accepts_one_iff {f : Char → Bool} : (one f).Accepts n m k ts k' ↔
    (∃ c l, k.rest = c :: l ∧ f c = true) ∧ ts = [] ∧ k' = k.advance 1 := by
  constructor
  · intro h
    by_cases hc : ∃ c l, k.rest = c :: l ∧ f c = true
    · obtain ⟨c, l, hk, hf⟩ := hc
      exact ⟨⟨c, l, hk, hf⟩, h.unique (accepts_one hk hf)⟩
    · refine absurd (rejects_one fun c l hk => ?_) h.not_rejects
      rw [← Bool.not_eq_true]
      exact fun hf => hc ⟨c, l, hk, hf⟩
  · rintro ⟨⟨c, l, hk, hf⟩, rfl, rfl⟩
    exact accepts_one hk hf

theorem accepts_stop_iff : stop.Accepts n m k ts k' ↔ k.rest = [] ∧ ts = [] ∧ k' = k := by
  constructor
  · intro h
    cases hk : k.rest with
    | nil => exact ⟨rfl, h.unique (accepts_stop hk)⟩
    | cons c l => exact absurd (fun a us => ⟨a, by simp only [read_stop, hk]⟩) h.not_rejects
  · rintro ⟨hk, rfl, rfl⟩
    exact accepts_stop hk

theorem accepts_seq_iff (hn : n.Settled) : (seq x y).Accepts n m k ts k' ↔
    ∃ us vs k₁, x.Accepts n m k us k₁ ∧ y.Accepts n m (k₁.skip m.spacing) vs k' ∧
      ts = vs ++ us := by
  constructor
  · intro h
    rcases accepts_or_rejects hn x m k with ⟨us, k₁, hx⟩ | hx
    · rcases accepts_or_rejects hn y m (k₁.skip m.spacing) with ⟨vs, k₂, hy⟩ | hy
      · obtain ⟨rfl, rfl⟩ := h.unique (accepts_seq hx hy)
        exact ⟨us, vs, k₁, hx, hy, rfl⟩
      · exact absurd (rejects_seq_right hx hy) h.not_rejects
    · exact absurd (rejects_seq hx) h.not_rejects
  · rintro ⟨us, vs, k₁, hx, hy, rfl⟩
    exact accepts_seq hx hy

theorem accepts_either_iff (hn : n.Settled) : (either x y).Accepts n m k ts k' ↔
    x.Accepts n m k ts k' ∨ x.Rejects n m k ∧ y.Accepts n m k ts k' := by
  constructor
  · intro h
    rcases accepts_or_rejects hn x m k with ⟨us, k₁, hx⟩ | hx
    · obtain ⟨rfl, rfl⟩ := h.unique (accepts_either_left hx)
      exact .inl hx
    · rcases accepts_or_rejects hn y m k with ⟨us, k₁, hy⟩ | hy
      · obtain ⟨rfl, rfl⟩ := h.unique (accepts_either_right hx hy)
        exact .inr ⟨hx, hy⟩
      · exact absurd (rejects_either hx hy) h.not_rejects
  · rintro (hx | ⟨hx, hy⟩)
    · exact accepts_either_left hx
    · exact accepts_either_right hx hy

theorem accepts_maybe_iff (hn : n.Settled) : (maybe x).Accepts n m k ts k' ↔
    x.Accepts n m k ts k' ∨ x.Rejects n m k ∧ ts = [] ∧ k' = k := by
  constructor
  · intro h
    rcases accepts_or_rejects hn x m k with ⟨us, k₁, hx⟩ | hx
    · obtain ⟨rfl, rfl⟩ := h.unique (accepts_maybe hx)
      exact .inl hx
    · exact .inr ⟨hx, h.unique (accepts_maybe_nil hx)⟩
  · rintro (hx | ⟨hx, rfl, rfl⟩)
    · exact accepts_maybe hx
    · exact accepts_maybe_nil hx

theorem accepts_unless_iff (hn : n.Settled) : (Pattern.unless x).Accepts n m k ts k' ↔
    x.Rejects n { m with ahead := true } k ∧ ts = [] ∧ k' = k := by
  constructor
  · intro h
    rcases accepts_or_rejects hn x { m with ahead := true } k with ⟨us, k₁, hx⟩ | hx
    · exact absurd (rejects_unless hx) h.not_rejects
    · exact ⟨hx, h.unique (accepts_unless hx)⟩
  · rintro ⟨hx, rfl, rfl⟩
    exact accepts_unless hx

theorem accepts_rule_iff (hn : n.Settled) {r : Rule} {kind : RuleKind} :
    (rule r kind x).Accepts n m k ts k' ↔
      ∃ us, x.Accepts n { m with spacing := kind.body m.spacing } k us k' ∧
        ts = if Mode.visible { m with spacing := kind.outer m.spacing } then
          [.mk r k (k'.offset - k.offset) us.reverse] else [] := by
  constructor
  · intro h
    rcases accepts_or_rejects hn x { m with spacing := kind.body m.spacing } k with
      ⟨us, k₁, hx⟩ | hx
    · obtain ⟨rfl, rfl⟩ := h.unique (accepts_rule_of_body hx)
      exact ⟨us, hx, rfl⟩
    · exact absurd (rejects_rule hx) h.not_rejects
  · rintro ⟨us, hx, rfl⟩
    exact accepts_rule_of_body hx

theorem rejects_text_iff {w : List Char} : (text w).Rejects n m k ↔ ¬ w <+: k.rest := by
  rw [← List.isPrefixOf_iff_prefix, Bool.not_eq_true]
  refine ⟨fun h => ?_, rejects_text⟩
  cases hw : w.isPrefixOf k.rest with
  | false => rfl
  | true =>
    obtain ⟨l, hl⟩ := List.isPrefixOf_iff_prefix.mp hw
    exact absurd h (Reader.Accepts.not_rejects (accepts_text hl.symm))

theorem rejects_one_iff {f : Char → Bool} :
    (one f).Rejects n m k ↔ ∀ c l, k.rest = c :: l → f c = false := by
  refine ⟨fun h c l hk => ?_, rejects_one⟩
  rw [← Bool.not_eq_true]
  exact fun hc => Reader.Accepts.not_rejects (accepts_one hk hc) h

theorem rejects_seq_iff (hn : n.Settled) : (seq x y).Rejects n m k ↔
    x.Rejects n m k ∨ ∃ ts k₁, x.Accepts n m k ts k₁ ∧ y.Rejects n m (k₁.skip m.spacing) := by
  constructor
  · intro h
    rcases accepts_or_rejects hn x m k with ⟨ts, k₁, hx⟩ | hx
    · rcases accepts_or_rejects hn y m (k₁.skip m.spacing) with ⟨us, k₂, hy⟩ | hy
      · exact absurd h (Reader.Accepts.not_rejects (accepts_seq hx hy))
      · exact .inr ⟨ts, k₁, hx, hy⟩
    · exact .inl hx
  · rintro (hx | ⟨ts, k₁, hx, hy⟩)
    · exact rejects_seq hx
    · exact rejects_seq_right hx hy

theorem rejects_either_iff (hn : n.Settled) :
    (either x y).Rejects n m k ↔ x.Rejects n m k ∧ y.Rejects n m k := by
  refine ⟨fun h => ?_, fun ⟨hx, hy⟩ => rejects_either hx hy⟩
  rcases accepts_or_rejects hn x m k with ⟨ts, k₁, hx⟩ | hx
  · exact absurd h (Reader.Accepts.not_rejects (accepts_either_left hx))
  · rcases accepts_or_rejects hn y m k with ⟨ts, k₁, hy⟩ | hy
    · exact absurd h (Reader.Accepts.not_rejects (accepts_either_right hx hy))
    · exact ⟨hx, hy⟩

theorem not_rejects_maybe (hn : n.Settled) : ¬ (maybe x).Rejects n m k := by
  intro h
  rcases accepts_or_rejects hn x m k with ⟨ts, k₁, hx⟩ | hx
  · exact Reader.Accepts.not_rejects (accepts_maybe hx) h
  · exact Reader.Accepts.not_rejects (accepts_maybe_nil hx) h

theorem rejects_unless_iff (hn : n.Settled) : (Pattern.unless x).Rejects n m k ↔
    ∃ ts k', x.Accepts n { m with ahead := true } k ts k' := by
  refine ⟨fun h => ?_, fun ⟨_, _, hx⟩ => rejects_unless hx⟩
  rcases accepts_or_rejects hn x { m with ahead := true } k with hx | hx
  · exact hx
  · exact absurd h (Reader.Accepts.not_rejects (accepts_unless hx))

theorem rejects_rule_iff (hn : n.Settled) {r : Rule} {kind : RuleKind} :
    (rule r kind x).Rejects n m k ↔ x.Rejects n { m with spacing := kind.body m.spacing } k := by
  refine ⟨fun h => ?_, rejects_rule⟩
  rcases accepts_or_rejects hn x { m with spacing := kind.body m.spacing } k with
    ⟨ts, k₁, hx⟩ | hx
  · exact absurd h (Reader.Accepts.not_rejects (accepts_rule_of_body hx))
  · exact hx

/-- Where a choice is accepted, one of the alternatives is. -/
theorem exists_of_accepts_choice (hn : n.Settled) {xs : List Pattern}
    (h : (choice xs).Accepts n m k ts k') : ∃ x ∈ xs, x.Accepts n m k ts k' := by
  induction xs with
  | nil =>
    obtain ⟨⟨c, l, -, hc⟩, -⟩ := accepts_one_iff.mp h
    cases hc
  | cons x xs ih =>
    cases xs with
    | nil => exact ⟨x, List.mem_cons_self, h⟩
    | cons y ys =>
      rcases (accepts_either_iff hn).mp h with hx | ⟨-, hrest⟩
      · exact ⟨x, List.mem_cons_self, hx⟩
      · obtain ⟨z, hz, hacc⟩ := ih hrest
        exact ⟨z, List.mem_cons_of_mem x hz, hacc⟩

/-! ## Progress -/

/-- Whether the pattern can succeed without reading a character. -/
def nullable : Pattern → Bool
  | .text w => w.isEmpty
  | .one _ | .recurse => false
  | .stop | .maybe _ | .many _ | .unless _ => true
  | .seq x y => x.nullable && y.nullable
  | .either x y => x.nullable || y.nullable
  | .rule _ _ x => x.nullable

end Pattern

/-- From `k` to `k'` some of the text is read, and not nothing unless it may be. -/
def Cursor.Reaches (nullable : Bool) (k k' : Cursor) : Prop :=
  ∃ i, i ≤ k.rest.length ∧ k' = k.advance i ∧ (nullable = false → 0 < i)

namespace Cursor.Reaches

variable {a b : Bool} {k k₁ k' : Cursor}

theorem refl (k : Cursor) : k.Reaches true k :=
  ⟨0, Nat.zero_le _, rfl, fun h => by cases h⟩

theorem mono (h : k.Reaches a k') (hab : a = true → b = true) : k.Reaches b k' := by
  obtain ⟨i, hi, rfl, hpos⟩ := h
  refine ⟨i, hi, rfl, fun hb => hpos ?_⟩
  cases a with
  | false => rfl
  | true => rw [hab rfl] at hb; cases hb

theorem skip (k : Cursor) (sp : Spacing) : k.Reaches true (k.skip sp) := by
  cases sp with
  | free => exact ⟨blankLength k.rest, blankLength_le k.rest, rfl, fun h => by cases h⟩
  | tight | sealed => exact refl k

theorem trans (h : k.Reaches a k₁) (h' : k₁.Reaches b k') : k.Reaches (a && b) k' := by
  obtain ⟨i, hi, rfl, hpos⟩ := h
  obtain ⟨j, hj, rfl, hpos'⟩ := h'
  rw [rest_advance, List.length_drop] at hj
  refine ⟨i + j, by omega, advance_advance k i j, fun hab => ?_⟩
  rcases Bool.and_eq_false_iff.mp hab with ha | hb
  · have := hpos ha
    omega
  · have := hpos' hb
    omega

theorem length_lt (h : k.Reaches false k') : k'.rest.length < k.rest.length := by
  obtain ⟨i, hi, rfl, hpos⟩ := h
  have := hpos rfl
  rw [rest_advance, List.length_drop]
  omega

end Cursor.Reaches

/-! ### Two readers -/

/-- Whether the pattern contains itself only behind a character. -/
def Pattern.guarded : Pattern → Bool
  | .text _ | .one _ | .stop => true
  | .seq x y => x.guarded && (!x.nullable || y.guarded)
  | .either x y => x.guarded && y.guarded
  | .maybe x | .many x | .unless x | .rule _ _ x => x.guarded
  | .recurse => false

/-- Two readers that do the same where less than `len` characters are ahead. -/
def Reader.SameBelow (n₁ n₂ : Reader) (len : Nat) : Prop :=
  ∀ m k, k.rest.length < len → n₁.Leads n₂ m k fun _ k' => k.Reaches false k'

theorem Cursor.Reaches.length_le {b : Bool} {k k' : Cursor} (h : k.Reaches b k') :
    k'.rest.length ≤ k.rest.length := by
  obtain ⟨i, -, rfl, -⟩ := h
  rw [Cursor.rest_advance, List.length_drop]
  omega

/-- At most `len` characters are ahead, and less if the pattern can contain itself before the first of
them. -/
def Pattern.FitsIn (len : Nat) (x : Pattern) (k : Cursor) : Prop :=
  k.rest.length < len ∨ k.rest.length = len ∧ x.guarded = true

namespace Pattern.FitsIn

variable {len : Nat} {x y : Pattern} {k k₁ k' : Cursor}

theorem of_le (h : x.FitsIn len k) (hle : k'.rest.length ≤ k.rest.length) : x.FitsIn len k' := by
  rcases h with hlt | ⟨hlen, hx⟩
  · exact .inl (by omega)
  · rcases Nat.lt_or_ge k'.rest.length len with hlt | hge
    · exact .inl hlt
    · exact .inr ⟨by omega, hx⟩

theorem part (h : x.FitsIn len k) (hxy : x.guarded = true → y.guarded = true) : y.FitsIn len k :=
  h.imp_right fun h => ⟨h.1, hxy h.2⟩

theorem left (h : (Pattern.seq x y).FitsIn len k) : x.FitsIn len k :=
  h.part fun h => by
    rw [guarded, Bool.and_eq_true] at h
    exact h.1

theorem first (h : (Pattern.either x y).FitsIn len k) : x.FitsIn len k :=
  h.part fun h => by
    rw [guarded, Bool.and_eq_true] at h
    exact h.1

theorem second (h : (Pattern.either x y).FitsIn len k) : y.FitsIn len k :=
  h.part fun h => by
    rw [guarded, Bool.and_eq_true] at h
    exact h.2

/-- Behind the first part the second one fits in. -/
theorem right (h : (Pattern.seq x y).FitsIn len k) (hreach : k.Reaches x.nullable k₁)
    (hle : k'.rest.length ≤ k₁.rest.length) : y.FitsIn len k' := by
  have hle₁ := hreach.length_le
  rcases h with hlt | ⟨hlen, hguarded⟩
  · exact .inl (by omega)
  · rw [guarded, Bool.and_eq_true] at hguarded
    cases hnull : x.nullable with
    | false =>
      rw [hnull] at hreach
      exact .inl (by have := hreach.length_lt; omega)
    | true =>
      have hy : y.guarded = true := by simpa [hnull] using hguarded.2
      rcases Nat.lt_or_ge k'.rest.length len with hlt | hge
      · exact .inl hlt
      · exact .inr ⟨by omega, hy⟩

end Pattern.FitsIn

/-- A pattern that fits in is read alike by such readers. -/
theorem Pattern.leads_of_fitsIn {n₁ n₂ : Reader} {len : Nat} (hn : n₁.SameBelow n₂ len)
    (x : Pattern) (m : Mode) (k : Cursor) (hk : x.FitsIn len k) :
    x.Leads n₁ n₂ m k fun _ k' => k.Reaches x.nullable k' := by
  induction x generalizing m k with
  | text w =>
    refine .text fun l hl => ⟨w.length, by rw [hl, List.length_append]; omega, rfl, fun hw => ?_⟩
    rw [nullable, List.isEmpty_eq_false_iff] at hw
    exact List.length_pos_iff.mpr hw
  | one f => exact .one fun c l hl _ => ⟨1, by rw [hl]; simp, rfl, fun _ => Nat.one_pos⟩
  | stop => exact .stop fun _ => .refl k
  | seq x y ihx ihy =>
    refine .seq (ihx m k hk.left) fun _ k₁ h₁ => ?_
    have hskip := (Cursor.Reaches.skip k₁ m.spacing).length_le
    refine (ihy m (k₁.skip m.spacing) (hk.right h₁ hskip)).mono fun _ k' h' => ?_
    simpa [nullable] using (h₁.trans (.skip k₁ m.spacing)).trans h'
  | either x y ihx ihy =>
    exact .either ((ihx m k hk.first).mono fun _ _ h => h.mono fun hx => by simp [nullable, hx])
      ((ihy m k hk.second).mono fun _ _ h => h.mono fun hy => by simp [nullable, hy])
  | maybe x ih => exact .maybe ((ih m k (hk.part id)).mono fun _ _ h => h.mono fun _ => rfl) (.refl k)
  | many x ih =>
    have hx : x.FitsIn len k := hk.part id
    refine .many (.refl k) ((ih m k hx).mono fun _ _ h => h.mono fun _ => rfl) fun _ k₁ h₁ => ?_
    have hskip := (Cursor.Reaches.skip k₁ m.spacing).length_le
    exact (ih m (k₁.skip m.spacing) (hx.of_le (hskip.trans h₁.length_le))).mono fun _ k' h' =>
      ((h₁.trans (.skip k₁ m.spacing)).trans h').mono fun _ => rfl
  | «unless» x ih =>
    intro a ts
    rw [read_unless, read_unless, (ih { m with ahead := true } k (hk.part id) a ts).1]
    refine ⟨rfl, fun a' q hq => ?_⟩
    split at hq
    · cases hq
      exact ⟨[], rfl, .refl k⟩
    · cases hq
  | rule r kind x ih => exact .rule (ih { m with spacing := kind.body m.spacing } k (hk.part id))
  | recurse =>
    rcases hk with hlt | ⟨-, hguarded⟩
    · exact hn m k hlt
    · cases hguarded

/-- Where no more than `len` characters are ahead, a guarded pattern fits in. -/
theorem Pattern.FitsIn.of_guarded {len : Nat} {x : Pattern} {k : Cursor} (hx : x.guarded = true)
    (hk : k.rest.length ≤ len) : x.FitsIn len k :=
  (Nat.lt_or_eq_of_le hk).imp_right fun h => ⟨h, hx⟩

/-! ### One reader -/

/-- What the reader accepts, it reads on, and not nothing. -/
def Reader.Proceeds (r : Reader) : Prop :=
  ∀ m k, r.Leads r m k fun _ k' => k.Reaches false k'

namespace Pattern

variable {n : Reader} {x : Pattern} {m : Mode} {k k' : Cursor} {ts : List Token}

theorem leads_reaches (hn : n.Proceeds) (x : Pattern) (m : Mode) (k : Cursor) :
    x.Leads n n m k fun _ k' => k.Reaches x.nullable k' := by
  have hk : x.FitsIn (k.rest.length + 1) k := .inl (Nat.lt_succ_self _)
  exact leads_of_fitsIn (fun m k _ => hn m k) x m k hk

/-- What is accepted reads on in the text. -/
theorem Accepts.reaches (hn : n.Proceeds) (h : x.Accepts n m k ts k') :
    k.Reaches x.nullable k' := by
  obtain ⟨a, ha⟩ := h .empty []
  obtain ⟨-, -, hreaches⟩ := (leads_reaches hn x m k .empty []).2 a _ ha
  exact hreaches

theorem Accepts.length_lt (hn : n.Proceeds) (h : x.Accepts n m k ts k')
    (hx : x.nullable = false) : k'.rest.length < k.rest.length := by
  have hreaches := h.reaches hn
  rw [hx] at hreaches
  exact hreaches.length_lt

/-- What is accepted again and again is accepted until it is rejected. -/
theorem exists_repeats (hn : n.Settled) (hp : n.Proceeds) (hx : x.nullable = false) (m : Mode)
    (k : Cursor) : ∃ ts k', Repeats n x m k ts k' := by
  induction hlen : k.rest.length using Nat.strongRecOn generalizing k with
  | _ len ih =>
    rcases accepts_or_rejects hn x m (k.skip m.spacing) with ⟨ts, k₁, hacc⟩ | hrej
    · have hlt : k₁.rest.length < k.rest.length := by
        have hacc : x.Accepts n m (k.skip m.spacing) ts k₁ := hacc
        have := hacc.length_lt hp hx
        obtain ⟨i, -, hi, -⟩ := Cursor.Reaches.skip k m.spacing
        rw [hi, Cursor.rest_advance, List.length_drop] at this
        omega
      obtain ⟨us, k', hrep⟩ := ih _ (hlen ▸ hlt) k₁ rfl
      exact ⟨us ++ ts, k', .next hacc hlt hrep⟩
    · exact ⟨[], k, .done hrej⟩

theorem accepts_many_iff (hn : n.Settled) (hp : n.Proceeds) (hx : x.nullable = false)
    (hk : k.skip m.spacing = k) : (many x).Accepts n m k ts k' ↔ Repeats n x m k ts k' := by
  refine ⟨fun h => ?_, fun h => accepts_many h hk⟩
  obtain ⟨us, k₁, hrep⟩ := exists_repeats hn hp hx m k
  obtain ⟨rfl, rfl⟩ := h.unique (accepts_many hrep hk)
  exact hrep

end Pattern

end ExprLang
