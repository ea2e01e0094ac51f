import ExprLang.Proofs.Grammar.Steps

/-!
# ExprLang.Proofs.Grammar.Accepts

Which readings succeed, with which tokens, and which fail.

`Pattern.Accepts` and `Pattern.Rejects` leave out what is noted of failures, so that there is one
rule for each way a pattern can go.  Most failures are plain from the next character alone:
`Pattern.eats` and `Pattern.idles` work that out from the pattern (`Pattern.rejects_of_first`).
-/

namespace ExprLang

/-- The mode in which expressions are read. -/
abbrev Mode.open : Mode := ⟨.free, false⟩

theorem Cursor.length_rest_skip (k : Cursor) : (k.skip .free).rest.length ≤ k.rest.length := by
  rw [Cursor.rest_skip_free, List.length_drop]
  omega

/-- From `k` the reader succeeds, leaves the tokens `ts` (the latest first) and ends at `k'`. -/
def Reader.Accepts (r : Reader) (m : Mode) (k : Cursor) (ts : List Token) (k' : Cursor) : Prop :=
  ∀ a us, ∃ a', r m a ⟨k, us⟩ = ⟨a', some ⟨k', ts ++ us⟩⟩

/-- From `k` the reader fails. -/
def Reader.Rejects (r : Reader) (m : Mode) (k : Cursor) : Prop :=
  ∀ a us, ∃ a', r m a ⟨k, us⟩ = ⟨a', none⟩

namespace Pattern

/-- The same for a pattern; `n` reads the rule that contains itself. -/
def Accepts (n : Reader) (x : Pattern) (m : Mode) (k : Cursor) (ts : List Token) (k' : Cursor) :
    Prop :=
  Reader.Accepts (x.read n) m k ts k'

def Rejects (n : Reader) (x : Pattern) (m : Mode) (k : Cursor) : Prop :=
  Reader.Rejects (x.read n) m k

variable {n : Reader} {x y : Pattern} {m : Mode} {k k' k₁ k₂ : Cursor} {ts us : List Token}

/-! ## Single characters and texts -/

theorem accepts_text {w l : List Char} (h : k.rest = w ++ l) :
    (text w).Accepts n m k [] (k.advance w.length) := by
  intro a us
  have hpre : w.isPrefixOf k.rest = true := by
    rw [h]
    exact List.isPrefixOf_iff_prefix.mpr ⟨l, rfl⟩
  exact ⟨a, by rw [read_text, if_pos hpre]; rfl⟩

theorem rejects_text {w : List Char} (h : w.isPrefixOf k.rest = false) :
    (text w).Rejects n m k := by
  intro a us
  exact ⟨a, by rw [read_text, if_neg (by simp [h])]⟩

theorem accepts_one {f : Char → Bool} {c : Char} {l : List Char} (h : k.rest = c :: l)
    (hc : f c = true) : (one f).Accepts n m k [] (k.advance 1) := by
  intro a us
  refine ⟨a, ?_⟩
  rw [read_one]
  simp only [h, hc, if_true]
  rfl

theorem rejects_one {f : Char → Bool} (h : ∀ c l, k.rest = c :: l → f c = false) :
    (one f).Rejects n m k := by
  intro a us
  refine ⟨a, ?_⟩
  rw [read_one]
  cases hk : k.rest with
  | nil => rfl
  | cons c l => simp [h c l hk]

theorem accepts_stop (h : k.rest = []) : stop.Accepts n m k [] k := by
  intro a us
  refine ⟨a, ?_⟩
  rw [read_stop]
  simp only [h]
  rfl

/-! ## Sequences and choices -/

theorem accepts_seq (hx : x.Accepts n m k ts k₁)
    (hy : y.Accepts n m (k₁.skip m.spacing) us k') : (seq x y).Accepts n m k (us ++ ts) k' := by
  intro a vs
  obtain ⟨a₁, h₁⟩ := hx a vs
  obtain ⟨a₂, h₂⟩ := hy a₁ (ts ++ vs)
  refine ⟨a₂, ?_⟩
  rw [read_seq, h₁]
  simp only [Progress.skip_mk, h₂, List.append_assoc]

theorem rejects_seq (hx : x.Rejects n m k) : (seq x y).Rejects n m k := by
  intro a vs
  obtain ⟨a₁, h₁⟩ := hx a vs
  exact ⟨a₁, by rw [read_seq, h₁]⟩

theorem rejects_seq_right (hx : x.Accepts n m k ts k₁) (hy : y.Rejects n m (k₁.skip m.spacing)) :
    (seq x y).Rejects n m k := by
  intro a vs
  obtain ⟨a₁, h₁⟩ := hx a vs
  obtain ⟨a₂, h₂⟩ := hy a₁ (ts ++ vs)
  refine ⟨a₂, ?_⟩
  rw [read_seq, h₁]
  simp only [Progress.skip_mk, h₂]

theorem accepts_either_left (hx : x.Accepts n m k ts k') : (either x y).Accepts n m k ts k' := by
  intro a vs
  obtain ⟨a₁, h₁⟩ := hx a vs
  exact ⟨a₁, by rw [read_either, h₁]⟩

theorem accepts_either_right (hx : x.Rejects n m k) (hy : y.Accepts n m k ts k') :
    (either x y).Accepts n m k ts k' := by
  intro a vs
  obtain ⟨a₁, h₁⟩ := hx a vs
  obtain ⟨a₂, h₂⟩ := hy a₁ vs
  exact ⟨a₂, by rw [read_either, h₁]; exact h₂⟩

theorem rejects_either (hx : x.Rejects n m k) (hy : y.Rejects n m k) :
    (either x y).Rejects n m k := by
  intro a vs
  obtain ⟨a₁, h₁⟩ := hx a vs
  obtain ⟨a₂, h₂⟩ := hy a₁ vs
  exact ⟨a₂, by rw [read_either, h₁]; exact h₂⟩

/-- The first alternative that can be read is read. -/
theorem accepts_choice {xs ys : List Pattern} (hxs : ∀ z ∈ xs, z.Rejects n m k)
    (hx : x.Accepts n m k ts k') : (choice (xs ++ x :: ys)).Accepts n m k ts k' := by
  induction xs with
  | nil =>
    cases ys with
    | nil => exact hx
    | cons y ys => exact accepts_either_left hx
  | cons z zs ih =>
    have hrest := ih fun z' hz' => hxs z' (List.mem_cons_of_mem z hz')
    have hz := hxs z List.mem_cons_self
    cases zs with
    | nil => exact accepts_either_right hz hrest
    | cons z' zs => exact accepts_either_right hz hrest

theorem accepts_maybe (hx : x.Accepts n m k ts k') : (maybe x).Accepts n m k ts k' := by
  intro a vs
  obtain ⟨a₁, h₁⟩ := hx a vs
  exact ⟨a₁, by rw [read_maybe, h₁]⟩

theorem accepts_maybe_nil (hx : x.Rejects n m k) : (maybe x).Accepts n m k [] k := by
  intro a vs
  obtain ⟨a₁, h₁⟩ := hx a vs
  exact ⟨a₁, by rw [read_maybe, h₁]; rfl⟩

theorem accepts_unless (hx : x.Rejects n { m with ahead := true } k) :
    (Pattern.unless x).Accepts n m k [] k := by
  intro a vs
  obtain ⟨a₁, h₁⟩ := hx a vs
  exact ⟨a, by rw [read_unless, h₁]; rfl⟩

theorem rejects_unless (hx : x.Accepts n { m with ahead := true } k ts k') :
    (Pattern.unless x).Rejects n m k := by
  intro a vs
  obtain ⟨a₁, h₁⟩ := hx a vs
  exact ⟨a, by rw [read_unless, h₁]⟩

/-! ## Rules -/

/-- A rule that leaves a trace leaves its token. -/
theorem accepts_rule {r : Rule} {kind : RuleKind}
    (hvis : Mode.visible { m with spacing := kind.outer m.spacing } = true)
    (hx : x.Accepts n { m with spacing := kind.body m.spacing } k ts k') :
    (rule r kind x).Accepts n m k [.mk r k (k'.offset - k.offset) ts.reverse] k' := by
  intro a vs
  obtain ⟨a₁, h₁⟩ := hx a []
  refine ⟨a₁, ?_⟩
  rw [read_rule]
  simp only [readRule, h₁, hvis, if_true, List.append_nil]
  rfl

theorem accepts_rule_silent {r : Rule} {kind : RuleKind}
    (hvis : Mode.visible { m with spacing := kind.outer m.spacing } = false)
    (hx : x.Accepts n { m with spacing := kind.body m.spacing } k ts k') :
    (rule r kind x).Accepts n m k [] k' := by
  intro a vs
  obtain ⟨a₁, h₁⟩ := hx a []
  refine ⟨a₁, ?_⟩
  rw [read_rule]
  simp only [readRule, h₁, hvis, Bool.false_eq_true, if_false]
  rfl

theorem rejects_rule {r : Rule} {kind : RuleKind}
    (hx : x.Rejects n { m with spacing := kind.body m.spacing } k) :
    (rule r kind x).Rejects n m k := by
  intro a vs
  obtain ⟨a₁, h₁⟩ := hx a []
  refine ⟨(readRule r kind (x.read n) m a ⟨k, vs⟩).attempts, ?_⟩
  rw [read_rule]
  simp only [readRule, h₁]

/-! ## Repetition -/

/-- A repetition goes on from `k`, with blanks skipped before each reading, until the pattern is
rejected at `k'`. -/
inductive Repeats (n : Reader) (x : Pattern) (m : Mode) : Cursor → List Token → Cursor → Prop
  | done {k : Cursor} : x.Rejects n m (k.skip m.spacing) → Repeats n x m k [] k
  | next {k k₁ k' : Cursor} {ts us : List Token} : x.Accepts n m (k.skip m.spacing) ts k₁ →
      k₁.rest.length < k.rest.length → Repeats n x m k₁ us k' → Repeats n x m k (us ++ ts) k'

theorem Repeats.repeatReading (h : Repeats n x m k ts k') {fuel : Nat}
    (hfuel : k.rest.length < fuel) (a : Attempts) (vs : List Token) :
    ∃ a', ExprLang.repeatReading (x.read n) m fuel a ⟨k, vs⟩ = ⟨a', some ⟨k', ts ++ vs⟩⟩ := by
  induction h generalizing fuel a vs with
  | done hx =>
    obtain ⟨fuel, rfl⟩ : ∃ f, fuel = f + 1 := ⟨fuel - 1, by omega⟩
    obtain ⟨a₁, h₁⟩ := hx a vs
    refine ⟨a₁, ?_⟩
    simp only [ExprLang.repeatReading, Progress.skip_mk, h₁]
    rfl
  | next hx hlt _ ih =>
    obtain ⟨fuel, rfl⟩ : ∃ f, fuel = f + 1 := ⟨fuel - 1, by omega⟩
    obtain ⟨a₁, h₁⟩ := hx a vs
    have hfuel' : _ < fuel := Nat.lt_of_lt_of_le hlt (Nat.le_of_lt_succ hfuel)
    obtain ⟨a₂, h₂⟩ := ih hfuel' a₁ (_ ++ vs)
    refine ⟨a₂, ?_⟩
    simp only [ExprLang.repeatReading, Progress.skip_mk, h₁, List.append_assoc]
    exact h₂

theorem Repeats.length_le (h : Repeats n x m k ts k') : k'.rest.length ≤ k.rest.length := by
  induction h with
  | done => exact Nat.le_refl _
  | next _ hlt _ ih => omega

/-- Where there is nothing to skip, the first reading is one like any other. -/
theorem accepts_many (h : Repeats n x m k ts k') (hk : k.skip m.spacing = k) :
    (many x).Accepts n m k ts k' := by
  intro a vs
  cases h with
  | done hx =>
    rw [hk] at hx
    obtain ⟨a₁, h₁⟩ := hx a vs
    exact ⟨a₁, by rw [read_many, h₁]; rfl⟩
  | next hx _ hrest =>
    rw [hk] at hx
    obtain ⟨a₁, h₁⟩ := hx a vs
    obtain ⟨a₂, h₂⟩ := hrest.repeatReading (Nat.lt_succ_self _) a₁ (_ ++ vs)
    refine ⟨a₂, ?_⟩
    rw [read_many, h₁, List.append_assoc]
    exact h₂

/-! ## What the next character tells -/

/-- Whether the pattern can succeed without reading anything where `c` is the next character, `none`
being the end of the text. -/
def idles (c : Option Char) : Pattern → Bool
  | .text w => w.isEmpty
  | .one _ => false
  | .stop => c.isNone
  | .seq x y => x.idles c && y.idles c
  | .either x y => x.idles c || y.idles c
  | .maybe _ | .many _ | .unless _ | .recurse => true
  | .rule _ _ x => x.idles c

/-- Whether the pattern can read something there.  The rule that contains itself is taken to read
anything. -/
def eats (c : Option Char) : Pattern → Bool
  | .text w => w.head?.isSome && w.head? == c
  | .one f => c.any f
  | .stop | .unless _ => false
  | .seq x y => x.eats c || (x.idles c && y.eats c)
  | .either x y => x.eats c || y.eats c
  | .maybe x | .many x | .rule _ _ x => x.eats c
  | .recurse => true

theorem skip_eq_self (hk : blankLength k.rest = 0) (sp : Spacing) : k.skip sp = k := by
  cases sp with
  | free => rw [Cursor.skip, Cursor.skipBlanks, hk, Cursor.advance]
  | tight | sealed => rfl

/-- Every success of the pattern at the cursor was to be expected from the next character: one that
reads nothing, or one that reads something. -/
def Accounted (n : Reader) (k : Cursor) (x : Pattern) : Prop :=
  ∀ ⦃m : Mode⦄ ⦃a a' : Attempts⦄ ⦃vs : List Token⦄ ⦃q : Progress⦄,
    x.read n m a ⟨k, vs⟩ = ⟨a', some q⟩ →
      q.cursor = k ∧ x.idles k.rest.head? = true ∨ x.eats k.rest.head? = true

section Accounted

variable {y : Pattern}

theorem accounted_text (w : List Char) : (text w).Accounted n k := by
  intro m a a' vs q h
  rw [read_text] at h
  split at h
  · next hpre =>
    obtain ⟨l, hl⟩ := List.isPrefixOf_iff_prefix.mp hpre
    cases w with
    | nil =>
      cases h
      exact .inl ⟨rfl, rfl⟩
    | cons c w =>
      right
      simp only at hl
      simp [eats, ← hl]
  · cases h

theorem accounted_one (f : Char → Bool) : (one f).Accounted n k := by
  intro m a a' vs q h
  rw [read_one] at h
  cases hl : k.rest with
  | nil => simp [hl] at h
  | cons c l =>
    cases hc : f c with
    | true => exact .inr (by simp [eats, hc])
    | false => simp [hl, hc] at h

theorem accounted_stop : stop.Accounted n k := by
  intro m a a' vs q h
  rw [read_stop] at h
  cases hl : k.rest with
  | nil =>
    simp only [hl] at h
    cases h
    exact .inl ⟨rfl, rfl⟩
  | cons c l => simp [hl] at h

theorem Accounted.seq (hk : blankLength k.rest = 0) (hx : x.Accounted n k) (hy : y.Accounted n k) :
    (Pattern.seq x y).Accounted n k := by
  intro m a a' vs q h
  cases hread : x.read n m a ⟨k, vs⟩ with
  | mk a₁ res =>
    rw [read_seq, hread] at h
    cases res with
    | none => cases h
    | some q₁ =>
      obtain ⟨k₁, ts₁⟩ := q₁
      rcases hx hread with ⟨hk₁, hidle⟩ | heats
      · simp only at hk₁
        subst hk₁
        simp only [Progress.skip_mk, skip_eq_self hk] at h
        rcases hy h with ⟨hq, hidle'⟩ | heats
        · exact .inl ⟨hq, by simp [idles, hidle, hidle']⟩
        · exact .inr (by simp [eats, hidle, heats])
      · exact .inr (by simp [eats, heats])

theorem Accounted.either (hx : x.Accounted n k) (hy : y.Accounted n k) :
    (Pattern.either x y).Accounted n k := by
  intro m a a' vs q h
  cases hread : x.read n m a ⟨k, vs⟩ with
  | mk a₁ res =>
    rw [read_either, hread] at h
    cases res with
    | none =>
      rcases hy h with ⟨hq, hidle⟩ | heats
      · exact .inl ⟨hq, by simp [idles, hidle]⟩
      · exact .inr (by simp [eats, heats])
    | some q₁ =>
      rcases hx hread with ⟨hq, hidle⟩ | heats
      · simp only [Reading.mk.injEq, Option.some.injEq] at h
        exact .inl ⟨by rw [← h.2]; exact hq, by simp [idles, hidle]⟩
      · exact .inr (by simp [eats, heats])

theorem Accounted.maybe (hx : x.Accounted n k) : (Pattern.maybe x).Accounted n k := by
  intro m a a' vs q h
  cases hread : x.read n m a ⟨k, vs⟩ with
  | mk a₁ res =>
    rw [read_maybe, hread] at h
    cases res with
    | none =>
      cases h
      exact .inl ⟨rfl, rfl⟩
    | some q₁ =>
      rcases hx hread with ⟨hq, -⟩ | heats
      · simp only [Reading.mk.injEq, Option.some.injEq] at h
        exact .inl ⟨by rw [← h.2]; exact hq, rfl⟩
      · exact .inr heats

/-- A repetition has read nothing, or a reading has read something. -/
theorem Accounted.repeatReading (hk : blankLength k.rest = 0) (hx : x.Accounted n k) {fuel : Nat}
    {a a' : Attempts} {vs : List Token} {q : Progress}
    (h : ExprLang.repeatReading (x.read n) m fuel a ⟨k, vs⟩ = ⟨a', some q⟩) :
    q.cursor = k ∨ x.eats k.rest.head? = true := by
  induction fuel generalizing a vs with
  | zero =>
    cases h
    exact .inl rfl
  | succ fuel ih =>
    cases hread : x.read n m a ⟨k, vs⟩ with
    | mk a₁ res =>
      simp only [ExprLang.repeatReading, Progress.skip_mk, skip_eq_self hk, hread] at h
      cases res with
      | none =>
        cases h
        exact .inl rfl
      | some q₁ =>
        obtain ⟨k₁, ts₁⟩ := q₁
        rcases hx hread with ⟨hk₁, -⟩ | heats
        · simp only at hk₁
          subst hk₁
          exact ih h
        · exact .inr heats

theorem Accounted.many (hk : blankLength k.rest = 0) (hx : x.Accounted n k) :
    (Pattern.many x).Accounted n k := by
  intro m a a' vs q h
  cases hread : x.read n m a ⟨k, vs⟩ with
  | mk a₁ res =>
    rw [read_many, hread] at h
    cases res with
    | none =>
      cases h
      exact .inl ⟨rfl, rfl⟩
    | some q₁ =>
      obtain ⟨k₁, ts₁⟩ := q₁
      rcases hx hread with ⟨hk₁, -⟩ | heats
      · simp only at hk₁
        subst hk₁
        rcases hx.repeatReading hk h with hq | heats
        · exact .inl ⟨hq, rfl⟩
        · exact .inr heats
      · exact .inr heats

theorem accounted_unless (x : Pattern) : (Pattern.unless x).Accounted n k := by
  intro m a a' vs q h
  rw [read_unless] at h
  split at h
  · cases h
    exact .inl ⟨rfl, rfl⟩
  · cases h

theorem Accounted.rule (hx : x.Accounted n k) (r : Rule) (kind : RuleKind) :
    (Pattern.rule r kind x).Accounted n k := by
  intro m a a' vs q h
  cases hread : x.read n { m with spacing := kind.body m.spacing } a ⟨k, []⟩ with
  | mk a₁ res =>
    rw [read_rule] at h
    simp only [readRule, hread] at h
    cases res with
    | none => cases h
    | some q₁ =>
      have hcursor : q.cursor = q₁.cursor := by
        simp only at h
        split at h
        all_goals
          simp only [Reading.mk.injEq, Option.some.injEq] at h
          rw [← h.2]
      rw [hcursor]
      exact hx hread

end Accounted

/-- Where there is nothing to skip, every success was to be expected. -/
theorem accounted (hk : blankLength k.rest = 0) (x : Pattern) : x.Accounted n k := by
  induction x with
  | text w => exact accounted_text w
  | one f => exact accounted_one f
  | stop => exact accounted_stop
  | seq x y ihx ihy => exact ihx.seq hk ihy
  | either x y ihx ihy => exact ihx.either ihy
  | maybe x ih => exact ih.maybe
  | many x ih => exact ih.many hk
  | «unless» x _ => exact accounted_unless x
  | rule r kind x ih => exact ih.rule r kind
  | recurse =>
    intro m a a' vs q h
    exact .inr rfl

/-- Where a pattern can neither read anything nor succeed without, it is rejected. -/
theorem rejects_of_first (hk : blankLength k.rest = 0)
    (h : (x.eats k.rest.head? || x.idles k.rest.head?) = false) : x.Rejects n m k := by
  intro a vs
  rw [Bool.or_eq_false_iff] at h
  cases hx : x.read n m a ⟨k, vs⟩ with
  | mk a₁ res =>
    cases res with
    | none => exact ⟨a₁, rfl⟩
    | some q =>
      rcases accounted hk x hx with ⟨-, hidle⟩ | heats
      · rw [h.2] at hidle
        cases hidle
      · rw [h.1] at heats
        cases heats

end Pattern

end ExprLang
