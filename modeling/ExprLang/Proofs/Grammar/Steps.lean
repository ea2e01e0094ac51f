import ExprLang.Grammar.Match

/-!
# ExprLang.Proofs.Grammar.Steps

A logic for readings.  `Reader.Leads` says of two readers that from a place they do exactly the
same, and of their success which tokens it leaves and where it ends.  There is one rule for each
constructor of `Pattern`, so that a statement about a rule of the grammar is proved along the rule.

Two readers, and not one, since the rule that contains itself may be cut off at different depths:
what is proved of a pattern says at once that the depth did not matter.
-/

namespace ExprLang

/-- Skips what may stand between two parts. -/
def Cursor.skip (s : Spacing) (k : Cursor) : Cursor :=
  match s with
  | .free => k.skipBlanks
  | _ => k

theorem Cursor.rest_skip_free (k : Cursor) :
    (k.skip .free).rest = k.rest.drop (blankLength k.rest) :=
  Cursor.rest_advance _ _

theorem Cursor.advance_succ (k : Cursor) (i : Nat) :
    k.advance (i + 1) = (k.advance 1).advance i := by
  obtain ⟨rest, offset, position⟩ := k
  cases rest with
  | nil => cases i <;> rfl
  | cons c rest => rfl

theorem Cursor.advance_advance (k : Cursor) (i j : Nat) :
    (k.advance i).advance j = k.advance (i + j) := by
  induction i generalizing k with
  | zero => rw [Nat.zero_add]; rfl
  | succ i ih => rw [advance_succ, ih, Nat.add_right_comm, ← advance_succ]

theorem Cursor.skip_of_ne_free {sp : Spacing} (h : sp ≠ .free) (k : Cursor) : k.skip sp = k := by
  cases sp with
  | free => exact absurd rfl h
  | tight | sealed => rfl

@[simp] theorem Progress.skip_mk (k : Cursor) (ts : List Token) (s : Spacing) :
    (Progress.mk k ts).skip s = ⟨k.skip s, ts⟩ := by
  cases s <;> rfl

/-! ## What each pattern does -/

section Equations

variable (n : Reader) (x y : Pattern) (m : Mode) (a : Attempts) (p : Progress)

theorem Pattern.read_text (s : List Char) :
    (Pattern.text s).read n m a p =
      if s.isPrefixOf p.cursor.rest then ⟨a, some (p.advance s.length)⟩ else ⟨a, none⟩ := rfl

theorem Pattern.read_one (f : Char → Bool) :
    (Pattern.one f).read n m a p =
      match p.cursor.rest with
      | c :: _ => if f c then ⟨a, some (p.advance 1)⟩ else ⟨a, none⟩
      | [] => ⟨a, none⟩ := rfl

theorem Pattern.read_stop :
    Pattern.stop.read n m a p =
      match p.cursor.rest with
      | [] => ⟨a, some p⟩
      | _ :: _ => ⟨a, none⟩ := rfl

theorem Pattern.read_seq :
    (Pattern.seq x y).read n m a p =
      match x.read n m a p with
      | ⟨a', none⟩ => ⟨a', none⟩
      | ⟨a', some q⟩ => y.read n m a' (q.skip m.spacing) := rfl

theorem Pattern.read_either :
    (Pattern.either x y).read n m a p =
      match x.read n m a p with
      | ⟨a', none⟩ => y.read n m a' p
      | done => done := rfl

theorem Pattern.read_maybe :
    (Pattern.maybe x).read n m a p =
      match x.read n m a p with
      | ⟨a', none⟩ => ⟨a', some p⟩
      | done => done := rfl

theorem Pattern.read_many :
    (Pattern.many x).read n m a p =
      match x.read n m a p with
      | ⟨a', none⟩ => ⟨a', some p⟩
      | ⟨a', some q⟩ => repeatReading (x.read n) m (q.cursor.rest.length + 1) a' q := rfl

theorem Pattern.read_unless :
    (Pattern.unless x).read n m a p =
      match x.read n { m with ahead := true } a p with
      | ⟨_, none⟩ => ⟨a, some p⟩
      | ⟨_, some _⟩ => ⟨a, none⟩ := rfl

theorem Pattern.read_rule (r : Rule) (kind : RuleKind) :
    (Pattern.rule r kind x).read n m a p = readRule r kind (x.read n) m a p := rfl

end Equations

/-- A visible rule that succeeds leaves one token. -/
theorem Pattern.tokens_of_rule {n : Reader} {r : Rule} {kind : RuleKind} {x : Pattern} {m : Mode}
    {a a' : Attempts} {p q : Progress}
    (hvis : Mode.visible { m with spacing := kind.outer m.spacing } = true)
    (h : (Pattern.rule r kind x).read n m a p = ⟨a', some q⟩) : ∃ t, q.tokens = t :: p.tokens := by
  simp only [read_rule, readRule, hvis, if_true] at h
  split at h
  · cases h
  · simp only [Reading.mk.injEq, Option.some.injEq] at h
    rw [← h.2]
    exact ⟨_, rfl⟩

/-! ## Flat patterns and choices of words -/

/-- Whether a pattern does without the rule that contains itself. -/
def Pattern.flat : Pattern → Bool
  | .text _ | .one _ | .stop => true
  | .seq x y | .either x y => x.flat && y.flat
  | .maybe x | .many x | .unless x | .rule _ _ x => x.flat
  | .recurse => false

/-- A flat pattern is read alike whatever stands for the rule that contains itself. -/
theorem Pattern.read_eq_of_flat (n₁ n₂ : Reader) {x : Pattern} (hx : x.flat = true) :
    x.read n₁ = x.read n₂ := by
  induction x with
  | text | one | stop => rfl
  | seq x y ihx ihy =>
    simp only [flat, Bool.and_eq_true] at hx
    funext m a p
    rw [read_seq, read_seq, ihx hx.1, ihy hx.2]
  | either x y ihx ihy =>
    simp only [flat, Bool.and_eq_true] at hx
    funext m a p
    rw [read_either, read_either, ihx hx.1, ihy hx.2]
  | maybe x ih =>
    funext m a p
    rw [read_maybe, read_maybe, ih hx]
  | many x ih =>
    funext m a p
    rw [read_many, read_many, ih hx]
  | «unless» x ih =>
    funext m a p
    rw [read_unless, read_unless, ih hx]
  | rule r kind x ih =>
    funext m a p
    rw [read_rule, read_rule, ih hx]
  | recurse => simp [flat] at hx

/-- Whether a text begins with one of the words that a choice of words offers. -/
def Pattern.begins : Pattern → List Char → Bool
  | .text w, l => w.isPrefixOf l
  | .either x y, l => x.begins l || y.begins l
  | _, _ => false

/-- Where a choice of words cannot be read, the text begins with none of them. -/
theorem Pattern.begins_eq_false (n : Reader) (m : Mode) {x : Pattern} {a : Attempts} {p : Progress}
    (h : (x.read n m a p).result = none) : x.begins p.cursor.rest = false := by
  induction x generalizing a with
  | text w =>
    simp only [read_text] at h
    split at h
    · cases h
    · next hw => rwa [begins, ← Bool.not_eq_true]
  | either x y ihx ihy =>
    cases hx : x.read n m a p with
    | mk a₁ res =>
      simp only [read_either, hx] at h
      cases res with
      | none =>
        rw [begins, ihx (by rw [hx]), ihy h]
        rfl
      | some q => cases h
  | _ => rfl

/-! ## The rules -/

/-- Both readers do the same from `k`, and where they succeed, the new tokens (the latest first)
and the place reached are as `post` says. -/
def Reader.Leads (r s : Reader) (m : Mode) (k : Cursor) (post : List Token → Cursor → Prop) :
    Prop :=
  ∀ a ts, r m a ⟨k, ts⟩ = s m a ⟨k, ts⟩ ∧
    ∀ a' q, r m a ⟨k, ts⟩ = ⟨a', some q⟩ → ∃ new, q.tokens = new ++ ts ∧ post new q.cursor

/-- The same for a pattern, read with two readers of the rule that contains itself. -/
def Pattern.Leads (n₁ n₂ : Reader) (x : Pattern) (m : Mode) (k : Cursor)
    (post : List Token → Cursor → Prop) : Prop :=
  Reader.Leads (x.read n₁) (x.read n₂) m k post

namespace Pattern.Leads

variable {n₁ n₂ : Reader} {m : Mode} {k : Cursor} {x y : Pattern}
  {post post' mid : List Token → Cursor → Prop}

theorem mono (hx : x.Leads n₁ n₂ m k post) (h : ∀ ts k', post ts k' → post' ts k') :
    x.Leads n₁ n₂ m k post' := by
  intro a ts
  obtain ⟨heq, hres⟩ := hx a ts
  refine ⟨heq, fun a' q hq => ?_⟩
  obtain ⟨new, hnew, hpost⟩ := hres a' q hq
  exact ⟨new, hnew, h _ _ hpost⟩

theorem text {s : List Char} (h : ∀ w, k.rest = s ++ w → post [] (k.advance s.length)) :
    (Pattern.text s).Leads n₁ n₂ m k post := by
  intro a ts
  refine ⟨rfl, fun a' q hq => ?_⟩
  simp only [read_text] at hq
  split at hq
  · next hpre =>
    obtain ⟨w, hw⟩ := List.isPrefixOf_iff_prefix.mp hpre
    cases hq
    exact ⟨[], rfl, h w hw.symm⟩
  · cases hq

theorem one {f : Char → Bool} (h : ∀ c w, k.rest = c :: w → f c = true → post [] (k.advance 1)) :
    (Pattern.one f).Leads n₁ n₂ m k post := by
  intro a ts
  refine ⟨rfl, fun a' q hq => ?_⟩
  simp only [read_one] at hq
  cases hk : k.rest with
  | nil => simp [hk] at hq
  | cons c w =>
    cases hf : f c with
    | false => simp [hk, hf] at hq
    | true =>
      simp only [hk, hf, if_true, Reading.mk.injEq, Option.some.injEq] at hq
      rw [← hq.2]
      exact ⟨[], rfl, h c w hk hf⟩

theorem stop (h : k.rest = [] → post [] k) : Pattern.stop.Leads n₁ n₂ m k post := by
  intro a ts
  refine ⟨rfl, fun a' q hq => ?_⟩
  simp only [read_stop] at hq
  cases hk : k.rest with
  | nil =>
    simp only [hk, Reading.mk.injEq, Option.some.injEq] at hq
    rw [← hq.2]
    exact ⟨[], rfl, h hk⟩
  | cons c w => simp [hk] at hq

/-- The second part begins after the blanks, and leaves its tokens before those of the first. -/
theorem seq (hx : x.Leads n₁ n₂ m k mid)
    (hy : ∀ ts k', mid ts k' →
      y.Leads n₁ n₂ m (k'.skip m.spacing) fun new k'' => post (new ++ ts) k'') :
    (Pattern.seq x y).Leads n₁ n₂ m k post := by
  intro a ts
  obtain ⟨heq, hres⟩ := hx a ts
  cases hr : x.read n₁ m a ⟨k, ts⟩ with
  | mk a₁ res =>
    rw [hr] at heq
    cases res with
    | none =>
      simp only [read_seq, hr, ← heq]
      exact ⟨trivial, fun a' q hq => by cases hq⟩
    | some q₁ =>
      obtain ⟨new, hnew, hmid⟩ := hres a₁ q₁ hr
      obtain ⟨k₁, ts₁⟩ := q₁
      simp only at hnew
      obtain ⟨heq₂, hres₂⟩ := hy new k₁ hmid a₁ ts₁
      simp only [read_seq, hr, ← heq, Progress.skip_mk]
      refine ⟨heq₂, fun a' q hq => ?_⟩
      obtain ⟨new', hnew', hpost⟩ := hres₂ a' q hq
      refine ⟨new' ++ new, ?_, hpost⟩
      rw [hnew', hnew, List.append_assoc]

theorem either (hx : x.Leads n₁ n₂ m k post) (hy : y.Leads n₁ n₂ m k post) :
    (Pattern.either x y).Leads n₁ n₂ m k post := by
  intro a ts
  obtain ⟨heq, hres⟩ := hx a ts
  cases hr : x.read n₁ m a ⟨k, ts⟩ with
  | mk a₁ res =>
    rw [hr] at heq
    cases res with
    | none =>
      simp only [read_either, hr, ← heq]
      exact hy a₁ ts
    | some q₁ =>
      simp only [read_either, hr, ← heq]
      exact ⟨trivial, fun a' q hq => hres a' q (hr.trans hq)⟩

theorem maybe (hx : x.Leads n₁ n₂ m k post) (h : post [] k) :
    (Pattern.maybe x).Leads n₁ n₂ m k post := by
  intro a ts
  obtain ⟨heq, hres⟩ := hx a ts
  cases hr : x.read n₁ m a ⟨k, ts⟩ with
  | mk a₁ res =>
    rw [hr] at heq
    cases res with
    | none =>
      simp only [read_maybe, hr, ← heq]
      refine ⟨trivial, fun a' q hq => ?_⟩
      cases hq
      exact ⟨[], rfl, h⟩
    | some q₁ =>
      simp only [read_maybe, hr, ← heq]
      exact ⟨trivial, fun a' q hq => hres a' q (hr.trans hq)⟩

/-- What a repetition keeps: `post` is kept by each reading that follows another. -/
theorem repeatReading (n : Nat) {new : List Token} (hk : post new k)
    (hx : ∀ ts k', post ts k' →
      x.Leads n₁ n₂ m (k'.skip m.spacing) fun new' k'' => post (new' ++ ts) k'') (a : Attempts)
    (ts : List Token) :
    ExprLang.repeatReading (x.read n₁) m n a ⟨k, new ++ ts⟩ =
        ExprLang.repeatReading (x.read n₂) m n a ⟨k, new ++ ts⟩ ∧
      ∀ a' q, ExprLang.repeatReading (x.read n₁) m n a ⟨k, new ++ ts⟩ = ⟨a', some q⟩ →
        ∃ new', q.tokens = new' ++ ts ∧ post new' q.cursor := by
  induction n generalizing a k new with
  | zero =>
    refine ⟨rfl, fun a' q hq => ?_⟩
    cases hq
    exact ⟨new, rfl, hk⟩
  | succ n ih =>
    obtain ⟨heq, hres⟩ := hx new k hk a (new ++ ts)
    cases hr : x.read n₁ m a ⟨k.skip m.spacing, new ++ ts⟩ with
    | mk a₁ res =>
      rw [hr] at heq
      cases res with
      | none =>
        simp only [ExprLang.repeatReading, Progress.skip_mk, hr, ← heq]
        refine ⟨trivial, fun a' q hq => ?_⟩
        cases hq
        exact ⟨new, rfl, hk⟩
      | some q₁ =>
        obtain ⟨new', hnew', hpost⟩ := hres a₁ q₁ hr
        obtain ⟨k₁, ts₁⟩ := q₁
        simp only at hnew'
        rw [← List.append_assoc] at hnew'
        simp only [ExprLang.repeatReading, Progress.skip_mk, hr, ← heq, hnew']
        exact ih hpost a₁

/-- The first reading of a repetition begins at once, the others after the blanks. -/
theorem many (hk : post [] k) (hfirst : x.Leads n₁ n₂ m k post)
    (hx : ∀ ts k', post ts k' →
      x.Leads n₁ n₂ m (k'.skip m.spacing) fun new k'' => post (new ++ ts) k'') :
    (Pattern.many x).Leads n₁ n₂ m k post := by
  intro a ts
  obtain ⟨heq, hres⟩ := hfirst a ts
  cases hr : x.read n₁ m a ⟨k, ts⟩ with
  | mk a₁ res =>
    rw [hr] at heq
    cases res with
    | none =>
      simp only [read_many, hr, ← heq]
      refine ⟨trivial, fun a' q hq => ?_⟩
      cases hq
      exact ⟨[], rfl, hk⟩
    | some q₁ =>
      obtain ⟨new, hnew, hpost⟩ := hres a₁ q₁ hr
      obtain ⟨k₁, ts₁⟩ := q₁
      simp only at hnew
      simp only [read_many, hr, ← heq, hnew]
      exact repeatReading _ hpost hx a₁ ts

/-- Looking ahead reads nothing, and succeeds where the pattern looked for cannot be read. -/
theorem ahead (hflat : x.flat = true) (h : x.begins k.rest = false → post [] k) :
    (Pattern.unless x).Leads n₁ n₂ m k post := by
  intro a ts
  rw [read_eq_of_flat n₂ n₁ (x := .unless x) hflat]
  refine ⟨rfl, fun a' q hq => ?_⟩
  simp only [read_unless] at hq
  cases hr : x.read n₁ { m with ahead := true } a ⟨k, ts⟩ with
  | mk a₁ res =>
    cases res with
    | none =>
      rw [hr] at hq
      cases hq
      exact ⟨[], rfl, h (begins_eq_false n₁ { m with ahead := true } (p := ⟨k, ts⟩) (by rw [hr]))⟩
    | some q₁ =>
      rw [hr] at hq
      cases hq

/-- A rule leaves one token around those of its body, or none where it leaves no trace. -/
theorem rule {r : Rule} {kind : RuleKind}
    (hx : x.Leads n₁ n₂ { m with spacing := kind.body m.spacing } k fun ts k' =>
      post (if Mode.visible { m with spacing := kind.outer m.spacing } then
        [.mk r k (k'.offset - k.offset) ts.reverse] else []) k') :
    (Pattern.rule r kind x).Leads n₁ n₂ m k post := by
  intro a ts
  obtain ⟨heq, hres⟩ := hx a []
  cases hr : x.read n₁ { m with spacing := kind.body m.spacing } a ⟨k, []⟩ with
  | mk a₁ res =>
    rw [hr] at heq
    cases res with
    | none =>
      simp only [read_rule, readRule, hr, ← heq]
      exact ⟨trivial, fun a' q hq => by cases hq⟩
    | some q₁ =>
      obtain ⟨new, hnew, hpost⟩ := hres a₁ q₁ hr
      simp only [List.append_nil] at hnew
      simp only [read_rule, readRule, hr, ← heq]
      refine ⟨trivial, fun a' q hq => ?_⟩
      cases hv : Mode.visible { m with spacing := kind.outer m.spacing } with
      | true =>
        simp only [hv, if_true, Reading.mk.injEq, Option.some.injEq] at hq hpost
        rw [← hq.2, hnew]
        exact ⟨_, rfl, hpost⟩
      | false =>
        simp only [hv, Bool.false_eq_true, if_false, Reading.mk.injEq,
          Option.some.injEq] at hq hpost
        rw [← hq.2]
        exact ⟨[], rfl, hpost⟩

theorem recurse (h : Reader.Leads n₁ n₂ m k post) : Pattern.recurse.Leads n₁ n₂ m k post := h

end Pattern.Leads

end ExprLang
