import ExprLang.Proofs.Grammar.Settled
import ExprLang.Proofs.Grammar.Shapes
import ExprLang.Proofs.Tree.Spelling

/-!
# ExprLang.Proofs.Grammar.Locality

What a reading depends on.

It depends on what is ahead and not on where that stands: from two places with the same text ahead a
pattern reads as many characters and leaves tokens that are alike (`Reader.Placeless`,
`placeless_readExpression`).  And it does not depend on how often the recursion is unfolded, if that
is more often than there are characters ahead, since an expression inside another one begins behind a
character of it (`readExpression_eq`).
-/

namespace ExprLang

open ExprLang.Language Pattern
open Token (Alike)

/-! ## The place does not matter -/

/-- Two readings from two places: both fail, or both read as many characters and leave tokens that
are alike. -/
inductive SameReading (f : List Char → List Char) (p q : Progress) : Reading → Reading → Prop
  | rejected (a b : Attempts) : SameReading f p q ⟨a, none⟩ ⟨b, none⟩
  | accepted (a b : Attempts) {i : Nat} {ts us : List Token} : i ≤ p.cursor.rest.length →
      Alike f true ts us → SameReading f p q ⟨a, some ⟨p.cursor.advance i, ts ++ p.tokens⟩⟩
        ⟨b, some ⟨q.cursor.advance i, us ++ q.tokens⟩⟩

/-- Nothing that ends the text is changed. -/
def Keeps (f : List Char → List Char) (l : List Char) : Prop := ∀ l', l' <:+ l → f l' = l'

/-- The reader does the same wherever the same is ahead. -/
def Reader.Placeless (r : Reader) : Prop :=
  ∀ f m a b p q, Keeps f p.cursor.rest → q.cursor.rest = p.cursor.rest →
    SameReading f p q (r m a p) (r m b q)

theorem Keeps.advance {f : List Char → List Char} {k : Cursor} (h : Keeps f k.rest) (i : Nat) :
    Keeps f (k.advance i).rest := by
  intro l' hl'
  rw [Cursor.rest_advance] at hl'
  exact h l' (hl'.trans (List.drop_suffix _ _))

namespace SameReading

variable {f : List Char → List Char} {p q p' q' : Progress} {r s : Reading} {i : Nat}
  {ts us : List Token}

theorem nothing (p q : Progress) (a b : Attempts) : SameReading f p q ⟨a, some p⟩ ⟨b, some q⟩ :=
  .accepted a b (i := 0) (Nat.zero_le _) .nil

/-- Two readings that leave no token. -/
theorem silent (a b : Attempts) (hi : i ≤ p.cursor.rest.length) :
    SameReading f p q ⟨a, some ⟨p.cursor.advance i, p.tokens⟩⟩
      ⟨b, some ⟨q.cursor.advance i, q.tokens⟩⟩ :=
  .accepted a b hi .nil

/-- Two readings that leave one token. -/
theorem single (a b : Attempts) (hi : i ≤ p.cursor.rest.length) {t u : Token}
    (h : Alike f true [t] [u]) :
    SameReading f p q ⟨a, some ⟨p.cursor.advance i, t :: p.tokens⟩⟩
      ⟨b, some ⟨q.cursor.advance i, u :: q.tokens⟩⟩ :=
  .accepted a b hi h

/-- Two readings, one after the other. -/
theorem trans (hi : i ≤ p.cursor.rest.length) (h : Alike f true ts us)
    (h' : SameReading f ⟨p.cursor.advance i, ts ++ p.tokens⟩ ⟨q.cursor.advance i, us ++ q.tokens⟩
      r s) : SameReading f p q r s := by
  cases h' with
  | rejected => exact .rejected _ _
  | accepted a b hj h' =>
    rw [Cursor.advance_advance, Cursor.advance_advance, ← List.append_assoc, ← List.append_assoc]
    refine .accepted a b ?_ (h.append h')
    simp only [Cursor.rest_advance, List.length_drop] at hj
    omega

end SameReading

theorem Cursor.rest_advance_congr {k₁ k₂ : Cursor} (h : k₂.rest = k₁.rest) (i : Nat) :
    (k₂.advance i).rest = (k₁.advance i).rest := by
  rw [rest_advance, rest_advance, h]

open Cursor (rest_advance_congr)

namespace Reader.Placeless

variable {f : List Char → List Char} {n : Reader} {x y : Pattern} {r : Reader}

/-- The same blanks are skipped. -/
theorem skip {p q : Progress} (h : q.cursor.rest = p.cursor.rest) (sp : Spacing) :
    ∃ i, i ≤ p.cursor.rest.length ∧ p.skip sp = ⟨p.cursor.advance i, [] ++ p.tokens⟩ ∧
      q.skip sp = ⟨q.cursor.advance i, [] ++ q.tokens⟩ := by
  cases sp with
  | free =>
    refine ⟨blankLength p.cursor.rest, blankLength_le _, rfl, ?_⟩
    rw [← h]
    rfl
  | tight | sealed => exact ⟨0, Nat.zero_le _, rfl, rfl⟩

theorem seq (hx : (x.read n).Placeless) (hy : (y.read n).Placeless) :
    ((Pattern.seq x y).read n).Placeless := by
  intro f m a b p q hf hpq
  rw [read_seq, read_seq]
  have hfirst := hx f m a b p q hf hpq
  generalize x.read n m a p = r at hfirst
  generalize x.read n m b q = s at hfirst
  cases hfirst with
  | rejected => exact .rejected _ _
  | accepted a' b' hi h =>
    obtain ⟨j, hj, hskip, hskip'⟩ := skip (p := ⟨p.cursor.advance _, _⟩)
      (q := ⟨q.cursor.advance _, _⟩) (rest_advance_congr hpq _) m.spacing
    refine .trans hi h (.trans hj .nil ?_)
    dsimp only
    rw [hskip, hskip']
    exact hy f m a' b' _ _ ((hf.advance _).advance _) (rest_advance_congr (rest_advance_congr hpq _) j)

theorem either (hx : (x.read n).Placeless) (hy : (y.read n).Placeless) :
    ((Pattern.either x y).read n).Placeless := by
  intro f m a b p q hf hpq
  rw [read_either, read_either]
  have hfirst := hx f m a b p q hf hpq
  generalize x.read n m a p = r at hfirst
  generalize x.read n m b q = s at hfirst
  cases hfirst with
  | rejected a' b' => exact hy f m a' b' p q hf hpq
  | accepted a' b' hi h => exact .accepted a' b' hi h

theorem maybe (hx : (x.read n).Placeless) : ((Pattern.maybe x).read n).Placeless := by
  intro f m a b p q hf hpq
  rw [read_maybe, read_maybe]
  have hfirst := hx f m a b p q hf hpq
  generalize x.read n m a p = r at hfirst
  generalize x.read n m b q = s at hfirst
  cases hfirst with
  | rejected a' b' => exact .nothing p q a' b'
  | accepted a' b' hi h => exact .accepted a' b' hi h

theorem «unless» (hx : (x.read n).Placeless) : ((Pattern.unless x).read n).Placeless := by
  intro f m a b p q hf hpq
  rw [read_unless, read_unless]
  have hfirst := hx f { m with ahead := true } a b p q hf hpq
  generalize x.read n { m with ahead := true } a p = r at hfirst
  generalize x.read n { m with ahead := true } b q = s at hfirst
  cases hfirst with
  | rejected => exact .nothing p q a b
  | accepted => exact .rejected a b

theorem repeatReading (hr : r.Placeless) (m : Mode) (fuel : Nat) {a b : Attempts} {p q : Progress}
    (hf : Keeps f p.cursor.rest) (hpq : q.cursor.rest = p.cursor.rest) :
    SameReading f p q (ExprLang.repeatReading r m fuel a p)
      (ExprLang.repeatReading r m fuel b q) := by
  induction fuel generalizing a b p q with
  | zero => exact .nothing p q a b
  | succ fuel ih =>
    rw [ExprLang.repeatReading, ExprLang.repeatReading]
    obtain ⟨j, hj, hskip, hskip'⟩ := skip hpq m.spacing
    rw [hskip, hskip']
    have hfirst := hr f m a b ⟨p.cursor.advance j, [] ++ p.tokens⟩
      ⟨q.cursor.advance j, [] ++ q.tokens⟩ (hf.advance j) (rest_advance_congr hpq j)
    generalize r m a ⟨p.cursor.advance j, [] ++ p.tokens⟩ = s at hfirst
    generalize r m b ⟨q.cursor.advance j, [] ++ q.tokens⟩ = s' at hfirst
    cases hfirst with
    | rejected a' b' => exact .nothing p q a' b'
    | accepted a' b' hi h =>
      exact .trans hj .nil (.trans hi h (ih ((hf.advance j).advance _)
        (rest_advance_congr (rest_advance_congr hpq j) _)))

theorem many (hx : (x.read n).Placeless) : ((Pattern.many x).read n).Placeless := by
  intro f m a b p q hf hpq
  rw [read_many, read_many]
  have hfirst := hx f m a b p q hf hpq
  generalize x.read n m a p = r at hfirst
  generalize x.read n m b q = s at hfirst
  cases hfirst with
  | rejected a' b' => exact .nothing p q a' b'
  | accepted a' b' hi h =>
    dsimp only
    rw [rest_advance_congr hpq]
    exact .trans hi h (hx.repeatReading m _ (hf.advance _) (rest_advance_congr hpq _))

/-- A token of as many characters of the same text, around tokens that are alike. -/
theorem rule {r : Rule} {kind : RuleKind} (hx : (x.read n).Placeless) :
    ((Pattern.rule r kind x).read n).Placeless := by
  intro f m a b p q hf hpq
  rw [read_rule, read_rule, readRule, readRule]
  have hbody := hx f { m with spacing := kind.body m.spacing } a b { p with tokens := [] }
    { q with tokens := [] } hf hpq
  generalize x.read n { m with spacing := kind.body m.spacing } a { p with tokens := [] } = s
    at hbody
  generalize x.read n { m with spacing := kind.body m.spacing } b { q with tokens := [] } = s'
    at hbody
  cases hbody with
  | rejected => exact .rejected _ _
  | accepted a' b' hi h =>
    rename_i i ts us
    have hlen : i ≤ p.cursor.rest.length := hi
    dsimp only
    split
    · have hchars : (Token.mk r p.cursor ((p.cursor.advance i).offset - p.cursor.offset)
          ts.reverse).chars = (Token.mk r q.cursor ((q.cursor.advance i).offset - q.cursor.offset)
          us.reverse).chars := by
        simp only [Token.chars, Token.start, Token.length, Cursor.offset_advance, hpq,
          Nat.add_sub_cancel_left]
      rw [List.append_nil, List.append_nil]
      exact .single a' b' hlen (.token (hpq.trans (hf _ List.suffix_rfl).symm) hchars h)
    · exact .silent a' b' hlen

end Reader.Placeless

open Reader (Placeless)

/-- What a pattern reads does not depend on the place if what it contains does not. -/
theorem Pattern.placeless {n : Reader} (hn : n.Placeless) (x : Pattern) :
    (x.read n).Placeless := by
  induction x with
  | text w =>
    intro f m a b p q _ hpq
    rw [read_text, read_text, hpq]
    split
    · next hw =>
      exact .silent a b (List.isPrefixOf_iff_prefix.mp hw).length_le
    · exact .rejected a b
  | one g =>
    intro f m a b p q _ hpq
    rw [read_one, read_one, hpq]
    cases hrest : p.cursor.rest with
    | nil => exact .rejected a b
    | cons c l =>
      dsimp only
      split
      · exact .silent a b (by simp [hrest])
      · exact .rejected a b
  | stop =>
    intro f m a b p q _ hpq
    rw [read_stop, read_stop, hpq]
    cases p.cursor.rest with
    | nil => exact .nothing p q a b
    | cons c l => exact .rejected a b
  | seq x y ihx ihy => exact ihx.seq ihy
  | either x y ihx ihy => exact ihx.either ihy
  | maybe x ih => exact ih.maybe
  | many x ih => exact ih.many
  | «unless» x ih => exact ih.unless
  | rule r kind x ih => exact ih.rule
  | recurse => exact hn

theorem placeless_readExpression (d : Nat) : (readExpression d).Placeless := by
  induction d with
  | zero => exact fun _ _ a b _ _ _ _ => .rejected a b
  | succ d ih =>
    rw [readExpression_succ]
    exact placeless ih expression

namespace Reader.Placeless

variable {f : List Char → List Char} {r : Reader} {m : Mode} {k₁ k₂ k₁' : Cursor} {ts : List Token}

/-- What is accepted at one place is accepted at the other. -/
theorem accepts (hr : r.Placeless) (hs : r.Settled) (hf : Keeps f k₁.rest) (hk : k₂.rest = k₁.rest)
    (h : r.Accepts m k₁ ts k₁') : ∃ us k₂', r.Accepts m k₂ us k₂' ∧ k₂'.rest = k₁'.rest ∧
      Alike f true ts us := by
  obtain ⟨a, ha⟩ := h .empty []
  have hsame := hr f m .empty .empty ⟨k₁, []⟩ ⟨k₂, []⟩ hf hk
  rw [ha] at hsame
  generalize hread : r m .empty ⟨k₂, []⟩ = s at hsame
  generalize hread' : (⟨a, some ⟨k₁', ts ++ []⟩⟩ : Reading) = s' at hsame
  cases hsame with
  | rejected => cases hread'
  | accepted a' b' hi halike =>
    simp only [List.append_nil, Reading.mk.injEq, Option.some.injEq, Progress.mk.injEq] at hread'
    obtain ⟨-, rfl, rfl⟩ := hread'
    obtain ⟨us, hacc, hus⟩ := hs.accepts_of_read hread
    simp only [List.append_nil] at hus
    subst hus
    exact ⟨_, _, hacc, rest_advance_congr hk _, halike⟩

theorem rejects (hr : r.Placeless) (hk : k₂.rest = k₁.rest) (h : r.Rejects m k₁) :
    r.Rejects m k₂ := by
  intro a us
  obtain ⟨b, hb⟩ := h a us
  have hsame := hr id m a a ⟨k₁, us⟩ ⟨k₂, us⟩ (fun _ _ => rfl) hk
  rw [hb] at hsame
  generalize r m a ⟨k₂, us⟩ = s at hsame
  cases hsame with
  | rejected a' b' => exact ⟨b', rfl⟩

end Reader.Placeless

/-! ## The depth does not matter -/

theorem guarded_expression : expression.guarded = true := by decide

theorem sameBelow_readExpression (d₁ d₂ : Nat) :
    (readExpression d₁).SameBelow (readExpression d₂) (min d₁ d₂) := by
  induction d₁ generalizing d₂ with
  | zero => exact fun m k hk => absurd hk (by omega)
  | succ d₁ ih =>
    cases d₂ with
    | zero => exact fun m k hk => absurd hk (by omega)
    | succ d₂ =>
      rw [readExpression_succ, readExpression_succ]
      exact fun m k hk => leads_of_fitsIn (ih d₂) expression m k
        (.of_guarded guarded_expression (by omega))

/-- Where more unfoldings than characters are left, their number does not matter. -/
theorem readExpression_eq {d₁ d₂ : Nat} {k : Cursor} (h₁ : k.rest.length < d₁)
    (h₂ : k.rest.length < d₂) (m : Mode) (a : Attempts) (ts : List Token) :
    readExpression d₁ m a ⟨k, ts⟩ = readExpression d₂ m a ⟨k, ts⟩ :=
  (sameBelow_readExpression d₁ d₂ m k (by omega) a ts).1

/-- The same for every pattern. -/
theorem Pattern.read_readExpression_eq {d₁ d₂ : Nat} {k : Cursor} (h₁ : k.rest.length < d₁)
    (h₂ : k.rest.length < d₂) (x : Pattern) (m : Mode) (a : Attempts) (ts : List Token) :
    x.read (readExpression d₁) m a ⟨k, ts⟩ = x.read (readExpression d₂) m a ⟨k, ts⟩ :=
  (leads_of_fitsIn (sameBelow_readExpression d₁ d₂) x m k (.inl (by omega)) a ts).1

/-- What a pattern accepts does not depend on the number of unfoldings, if that is greater than that of
the characters left. -/
theorem Pattern.Accepts.readExpression_of_lt {d₁ d₂ : Nat} {x : Pattern} {m : Mode} {k k' : Cursor}
    {ts : List Token} (h : x.Accepts (readExpression d₁) m k ts k') (h₁ : k.rest.length < d₁)
    (h₂ : k.rest.length < d₂) : x.Accepts (ExprLang.readExpression d₂) m k ts k' := by
  intro a us
  rw [← read_readExpression_eq h₁ h₂]
  exact h a us

/-- What a guarded pattern accepts does not depend on the number of unfoldings, be it only as great
as that of the characters left. -/
theorem Pattern.Accepts.readExpression {d₁ d₂ : Nat} {x : Pattern} {m : Mode} {k k' : Cursor}
    {ts : List Token} (h : x.Accepts (readExpression d₁) m k ts k') (hx : x.guarded = true)
    (h₁ : k.rest.length ≤ d₁) (h₂ : k.rest.length ≤ d₂) :
    x.Accepts (ExprLang.readExpression d₂) m k ts k' := by
  have hk : x.FitsIn (min d₁ d₂) k := .of_guarded hx (by omega)
  intro a us
  obtain ⟨a', ha'⟩ := h a us
  refine ⟨a', ?_⟩
  rw [← (leads_of_fitsIn (sameBelow_readExpression d₁ d₂) x m k hk a us).1]
  exact ha'

end ExprLang
