import Mathlib.Data.List.Defs
import ExprLang.Proofs.Grammar.Flow
import ExprLang.Proofs.Grammar.Settled

/-!
# ExprLang.Proofs.Grammar.Takes

Reading by what is ahead.  `Pattern.Takes` says which text is ahead where a pattern is read, and
which one behind it and the blanks that follow; `Pattern.Misses` says that the pattern cannot be
read.  The rules hide the cursors, and there is one for each way in which the grammar puts patterns
together between blanks.

`Flows` says the same of a run of tokens.  A run is read as an expression (`Flows.expression`), and
what is read as an expression is a run (`Flow.of_accepts_expression`).
-/

namespace ExprLang

open ExprLang.Language

/-! ## Behind the blanks -/

/-- What is ahead behind the blanks. -/
def pastBlanks (l : List Char) : List Char := l.drop (blankLength l)

/-- Whether nothing that is skipped begins with the character. -/
def isSolid (c : Char) : Bool := !isBlank c && c != '/'

variable {c : Char} {l : List Char}

theorem Cursor.rest_skip (k : Cursor) : (k.skip .free).rest = pastBlanks k.rest := k.rest_skip_free

theorem blankRun_of_atStart_eq_none (h : BlankState.atStart l = none)
    (seen sure : Nat) : blankRun .outside seen sure l = sure := by
  cases l with
  | nil => rfl
  | cons c l => rw [blankRun, h]

theorem blankLength_cons (hc : isSolid c = true) (l : List Char) : blankLength (c :: l) = 0 := by
  simp only [isSolid, Bool.and_eq_true, Bool.not_eq_true', bne_iff_ne] at hc
  refine blankRun_of_atStart_eq_none ?_ 0 0
  simp [BlankState.atStart, hc.1, hc.2]

theorem pastBlanks_of_blankLength_eq_zero (h : blankLength l = 0) : pastBlanks l = l := by
  rw [pastBlanks, h, List.drop_zero]

theorem pastBlanks_cons (hc : isSolid c = true) (l : List Char) : pastBlanks (c :: l) = c :: l :=
  pastBlanks_of_blankLength_eq_zero (blankLength_cons hc l)

theorem pastBlanks_of_isBlank (hc : isBlank c = true) (l : List Char) :
    pastBlanks (c :: l) = pastBlanks l := by
  have hne : c ≠ '/' := by
    rintro rfl
    cases hc
  have hstart : BlankState.atStart (c :: l) = some .outside := by
    simp [BlankState.atStart, hne, hc]
  have hlength : blankLength (c :: l) = blankLength l + 1 := by
    rw [blankLength, blankRun, hstart]
    exact blankRun_add .outside 0 0 1 l
  rw [pastBlanks, hlength, List.drop_succ_cons, pastBlanks]

theorem blankLength_pastBlanks (l : List Char) : blankLength (pastBlanks l) = 0 :=
  blankLength_drop l

namespace Pattern

/-! ## Readings -/

/-- Where `l` is ahead, the pattern is read, `l'` is ahead behind it and the blanks that follow, and
of the tokens (the latest first) it is known what `Q` says. -/
def Takes (n : Reader) (x : Pattern) (l l' : List Char) (Q : List Token → Prop) : Prop :=
  ∀ k, k.rest = l → ∃ ts k', x.Accepts n .open k ts k' ∧
    (k'.skip .free).rest = l' ∧ k'.rest.length < k.rest.length ∧ Q ts

/-- The pattern is read and leaves one token. -/
abbrev TakesOne (n : Reader) (x : Pattern) (l l' : List Char) (Q : Token → Prop) : Prop :=
  x.Takes n l l' fun ts => ∃ t, ts = [t] ∧ Q t

/-- Where `l` is ahead, the pattern cannot be read, nor looked ahead for. -/
def Misses (n : Reader) (x : Pattern) (l : List Char) : Prop :=
  ∀ ahead k, k.rest = l → x.Rejects n ⟨.free, ahead⟩ k

variable {n : Reader} {x y : Pattern} {l₁ l' : List Char} {P Q R : List Token → Prop}

/-! ### What cannot be read -/

theorem rejects_choice {m : Mode} {k : Cursor} {xs : List Pattern}
    (hxs : ∀ x ∈ xs, x.Rejects n m k) : (Pattern.choice xs).Rejects n m k := by
  induction xs with
  | nil => exact rejects_one fun _ _ _ => rfl
  | cons x xs ih =>
    have hx := hxs x List.mem_cons_self
    cases xs with
    | nil => exact hx
    | cons y ys => exact rejects_either hx (ih fun z hz => hxs z (List.mem_cons_of_mem x hz))

namespace Misses

theorem of_first (hl : blankLength l = 0) (h : (x.eats l.head? || x.idles l.head?) = false) :
    x.Misses n l := by
  rintro ahead k rfl
  exact rejects_of_first hl h

theorem of_head (hc : isSolid c = true) (h : (x.eats (some c) || x.idles (some c)) = false) :
    x.Misses n (c :: l) :=
  .of_first (blankLength_cons hc l) h

theorem text {w : List Char} (h : ¬ w <+: l) : (Pattern.text w).Misses n l := by
  rintro ahead k rfl
  exact rejects_text_iff.mpr h

/-- A word that does not begin with the next character. -/
theorem of_word {w : String} (hw : w.toList.head? = some c) (hl : l.head? ≠ some c) :
    (word w).Misses n l := by
  refine .text ?_
  rintro ⟨v, rfl⟩
  obtain ⟨w', hw'⟩ := List.head?_eq_some_iff.mp hw
  exact hl (by rw [hw']; rfl)

theorem seq (hx : x.Misses n l) : (Pattern.seq x y).Misses n l :=
  fun ahead k hk => rejects_seq (hx ahead k hk)

/-- A word, and then a pattern that cannot be read. -/
theorem text_seq {w : List Char} (hx : x.Misses n (pastBlanks l)) :
    (Pattern.seq (.text w) x).Misses n (w ++ l) := by
  intro ahead k hk
  refine rejects_seq_right (accepts_text hk) (hx ahead _ ?_)
  rw [Cursor.rest_skip, Cursor.rest_advance, hk, List.drop_left]

theorem either (hx : x.Misses n l) (hy : y.Misses n l) : (Pattern.either x y).Misses n l :=
  fun ahead k hk => rejects_either (hx ahead k hk) (hy ahead k hk)

theorem choice {xs : List Pattern} (hxs : ∀ x ∈ xs, x.Misses n l) :
    (Pattern.choice xs).Misses n l :=
  fun ahead k hk => rejects_choice fun x hx => hxs x hx ahead k hk

theorem rule {r : Rule} (hx : x.Misses n l) : (Pattern.rule r .plain x).Misses n l :=
  fun ahead k hk => rejects_rule (hx ahead k hk)

/-- Looking ahead finds one of the words. -/
theorem unless_words {v w : String} (h : v.toList <+: l ∨ w.toList <+: l) :
    (Pattern.unless (.either (word v) (word w))).Misses n l := by
  intro ahead k hk
  have hword : ∀ {w : String}, w.toList <+: l →
      ∃ k', (word w).Accepts n ⟨.free, true⟩ k [] k' := by
    rintro w ⟨u, rfl⟩
    exact ⟨_, accepts_text hk⟩
  by_cases hv : v.toList <+: l
  · obtain ⟨k', hacc⟩ := hword hv
    exact rejects_unless (accepts_either_left hacc)
  · obtain ⟨k', hacc⟩ := hword (h.resolve_left hv)
    exact rejects_unless (accepts_either_right (rejects_text_iff.mpr (hk ▸ hv)) hacc)

end Misses

/-! ### What is read -/

namespace Takes

theorem mono (hx : x.Takes n l l' P) (h : ∀ ts, P ts → Q ts) : x.Takes n l l' Q := by
  intro k hk
  obtain ⟨ts, k', hacc, hrest, hlt, hP⟩ := hx k hk
  exact ⟨ts, k', hacc, hrest, hlt, h ts hP⟩

/-- A pattern that reads just the characters given. -/
theorem chars {w : List Char} (hw : w ≠ []) (hx : ∀ k, k.rest = w ++ l →
    ∃ ts, x.Accepts n .open k ts (k.advance w.length) ∧ Q ts) :
    x.Takes n (w ++ l) (pastBlanks l) Q := by
  intro k hk
  obtain ⟨ts, hacc, hQ⟩ := hx k hk
  have hrest : (k.advance w.length).rest = l := by rw [Cursor.rest_advance, hk, List.drop_left]
  refine ⟨ts, _, hacc, by rw [Cursor.rest_skip, hrest], ?_, hQ⟩
  have hpos := List.length_pos_iff.mpr hw
  rw [hrest, hk, List.length_append]
  omega

theorem text {w : List Char} (hw : w ≠ []) :
    (Pattern.text w).Takes n (w ++ l) (pastBlanks l) (· = []) :=
  chars hw fun _ hk => ⟨[], accepts_text hk, rfl⟩

theorem seq (hx : x.Takes n l l₁ P) (hy : y.Takes n l₁ l' Q)
    (h : ∀ ts us, P ts → Q us → R (us ++ ts)) : (Pattern.seq x y).Takes n l l' R := by
  intro k hk
  obtain ⟨ts, k₁, hx, hrest, hlt, hP⟩ := hx k hk
  obtain ⟨us, k', hy, hrest', hlt', hQ⟩ := hy _ hrest
  have hle := k₁.length_rest_skip
  exact ⟨us ++ ts, k', accepts_seq hx hy, hrest', by omega, h ts us hP hQ⟩

/-- Something that reads nothing may follow. -/
theorem seq_nothing (hx : x.Takes n l l' Q)
    (hy : ∀ k, k.rest = l' → k.skip .free = k → y.Accepts n .open k [] k) :
    (Pattern.seq x y).Takes n l l' Q := by
  intro k hk
  obtain ⟨ts, k', hx, hrest, hlt, hQ⟩ := hx k hk
  have hle := k'.length_rest_skip
  refine ⟨ts, k'.skip .free, accepts_seq hx (hy _ hrest k'.skip_skip), ?_, by omega, hQ⟩
  rw [Cursor.skip_skip, hrest]

/-- A word, then the pattern. -/
theorem text_seq {w : List Char} (hw : w ≠ []) (hx : x.Takes n (pastBlanks l) l' Q) :
    (Pattern.seq (.text w) x).Takes n (w ++ l) l' Q :=
  seq (text hw) hx fun ts us hts hus => by rwa [hts, List.append_nil]

/-- The pattern, then a word. -/
theorem seq_text {w : List Char} (hw : w ≠ []) (hx : x.Takes n l (w ++ l₁) Q) :
    (Pattern.seq x (.text w)).Takes n l (pastBlanks l₁) Q :=
  seq hx (text hw) fun ts us hts hus => by rwa [hus, List.nil_append]

theorem maybe (hx : x.Takes n l l' Q) : (Pattern.maybe x).Takes n l l' Q := by
  intro k hk
  obtain ⟨ts, k', hx, hrest, hlt, hQ⟩ := hx k hk
  exact ⟨ts, k', accepts_maybe hx, hrest, hlt, hQ⟩

/-- Looking ahead in vain reads nothing. -/
theorem unless_seq (hl : blankLength l = 0) (hx : x.Misses n l) (hy : y.Takes n l l' Q) :
    (Pattern.seq (.unless x) y).Takes n l l' Q := by
  intro k hk
  obtain ⟨ts, k', hy, hrest, hlt, hQ⟩ := hy k hk
  have hskip : k.skip .free = k := skip_eq_self (by rw [hk, hl]) .free
  have hunless : (Pattern.unless x).Accepts n .open k [] k := accepts_unless (hx true k hk)
  have hseq := accepts_seq hunless (by rw [hskip]; exact hy)
  rw [List.append_nil] at hseq
  exact ⟨ts, k', hseq, hrest, hlt, hQ⟩

/-- The first alternative that can be read. -/
theorem choice {xs ys : List Pattern} (hxs : ∀ z ∈ xs, z.Misses n l) (hx : x.Takes n l l' Q) :
    (Pattern.choice (xs ++ x :: ys)).Takes n l l' Q := by
  intro k hk
  obtain ⟨ts, k', hx, hrest, hlt, hQ⟩ := hx k hk
  exact ⟨ts, k', accepts_choice (fun z hz => hxs z hz false k hk) hx, hrest, hlt, hQ⟩

/-- The alternative that begins with the next character. -/
theorem choice_of_head {xs ys : List Pattern} (hc : isSolid c = true)
    (hxs : xs.all (fun z => !(z.eats (some c) || z.idles (some c))) = true)
    (hx : x.Takes n (c :: l) l' Q) : (Pattern.choice (xs ++ x :: ys)).Takes n (c :: l) l' Q :=
  choice (fun z hz => .of_head hc (by simpa using List.all_eq_true.mp hxs z hz)) hx

/-- A rule leaves one token around those of its body. -/
theorem rule {r : Rule} (hx : x.Takes n l l' Q) :
    (Pattern.rule r .plain x).TakesOne n l l' fun t => t.rule = r ∧ Q t.inner.reverse := by
  intro k hk
  obtain ⟨ts, k', hx, hrest, hlt, hQ⟩ := hx k hk
  refine ⟨_, k', accepts_rule rfl hx, hrest, hlt, _, rfl, rfl, ?_⟩
  rw [Token.inner, List.reverse_reverse]
  exact hQ

/-- The same around a single token. -/
theorem rule_one {r : Rule} {T : Token → Prop} (hx : x.TakesOne n l l' T) :
    (Pattern.rule r .plain x).TakesOne n l l' fun t => t.rule = r ∧ ∃ u, t.inner = [u] ∧ T u := by
  refine hx.rule.mono fun ts => ?_
  rintro ⟨t, rfl, hr, u, hu, hT⟩
  exact ⟨t, rfl, hr, u, by rw [← List.reverse_reverse t.inner, hu]; rfl, hT⟩

/-- The same around two tokens. -/
theorem rule_two {r : Rule} {T U : Token → Prop} (hx : x.TakesOne n l l₁ T)
    (hy : y.TakesOne n l₁ l' U) : (Pattern.rule r .plain (.seq x y)).TakesOne n l l' fun t =>
      t.rule = r ∧ ∃ u v, t.inner = [u, v] ∧ T u ∧ U v := by
  have hbody : (Pattern.seq x y).Takes n l l' fun ts => ∃ u v, ts = [v, u] ∧ T u ∧ U v := by
    refine seq hx hy ?_
    rintro _ _ ⟨u, rfl, hu⟩ ⟨v, rfl, hv⟩
    exact ⟨u, v, rfl, hu, hv⟩
  refine hbody.rule.mono fun ts => ?_
  rintro ⟨t, rfl, hr, u, v, hinner, hu, hv⟩
  exact ⟨t, rfl, hr, u, v, List.reverse_eq_iff.mp hinner, hu, hv⟩

/-- A list of one, without a comma after it. -/
theorem commaList (hx : x.Takes n l l' Q) (hcomma : (word ",").Misses n l') :
    (commaList x).Takes n l l' Q := by
  refine hx.seq_nothing fun k hk hskip => ?_
  have hmany : (Pattern.many (.seq (word ",") x)).Accepts n .open k [] k :=
    accepts_many (.done (hcomma.seq false _ (by rw [hskip]; exact hk))) hskip
  exact accepts_seq hmany (by rw [hskip]; exact accepts_maybe_nil (hcomma false k hk))

section Commas

variable {α : Type} {T : α → Token → Prop} {a : α} {as : List α}

/-- Parts that follow one another, each behind a comma: `ahead` says which text is ahead before some
of them. -/
theorem repeats_commas (ahead : List α → List Char)
    (hx : ∀ a ∈ as, ∀ bs, (Pattern.seq (word ",") x).TakesOne n (ahead (a :: bs)) (ahead bs) (T a))
    (hcomma : (word ",").Misses n (ahead [])) {k : Cursor} (hk : (k.skip .free).rest = ahead as) :
    ∃ ts k', Repeats n (.seq (word ",") x) .open k ts k' ∧ (k'.skip .free).rest = ahead [] ∧
      List.Forall₂ T as ts.reverse := by
  induction as generalizing k with
  | nil => exact ⟨[], k, .done (hcomma.seq false _ hk), hk, .nil⟩
  | cons a as ih =>
    rw [List.forall_mem_cons] at hx
    obtain ⟨_, k₁, hacc, hrest, hlt, t, rfl, ht⟩ := hx.1 as _ hk
    obtain ⟨us, k', hrep, hrest', hus⟩ := ih hx.2 hrest
    have hle := k.length_rest_skip
    refine ⟨us ++ [t], k', .next hacc (by omega) hrep, hrest', ?_⟩
    rw [List.reverse_append]
    exact .cons ht hus

/-- Parts with commas between them. -/
theorem commaList_cons (ahead : List α → List Char) (hfirst : x.TakesOne n l (ahead as) (T a))
    (hx : ∀ a ∈ as, ∀ bs, (Pattern.seq (word ",") x).TakesOne n (ahead (a :: bs)) (ahead bs) (T a))
    (hcomma : (word ",").Misses n (ahead [])) :
    (Language.commaList x).Takes n l (ahead []) fun ts => List.Forall₂ T (a :: as) ts.reverse := by
  intro k hk
  obtain ⟨_, k₁, hacc, hrest, hlt, t, rfl, ht⟩ := hfirst k hk
  have hskip := k₁.skip_skip
  obtain ⟨us, k₂, hrep, hrest', hus⟩ :=
    repeats_commas ahead hx hcomma (by rw [hskip]; exact hrest)
  have hmany := accepts_many hrep hskip
  have hmaybe := accepts_maybe_nil (hcomma false _ hrest')
  have hle₁ := k₁.length_rest_skip
  have hle₂ := k₂.length_rest_skip
  have hle := hrep.length_le
  refine ⟨_, _, accepts_seq hacc (accepts_seq hmany hmaybe), ?_, by omega, ?_⟩
  · rw [Cursor.skip_skip, hrest']
  · show List.Forall₂ T (a :: as) (us ++ [t]).reverse
    rw [List.reverse_append]
    exact .cons ht hus

end Commas

end Takes

end Pattern

open Pattern

/-! ## Runs of tokens -/

/-- Where `l` is ahead, tokens are read one after the other until `l'` is ahead. -/
def Flows (n : Reader) (b : Bool) (l l' : List Char) (Q : List Token → Prop) : Prop :=
  ∀ k, k.rest = l → ∃ ts k', k'.rest = l' ∧ Flow n b k ts k' ∧ Q ts

variable {n : Reader} {x : Pattern} {l₁ l' : List Char} {P Q R : List Token → Prop}

namespace Flows

theorem done : Flows n true l l (· = []) := fun k hk => ⟨[], k, hk, .done, rfl⟩

theorem operand (hops : unaryOps.Misses n l) (hoperand : operand.Takes n l l₁ P)
    (hrest : Flows n true l₁ l' Q) (h : ∀ ts us, P ts → Q us → R (us ++ ts)) :
    Flows n false l l' R := by
  intro k hk
  obtain ⟨ts, k₁, hacc, hrest₁, hlt, hP⟩ := hoperand k hk
  obtain ⟨us, k', hk', hflow, hQ⟩ := hrest _ hrest₁
  exact ⟨us ++ ts, k', hk', .operand (hops false k hk) hacc hlt hflow, h ts us hP hQ⟩

theorem step (hstep : steps.Takes n l l₁ P) (hrest : Flows n true l₁ l' Q)
    (h : ∀ ts us, P ts → Q us → R (us ++ ts)) : Flows n true l l' R := by
  intro k hk
  obtain ⟨ts, k₁, hacc, hrest₁, hlt, hP⟩ := hstep k hk
  obtain ⟨us, k', hk', hflow, hQ⟩ := hrest _ hrest₁
  exact ⟨us ++ ts, k', hk', .step hacc hlt hflow, h ts us hP hQ⟩

theorem operator (hsteps : steps.Misses n l) (hop : infixOps.Takes n l l₁ P)
    (hrest : Flows n false l₁ l' Q) (h : ∀ ts us, P ts → Q us → R (us ++ ts)) :
    Flows n true l l' R := by
  intro k hk
  obtain ⟨ts, k₁, hacc, hrest₁, hlt, hP⟩ := hop k hk
  obtain ⟨us, k', hk', hflow, hQ⟩ := hrest _ hrest₁
  exact ⟨us ++ ts, k', hk', .operator (hsteps false k hk) hacc hlt hflow, h ts us hP hQ⟩

/-- A run is read as an expression, if neither a step nor an operator follows. -/
theorem expression (h : Flows n false l l' Q) (hl : blankLength l = 0) (hsteps : steps.Misses n l')
    (hops : infixOps.Misses n l') : expression.TakesOne n l l' fun t =>
      ∃ k k' ts, t = expressionToken k k' ts ∧ Q ts := by
  rintro k rfl
  obtain ⟨ts, k', hk', hflow, hQ⟩ := h k rfl
  obtain ⟨k₁, hskip, hlt, hacc⟩ := hflow.accepts_expression (skip_eq_self hl .free)
    (hsteps false k' hk') (hops false k' hk')
  exact ⟨_, k₁, hacc, by rw [hskip, hk'], hlt, _, rfl, k, k₁, ts, rfl, hQ⟩

end Flows

/-! ## Expressions as runs -/

section Back

variable {k k₁ k₂ k₃ k' : Cursor} {ts us os ss : List Token}

/-- A repetition ends where the pattern is rejected. -/
theorem Pattern.Repeats.rejects {m : Mode} (h : Repeats n x m k ts k') :
    x.Rejects n m (k'.skip m.spacing) := by
  induction h with
  | done hrej => exact hrej
  | next _ _ _ ih => exact ih

theorem repeats_of_accepts_many_skip (hn : n.Settled) (hp : n.Proceeds) (hx : x.nullable = false)
    (h : (Pattern.many x).Accepts n .open (k.skip .free) ts k') :
    Repeats n x .open (k.skip .free) ts k' :=
  (accepts_many_iff hn hp hx k.skip_skip).mp h

namespace Flow

theorem of_unaryOps (hp : n.Proceeds) (h : Repeats n unaryOps .open k us k₁)
    (hflow : Flow n false (k₁.skip .free) ts k') :
    Flow n false (k.skip .free) (ts ++ us) k' := by
  induction h with
  | done => rwa [List.append_nil]
  | next hacc _ _ ih =>
    rw [← List.append_assoc]
    exact .unary hacc (hacc.length_lt hp rfl) (ih hflow)

theorem of_steps (hp : n.Proceeds) (h : Repeats n steps .open k ss k₁)
    (hflow : Flow n true (k₁.skip .free) ts k') : Flow n true (k.skip .free) (ts ++ ss) k' := by
  induction h with
  | done => rwa [List.append_nil]
  | next hacc _ _ ih =>
    rw [← List.append_assoc]
    exact .step hacc (hacc.length_lt hp rfl) (ih hflow)

/-- Operators, an operand and its steps, and then a run. -/
theorem of_operandRun (hp : n.Proceeds) (hunary : Repeats n unaryOps .open k us k₁)
    (hoperand : Language.operand.Accepts n .open (k₁.skip .free) os k₂)
    (hsteps : Repeats n steps .open (k₂.skip .free) ss k₃)
    (hflow : Flow n true (k₃.skip .free) ts k') :
    Flow n false (k.skip .free) (ts ++ (ss ++ (os ++ us))) k' := by
  have hrest := of_steps hp hsteps hflow
  rw [k₂.skip_skip] at hrest
  have hrun := of_unaryOps hp hunary
    (.operand hunary.rejects hoperand (hoperand.length_lt hp rfl) hrest)
  rwa [List.append_assoc, List.append_assoc] at hrun

variable (hn : n.Settled) (hp : n.Proceeds)
include hn hp

theorem of_operatorRun (h : Repeats n operatorRun .open k ts k')
    (hsteps : steps.Rejects n .open (k.skip .free)) :
    Flow n true (k.skip .free) ts (k'.skip .free) := by
  induction h with
  | done => exact .done
  | next hacc _ _ ih =>
    obtain ⟨_, _, c₁, hop, hafterOp, rfl⟩ := (accepts_seq_iff hn).mp hacc
    obtain ⟨_, _, c₂, hunaryOps, hafterUnary, rfl⟩ := (accepts_seq_iff hn).mp hafterOp
    obtain ⟨_, _, c₃, hoperand, hsteps', rfl⟩ := (accepts_seq_iff hn).mp hafterUnary
    have hunary := repeats_of_accepts_many_skip hn hp rfl hunaryOps
    have hmany := repeats_of_accepts_many_skip hn hp rfl hsteps'
    have hflow := of_operandRun hp hunary hoperand hmany (ih hmany.rejects)
    rw [Cursor.skip_skip] at hflow
    have hrun := operator hsteps hop (hop.length_lt hp rfl) hflow
    simp only [List.append_assoc] at hrun ⊢
    exact hrun

/-- What is read as an expression is a run. -/
theorem of_accepts_expression (hk : k.skip .free = k) (h : expression.Accepts n .open k us k') :
    ∃ ts, Flow n false k ts (k'.skip .free) ∧ us = [expressionToken k k' ts] := by
  obtain ⟨vs, hbody, rfl⟩ := (accepts_rule_iff hn).mp h
  refine ⟨vs, ?_, rfl⟩
  obtain ⟨_, _, k₁, hunaryOps, hafterUnary, rfl⟩ := (accepts_seq_iff hn).mp hbody
  obtain ⟨_, _, k₂, hoperand, hafterOperand, rfl⟩ := (accepts_seq_iff hn).mp hafterUnary
  obtain ⟨_, _, k₃, hsteps, hruns, rfl⟩ := (accepts_seq_iff hn).mp hafterOperand
  have hunary : Repeats n unaryOps .open k _ k₁ := (accepts_many_iff hn hp rfl hk).mp hunaryOps
  have hmany := repeats_of_accepts_many_skip hn hp rfl hsteps
  have hrest := of_operatorRun hn hp (repeats_of_accepts_many_skip hn hp rfl hruns)
    (by rw [Cursor.skip_skip]; exact hmany.rejects)
  rw [Cursor.skip_skip] at hrest
  have hflow := of_operandRun hp hunary hoperand hmany hrest
  rw [hk] at hflow
  simp only [List.append_assoc] at hflow ⊢
  exact hflow

end Flow

end Back

end ExprLang
