import ExprLang.Proofs.Grammar.Joint

/-!
# ExprLang.Proofs.Grammar.Crossing

Readings of the first of two texts that get over their joint at a gap, if at all.

`Joint.CrossedAt` says it of two places and the gaps between them, and `Pattern.Crosses` of a reading
of a pattern.  Such a reading is taken apart into readings of the parts, which are such readings
again: before a part, the blanks that are skipped are those of the joint or end before it
(`Joint.Clears`).

The second text may also close a comment that the first one leaves open.  What looks like such a
comment is a regular expression that begins with an asterisk; where the second text closes comments,
there has to be none (`Joint.Admits`).
-/

namespace ExprLang

open Token (Alike)

/-! ## Regular expressions that look like comments -/

namespace Token

mutual

/-- Whether the token or one inside it is a regular expression that begins with an asterisk. -/
def starred : Token → Bool
  | mk r _ _ inner =>
    r == .regexp && inner.head?.any (fun body => body.chars.head? == some '*') || anyStarred inner

/-- Whether one of the tokens is starred. -/
def anyStarred : List Token → Bool
  | [] => false
  | t :: ts => t.starred || anyStarred ts

end

theorem anyStarred_eq_any (ts : List Token) : anyStarred ts = ts.any starred := by
  induction ts with
  | nil => rw [anyStarred, List.any_nil]
  | cons t ts ih => rw [anyStarred, ih, List.any_cons]

theorem anyStarred_inner {t : Token} (h : t.starred = false) : anyStarred t.inner = false := by
  obtain ⟨r, k, len, inner⟩ := t
  rw [starred, Bool.or_eq_false_iff] at h
  exact h.2

end Token

namespace Joint

variable {s : Joint} {k k₁ k' c : Cursor} {cs ds : List Cursor} {ts us : List Token} {sp : Spacing}

/-- The second text closes no comment at the joint, or none of the tokens looks like an open one. -/
def Admits (s : Joint) (ts : List Token) : Prop :=
  closesBlock s.right = false ∨ Token.anyStarred ts = false

theorem admits_append_iff : s.Admits (ts ++ us) ↔ s.Admits ts ∧ s.Admits us := by
  simp only [Admits, Token.anyStarred_eq_any, List.any_append, Bool.or_eq_false_iff]
  tauto

theorem Admits.inner {r : Rule} {len : Nat} (h : s.Admits [.mk r k len ts.reverse]) :
    s.Admits ts := by
  refine h.imp_right fun h => ?_
  rw [Token.anyStarred, Bool.or_eq_false_iff, Token.starred, Bool.or_eq_false_iff] at h
  rw [Token.anyStarred_eq_any, ← List.any_reverse, ← Token.anyStarred_eq_any]
  exact h.1.2

/-- A regular expression that is admitted is not taken for an open comment. -/
theorem Admits.head?_ne {len : Nat} {body : Token}
    (h : s.Admits [.mk .regexp k len (body :: ts)]) :
    closesBlock s.right = false ∨ body.chars.head? ≠ some '*' := by
  refine h.imp_right fun h hstar => ?_
  rw [Token.anyStarred, Bool.or_eq_false_iff, Token.starred, Bool.or_eq_false_iff] at h
  simp [hstar] at h

/-! ## Crossing the joint -/

/-- From `k` to `k'` the joint is not passed, or it is passed at one of these places. -/
def CrossedAt (s : Joint) (cs : List Cursor) (k k' : Cursor) : Prop :=
  s.Ahead k → s.Ahead k' ∨ ∃ c ∈ cs, c.rest = s.left

/-- Behind the blanks at the joint, the joint is not ahead, unless the first text is over. -/
theorem Ahead.of_gap (hc : c.rest = s.left) (hk : k.rest <:+ (c.skip .free).rest) (h : s.Ahead k)
    (k' : Cursor) : s.Ahead k' := by
  rw [Cursor.rest_skip, hc] at hk
  by_cases hleft : s.left = []
  · rw [Ahead, hleft]
    exact List.nil_suffix
  · exact absurd (h.trans hk) (not_suffix_pastBlanks hleft)

namespace CrossedAt

/-- The joint is crossed on the first part of a way or on the second. -/
theorem append (h : s.CrossedAt (cs ++ ds) k k') (hk : k₁.rest <:+ k.rest)
    (hk' : k'.rest <:+ k₁.rest) (hcs : ∀ c ∈ cs, k₁.rest <:+ (c.skip .free).rest)
    (hds : ∀ d ∈ ds, d.rest <:+ k₁.rest) : s.CrossedAt cs k k₁ ∧ s.CrossedAt ds k₁ k' := by
  refine ⟨fun hahead => ?_, fun hahead => ?_⟩
  · rcases h hahead with hend | ⟨c, hc, hleft⟩
    · exact .inl (hend.of_suffix hk')
    · rcases List.mem_append.mp hc with hc | hc
      · exact .inr ⟨c, hc, hleft⟩
      · exact .inl (show s.left <:+ k₁.rest from hleft ▸ hds c hc)
  · rcases h (hahead.of_suffix hk) with hend | ⟨c, hc, hleft⟩
    · exact .inl hend
    · rcases List.mem_append.mp hc with hc | hc
      · exact .inl (hahead.of_gap hleft (hcs c hc) k')
      · exact .inr ⟨c, hc, hleft⟩

/-- The joint is crossed in the blanks that are skipped first, or behind them. -/
theorem skip (h : s.CrossedAt (sp.gap k ++ ds) k k') (hk' : k'.rest <:+ (k.skip sp).rest)
    (hds : ∀ d ∈ ds, d.rest <:+ (k.skip sp).rest) :
    s.Clears sp k ∧ s.CrossedAt ds (k.skip sp) k' := by
  have hgap : ∀ c ∈ sp.gap k, c = k ∧ sp = .free := by
    intro c hc
    unfold Spacing.gap at hc
    split at hc
    · next hsp => exact ⟨List.mem_singleton.mp hc, hsp⟩
    · cases hc
  refine ⟨fun hahead => ?_, fun hahead => ?_⟩
  · rcases h hahead with hend | ⟨c, hc, hleft⟩
    · exact .inl (hend.of_suffix hk')
    · rcases List.mem_append.mp hc with hc | hc
      · obtain ⟨rfl, -⟩ := hgap c hc
        exact .inr hleft
      · exact .inl (show s.left <:+ (k.skip sp).rest from hleft ▸ hds c hc)
  · rcases h (hahead.of_suffix (k.skip_suffix sp)) with hend | ⟨c, hc, hleft⟩
    · exact .inl hend
    · rcases List.mem_append.mp hc with hc | hc
      · obtain ⟨rfl, rfl⟩ := hgap c hc
        exact .inl (hahead.of_gap hleft List.suffix_rfl k')
      · exact .inr ⟨c, hc, hleft⟩

end CrossedAt

end Joint

/-! ## Readings -/

namespace Pattern

variable {s : Joint} {n : Reader} {G : GapReader} {sp : Spacing} {x y : Pattern}
  {k k₁ k' : Cursor} {ts us : List Token}

/-- The pattern is accepted from `k` to `k'`; none of the tokens looks like an open comment if that
matters, and the joint is crossed at a gap, if at all. -/
structure Crosses (s : Joint) (n : Reader) (G : GapReader) (sp : Spacing) (x : Pattern) (k : Cursor)
    (ts : List Token) (k' : Cursor) : Prop where
  accepts : x.Accepts n ⟨sp, false⟩ k ts k'
  admits : s.Admits ts
  crossed : s.CrossedAt (x.gaps n G sp k) k k'

/-- A repetition of such readings, with the blanks before each of them skipped. -/
inductive Repeated (s : Joint) (n : Reader) (G : GapReader) (sp : Spacing) (x : Pattern) :
    Cursor → List Token → Cursor → Prop
  | done {k : Cursor} : x.Rejects n ⟨sp, false⟩ (k.skip sp) → Repeated s n G sp x k [] k
  | next {k k₁ k' : Cursor} {ts us : List Token} : s.Clears sp k →
      x.Crosses s n G sp (k.skip sp) ts k₁ → Repeated s n G sp x k₁ us k' →
      Repeated s n G sp x k (us ++ ts) k'

/-- A repetition ends where the pattern is rejected. -/
theorem Repeated.rejects (h : Repeated s n G sp x k ts k') :
    x.Rejects n ⟨sp, false⟩ (k'.skip sp) := by
  induction h with
  | done hrej => exact hrej
  | next _ _ _ ih => exact ih

/-- A reading that ends where the first text does crosses no joint. -/
theorem Crosses.of_left_eq_nil (hleft : s.left = []) (h : x.Accepts n ⟨sp, false⟩ k ts k')
    (hts : s.Admits ts) : x.Crosses s n G sp k ts k' :=
  ⟨h, hts, fun _ => .inl (by rw [Joint.Ahead, hleft]; exact List.nil_suffix)⟩

namespace Crosses

variable (hn : n.Regular G)
include hn

/-- The places around the gaps. -/
theorem gapOf {c : Cursor} (h : x.Accepts n ⟨sp, false⟩ k ts k') (hc : c ∈ x.gaps n G sp k) :
    k.GapOf k' c := ordered_gaps hn.settled hn.proceeds hn.ordered x h c hc

theorem seq (h : (Pattern.seq x y).Crosses s n G sp k ts k') : ∃ us vs k₁,
    x.Crosses s n G sp k us k₁ ∧ s.Clears sp k₁ ∧ y.Crosses s n G sp (k₁.skip sp) vs k' ∧
      ts = vs ++ us := by
  obtain ⟨hacc, hts, hcross⟩ := h
  obtain ⟨us, vs, k₁, hx, hy, rfl⟩ := (accepts_seq_iff hn.settled).mp hacc
  obtain ⟨hvs, hus⟩ := Joint.admits_append_iff.mp hts
  have hend : k'.rest <:+ (k₁.skip sp).rest := hy.suffix hn.proceeds
  have hskip := k₁.skip_suffix sp
  rw [gaps_seq hx] at hcross
  obtain ⟨hfirst, hrest⟩ := hcross.append (hx.suffix hn.proceeds) (hend.trans hskip)
    (fun c hc => (gapOf hn hx hc).behind) fun d hd => by
      rcases List.mem_append.mp hd with hd | hd
      · exact (Cursor.gapOf_of_mem_gap hd List.suffix_rfl hend).before
      · exact (gapOf hn hy hd).before.trans hskip
  obtain ⟨hclear, hsecond⟩ := hrest.skip hend fun d hd => (gapOf hn hy hd).before
  exact ⟨us, vs, k₁, ⟨hx, hus, hfirst⟩, hclear, ⟨hy, hvs, hsecond⟩, rfl⟩

theorem either (h : (Pattern.either x y).Crosses s n G sp k ts k') :
    x.Crosses s n G sp k ts k' ∨ x.Rejects n ⟨sp, false⟩ k ∧ y.Crosses s n G sp k ts k' := by
  obtain ⟨hacc, hts, hcross⟩ := h
  rcases (accepts_either_iff hn.settled).mp hacc with hx | ⟨hrej, hy⟩
  · rw [gaps_either_left hx] at hcross
    exact .inl ⟨hx, hts, hcross⟩
  · rw [gaps_either_right hrej] at hcross
    exact .inr ⟨hrej, hy, hts, hcross⟩

theorem choice {xs : List Pattern} (h : (Pattern.choice xs).Crosses s n G sp k ts k') :
    ∃ x ∈ xs, x.Crosses s n G sp k ts k' := by
  induction xs with
  | nil =>
    obtain ⟨x, hx, -⟩ := exists_of_accepts_choice hn.settled h.accepts
    cases hx
  | cons x xs ih =>
    cases xs with
    | nil => exact ⟨x, List.mem_cons_self, h⟩
    | cons y ys =>
      rcases either hn h with hx | ⟨-, hrest⟩
      · exact ⟨x, List.mem_cons_self, hx⟩
      · obtain ⟨z, hz, hreads⟩ := ih hrest
        exact ⟨z, List.mem_cons_of_mem x hz, hreads⟩

theorem maybe (h : (Pattern.maybe x).Crosses s n G sp k ts k') :
    x.Crosses s n G sp k ts k' ∨ x.Rejects n ⟨sp, false⟩ k ∧ ts = [] ∧ k' = k := by
  obtain ⟨hacc, hts, hcross⟩ := h
  refine ((accepts_maybe_iff hn.settled).mp hacc).imp_left fun hx => ?_
  rw [gaps_maybe hx] at hcross
  exact ⟨hx, hts, hcross⟩

theorem rule {r : Rule} {kind : RuleKind} (hvis : Mode.visible ⟨kind.outer sp, false⟩ = true)
    (h : (Pattern.rule r kind x).Crosses s n G sp k ts k') : ∃ us,
      x.Crosses s n G (kind.body sp) k us k' ∧
        ts = [.mk r k (k'.offset - k.offset) us.reverse] := by
  obtain ⟨hacc, hts, hcross⟩ := h
  obtain ⟨us, hbody, rfl⟩ := (accepts_rule_iff hn.settled).mp hacc
  rw [if_pos hvis] at hts ⊢
  exact ⟨us, ⟨hbody, hts.inner, hcross⟩, rfl⟩

theorem repeated_of_repeats (h : Repeats n x ⟨sp, false⟩ k ts k') (hts : s.Admits ts) {fuel : Nat}
    (hfuel : k.rest.length < fuel)
    (hcross : s.CrossedAt (repeatGaps (x.next? n sp) (x.gaps n G sp) sp fuel k) k k') :
    Repeated s n G sp x k ts k' := by
  induction h generalizing fuel with
  | done hrej => exact .done hrej
  | @next k k₁ k' us vs hacc hlt hrep ih =>
    obtain ⟨fuel, rfl⟩ : ∃ f, fuel = f + 1 := ⟨fuel - 1, by omega⟩
    obtain ⟨hvs, hus⟩ := Joint.admits_append_iff.mp hts
    obtain ⟨a, ha⟩ := hrep.repeatReading (Nat.lt_of_lt_of_le hlt (Nat.le_of_lt_succ hfuel)) .empty []
    obtain ⟨hend, hgaps⟩ := ordered_repeatGaps hn.settled hn.proceeds
      (ordered_gaps hn.settled hn.proceeds hn.ordered x) ha
    have hfirst : k₁.rest <:+ (k.skip sp).rest := hacc.suffix hn.proceeds
    rw [repeatGaps_of_accepts hacc] at hcross
    obtain ⟨hclear, hcross⟩ := hcross.skip (hend.trans hfirst) fun d hd => by
      rcases List.mem_append.mp hd with hd | hd
      · exact (gapOf hn hacc hd).before
      · exact (hgaps d hd).before.trans hfirst
    obtain ⟨hx, hrest⟩ := hcross.append hfirst hend (fun c hc => (gapOf hn hacc hc).behind)
      fun d hd => (hgaps d hd).before
    exact .next hclear ⟨hacc, hus, hx⟩ (ih hvs (Nat.lt_of_lt_of_le hlt (Nat.le_of_lt_succ hfuel)) hrest)

theorem many (hnull : x.nullable = false) (hk : k.skip sp = k)
    (h : (Pattern.many x).Crosses s n G sp k ts k') : Repeated s n G sp x k ts k' := by
  obtain ⟨hacc, hts, hcross⟩ := h
  rw [accepts_many_iff hn.settled hn.proceeds hnull hk] at hacc
  cases hacc with
  | done hrej => exact .done hrej
  | @next k₁ _ _ us vs hx hlt hrep =>
    obtain ⟨hvs, hus⟩ := Joint.admits_append_iff.mp hts
    rw [hk] at hx
    obtain ⟨a, ha⟩ := hrep.repeatReading (Nat.lt_succ_self _) .empty []
    obtain ⟨hend, hgaps⟩ := ordered_repeatGaps hn.settled hn.proceeds
      (ordered_gaps hn.settled hn.proceeds hn.ordered x) ha
    rw [gaps_many hx] at hcross
    obtain ⟨hfirst, hrest⟩ := hcross.append (hx.suffix hn.proceeds) hend
      (fun c hc => (gapOf hn hx hc).behind) fun d hd => (hgaps d hd).before
    refine .next (Joint.clears_of_skip hk) ?_
      (repeated_of_repeats hn hrep hvs (Nat.lt_succ_self _) hrest)
    rw [hk]
    exact ⟨hx, hus, hfirst⟩

omit hn in
theorem recurse {d : Nat} (h : Pattern.recurse.Crosses s (readExpression (d + 1))
    (expressionGaps (d + 1)) sp k ts k') :
    Language.expression.Crosses s (readExpression d) (expressionGaps d) sp k ts k' :=
  ⟨accepts_recurse_iff.mp h.accepts, h.admits, h.crossed⟩

omit hn in
/-- What reads without skipping keeps the joint ahead. -/
theorem ahead (h : x.Crosses s n G sp k ts k') (hgaps : x.gaps n G sp k = []) :
    s.Ahead k → s.Ahead k' := by
  have hcross := h.crossed
  rw [hgaps] at hcross
  exact fun hk => (hcross hk).resolve_right fun ⟨_, hc, _⟩ => nomatch hc

omit hn in
/-- A word is read on one side of the joint. -/
theorem across_text {w : List Char} (h : (Pattern.text w).Crosses s n G sp k ts k') :
    s.across k.rest = w ++ s.across k'.rest := by
  have hside := ahead h rfl
  obtain ⟨⟨l, hl⟩, -, rfl⟩ := accepts_text_iff.mp h.accepts
  have hrest : (k.advance w.length).rest = l := by rw [Cursor.rest_advance, ← hl, List.drop_left]
  rw [hrest, ← hl]
  refine Joint.across_word fun hleft => ?_
  have hahead := hside (show s.left <:+ k.rest from hl ▸ hleft)
  rwa [Joint.Ahead, hrest] at hahead

/-- A word begins before the joint or behind it. -/
theorem heads_of_text {w : List Char} {c : Char} (hw : w.head? = some c)
    (h : (Pattern.text w).Crosses s n G sp k ts k') : s.Heads c k := by
  obtain ⟨v, rfl⟩ := List.head?_eq_some_iff.mp hw
  obtain ⟨⟨l, hl⟩, -, hk'⟩ := accepts_text_iff.mp h.accepts
  refine ⟨by rw [← hl]; rfl, Joint.ne_left_of_ahead (ahead h rfl) ?_⟩
  exact h.accepts.length_lt hn.proceeds rfl

theorem heads_of_text_seq {w : List Char} {c : Char} (hw : w.head? = some c)
    (h : (Pattern.seq (.text w) x).Crosses s n G sp k ts k') : s.Heads c k := by
  obtain ⟨_, _, _, htext, -⟩ := seq hn h
  exact heads_of_text hn hw htext

end Crosses

end Pattern

end ExprLang
