import ExprLang.Proofs.Grammar.Crossing

/-!
# ExprLang.Proofs.Grammar.Carries

What is accepted in the first of two texts is accepted in the second.

Where the first text ends, or blanks are skipped in it, a loop or an option of the grammar could go on
in the second text, and a choice could take an earlier alternative.  So `Carries` comes with a
condition on the place that is reached in the first text: what is ahead there has to keep the pattern
from going on (`Pattern.Barred`).  In a sequence the condition is that the next part is read.
-/

namespace ExprLang

open Token (Alike)

namespace Pattern

/-! ## Patterns that are kept from reading -/

/-- Whatever the second text has at the place of `k`, the pattern is rejected there. -/
def Barred (s : Joint) (n : Reader) (sp : Spacing) (x : Pattern) (k : Cursor) : Prop :=
  ∀ k₂, k.Begins s sp k₂ → x.Rejects n ⟨sp, false⟩ k₂

/-- The characters that a pattern can begin with, if it is headed. -/
def heads : Pattern → List Char
  | .text w => w.take 1
  | .seq x _ => x.heads
  | .either x y => x.heads ++ y.heads
  | .rule _ _ x => x.heads
  | _ => []

/-- Whether whatever the pattern reads begins with a word. -/
def headed : Pattern → Bool
  | .text w => !w.isEmpty
  | .seq x _ => x.headed
  | .either x y => x.headed && y.headed
  | .rule _ _ x => x.headed
  | _ => false

/-- Whether two alternatives can be told apart without reading on: the first one stays on its side of
the joint, or begins with a character that the second one cannot begin with. -/
def apart (sp : Spacing) (z x : Pattern) : Bool :=
  z.inline sp || z.headed && z.heads.all fun c => !x.eats (some c)

variable {s : Joint} {n : Reader} {G : GapReader} {sp : Spacing} {x y z : Pattern}
  {k k' : Cursor} {ts : List Token} {c : Char}

/-- Where another character is ahead, a headed pattern is rejected. -/
theorem rejects_of_headed {m : Mode} (hx : x.headed = true) {l : List Char}
    (hk : k.rest = c :: l) (hc : c ∉ x.heads) : x.Rejects n m k := by
  induction x generalizing m with
  | text w =>
    cases w with
    | nil => cases hx
    | cons d w =>
      have hne : d ≠ c := by
        rintro rfl
        exact hc List.mem_cons_self
      refine rejects_text ?_
      simp [hk, List.isPrefixOf, hne]
  | seq x y ihx => exact rejects_seq (ihx hx hc)
  | either x y ihx ihy =>
    rw [headed, Bool.and_eq_true] at hx
    rw [heads, List.mem_append, not_or] at hc
    exact rejects_either (ihx hx.1 hc.1) (ihy hx.2 hc.2)
  | rule r kind x ih => exact rejects_rule (ih hx hc)
  | _ => cases hx

/-- Where something is read, the pattern can begin with the next character. -/
theorem exists_head_of_accepts (hp : n.Proceeds) (hk : blankLength k.rest = 0) {m : Mode}
    (h : x.Accepts n m k ts k') (hnull : x.nullable = false) :
    ∃ c l, k.rest = c :: l ∧ x.eats (some c) = true := by
  have hlt := h.length_lt hp hnull
  obtain ⟨a, ha⟩ := h .empty []
  have heats : x.eats k.rest.head? = true := by
    rcases accounted hk x ha with ⟨hsame, -⟩ | heats
    · simp only at hsame
      rw [hsame] at hlt
      omega
    · exact heats
  obtain ⟨c, l, hl⟩ := List.exists_cons_of_length_pos (Nat.zero_lt_of_lt hlt)
  rw [hl] at heats
  exact ⟨c, l, hl, heats⟩

theorem rest_ne_nil_of_accepts (hp : n.Proceeds) {m : Mode} (h : x.Accepts n m k ts k')
    (hnull : x.nullable = false) : k.rest ≠ [] :=
  List.ne_nil_of_length_pos (Nat.zero_lt_of_lt (h.length_lt hp hnull))

theorem blankLength_eq_zero_of_skip (h : k.skip .free = k) : blankLength k.rest = 0 := by
  rw [← h]
  exact k.blankLength_skip

/-- What begins without a slash begins with no comment. -/
theorem quiet_of_accepts (hp : n.Proceeds) (hk : k.skip .free = k) {m : Mode}
    (h : x.Accepts n m k ts k') (hnull : x.nullable = false) (hslash : x.eats (some '/') = false) :
    s.Quiet k := by
  obtain ⟨c, l, hl, heats⟩ := exists_head_of_accepts hp (blankLength_eq_zero_of_skip hk) h hnull
  refine .of_head? fun hc => ?_
  rw [hl, List.head?_cons, Option.some.injEq] at hc
  rw [hc, hslash] at heats
  cases heats

namespace Barred

/-- Where an expression ends. -/
theorem of_ends (hk : k.rest.head? ∈ endings)
    (hx : endings.all (fun c => !(x.eats c || x.idles c)) = true) : x.Barred s n .free k := by
  have hends : ∀ c ∈ endings, (x.eats c || x.idles c) = false := by
    intro c hc
    simpa using List.all_eq_true.mp hx c hc
  intro k₂ h
  refine rejects_of_first (blankLength_eq_zero_of_skip h.right) (hends _ ?_)
  cases hrest : k.rest with
  | nil => exact h.ends hrest
  | cons c l =>
    have hhead : k.rest.head? = some c := by rw [hrest]; rfl
    rw [h.head?_eq (Joint.heads_of_skip h.left hhead), ← hhead]
    exact hk

/-- By what the pattern does in the first text. -/
theorem of_inline (hn : n.Regular G) (hx : x.inline sp = true) (hne : k.rest ≠ [])
    (h : x.Rejects n ⟨sp, false⟩ k) : x.Barred s n sp k :=
  fun _ hk => rejects_of_inline hn hx (hk.meets.rest_eq (.inl hne)) h

/-- By a next character with which nothing that the pattern reads begins. -/
theorem of_headed (hx : x.headed = true) (hc : s.Heads c k) (hnot : c ∉ x.heads) :
    x.Barred s n sp k := by
  intro k₂ hk
  obtain ⟨l, hl⟩ := List.head?_eq_some_iff.mp (hk.head?_eq hc)
  exact rejects_of_headed hx hl hnot

/-- A character that is rejected in the first text. -/
theorem one {f : Char → Bool} (hc : s.Heads c k) (h : (Pattern.one f).Rejects n ⟨sp, false⟩ k) :
    (Pattern.one f).Barred s n sp k := by
  intro k₂ hk
  rw [rejects_one_iff] at h
  obtain ⟨l, hl⟩ := List.head?_eq_some_iff.mp hc.1
  refine rejects_one fun d l' hd => ?_
  have hhead := hk.head?_eq hc
  rw [hd, List.head?_cons, Option.some.injEq] at hhead
  rw [hhead]
  exact h c l hl

theorem seq (hx : x.Barred s n sp k) : (Pattern.seq x y).Barred s n sp k :=
  fun k₂ hk => rejects_seq (hx k₂ hk)

/-- A word, and then a pattern that is kept from reading. -/
theorem text_seq {w : List Char} (hw : w ≠ []) (hk : w <+: k.rest)
    (hside : s.Ahead k → s.Ahead (k.advance w.length))
    (hclear : s.Clears sp (k.advance w.length))
    (hquiet : sp = .free → s.Quiet ((k.advance w.length).skip sp))
    (hx : x.Barred s n sp ((k.advance w.length).skip sp)) :
    (Pattern.seq (.text w) x).Barred s n sp k := by
  obtain ⟨l, hl⟩ := hk
  have hrest : (k.advance w.length).rest = l := by rw [Cursor.rest_advance, ← hl, List.drop_left]
  intro k₂ hk₂
  have hrest₂ : k₂.rest = w ++ s.across l := by
    rw [hk₂.meets.rest_eq (.inl (by rw [← hl]; exact List.append_ne_nil_of_left_ne_nil hw l)), ← hl]
    refine Joint.across_word fun h => ?_
    have hahead := hside (show s.left <:+ k.rest from hl ▸ h)
    rwa [Joint.Ahead, hrest] at hahead
  have hmeets : (k.advance w.length).Meets s sp (k₂.advance w.length) := by
    refine .inl ?_
    rw [Cursor.rest_advance, hrest₂, List.drop_left, hrest]
  exact rejects_seq_right (accepts_text hrest₂) (hx _ (hmeets.skip hclear hquiet))

theorem either (hx : x.Barred s n sp k) (hy : y.Barred s n sp k) :
    (Pattern.either x y).Barred s n sp k :=
  fun k₂ hk => rejects_either (hx k₂ hk) (hy k₂ hk)

theorem rule {r : Rule} (hx : x.Barred s n sp k) : (Pattern.rule r .plain x).Barred s n sp k :=
  fun k₂ hk => rejects_rule (hx k₂ hk)

end Barred

end Pattern

open Pattern

/-! ## Carrying what is accepted over -/

/-- What the pattern reads in the first text it accepts in the second, where `F` holds of the place
reached; with the flag set, the tokens have the same characters.  Where blanks are skipped, those
before it are the same, but for the joint. -/
structure Carries (s : Joint) (n : Reader) (G : GapReader) (sp : Spacing) (e : Bool) (x : Pattern)
    (F : Cursor → Prop) : Prop where
  quiet : sp = .free → ∀ ⦃k ts k'⦄, k.skip sp = k → x.Crosses s n G sp k ts k' → F k' → s.Quiet k
  carry : ∀ ⦃k₁ k₂ ts k₁'⦄, k₁.Begins s sp k₂ → x.Crosses s n G sp k₁ ts k₁' → F k₁' →
    ∃ us k₂', x.Accepts n ⟨sp, false⟩ k₂ us k₂' ∧ k₁'.Meets s sp k₂' ∧ Alike s.across e ts us

/-- Wherever the pattern ends. -/
def Anywhere (_ : Cursor) : Prop := True

/-- Where the pattern is read, and `F` holds of its end. -/
structure Before (s : Joint) (n : Reader) (G : GapReader) (sp : Spacing) (x : Pattern)
    (F : Cursor → Prop) (k : Cursor) : Prop where
  quiet : sp = .free → s.Quiet k
  crosses : ∃ ts k', x.Crosses s n G sp k ts k' ∧ F k'

variable {s : Joint} {n : Reader} {G : GapReader} {sp : Spacing} {e : Bool} {x y z : Pattern}
  {F F' : Cursor → Prop}

/-- Where `x` is read in the first text and `z` is not, `z` is not in the second. -/
def GivesWay (s : Joint) (n : Reader) (G : GapReader) (sp : Spacing) (z x : Pattern) : Prop :=
  ∀ ⦃k ts k'⦄, k.skip sp = k → x.Crosses s n G sp k ts k' → z.Rejects n ⟨sp, false⟩ k →
    z.Barred s n sp k

namespace Carries

theorem mono (hx : Carries s n G sp e x F') (h : ∀ k, F k → F' k) : Carries s n G sp e x F where
  quiet := fun hsp _ _ k' hk hacc hF => hx.quiet hsp hk hacc (h k' hF)
  carry := fun _ _ _ k' hk hacc hF => hx.carry hk hacc (h k' hF)

/-- Where the pattern is read and nothing is left to skip, blanks before it are the same. -/
theorem before (hx : Carries s n G sp e x F) {k k' : Cursor} {ts : List Token}
    (hk : k.skip sp = k) (hacc : x.Crosses s n G sp k ts k') (hF : F k') :
    Before s n G sp x F k :=
  ⟨fun hsp => hx.quiet hsp hk hacc hF, ts, k', hacc, hF⟩

section Regular

variable (hn : n.Regular G)
include hn

theorem seq (hx : Carries s n G sp e x (s.Behind sp (Before s n G sp y F)))
    (hy : Carries s n G sp e y F) : Carries s n G sp e (.seq x y) F := by
  constructor
  · intro hsp k ts k' hk hacc hF
    obtain ⟨us, vs, k₁, hxacc, hclear, hyacc, rfl⟩ := Crosses.seq hn hacc
    exact hx.quiet hsp hk hxacc ⟨hclear, hy.before (Cursor.skip_idem sp k₁) hyacc hF⟩
  · intro k₁ k₂ ts k₁' hk hacc hF
    obtain ⟨us, vs, k, hxacc, hclear, hyacc, rfl⟩ := Crosses.seq hn hacc
    have hnext := hy.before (Cursor.skip_idem sp k) hyacc hF
    obtain ⟨us', k', hxacc', hmeets, halike⟩ := hx.carry hk hxacc ⟨hclear, hnext⟩
    obtain ⟨vs', k₂', hyacc', hmeets', halike'⟩ := hy.carry (hmeets.skip hclear hnext.quiet) hyacc hF
    exact ⟨_, k₂', accepts_seq hxacc' hyacc', hmeets', halike.append halike'⟩

theorem either_of (hx : Carries s n G sp e x F) (hy : Carries s n G sp e y F)
    (hway : ∀ ⦃k ts k'⦄, k.skip sp = k → y.Crosses s n G sp k ts k' → F k' →
      x.Rejects n ⟨sp, false⟩ k → x.Barred s n sp k) : Carries s n G sp e (.either x y) F := by
  constructor
  · intro hsp k ts k' hk hacc hF
    rcases Crosses.either hn hacc with hxacc | ⟨-, hyacc⟩
    · exact hx.quiet hsp hk hxacc hF
    · exact hy.quiet hsp hk hyacc hF
  · intro k₁ k₂ ts k₁' hk hacc hF
    rcases Crosses.either hn hacc with hxacc | ⟨hxrej, hyacc⟩
    · obtain ⟨us, k₂', hacc', hrest⟩ := hx.carry hk hxacc hF
      exact ⟨us, k₂', accepts_either_left hacc', hrest⟩
    · obtain ⟨us, k₂', hacc', hrest⟩ := hy.carry hk hyacc hF
      exact ⟨us, k₂', accepts_either_right (hway hk.left hyacc hF hxrej k₂ hk) hacc', hrest⟩

theorem either (hx : Carries s n G sp e x F) (hy : Carries s n G sp e y F)
    (hway : GivesWay s n G sp x y) : Carries s n G sp e (.either x y) F :=
  either_of hn hx hy fun _ _ _ hk hacc _ hrej => hway hk hacc hrej

theorem choice {xs : List Pattern} (hxs : ∀ x ∈ xs, Carries s n G sp e x F)
    (hway : xs.Pairwise (GivesWay s n G sp)) : Carries s n G sp e (.choice xs) F := by
  induction xs with
  | nil =>
    have hnone : ∀ {k k' : Cursor} {ts : List Token},
        ¬ (Pattern.choice []).Crosses s n G sp k ts k' := by
      intro k ts k' hacc
      obtain ⟨x, hx, -⟩ := Crosses.choice hn hacc
      cases hx
    exact ⟨fun _ _ _ _ _ hacc => absurd hacc hnone, fun _ _ _ _ _ hacc => absurd hacc hnone⟩
  | cons x xs ih =>
    cases xs with
    | nil => exact hxs x List.mem_cons_self
    | cons y ys =>
      rw [List.pairwise_cons] at hway
      refine either hn (hxs x List.mem_cons_self)
        (ih (fun z hz => hxs z (List.mem_cons_of_mem x hz)) hway.2) fun k ts k' hk hacc hrej => ?_
      obtain ⟨z, hz, hzacc⟩ := Crosses.choice hn hacc
      exact hway.1 z hz hk hzacc hrej

theorem maybe (hx : Carries s n G sp e x F)
    (hquiet : sp = .free → ∀ k, k.skip sp = k → F k → s.Quiet k)
    (hstop : ∀ k, k.skip sp = k → F k → x.Rejects n ⟨sp, false⟩ k → x.Barred s n sp k) :
    Carries s n G sp e (.maybe x) F := by
  constructor
  · intro hsp k ts k' hk hacc hF
    rcases Crosses.maybe hn hacc with hxacc | ⟨-, -, rfl⟩
    · exact hx.quiet hsp hk hxacc hF
    · exact hquiet hsp _ hk hF
  · intro k₁ k₂ ts k₁' hk hacc hF
    rcases Crosses.maybe hn hacc with hxacc | ⟨hxrej, rfl, rfl⟩
    · obtain ⟨us, k₂', hacc', hrest⟩ := hx.carry hk hxacc hF
      exact ⟨us, k₂', accepts_maybe hacc', hrest⟩
    · exact ⟨[], k₂, accepts_maybe_nil (hstop _ hk.left hF hxrej k₂ hk), hk.meets, .nil⟩

omit hn in
/-- What follows a part of a repetition: another part, or what follows the repetition. -/
theorem behind_of_repeated
    (hx : Carries s n G sp e x (s.Behind sp fun k => Before s n G sp x Anywhere k ∨ F k))
    {k k' : Cursor} {ts : List Token} (h : Repeated s n G sp x k ts k') (hF : s.Behind sp F k') :
    s.Behind sp (fun k => Before s n G sp x Anywhere k ∨ F k) k := by
  induction h with
  | done => exact ⟨hF.1, .inr hF.2⟩
  | next hclear hacc _ ih =>
    exact ⟨hclear, .inl ⟨fun hsp => hx.quiet hsp (Cursor.skip_idem sp _) hacc (ih hF),
      _, _, hacc, trivial⟩⟩

omit hn in
/-- Parts of a repetition, whatever parts follow in the second text. -/
theorem repeats_append (hp : n.Proceeds) (hnull : x.nullable = false)
    (hx : Carries s n G sp e x (s.Behind sp fun k => Before s n G sp x Anywhere k ∨ F k))
    (hquiet : sp = .free → ∀ k, k.skip sp = k → F k → s.Quiet k)
    {k₁ k₂ k₁' : Cursor} {ts : List Token} (hk : k₁.Meets s sp k₂)
    (h : Repeated s n G sp x k₁ ts k₁') (hF : s.Behind sp F k₁') :
    ∃ us k₂', k₁'.Meets s sp k₂' ∧ Alike s.across e ts us ∧
      ∀ vs k, Repeats n x ⟨sp, false⟩ k₂' vs k → Repeats n x ⟨sp, false⟩ k₂ (vs ++ us) k := by
  induction h generalizing k₂ with
  | done hrej => exact ⟨[], k₂, hk, .nil, fun vs k hrep => (List.append_nil vs).symm ▸ hrep⟩
  | next hclear hacc hrest ih =>
    have hnext := behind_of_repeated hx hrest hF
    have hnow := behind_of_repeated hx (.next hclear hacc hrest) hF
    have hbegins := hk.skip hnow.1 fun hsp =>
      hnow.2.elim (fun hbefore => hbefore.quiet hsp) (hquiet hsp _ (Cursor.skip_idem sp _))
    obtain ⟨us, k₂', hacc', hmeets, halike⟩ := hx.carry hbegins hacc hnext
    obtain ⟨vs, k₂'', hmeets', halike', happend⟩ := ih hmeets hF
    have hlt : k₂'.rest.length < k₂.rest.length :=
      Nat.lt_of_lt_of_le (hacc'.length_lt hp hnull) (k₂.skip_suffix sp).length_le
    refine ⟨vs ++ us, k₂'', hmeets', halike.append halike', fun ws k hrep => ?_⟩
    rw [← List.append_assoc]
    exact .next hacc' hlt (happend ws k hrep)

omit hn in
theorem repeats (hp : n.Proceeds) (hnull : x.nullable = false)
    (hx : Carries s n G sp e x (s.Behind sp fun k => Before s n G sp x Anywhere k ∨ F k))
    (hquiet : sp = .free → ∀ k, k.skip sp = k → F k → s.Quiet k)
    (hstop : ∀ k, k.skip sp = k → F k → x.Rejects n ⟨sp, false⟩ k → x.Barred s n sp k)
    {k₁ k₂ k₁' : Cursor} {ts : List Token} (hk : k₁.Meets s sp k₂)
    (h : Repeated s n G sp x k₁ ts k₁') (hF : s.Behind sp F k₁') :
    ∃ us k₂', Repeats n x ⟨sp, false⟩ k₂ us k₂' ∧ k₁'.Meets s sp k₂' ∧ Alike s.across e ts us := by
  obtain ⟨us, k₂', hmeets, halike, happend⟩ := repeats_append hp hnull hx hquiet hk h hF
  have hrej := hstop _ (Cursor.skip_idem sp k₁') hF.2 h.rejects
  have hbegins := hmeets.skip hF.1 fun hsp => hquiet hsp _ (Cursor.skip_idem sp k₁') hF.2
  exact ⟨us, k₂', happend [] k₂' (.done (hrej _ hbegins)), hmeets, halike⟩

theorem many (hnull : x.nullable = false)
    (hx : Carries s n G sp e x (s.Behind sp fun k => Before s n G sp x Anywhere k ∨ F k))
    (hquiet : sp = .free → ∀ k, k.skip sp = k → F k → s.Quiet k)
    (hstop : ∀ k, k.skip sp = k → F k → x.Rejects n ⟨sp, false⟩ k → x.Barred s n sp k) :
    Carries s n G sp e (.many x) (s.Behind sp F) := by
  constructor
  · intro hsp k ts k' hk hacc hF
    have hnext := (behind_of_repeated hx (Crosses.many hn hnull hk hacc) hF).2
    rw [hk] at hnext
    exact hnext.elim (fun h => h.quiet hsp) (hquiet hsp k hk)
  · intro k₁ k₂ ts k₁' hk hacc hF
    obtain ⟨us, k₂', hrep, hrest⟩ := repeats hn.proceeds hnull hx hquiet hstop hk.meets
      (Crosses.many hn hnull hk.left hacc) hF
    exact ⟨us, k₂', accepts_many hrep hk.right, hrest⟩

omit hn in
/-- A word, whichever it is. -/
theorem text {w : List Char} (hw : w ≠ [])
    (hquiet : sp = .free → ∀ ⦃k ts k'⦄, k.skip sp = k → (Pattern.text w).Crosses s n G sp k ts k' →
      F k' → s.Quiet k) : Carries s n G sp e (.text w) F := by
  refine ⟨hquiet, fun k₁ k₂ ts k₁' hk hacc _ => ?_⟩
  have hacross := Crosses.across_text hacc
  obtain ⟨⟨l, hl⟩, rfl, rfl⟩ := accepts_text_iff.mp hacc.accepts
  have hne : k₁.rest ≠ [] := by
    rw [← hl]
    exact List.append_ne_nil_of_left_ne_nil hw l
  have hrest := hk.meets.rest_eq (.inl hne)
  rw [hacross] at hrest
  refine ⟨[], _, accepts_text hrest, .inl ?_, .nil⟩
  rw [Cursor.rest_advance, hrest, List.drop_left]

/-- A character, whichever it is, where nothing is skipped. -/
theorem one (hsp : sp ≠ .free) (f : Char → Bool) : Carries s n G sp e (.one f) F := by
  refine ⟨fun hfree => absurd hfree hsp, fun k₁ k₂ ts k₁' hk hacc _ => ?_⟩
  have hlt := hacc.accepts.length_lt hn.proceeds rfl
  have hleft := Joint.ne_left_of_ahead (Crosses.ahead hacc rfl) hlt
  obtain ⟨⟨c, l, hl, hc⟩, rfl, rfl⟩ := accepts_one_iff.mp hacc.accepts
  have hrest₂ : k₂.rest = c :: s.across l := by
    rw [hk.meets.rest_eq (.inr hsp), hl, Joint.across_cons (hl ▸ hleft)]
  refine ⟨[], _, accepts_one hrest₂ hc, .inl ?_, .nil⟩
  rw [Cursor.rest_advance, Cursor.rest_advance, hrest₂, hl]
  rfl

/-- What reads something, and stays on one side of the joint. -/
theorem of_inline (hx : x.inline sp = true) (hnull : sp = .free → x.nullable = false)
    (hquiet : sp = .free → ∀ ⦃k ts k'⦄, k.skip sp = k → x.Crosses s n G sp k ts k' → F k' →
      s.Quiet k) : Carries s n G sp e x F := by
  refine ⟨hquiet, fun k₁ k₂ ts k₁' hk hacc _ => ?_⟩
  have hrest := hk.meets.rest_eq (or_iff_not_imp_right.mpr fun hsp =>
    rest_ne_nil_of_accepts hn.proceeds hacc.accepts (hnull (not_not.mp hsp)))
  obtain ⟨us, k₂', hacc', hrest', hus⟩ := follows_of_inline hn hx hrest hacc.accepts
  exact ⟨us, k₂', hacc', .inl hrest', hus.of_exact⟩

/-- Looking ahead for something that stays on one side of the joint, where something is ahead. -/
theorem unless_of_inline (hx : x.inline sp = true) (hF : ∀ k, k.skip sp = k → F k → k.rest ≠ [])
    (hquiet : sp = .free → ∀ k, k.skip sp = k → F k → s.Quiet k) :
    Carries s n G sp e (.unless x) F := by
  constructor
  · intro hsp k ts k' hk hacc hFk
    obtain ⟨-, -, rfl⟩ := (accepts_unless_iff hn.settled).mp hacc.accepts
    exact hquiet hsp _ hk hFk
  · intro k₁ k₂ ts k₁' hk hacc hFk
    obtain ⟨hrej, rfl, rfl⟩ := (accepts_unless_iff hn.settled).mp hacc.accepts
    have hrest := hk.meets.rest_eq (.inl (hF _ hk.left hFk))
    have hinline : x.inline (Mode.spacing ⟨sp, true⟩) = true := hx
    exact ⟨[], k₂, accepts_unless (rejects_of_inline hn hinline hrest hrej), hk.meets, .nil⟩

/-- A rule of which only the tokens inside matter. -/
theorem rule {r : Rule} (hr : r.isWord = false) (hnull : x.nullable = false)
    (hx : Carries s n G .free e x F) : Carries s n G .free false (.rule r .plain x) F := by
  constructor
  · intro hsp k ts k' hk hacc hF
    obtain ⟨us, hbody, rfl⟩ := Crosses.rule hn rfl hacc
    exact hx.quiet hsp hk hbody hF
  · intro k₁ k₂ ts k₁' hk hacc hF
    obtain ⟨us, hbody, rfl⟩ := Crosses.rule hn rfl hacc
    have hrest := hk.meets.rest_eq
      (.inl (rest_ne_nil_of_accepts hn.proceeds hbody.accepts hnull))
    obtain ⟨us', k₂', hacc', hmeets, hus⟩ := hx.carry hk hbody hF
    exact ⟨_, k₂', accepts_rule_of_body hacc', hmeets, .around hr hrest hus⟩

/-- A rule that is read without skipping, on one side of the joint, and whose characters matter. -/
theorem lexeme {r : Rule} {kind : RuleKind} (hkind : kind.body sp ≠ .free)
    (hvis : Mode.visible ⟨kind.outer sp, false⟩ = true) (hnull : sp = .free → x.nullable = false)
    (hgaps : x.gapless (kind.body sp) = true)
    (hquiet : sp = .free → ∀ ⦃k ts k'⦄, k.skip sp = k →
      (Pattern.rule r kind x).Crosses s n G sp k ts k' → F k' → s.Quiet k)
    (hx : Carries s n G (kind.body sp) true x F) : Carries s n G sp e (.rule r kind x) F := by
  refine ⟨hquiet, fun k₁ k₂ ts k₁' hk hacc hF => ?_⟩
  obtain ⟨us, hbody, rfl⟩ := Crosses.rule hn hvis hacc
  have hrest := hk.meets.rest_eq (or_iff_not_imp_right.mpr fun hsp =>
    rest_ne_nil_of_accepts hn.proceeds hbody.accepts (hnull (not_not.mp hsp)))
  obtain ⟨us', k₂', hacc', hmeets, hus⟩ := hx.carry (.of_rest_eq hkind hrest) hbody hF
  have hrest' := hmeets.rest_eq (.inr hkind)
  refine ⟨_, k₂', accepts_rule_of_body hacc', .inl hrest', ?_⟩
  rw [if_pos hvis]
  exact .token hrest ((hbody.accepts.reaches hn.proceeds).chars_eq (hacc'.reaches hn.proceeds)
    hrest hrest' (hbody.ahead (gaps_of_gapless hgaps k₁)) r _ _) hus

/-- A rule that is read without skipping, and of which only the tokens inside matter. -/
theorem compact {r : Rule} {kind : RuleKind} (hr : r.isWord = false) (hkind : kind.body .free ≠ .free)
    (hvis : Mode.visible ⟨kind.outer .free, false⟩ = true) (hnull : x.nullable = false)
    (hslash : x.eats (some '/') = false) (hx : Carries s n G (kind.body .free) e x F) :
    Carries s n G .free false (.rule r kind x) F := by
  constructor
  · intro _ k ts k' hk hacc _
    obtain ⟨us, hbody, -⟩ := Crosses.rule hn hvis hacc
    exact quiet_of_accepts hn.proceeds hk hbody.accepts hnull hslash
  · intro k₁ k₂ ts k₁' hk hacc hF
    obtain ⟨us, hbody, rfl⟩ := Crosses.rule hn hvis hacc
    have hrest := hk.meets.rest_eq
      (.inl (rest_ne_nil_of_accepts hn.proceeds hbody.accepts hnull))
    obtain ⟨us', k₂', hacc', hmeets, hus⟩ := hx.carry (.of_rest_eq hkind hrest) hbody hF
    refine ⟨_, k₂', accepts_rule_of_body hacc', .inl (hmeets.rest_eq (.inr hkind)), ?_⟩
    rw [if_pos hvis]
    exact .around hr hrest hus

end Regular

end Carries

/-! ## Alternatives -/

namespace GivesWay

variable (hn : n.Regular G)
include hn

theorem of_apart (h : z.apart .free x = true) (hnull : x.nullable = false) :
    GivesWay s n G .free z x := by
  intro k ts k' hk hacc hrej
  obtain ⟨c, l, hl, heats⟩ := exists_head_of_accepts hn.proceeds (blankLength_eq_zero_of_skip hk)
    hacc.accepts hnull
  rw [apart, Bool.or_eq_true, Bool.and_eq_true] at h
  rcases h with hinline | ⟨hheaded, hheads⟩
  · exact .of_inline hn hinline (by rw [hl]; exact List.cons_ne_nil c l) hrej
  · refine .of_headed hheaded (Joint.heads_of_skip hk (by rw [hl]; rfl)) fun hmem => ?_
    have hc := List.all_eq_true.mp hheads c hmem
    rw [heats] at hc
    cases hc

theorem pairwise {xs : List Pattern} (h : xs.Pairwise fun z x => z.apart .free x = true)
    (hnull : ∀ x ∈ xs, x.nullable = false) : xs.Pairwise (GivesWay s n G .free) :=
  h.imp_of_mem fun _ hx hapart => of_apart hn hapart (hnull _ hx)

/-- Behind the same word the rest decides. -/
theorem text_seq {r r' : Rule} {w : List Char} (hw : w ≠ []) (hnull : x.nullable = false)
    (hslash : x.eats (some '/') = false) (h : GivesWay s n G .free z x) :
    GivesWay s n G .free (.rule r .plain (.seq (.text w) z))
      (.rule r' .plain (.seq (.text w) x)) := by
  intro k ts k' hk hacc hrej
  obtain ⟨us, hbody, -⟩ := Crosses.rule hn rfl hacc
  obtain ⟨vs, ws, k₁, hword, hclear, hxacc, -⟩ := Crosses.seq hn hbody
  have hside := Crosses.ahead hword rfl
  obtain ⟨hpre, -, rfl⟩ := accepts_text_iff.mp hword.accepts
  have hzrej : z.Rejects n .open ((k.advance w.length).skip .free) := by
    rcases (rejects_seq_iff hn.settled).mp ((rejects_rule_iff hn.settled).mp hrej) with
      hnone | ⟨_, _, hsome, hz⟩
    · exact absurd hnone hword.accepts.not_rejects
    · obtain ⟨-, rfl⟩ := hsome.unique hword.accepts
      exact hz
  have hfresh := Cursor.skip_idem .free (k.advance w.length)
  exact .rule (.text_seq hw hpre hside hclear
    (fun _ => quiet_of_accepts hn.proceeds hfresh hxacc.accepts hnull hslash) (h hfresh hxacc hzrej))

end GivesWay

end ExprLang
