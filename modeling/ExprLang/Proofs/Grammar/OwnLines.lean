import ExprLang.Proofs.Grammar.Carries
import ExprLang.Proofs.Tree.Spelling

/-!
# ExprLang.Proofs.Grammar.OwnLines

An expression is read alike in two texts that have a joint: wherever it stands on lines of its own,
and with other blanks between its tokens.  The lemmas follow the definitions of `Language` from the
bottom up and say of each rule that it is carried over to the second text; an induction on the depth
of the recursion closes them (`matched_readExpression`).
-/

namespace ExprLang

open ExprLang.Language Pattern
open Token (Alike)

/-! ## The readers of expressions -/

/-- Where an expression ends. -/
def AtEnd (k : Cursor) : Prop := k.rest.head? ∈ endings

variable {s : Joint} {n : Reader} {G : GapReader} {sp : Spacing} {e : Bool} {x y p : Pattern}
  {F : Cursor → Prop} {k k' : Cursor} {ts : List Token}

/-- No expression begins where one ends. -/
theorem barred_recurse (d : Nat) (hk : AtEnd k) :
    Pattern.recurse.Barred s (readExpression d) .free k := by
  cases d with
  | zero => exact fun _ _ a _ => ⟨a, rfl⟩
  | succ d =>
    intro k₂ hk₂
    unfold Pattern.Rejects
    rw [read_recurse, readExpression_succ]
    exact Barred.of_ends hk (by decide) k₂ hk₂

theorem AtEnd.quiet (hk : AtEnd k) : s.Quiet k := by
  refine .of_head? fun hslash => ?_
  rw [AtEnd, hslash] at hk
  exact absurd hk (by decide)

theorem AtEnd.of_heads {c : Char} (hk : s.Heads c k) (hc : some c ∈ endings) : AtEnd k := by
  rw [AtEnd, hk.1]
  exact hc

/-- A reader of expressions in both texts. -/
structure Matched (s : Joint) (n : Reader) (G : GapReader) : Prop where
  regular : n.Regular G
  carries : Carries s n G .free false .recurse (s.Behind .free AtEnd)
  barred : ∀ k, AtEnd k → Pattern.recurse.Barred s n .free k

/-! ## What is ahead of a word -/

theorem head?_of_accepts_word {w : String} {c : Char} (hw : w.toList.head? = some c) {m : Mode}
    (h : (word w).Accepts n m k ts k') : k.rest.head? = some c := by
  obtain ⟨⟨l, hl⟩, -⟩ := accepts_text_iff.mp h
  obtain ⟨v, hv⟩ := List.head?_eq_some_iff.mp hw
  rw [← hl, hv]
  rfl

theorem rest_ne_nil_of_head? {c : Char} (h : k.rest.head? = some c) : k.rest ≠ [] := by
  intro hnil
  rw [hnil] at h
  cases h

/-- Whether the pattern reads something and stays on one side of the joint, without beginning with a
slash. -/
def Pattern.isAtomic (x : Pattern) : Bool :=
  x.inline .free && (!x.nullable && !x.eats (some '/'))

/-- A character of the text of a template, or an escape. -/
def templateChar : Pattern :=
  .either (.seq (.unless (choice [word "\x60", word "$\x7b", word "\\"])) anyChar) escaped

/-- A character of a regular expression, or an escape. -/
def regexpChar : Pattern :=
  .either (noneOf ['/', '\\', '\n', '\r']) (.seq (word "\\") (noneOf ['\n', '\r']))

/-- What follows a part of a template: another part, or the end. -/
abbrev BehindPart (s : Joint) (n : Reader) (G : GapReader) (k : Cursor) : Prop :=
  Before s n G .tight (.either templateText templateHole) Anywhere k ∨
    Before s n G .tight (word "\x60") Anywhere k

/-- A question mark begins a step only with a point right behind it. -/
theorem rejects_steps_of_mark {m : Mode} {l : List Char} (hk : k.rest = '?' :: l)
    (hpoint : l.head? ≠ some '.') : steps.Rejects n m k := by
  have hsign : (word "?.").Rejects n m k := by
    refine rejects_text_iff.mpr fun hpre => ?_
    rw [hk] at hpre
    obtain ⟨-, v, hv⟩ := List.cons_prefix_cons.mp hpre
    exact hpoint (by rw [← hv]; rfl)
  refine rejects_choice fun z hz => ?_
  simp only [List.mem_cons, List.not_mem_nil, or_false] at hz
  rcases hz with rfl | rfl | rfl | rfl | rfl | rfl
  · exact rejects_rule (rejects_seq hsign)
  · exact rejects_rule (rejects_seq hsign)
  · exact rejects_rule (rejects_seq hsign)
  · exact rejects_of_headed rfl hk (by decide)
  · exact rejects_of_headed rfl hk (by decide)
  · exact rejects_of_headed rfl hk (by decide)

namespace Matched

variable (h : Matched s n G)
include h

/-- Where nothing is skipped. -/
theorem inline (hsp : sp ≠ .free) (hx : x.inline sp = true) : Carries s n G sp e x F :=
  .of_inline h.regular hx (fun hfree => absurd hfree hsp) fun hfree => absurd hfree hsp

theorem atomic (hx : x.isAtomic = true) : Carries s n G .free e x F := by
  simp only [isAtomic, Bool.and_eq_true, Bool.not_eq_true'] at hx
  obtain ⟨hinline, hnull, hslash⟩ := hx
  refine .of_inline h.regular hinline (fun _ => hnull) ?_
  intro _ k ts k' hk hacc _
  exact quiet_of_accepts h.regular.proceeds hk hacc.accepts hnull hslash

theorem rule {r : Rule} (hr : r.isWord = false) (hnull : x.nullable = false)
    (hx : Carries s n G .free e x F) : Carries s n G .free false (.rule r .plain x) F :=
  .rule h.regular hr hnull hx

theorem pairwise {xs : List Pattern} (hxs : xs.Pairwise fun z x => z.apart .free x = true)
    (hnull : ∀ x ∈ xs, x.nullable = false) : xs.Pairwise (GivesWay s n G .free) :=
  GivesWay.pairwise h.regular hxs hnull

/-- A repetition where nothing is skipped. -/
theorem many_of_ne_free (hsp : sp ≠ .free) (hnull : x.nullable = false)
    (hx : Carries s n G sp e x fun k => Before s n G sp x Anywhere k ∨ F k)
    (hstop : ∀ k, F k → x.Rejects n ⟨sp, false⟩ k → x.Barred s n sp k) :
    Carries s n G sp e (.many x) F :=
  (Carries.many h.regular hnull (hx.mono fun _ hk => (Joint.behind_of_ne_free hsp).mp hk)
    (fun hfree => absurd hfree hsp) fun k _ => hstop k).mono
      fun _ hk => (Joint.behind_of_ne_free hsp).mpr hk

/-! ## Texts, regular expressions and templates -/

theorem escaped : Carries s n G .sealed e escaped F :=
  .seq h.regular (h.inline (by decide) rfl) (.one h.regular (by decide) _)

/-- What stands between two quotes, up to the second one. -/
theorem quotedBody {r : Rule} {q : Char} (hq : q ≠ '\\') :
    Carries s n G .tight e (quotedBody r q) (s.Heads q) := by
  have hway : GivesWay s n G .sealed (noneOf [q, '\\']) Language.escaped := by
    intro k ts k' _ hacc hrej
    exact .one (Crosses.heads_of_text_seq h.regular (c := '\\') rfl hacc) hrej
  refine .lexeme h.regular (by decide) rfl nofun rfl nofun
    (h.many_of_ne_free (by decide) rfl
      (.either h.regular (.one h.regular (by decide) _) h.escaped hway) ?_)
  intro k hk hrej
  refine .either (.one hk ((rejects_either_iff h.regular.settled).mp hrej).1) ?_
  exact .of_headed rfl hk (by simpa [heads, Language.escaped, word] using hq)

/-- A text between two quotes. -/
theorem quoted {r : Rule} {w : String} {q : Char} (hw : w.toList = [q]) (hq : q ≠ '\\') :
    Carries s n G .tight e (all [word w, Language.quotedBody r q, word w]) F := by
  have hquote : ∀ F, Carries s n G .tight e (word w) F := fun _ =>
    .text (by simp [hw]) nofun
  refine .seq h.regular (hquote _) (.seq h.regular ((h.quotedBody hq).mono ?_) (hquote _))
  intro k hk
  obtain ⟨-, ts, k', hacc, -⟩ := (Joint.behind_of_ne_free (by decide)).mp hk
  exact Crosses.heads_of_text h.regular (by rw [hw]; rfl) hacc

theorem string : Carries s n G .free e string F := by
  have hway : GivesWay s n G .tight
      (all [word "\"", Language.quotedBody .doubleQuoted '"', word "\""])
      (all [word "\x27", Language.quotedBody .singleQuoted '\x27', word "\x27"]) := by
    intro k ts k' _ hacc _
    exact .of_headed rfl (Crosses.heads_of_text_seq h.regular (c := '\x27') rfl hacc) (by decide)
  refine .lexeme h.regular (by decide) rfl (fun _ => rfl) rfl ?_ (.either h.regular
    (h.quoted rfl (by decide)) (h.quoted rfl (by decide)) hway)
  exact fun _ k ts k' hk hacc _ => quiet_of_accepts h.regular.proceeds hk hacc.accepts rfl rfl

theorem regexpChar : Carries s n G .sealed e regexpChar F := by
  have hway : GivesWay s n G .sealed (noneOf ['/', '\\', '\n', '\r'])
      (.seq (word "\\") (noneOf ['\n', '\r'])) := by
    intro k ts k' _ hacc hrej
    exact .one (Crosses.heads_of_text_seq h.regular (c := '\\') rfl hacc) hrej
  exact .either h.regular (.one h.regular (by decide) _)
    (.seq h.regular (h.inline (by decide) rfl) (.one h.regular (by decide) _)) hway

/-- What stands between the slashes of a regular expression. -/
theorem regexpBody :
    Carries s n G .tight e (.rule .regexpBody .lexeme (oneOrMore ExprLang.regexpChar)) (s.Heads '/') := by
  refine .lexeme h.regular (by decide) rfl nofun rfl nofun (.seq h.regular h.regexpChar
    (h.many_of_ne_free (by decide) rfl h.regexpChar ?_))
  intro k hk hrej
  exact .either (.one hk ((rejects_either_iff h.regular.settled).mp hrej).1)
    (.of_headed rfl hk (by decide))

/-- A regular expression that begins with an asterisk begins like a comment. -/
theorem quiet_of_crosses_regexp (hacc : regexp.Crosses s n G .free k ts k') : s.Quiet k := by
  have hadmits := hacc.admits
  obtain ⟨_, hall, rfl⟩ := Crosses.rule h.regular rfl hacc
  obtain ⟨_, _, _, hslash, hrest, rfl⟩ := (accepts_seq_iff h.regular.settled).mp hall.accepts
  obtain ⟨_, flags, _, hbody, -, rfl⟩ := (accepts_seq_iff h.regular.settled).mp hrest
  obtain ⟨-, rfl, rfl⟩ := accepts_text_iff.mp hslash
  obtain ⟨i, hi, rfl, hpos⟩ := hbody.reaches h.regular.proceeds
  obtain ⟨inner, -, rfl⟩ := (accepts_rule_iff h.regular.settled).mp hbody
  have hadmits : s.Admits [.mk .regexp k (k'.offset - k.offset) (.mk .regexpBody (k.advance 1)
      (((k.advance 1).advance i).offset - (k.advance 1).offset) inner.reverse :: flags.reverse)] := by
    simpa [Mode.visible, RuleKind.outer, RuleKind.body, Cursor.skip, word] using hadmits
  refine hadmits.head?_ne.imp_right fun hne => ?_
  rintro ⟨l, hl⟩
  refine hne ?_
  have hahead : (k.advance 1).rest = '*' :: l := by
    rw [Cursor.rest_advance, ← hl]
    rfl
  obtain ⟨j, rfl⟩ : ∃ j, i = j + 1 := ⟨i - 1, by have := hpos rfl; omega⟩
  have hj : (k.advance 1).rest = '*' :: l.take j ++ l.drop j := by
    rw [hahead, List.cons_append, List.take_append_drop]
  have hlength : ('*' :: l.take j).length = j + 1 := by
    have hle : j + 1 ≤ (k.advance 1).rest.length := hi
    rw [hahead, List.length_cons] at hle
    rw [List.length_cons, List.length_take]
    omega
  have hchars := Token.chars_mk_advance hj .regexpBody inner.reverse
  rw [hlength] at hchars
  rw [hchars, List.head?_cons]

theorem regexp : Carries s n G .free e regexp F := by
  have hslash : ∀ F, Carries s n G .tight true (word "/") F := fun _ => .text (by decide) nofun
  refine .lexeme h.regular (by decide) rfl (fun _ => rfl) rfl
    (fun _ _ _ _ _ hacc _ => h.quiet_of_crosses_regexp hacc)
    (.seq h.regular (hslash _) (.seq h.regular (h.regexpBody.mono ?_)
      (.seq h.regular (hslash _) (h.inline (by decide) rfl))))
  intro k hk
  obtain ⟨-, ts, k', hacc, -⟩ := (Joint.behind_of_ne_free (by decide)).mp hk
  exact Crosses.heads_of_text_seq h.regular (c := '/') rfl hacc

/-- A character of a template is rejected in the second text too, unless it is a backslash: that
could escape the joint. -/
theorem barred_templateChar (hrej : templateChar.Rejects n ⟨.sealed, false⟩ k) {c : Char}
    (hc : s.Heads c k) (hne : c ≠ '\\') : templateChar.Barred s n .sealed k := by
  obtain ⟨l, hl⟩ := List.head?_eq_some_iff.mp hc.1
  refine .either ?_ (.of_headed rfl hc (by simpa [heads, Language.escaped, word] using hne))
  rcases (rejects_seq_iff h.regular.settled).mp
    ((rejects_either_iff h.regular.settled).mp hrej).1 with hahead | ⟨_, k₁, hahead, hany⟩
  · exact .seq (.of_inline h.regular rfl (rest_ne_nil_of_head? hc.1) hahead)
  · obtain ⟨-, -, rfl⟩ := (accepts_unless_iff h.regular.settled).mp hahead
    cases rejects_one_iff.mp hany c l hl

theorem barred_templateText (hrej : templateText.Rejects n ⟨.tight, false⟩ k) {c : Char}
    (hc : s.Heads c k) (hne : c ≠ '\\') : templateText.Barred s n .tight k := by
  intro k₂ hk₂
  rcases (rejects_seq_iff h.regular.settled).mp
    ((rejects_rule_iff h.regular.settled).mp hrej) with hchar | ⟨_, k₁, -, hmany⟩
  · have hrest := hk₂.meets.rest_eq (.inr (by decide))
    exact rejects_rule (rejects_seq
      (h.barred_templateChar hchar hc hne k₂ (.of_rest_eq (by decide) hrest)))
  · obtain ⟨us, k', hrep⟩ := exists_repeats (x := templateChar) h.regular.settled
      h.regular.proceeds rfl ⟨.sealed, false⟩ k₁
    exact absurd hmany (Reader.Accepts.not_rejects (accepts_many hrep rfl))

theorem templateChar : Carries s n G .sealed e templateChar F := by
  have hway : GivesWay s n G .sealed
      (.seq (.unless (Pattern.choice [word "\x60", word "$\x7b", word "\\"])) anyChar)
      Language.escaped := by
    intro k ts k' _ hacc hrej
    have hne := rest_ne_nil_of_accepts h.regular.proceeds hacc.accepts rfl
    rcases (rejects_seq_iff h.regular.settled).mp hrej with hahead | ⟨_, k₁, hahead, hany⟩
    · exact .seq (.of_inline h.regular rfl hne hahead)
    · obtain ⟨-, -, rfl⟩ := (accepts_unless_iff h.regular.settled).mp hahead
      obtain ⟨c, l, hl⟩ := List.exists_cons_of_ne_nil hne
      cases rejects_one_iff.mp hany c l hl
  refine .either h.regular (.seq h.regular ?_ (.one h.regular (by decide) _)) h.escaped hway
  refine .unless_of_inline h.regular rfl ?_ nofun
  rintro k hk hnext
  obtain ⟨-, _, _, hacc, -⟩ := (Joint.behind_of_skip hk).mp hnext
  exact rest_ne_nil_of_accepts h.regular.proceeds hacc.accepts rfl

theorem heads_of_crosses_templateHole (hacc : templateHole.Crosses s n G .tight k ts k') :
    s.Heads '$' k := by
  obtain ⟨_, hbody, -⟩ := Crosses.rule h.regular rfl hacc
  exact Crosses.heads_of_text_seq h.regular (by decide) hbody

theorem templateText : Carries s n G .tight e templateText (BehindPart s n G) := by
  refine .lexeme h.regular (by decide) rfl nofun rfl nofun (.seq h.regular h.templateChar
    (h.many_of_ne_free (by decide) rfl h.templateChar ?_))
  intro k hk hrej
  rcases hk with ⟨-, _, _, hacc, -⟩ | ⟨-, _, _, hacc, -⟩
  · rcases Crosses.either h.regular hacc with htext | ⟨-, hhole⟩
    · obtain ⟨_, hbody, -⟩ := (accepts_rule_iff h.regular.settled).mp htext.accepts
      obtain ⟨_, _, _, hchar, -⟩ := (accepts_seq_iff h.regular.settled).mp hbody
      exact absurd hrej hchar.not_rejects
    · exact h.barred_templateChar hrej (h.heads_of_crosses_templateHole hhole) (by decide)
  · exact h.barred_templateChar hrej (Crosses.heads_of_text h.regular rfl hacc) (by decide)

/-- Something between two words, the second of which tells where it ends. -/
theorem enclosed {v w : String} {c : Char} (hv : (word v).isAtomic = true)
    (hw : (word w).isAtomic = true) (hc : w.toList.head? = some c)
    (hx : Carries s n G .free e x (s.Behind .free (s.Heads c))) :
    Carries s n G .free e (all [word v, x, word w]) F := by
  refine .seq h.regular (h.atomic hv) (.seq h.regular (hx.mono fun k hk => hk.mono ?_) (h.atomic hw))
  rintro k - ⟨-, ts, k', hacc, -⟩
  exact Crosses.heads_of_text h.regular hc hacc

/-- An expression between two words. -/
theorem bracketed {v w : String} {c : Char} (hv : (word v).isAtomic = true)
    (hw : (word w).isAtomic = true) (hc : w.toList.head? = some c) (hends : some c ∈ endings) :
    Carries s n G .free false (all [word v, .recurse, word w]) F :=
  h.enclosed hv hw hc (h.carries.mono fun _ hk => hk.mono fun _ _ hk => .of_heads hk hends)

/-- A hole begins with a sign, so that nothing is skipped before it. -/
theorem templateHole : Carries s n G .tight false templateHole (BehindPart s n G) := by
  refine ⟨nofun, fun k₁ k₂ ts k₁' hk hacc hnext => ?_⟩
  have hfresh : ∀ {k : Cursor}, k.rest.head? = some '$' → k.skip .free = k := by
    intro k hk
    obtain ⟨l, hl⟩ := List.head?_eq_some_iff.mp hk
    refine skip_eq_self ?_ .free
    rw [hl]
    exact blankRun_of_atStart_eq_none rfl 0 0
  have hne : k₁'.rest ≠ [] := by
    rcases hnext with ⟨-, _, _, hacc, -⟩ | ⟨-, _, _, hacc, -⟩
    · exact rest_ne_nil_of_accepts h.regular.proceeds hacc.accepts rfl
    · exact rest_ne_nil_of_accepts h.regular.proceeds hacc.accepts rfl
  have hk₁ := h.heads_of_crosses_templateHole hacc
  have hk₂ := hk.head?_eq hk₁
  have hrest := hk.meets.rest_eq (.inr (by decide))
  obtain ⟨us, hbody, rfl⟩ := Crosses.rule h.regular rfl hacc
  have hbracket : Carries s n G .free false (all [word "$\x7b", .recurse, word "\x7d"]) Anywhere :=
    h.bracketed (c := '\x7d') rfl rfl rfl (by decide)
  obtain ⟨us', k₂', hacc', hmeets, hus⟩ :=
    hbracket.carry ⟨.inl hrest, hfresh hk₁.1, hfresh hk₂⟩ hbody trivial
  exact ⟨_, k₂', accepts_rule_of_body hacc', .inl (hmeets.rest_eq (.inl hne)),
    .around rfl hrest hus⟩

theorem template : Carries s n G .free false template F := by
  have hway : GivesWay s n G .tight Language.templateText Language.templateHole :=
    fun k ts k' _ hacc hrej =>
      h.barred_templateText hrej (h.heads_of_crosses_templateHole hacc) (by decide)
  have hmark : ∀ F, Carries s n G .tight false (word "\x60") F := fun _ =>
    h.inline (by decide) rfl
  refine .compact h.regular rfl (by decide) rfl rfl rfl (.seq h.regular (hmark _)
    (.seq h.regular ((h.many_of_ne_free (F := Before s n G .tight (word "\x60") Anywhere)
      (by decide) rfl (.either h.regular h.templateText h.templateHole hway) ?_).mono ?_) (hmark _)))
  · rintro k ⟨-, _, _, hacc, -⟩ hrej
    have hc := Crosses.heads_of_text h.regular (c := '\x60') rfl hacc
    have htext := ((rejects_either_iff h.regular.settled).mp hrej).1
    exact .either (h.barred_templateText htext hc (by decide)) (.of_headed rfl hc (by decide))
  · intro k hk
    obtain ⟨hquiet, ts, k', hacc, -⟩ := (Joint.behind_of_ne_free (by decide)).mp hk
    exact ⟨hquiet, ts, k', hacc, trivial⟩

/-! ## Lists -/

section Separated

variable {w : String} {c : Char} {E : Cursor → Prop}

omit h in
theorem nullable_word_seq (hw : w.toList.head? = some c) :
    (Pattern.seq (word w) p).nullable = false := by
  obtain ⟨l, hl⟩ := List.head?_eq_some_iff.mp hw
  simp [nullable, word, hl]

variable (hw : w.toList.head? = some c) (hc : some c ∈ endings) (hE : ∀ k, E k → AtEnd k)
  (hk : k.skip .free = k)
include hw hc hE hk

/-- Where the last sign of a list may stand, an item has ended. -/
theorem atEnd_of_before_sign (hnext : Before s n G .free (.maybe (word w)) (s.Behind .free E) k) :
    AtEnd k := by
  obtain ⟨-, _, k', hacc, hk'⟩ := hnext
  rcases Crosses.maybe h.regular hacc with hsign | ⟨-, -, rfl⟩
  · exact .of_heads (Crosses.heads_of_text h.regular hw hsign) hc
  · exact hE _ ((Joint.behind_of_skip hk).mp hk')

/-- Behind an item of a list stands a sign or what closes the list. -/
theorem atEnd_of_before_items (hnext : Before s n G .free
    (.seq (.many (.seq (word w) p)) (.maybe (word w))) (s.Behind .free E) k) : AtEnd k := by
  obtain ⟨hquiet, _, k₂, hacc, hend⟩ := hnext
  obtain ⟨_, _, k₁, hmany, -, hmaybe, -⟩ := Crosses.seq h.regular hacc
  cases Crosses.many h.regular (nullable_word_seq hw) hk hmany with
  | done =>
    rw [hk] at hmaybe
    exact h.atEnd_of_before_sign hw hc hE hk ⟨hquiet, _, k₂, hmaybe, hend⟩
  | next _ hitem =>
    rw [hk] at hitem
    exact .of_heads (Crosses.heads_of_text_seq h.regular hw hitem) hc

end Separated

/-- Items with signs between them, and perhaps one after the last, up to where `E` holds. -/
theorem separated {w : String} {c : Char} (hw : w.toList = [c]) (hatomic : (word w).isAtomic = true)
    (hc : some c ∈ endings) {E : Cursor → Prop} (hE : ∀ k, E k → AtEnd k)
    (hword : ∀ k, E k → (word w).Rejects n .open k → (word w).Barred s n .free k)
    (hp : Carries s n G .free e p (s.Behind .free AtEnd))
    (hbarred : ∀ k, AtEnd k → p.Barred s n .free k) :
    Carries s n G .free e (all [p, .many (.seq (word w) p), .maybe (word w)]) (s.Behind .free E) := by
  have hhead : w.toList.head? = some c := by
    rw [hw]
    rfl
  refine .seq h.regular
    (hp.mono fun k hk => hk.mono fun k hk => h.atEnd_of_before_items hhead hc hE hk)
    (.seq h.regular (.many h.regular (nullable_word_seq hhead) (.seq h.regular (h.atomic hatomic)
      (hp.mono fun k hk => hk.mono fun k hk hpart => ?_)) (fun hsp k _ hmaybe => hmaybe.quiet hsp) ?_)
      (.maybe h.regular (h.atomic hatomic) ?_ ?_))
  · rcases hpart with ⟨-, _, _, hacc, -⟩ | hmaybe
    · exact .of_heads (Crosses.heads_of_text_seq h.regular hhead hacc) hc
    · exact h.atEnd_of_before_sign hhead hc hE hk hmaybe
  · rintro k hk ⟨-, _, k', hacc, hk'⟩ hrej
    rcases Crosses.maybe h.regular hacc with hsign | ⟨hsign, -, rfl⟩
    · -- the sign after the last item
      have hside := Crosses.ahead hsign rfl
      obtain ⟨hpre, -, rfl⟩ := accepts_text_iff.mp hsign.accepts
      have hend := hE _ hk'.2
      exact .text_seq (by simp [hw]) hpre hside hk'.1 (fun _ => hend.quiet) (hbarred _ hend)
    · exact .seq (hword _ ((Joint.behind_of_skip hk).mp hk') hsign)
  · intro _ k hk hk'
    exact (hE k ((Joint.behind_of_skip hk).mp hk')).quiet
  · intro k hk hk' hrej
    exact hword k ((Joint.behind_of_skip hk).mp hk') hrej

/-- Items with commas between them, up to what closes the list. -/
theorem commaList {c : Char} (hc : some c ∈ endings)
    (hp : Carries s n G .free e p (s.Behind .free AtEnd))
    (hbarred : ∀ k, AtEnd k → p.Barred s n .free k) :
    Carries s n G .free e (commaList p) (s.Behind .free (s.Heads c)) :=
  h.separated (c := ',') rfl rfl (by decide) (fun _ hk => .of_heads hk hc)
    (fun _ hk hrej => .of_inline h.regular rfl (rest_ne_nil_of_head? hk.1) hrej) hp hbarred

/-- A list with its brackets. -/
theorem list {v w : String} {c : Char} (hv : (word v).isAtomic = true)
    (hw : (word w).isAtomic = true) (hwc : w.toList.head? = some c) (hc : some c ∈ endings)
    (hp : Carries s n G .free e p (s.Behind .free AtEnd))
    (hbarred : ∀ k, AtEnd k → p.Barred s n .free k) :
    Carries s n G .free e (all [word v, .maybe (Language.commaList p), word w]) F := by
  have hend : ∀ k : Cursor, k.skip .free = k → s.Behind .free (s.Heads c) k → AtEnd k :=
    fun k hk hk' => .of_heads ((Joint.behind_of_skip hk).mp hk') hc
  refine h.enclosed hv hw hwc (.maybe h.regular (h.commaList hc hp hbarred)
    (fun _ k hk hk' => (hend k hk hk').quiet) ?_)
  intro k hk hk' _
  exact .seq (hbarred k (hend k hk hk'))

theorem objectItem : Carries s n G .free false objectItem (s.Behind .free AtEnd) := by
  have hkeys : ∀ z ∈ [Language.computedKey, Language.string, Language.number, Language.name],
      ∀ F, Carries s n G .free false z F := by
    intro z hz F
    simp only [List.mem_cons, List.not_mem_nil, or_false] at hz
    rcases hz with rfl | rfl | rfl | rfl
    · exact h.rule rfl rfl (h.bracketed (c := ']') rfl rfl rfl (by decide))
    · exact h.string
    · exact h.atomic rfl
    · exact h.atomic rfl
  exact h.rule rfl rfl (.seq h.regular (.choice h.regular (fun z hz => hkeys z hz _)
    (h.pairwise (by decide) (by decide)))
    (.seq h.regular (h.atomic rfl) h.carries))

omit h in
theorem barred_objectItem (hk : AtEnd k) : Language.objectItem.Barred s n .free k :=
  .of_ends hk (by decide)

/-! ## Operands, steps and operators -/

theorem operand : Carries s n G .free false operand F := by
  refine .choice h.regular (fun z hz => ?_) (h.pairwise (by decide) (by decide))
  simp only [List.mem_cons, List.not_mem_nil, or_false] at hz
  rcases hz with rfl | rfl | rfl | rfl | rfl | rfl | rfl | rfl | rfl
  · exact h.rule rfl rfl (h.bracketed (c := ')') rfl rfl rfl (by decide))
  · exact h.template
  · exact h.rule rfl rfl (h.list (c := ']') rfl rfl rfl (by decide) h.carries h.barred)
  · exact h.rule rfl rfl (h.list (c := '\x7d') rfl rfl rfl (by decide) h.objectItem
      fun _ hk => barred_objectItem hk)
  · exact h.regexp
  · exact h.atomic rfl
  · exact h.string
  · exact h.atomic rfl
  · exact h.atomic rfl

theorem arguments : Carries s n G .free false arguments F :=
  h.list (c := ')') rfl rfl rfl (by decide) h.carries h.barred

theorem steps : Carries s n G .free false steps F := by
  have hkey : ∀ F, Carries s n G .free false ExprLang.bracketed F := fun _ =>
    h.bracketed (c := ']') rfl rfl rfl (by decide)
  have hword : ∀ {z x : Pattern}, z.apart .free x = true → x.nullable = false →
      GivesWay s n G .free z x := GivesWay.of_apart h.regular
  rw [steps_eq]
  refine .choice h.regular (fun z hz => ?_) ?_
  · simp only [List.mem_cons, List.not_mem_nil, or_false] at hz
    rcases hz with rfl | rfl | rfl | rfl | rfl | rfl
    · exact h.rule rfl rfl (.seq h.regular (h.atomic rfl) h.arguments)
    · exact h.rule rfl rfl (.seq h.regular (h.atomic rfl) (hkey _))
    · exact h.rule (e := false) rfl rfl (.seq h.regular (h.atomic rfl) (h.atomic rfl))
    · exact h.rule rfl rfl h.arguments
    · exact h.rule rfl rfl (hkey _)
    · exact h.rule (e := false) rfl rfl (.seq h.regular (h.atomic rfl) (h.atomic rfl))
  · -- the `?.` forms are told apart behind their sign
    have hcallIndex : GivesWay s n G .free (callForm true) (indexForm true) :=
      .text_seq h.regular (by decide) rfl rfl (hword (by decide) rfl)
    have hcallField : GivesWay s n G .free (callForm true) (fieldForm true) :=
      .text_seq h.regular (by decide) rfl rfl (hword (by decide) rfl)
    have hindexField : GivesWay s n G .free (indexForm true) (fieldForm true) :=
      .text_seq h.regular (by decide) rfl rfl (hword (by decide) rfl)
    have hrest : ∀ z ∈ [callForm true, indexForm true, fieldForm true],
        ∀ x ∈ [callForm false, indexForm false, fieldForm false], GivesWay s n G .free z x := by
      intro z hz x hx
      have happart : ∀ z ∈ [callForm true, indexForm true, fieldForm true],
          ∀ x ∈ [callForm false, indexForm false, fieldForm false],
            z.apart .free x = true ∧ x.nullable = false := by decide
      exact hword (happart z hz x hx).1 (happart z hz x hx).2
    have hmarked : List.Pairwise (GivesWay s n G .free)
        [callForm true, indexForm true, fieldForm true] := by
      simp [hcallIndex, hcallField, hindexField]
    exact List.pairwise_append.mpr ⟨hmarked, h.pairwise (by decide) (by decide), hrest⟩

/-- Looking ahead for a word, before something that is read. -/
theorem unless_before {y : Pattern} (hx : x.inline .free = true) (hnull : y.nullable = false) :
    Carries s n G .free e (.unless x) (s.Behind .free (Before s n G .free y F)) := by
  refine .unless_of_inline h.regular hx (fun k hk hnext => ?_) fun hsp k hk hnext =>
    ((Joint.behind_of_skip hk).mp hnext).quiet hsp
  obtain ⟨-, _, _, hacc, -⟩ := (Joint.behind_of_skip hk).mp hnext
  exact rest_ne_nil_of_accepts h.regular.proceeds hacc.accepts hnull

theorem choiceOp : Carries s n G .free false choiceOp F := by
  refine h.rule rfl rfl (.seq h.regular (h.atomic rfl) (.seq h.regular (h.unless_before rfl rfl)
    (.seq h.regular (h.carries.mono fun k hk => hk.mono ?_) (h.atomic rfl))))
  rintro k - ⟨-, _, _, hacc, -⟩
  exact .of_heads (Crosses.heads_of_text h.regular (c := ':') rfl hacc) (by decide)

omit h in
theorem nullable_operators : ∀ op ∈ operators, (infixOp op op.symbol).nullable = false ∧
    (op.symbol.toList.head? = some '/' → op.symbol.toList = ['/']) := by
  decide

/-- A sign of division would begin a comment only with an asterisk behind it. -/
theorem infixOp {op : InfixOp} (hop : op ∈ operators) :
    Carries s n G .free false (infixOp op op.symbol)
      (s.Behind .free fun k => k.rest.head? ≠ some '*') := by
  obtain ⟨hnull, hdivision⟩ := nullable_operators op hop
  have hne : op.symbol.toList ≠ [] := fun hnil => by
    obtain ⟨c, hc, -⟩ := head?_symbol hop
    have hhead : op.symbol.toList.head? = some c := hc
    rw [hnil] at hhead
    cases hhead
  refine h.rule (e := false) rfl hnull (.text hne ?_)
  rintro - k ts k' - hacc ⟨-, hstar⟩
  obtain ⟨c, hc, -⟩ := head?_symbol hop
  have hk := head?_of_accepts_word hc hacc.accepts
  by_cases hslash : c = '/'
  · subst hslash
    obtain ⟨⟨l, hl⟩, -, rfl⟩ := accepts_text_iff.mp hacc.accepts
    rw [hdivision hc] at hl hstar
    right
    rintro ⟨l', hl'⟩
    refine hstar ?_
    obtain rfl : l = '*' :: l' := (List.cons.inj (hl.trans hl'.symm)).2
    have hrest : (k.advance 1).rest = '*' :: l' := by
      rw [Cursor.rest_advance, ← hl]
      rfl
    have hfresh : (k.advance 1).skip .free = k.advance 1 := by
      refine skip_eq_self ?_ .free
      rw [hrest]
      exact blankRun_of_atStart_eq_none rfl 0 0
    simp only [List.length_cons, List.length_nil, hfresh, hrest, List.head?_cons]
  · exact .of_head? (by rw [hk]; simpa using hslash)

theorem infixOps : Carries s n G .free false infixOps
    (s.Behind .free fun k => k.rest.head? ≠ some '*') := by
  rw [infixOps_eq]
  refine .choice h.regular (fun z hz => ?_) (h.pairwise (by decide) (by decide))
  simp only [List.mem_append, List.mem_cons, List.not_mem_nil, or_false] at hz
  rcases hz with (rfl | rfl) | hz
  · exact h.atomic rfl
  · exact h.choiceOp
  · obtain ⟨op, hop, rfl⟩ := List.mem_map.mp hz
    exact h.infixOp hop

omit h in
/-- A question mark begins a step only with a point right behind it. -/
theorem barred_steps_of_mark {l : List Char} (hl : k.rest = '?' :: l)
    (hpoint : l.head? ≠ some '.') : Language.steps.Barred s n .free k := by
  intro k₂ hk₂
  have hhead : s.Heads '?' k := Joint.heads_of_skip hk₂.left (by rw [hl]; rfl)
  have hrest := hk₂.meets.rest_eq (.inl (rest_ne_nil_of_head? hhead.1))
  rw [hl, Joint.across_cons (hl ▸ hhead.2)] at hrest
  refine rejects_steps_of_mark hrest fun hpoint' => ?_
  cases l with
  | nil =>
    by_cases hleft : s.left = []
    · obtain ⟨c, t, hright, hc⟩ := s.blank
      have hacross := s.across_append []
      rw [hleft, List.nil_append, List.nil_append] at hacross
      rw [hacross, hright, List.head?_cons, Option.some.injEq] at hpoint'
      rw [hpoint'] at hc
      cases hc
    · rw [Joint.across_nil_of_ne hleft] at hpoint'
      cases hpoint'
  | cons c l =>
    by_cases hleft : c :: l = s.left
    · obtain ⟨d, t, hright, hd⟩ := s.blank
      have hacross := s.across_append []
      rw [List.nil_append, List.nil_append] at hacross
      rw [hleft, hacross, hright, List.head?_cons, Option.some.injEq] at hpoint'
      rw [hpoint'] at hd
      cases hd
    · rw [Joint.across_cons hleft] at hpoint'
      exact hpoint hpoint'

/-- The question mark of a conditional has no point right behind it. -/
theorem mark_of_accepts_choiceOp (hacc : Language.choiceOp.Accepts n .open k ts k') :
    ∃ l, k.rest = '?' :: l ∧ l.head? ≠ some '.' := by
  obtain ⟨_, hbody, -⟩ := (accepts_rule_iff h.regular.settled).mp hacc
  obtain ⟨_, _, _, hword, hrest, -⟩ := (accepts_seq_iff h.regular.settled).mp hbody
  obtain ⟨_, _, _, hahead, -⟩ := (accepts_seq_iff h.regular.settled).mp hrest
  obtain ⟨⟨l, hl⟩, rfl, rfl⟩ := accepts_text_iff.mp hword
  have hnone : (Pattern.either (word ":") (word ".")).Rejects n ⟨.free, true⟩
      ((k.advance 1).skip .free) := ((accepts_unless_iff h.regular.settled).mp hahead).1
  have hrest₁ : (k.advance 1).rest = l := by
    rw [Cursor.rest_advance, ← hl]
    rfl
  refine ⟨l, hl.symm, fun hpoint => ?_⟩
  obtain ⟨l', rfl⟩ := List.head?_eq_some_iff.mp hpoint
  have hfresh : (k.advance 1).skip .free = k.advance 1 := by
    refine skip_eq_self ?_ .free
    rw [hrest₁]
    exact blankRun_of_atStart_eq_none rfl 0 0
  rw [hfresh] at hnone
  refine rejects_text_iff.mp ((rejects_either_iff h.regular.settled).mp hnone).2 ?_
  rw [hrest₁]
  exact ⟨l', rfl⟩

/-- Where an operator is read, no step begins. -/
theorem barred_steps (hk : k.skip .free = k) (hacc : Language.infixOps.Accepts n .open k ts k') :
    Language.steps.Barred s n .free k := by
  rw [infixOps_eq] at hacc
  obtain ⟨x, hx, hxacc⟩ := exists_of_accepts_choice h.regular.settled hacc
  simp only [List.mem_append, List.mem_cons, List.not_mem_nil, or_false] at hx
  rcases hx with (rfl | rfl) | hx
  · obtain ⟨_, hbody, -⟩ := (accepts_rule_iff h.regular.settled).mp hxacc
    obtain ⟨⟨l, hl⟩, -⟩ := accepts_text_iff.mp hbody
    have hmark : k.rest = '?' :: ':' :: l := hl.symm
    exact barred_steps_of_mark hmark (by simp)
  · obtain ⟨l, hl, hpoint⟩ := h.mark_of_accepts_choiceOp hxacc
    exact barred_steps_of_mark hl hpoint
  · obtain ⟨op, hop, rfl⟩ := List.mem_map.mp hx
    obtain ⟨c, hc, hnot⟩ := head?_symbol hop
    obtain ⟨_, hbody, -⟩ := (accepts_rule_iff h.regular.settled).mp hxacc
    have hheads : Language.steps.heads = ['?', '?', '?', '(', '[', '.'] := by decide
    refine .of_headed rfl (Joint.heads_of_skip hk (head?_of_accepts_word hc hbody)) ?_
    rw [hheads]
    simpa using hnot

/-! ## Expressions -/

/-- What follows an operand and its steps: an operator, or the end of the expression. -/
abbrev BehindSteps (s : Joint) (n : Reader) (G : GapReader) (k : Cursor) : Prop :=
  Before s n G .free Language.infixOps Anywhere k ∨ AtEnd k

omit h in
theorem BehindSteps.quiet (hk : BehindSteps s n G k) : s.Quiet k :=
  hk.elim (fun hk => hk.quiet rfl) AtEnd.quiet

/-- Behind prefix operators stands what begins as operands do. -/
theorem many_unaryOps : Carries s n G .free false (.many unaryOps)
    (s.Behind .free (Before s n G .free (.seq Language.operand x) F)) := by
  refine .many h.regular rfl (h.atomic (x := unaryOps) rfl) (fun hsp k _ hk => hk.quiet hsp) ?_
  rintro k - ⟨-, _, _, hacc, -⟩ hrej
  exact .of_inline h.regular rfl
    (rest_ne_nil_of_accepts h.regular.proceeds hacc.accepts rfl) hrej

/-- Steps up to the next operator or the end of the expression. -/
theorem many_steps : Carries s n G .free false (.many Language.steps)
    (s.Behind .free (BehindSteps s n G)) := by
  refine .many h.regular rfl h.steps (fun _ k _ hk => hk.quiet) ?_
  rintro k hk (⟨-, _, _, hacc, -⟩ | hend) -
  · exact h.barred_steps hk hacc.accepts
  · exact .of_ends hend (by decide)

theorem operatorRun : Carries s n G .free false operatorRun (s.Behind .free (BehindSteps s n G)) := by
  refine .seq h.regular (h.infixOps.mono fun k hk => hk.mono ?_)
    (.seq h.regular h.many_unaryOps (.seq h.regular h.operand h.many_steps))
  rintro k hk ⟨-, _, _, hacc, -⟩ hstar
  obtain ⟨c, l, hl, heats⟩ := exists_head_of_accepts h.regular.proceeds
    (blankLength_eq_zero_of_skip hk) hacc.accepts rfl
  rw [hl, List.head?_cons, Option.some.injEq] at hstar
  subst hstar
  exact absurd heats (by decide)

theorem before_of_before_operatorRun (hk : Before s n G .free ExprLang.operatorRun F k) :
    Before s n G .free Language.infixOps Anywhere k := by
  obtain ⟨hquiet, _, _, hacc, -⟩ := hk
  obtain ⟨_, _, _, hop, -⟩ := Crosses.seq h.regular hacc
  exact ⟨hquiet, _, _, hop, trivial⟩

/-- Operators and operands up to the end of the expression. -/
theorem many_operatorRun : Carries s n G .free false (.many ExprLang.operatorRun)
    (s.Behind .free AtEnd) := by
  refine .many h.regular rfl (h.operatorRun.mono fun k hk => hk.mono ?_)
    (fun _ k _ hk => hk.quiet) fun k _ hk _ => .seq (.of_ends hk (by decide))
  exact fun k _ hk => hk.imp_left h.before_of_before_operatorRun

/-- What stands behind the steps of an operand. -/
theorem behindSteps_of_before (hk : k.skip .free = k)
    (hnext : Before s n G .free (.many ExprLang.operatorRun) (s.Behind .free AtEnd) k) :
    BehindSteps s n G k := by
  obtain ⟨hquiet, _, k', hacc, hend⟩ := hnext
  cases Crosses.many h.regular rfl hk hacc with
  | done => exact .inr ((Joint.behind_of_skip hk).mp hend)
  | next _ hrun =>
    rw [hk] at hrun
    exact .inl (h.before_of_before_operatorRun (F := Anywhere) ⟨hquiet, _, _, hrun, trivial⟩)

/-- An expression, up to where it ends. -/
theorem expression : Carries s n G .free false expression (s.Behind .free AtEnd) :=
  h.rule rfl rfl (.seq h.regular h.many_unaryOps (.seq h.regular h.operand
    (.seq h.regular (h.many_steps.mono fun _ hk => hk.mono fun _ hk => h.behindSteps_of_before hk)
      h.many_operatorRun)))

end Matched

/-- Expressions are carried over, however deep they go. -/
theorem matched_readExpression (s : Joint) (d : Nat) :
    Matched s (readExpression d) (expressionGaps d) := by
  refine ⟨regular_readExpression d, ?_, fun _ hk => barred_recurse d hk⟩
  induction d with
  | zero =>
    have hnone : ∀ {k k' : Cursor} {ts : List Token},
        ¬ Pattern.recurse.Accepts (readExpression 0) .open k ts k' := by
      intro k k' ts hacc
      obtain ⟨a, ha⟩ := hacc .empty []
      cases ha
    exact ⟨fun _ _ _ _ _ hacc => absurd hacc.accepts hnone,
      fun _ _ _ _ _ hacc => absurd hacc.accepts hnone⟩
  | succ d ih =>
    have hmatched : Matched s (readExpression d) (expressionGaps d) :=
      ⟨regular_readExpression d, ih, fun _ hk => barred_recurse d hk⟩
    constructor
    · intro hsp k ts k' hk hacc hend
      exact hmatched.expression.quiet hsp hk hacc.recurse hend
    · intro k₁ k₂ ts k₁' hk hacc hend
      obtain ⟨us, k₂', hacc', hrest⟩ := hmatched.expression.carry hk hacc.recurse hend
      exact ⟨us, k₂', accepts_recurse_iff.mpr hacc', hrest⟩

end ExprLang
