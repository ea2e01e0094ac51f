import ExprLang.Proofs.Grammar.Gaps
import ExprLang.Proofs.Grammar.Takes

/-!
# ExprLang.Proofs.Grammar.Joint

Two texts that are the same up to a joint, and perhaps behind the blanks there again.  Either the
first text ends at the joint and the second one goes on on a new line; or both have blanks there, not
the same ones, and go on alike behind them.

The texts are read side by side: `Cursor.Meets` relates the places reached.  A pattern that reads
nothing with which blanks begin does not get over the joint, and is accepted and rejected alike in
both texts (`Pattern.mirrored`); and behind the blanks at the joint so is every pattern.
-/

namespace ExprLang

open Token (Alike)

/-- The ends of an expression: nothing more, a closing bracket, a comma, a colon or a semicolon. -/
def endings : List (Option Char) :=
  [none, some ')', some ']', some '\x7d', some ',', some ':', some ';']

/-- The characters with which blanks begin. -/
def edges : List Char := [' ', '\t', '\r', '\n', '/']

theorem mem_edges_of_isBlank {c : Char} (h : isBlank c = true) : c ∈ edges := by
  simp only [isBlank, Bool.or_eq_true, beq_iff_eq] at h
  rcases h with ((rfl | rfl) | rfl) | rfl <;> decide

theorem mem_edges_of_blankLength {c : Char} {l : List Char} (h : 0 < blankLength (c :: l)) :
    c ∈ edges := by
  by_contra hc
  have hblank : isBlank c ≠ true := fun h' => hc (mem_edges_of_isBlank h')
  have hslash : c ≠ '/' := by
    rintro rfl
    exact hc (by decide)
  rw [blankLength_cons (by simp [isSolid, hblank, hslash])] at h
  exact absurd h (Nat.lt_irrefl 0)

/-! ## Joints -/

/-- What is ahead in two texts where they part.  If nothing is ahead in the first text, the second
one goes on on the next line, with the end of an expression; else blanks are ahead in both, and
behind them the same. -/
structure Joint where
  left : List Char
  right : List Char
  blank : ∃ c l, right = c :: l ∧ isBlank c = true
  ended : left = [] → ∃ l, right = '\n' :: l ∧ blankLength l = 0 ∧ l.head? ∈ endings
  past : left ≠ [] → 0 < blankLength left ∧ pastBlanks right = pastBlanks left

namespace Joint

variable {s : Joint} {k k' : Cursor} {sp : Spacing} {c : Char} {l : List Char}

/-- What is ahead in the second text where `l` is ahead in the first. -/
def across (s : Joint) (l : List Char) : List Char :=
  if s.left <:+ l then l.take (l.length - s.left.length) ++ s.right else l

/-- The joint has not been passed in the first text. -/
def Ahead (s : Joint) (k : Cursor) : Prop := s.left <:+ k.rest

/-- The blanks skipped at the place are not those of the joint and some before it. -/
def Clears (s : Joint) (sp : Spacing) (k : Cursor) : Prop :=
  s.Ahead k → s.Ahead (k.skip sp) ∨ k.rest = s.left

/-- Behind the blanks that are skipped at the place, `F` holds. -/
def Behind (s : Joint) (sp : Spacing) (F : Cursor → Prop) (k : Cursor) : Prop :=
  s.Clears sp k ∧ F (k.skip sp)

/-- No comment that is open at the place is closed behind the joint. -/
def Quiet (s : Joint) (k : Cursor) : Prop :=
  closesBlock s.right = false ∨ ¬ ['/', '*'] <+: k.rest

/-- The character is ahead, and not at the joint. -/
def Heads (s : Joint) (c : Char) (k : Cursor) : Prop := k.rest.head? = some c ∧ k.rest ≠ s.left

theorem across_append (s : Joint) (a : List Char) : s.across (a ++ s.left) = a ++ s.right := by
  rw [across, if_pos (List.suffix_append a s.left), List.length_append, Nat.add_sub_cancel,
    List.take_left]

theorem across_of_not (h : ¬ s.left <:+ l) : s.across l = l := if_neg h

theorem across_nil_of_ne (h : s.left ≠ []) : s.across [] = [] :=
  across_of_not fun hnil => h (List.suffix_nil.mp hnil)

theorem across_cons (h : c :: l ≠ s.left) : s.across (c :: l) = c :: s.across l := by
  by_cases hl : s.left <:+ l
  · obtain ⟨a, rfl⟩ := hl
    rw [across_append, ← List.cons_append, across_append, List.cons_append]
  · rw [across_of_not hl, across_of_not]
    rw [List.suffix_cons_iff]
    exact fun h' => h'.elim (fun h' => h h'.symm) hl

/-- A word that is read on one side of the joint. -/
theorem across_word {w : List Char} (h : s.left <:+ w ++ l → s.left <:+ l) :
    s.across (w ++ l) = w ++ s.across l := by
  by_cases hl : s.left <:+ l
  · obtain ⟨a, rfl⟩ := hl
    rw [across_append, ← List.append_assoc, across_append, List.append_assoc]
  · rw [across_of_not hl, across_of_not fun h' => hl (h h')]

theorem Ahead.of_suffix (h : s.Ahead k') (hk : k'.rest <:+ k.rest) : s.Ahead k := h.trans hk

theorem keeps_across (h : ¬ s.Ahead k) : Keeps s.across k.rest :=
  fun _ hl => across_of_not fun hleft => h (hleft.trans hl)

theorem Quiet.of_head? (h : k.rest.head? ≠ some '/') : s.Quiet k := by
  refine .inr fun ⟨l, hl⟩ => h ?_
  rw [← hl]
  rfl

theorem clears_of_ne_free (hsp : sp ≠ .free) : s.Clears sp k := fun h => by
  rw [Cursor.skip_of_ne_free hsp]
  exact .inl h

theorem behind_of_ne_free (hsp : sp ≠ .free) {F : Cursor → Prop} : s.Behind sp F k ↔ F k := by
  rw [Behind, Cursor.skip_of_ne_free hsp, and_iff_right (clears_of_ne_free hsp)]

theorem clears_of_skip (h : k.skip sp = k) : s.Clears sp k := fun hk => by
  rw [h]
  exact .inl hk

/-- Where there is nothing to skip, the place itself is meant. -/
theorem behind_of_skip (h : k.skip sp = k) {F : Cursor → Prop} : s.Behind sp F k ↔ F k := by
  rw [Behind, h, and_iff_right (clears_of_skip h)]

theorem Behind.mono {F G : Cursor → Prop} (h : s.Behind sp F k)
    (hFG : ∀ k, k.skip sp = k → F k → G k) : s.Behind sp G k := by
  refine ⟨h.1, hFG _ ?_ h.2⟩
  cases sp with
  | free => exact k.skip_skip
  | tight | sealed => rfl

theorem not_suffix_pastBlanks (h : s.left ≠ []) : ¬ s.left <:+ pastBlanks s.left := by
  intro hsuffix
  have hlength := hsuffix.length_le
  have hblank := (s.past h).1
  have hpos := List.length_pos_iff.mpr h
  rw [pastBlanks, List.length_drop] at hlength
  omega

/-- Where there is nothing to skip, the joint is not ahead yet. -/
theorem ne_left_of_skip (hk : k.skip .free = k) (hne : k.rest ≠ []) : k.rest ≠ s.left := by
  intro hleft
  have hblank := (s.past (hleft ▸ hne)).1
  rw [← hleft, ← hk, k.blankLength_skip] at hblank
  exact Nat.lt_irrefl 0 hblank

theorem heads_of_skip (hk : k.skip .free = k) (hc : k.rest.head? = some c) : s.Heads c k := by
  refine ⟨hc, ne_left_of_skip hk fun hnil => ?_⟩
  rw [hnil] at hc
  cases hc

/-- A pattern that is accepted reads on: not at the joint, if the joint stays ahead. -/
theorem ne_left_of_ahead (h : s.Ahead k → s.Ahead k') (hlt : k'.rest.length < k.rest.length) :
    k.rest ≠ s.left := by
  intro hleft
  have hle := (h (show s.left <:+ k.rest from hleft ▸ List.suffix_rfl)).length_le
  rw [hleft] at hlt
  omega

end Joint

/-- What follows a text on the next line, with the end of an expression. -/
structure Tail where
  chars : List Char
  fresh : blankLength chars = 0
  ends : chars.head? ∈ endings

namespace Tail

/-- The first text is over, and the second one goes on on the next line. -/
def joint (t : Tail) : Joint where
  left := []
  right := '\n' :: t.chars
  blank := ⟨'\n', t.chars, rfl, rfl⟩
  ended _ := ⟨t.chars, rfl, t.fresh, t.ends⟩
  past h := absurd rfl h

variable {t : Tail} {k k' : Cursor}

theorem across_joint (t : Tail) (l : List Char) : t.joint.across l = l ++ '\n' :: t.chars := by
  have h := t.joint.across_append l
  rwa [show t.joint.left = [] from rfl, List.append_nil] at h

theorem ahead_joint (t : Tail) (k : Cursor) : t.joint.Ahead k := List.nil_suffix

/-- Nothing has to be said of the blanks where the first text is over. -/
theorem behind_joint {F : Cursor → Prop} (h : F (k.skip .free)) : t.joint.Behind .free F k :=
  ⟨fun _ => .inl (t.ahead_joint _), h⟩

theorem pastBlanks_joint (t : Tail) : pastBlanks t.joint.right = t.chars := by
  show pastBlanks ('\n' :: t.chars) = t.chars
  rw [pastBlanks_of_isBlank rfl, pastBlanks_of_blankLength_eq_zero t.fresh]

end Tail

/-! ## Places in the two texts -/

namespace Cursor

/-- The places that two texts have reached: the same is ahead but for the joint; or nothing is ahead
in the first text and blanks were skipped, past the joint. -/
def Meets (s : Joint) (sp : Spacing) (k₁ k₂ : Cursor) : Prop :=
  k₂.rest = s.across k₁.rest ∨
    sp = .free ∧ s.left = [] ∧ k₁.rest = [] ∧ k₂.rest = pastBlanks s.right

/-- Such places where nothing is left to skip. -/
structure Begins (s : Joint) (sp : Spacing) (k₁ k₂ : Cursor) : Prop where
  meets : k₁.Meets s sp k₂
  left : k₁.skip sp = k₁
  right : k₂.skip sp = k₂

variable {s : Joint} {sp sp' : Spacing} {k₁ k₂ : Cursor}

theorem skip_idem (sp : Spacing) (k : Cursor) : (k.skip sp).skip sp = k.skip sp := by
  cases sp with
  | free => exact k.skip_skip
  | tight | sealed => rfl

/-- Blanks before the joint are the same in both texts. -/
theorem pastBlanks_across {l : List Char} (hclear : s.left <:+ l → s.left <:+ pastBlanks l ∨ l = s.left)
    (hopen : closesBlock s.right = false ∨ ¬ ['/', '*'] <+: pastBlanks l) :
    pastBlanks (s.across l) = s.across (pastBlanks l) ∨
      s.left = [] ∧ pastBlanks l = [] ∧ pastBlanks (s.across l) = pastBlanks s.right := by
  by_cases hleft : s.left <:+ l
  · obtain ⟨c, t, hright, hc⟩ := s.blank
    obtain ⟨a, rfl⟩ := hleft
    rw [Joint.across_append, hright]
    rcases Nat.lt_or_ge (blankLength (a ++ s.left)) a.length with hlt | hge
    · -- the blanks end before the joint
      left
      have heq := blankLength_append_eq hc hlt (hright ▸ hopen)
      rw [pastBlanks, heq, pastBlanks, List.drop_append_of_le_length hlt.le,
        List.drop_append_of_le_length hlt.le, Joint.across_append, hright]
    · rcases hclear (List.suffix_append a s.left) with hahead | hall
      · -- the blanks end at the joint, so that nothing is ahead there
        have hnil : s.left = [] := by
          by_contra hne
          have hdrop := hahead.length_le
          have hpos := List.length_pos_iff.mpr hne
          rw [pastBlanks, List.length_drop, List.length_append] at hdrop
          have hat : pastBlanks (a ++ s.left) = s.left := by
            rw [pastBlanks, show blankLength (a ++ s.left) = a.length by omega, List.drop_left]
          have hzero := blankLength_pastBlanks (a ++ s.left)
          rw [hat] at hzero
          exact absurd (s.past hne).1 (by omega)
        obtain ⟨l, hline, hfresh, -⟩ := s.ended hnil
        rw [hright] at hline
        obtain ⟨rfl, rfl⟩ := List.cons.inj hline
        rw [hnil, List.append_nil] at hge ⊢
        have hall : blankLength a = a.length := Nat.le_antisymm (blankLength_le a) hge
        refine .inr ⟨rfl, by rw [pastBlanks, hall, List.drop_length], ?_⟩
        rw [pastBlanks, blankLength_append_line hfresh hall, ← List.drop_drop, List.drop_left,
          pastBlanks_of_isBlank hc, pastBlanks_of_blankLength_eq_zero hfresh]
        rfl
      · -- the place is the joint
        obtain rfl : a = [] := List.append_left_eq_self.mp hall
        by_cases hnil : s.left = []
        · refine .inr ⟨hnil, by rw [hnil]; rfl, rfl⟩
        · left
          rw [List.nil_append, List.nil_append, ← hright, (s.past hnil).2,
            Joint.across_of_not (Joint.not_suffix_pastBlanks hnil)]
  · left
    have hnot : ¬ s.left <:+ pastBlanks l := fun h => hleft (h.trans (List.drop_suffix _ _))
    rw [Joint.across_of_not hleft, Joint.across_of_not hnot]

theorem Meets.skip (h : k₁.Meets s sp k₂) (hclear : s.Clears sp k₁)
    (hquiet : sp = .free → s.Quiet (k₁.skip sp)) : (k₁.skip sp).Begins s sp (k₂.skip sp) := by
  refine ⟨?_, skip_idem sp k₁, skip_idem sp k₂⟩
  by_cases hsp : sp = .free
  · subst hsp
    have hopen := hquiet rfl
    rw [Joint.Quiet, rest_skip] at hopen
    unfold Meets
    rw [rest_skip, rest_skip]
    rcases h with h | ⟨-, hnil, h₁, h₂⟩
    · rw [h]
      have hclear' : s.left <:+ k₁.rest → s.left <:+ pastBlanks k₁.rest ∨ k₁.rest = s.left := by
        rw [← rest_skip]
        exact hclear
      exact (pastBlanks_across hclear' hopen).imp_right fun h => ⟨rfl, h⟩
    · rw [h₁, h₂]
      exact .inr ⟨rfl, hnil, rfl, pastBlanks_of_blankLength_eq_zero (blankLength_pastBlanks _)⟩
  · rw [skip_of_ne_free hsp, skip_of_ne_free hsp]
    exact h

/-- Where something is ahead, it is ahead in both texts. -/
theorem Meets.rest_eq (h : k₁.Meets s sp k₂) (hne : k₁.rest ≠ [] ∨ sp ≠ .free) :
    k₂.rest = s.across k₁.rest := by
  rcases h with h | ⟨hsp, -, hnil, -⟩
  · exact h
  · rcases hne with hne | hne
    · exact absurd hnil hne
    · exact absurd hsp hne

/-- Where nothing is skipped, places are related as they are. -/
theorem Begins.of_rest_eq (hsp : sp ≠ .free) (h : k₂.rest = s.across k₁.rest) :
    k₁.Begins s sp k₂ :=
  ⟨.inl h, skip_of_ne_free hsp k₁, skip_of_ne_free hsp k₂⟩

theorem Begins.head?_eq {c : Char} (h : k₁.Begins s sp k₂) (hc : s.Heads c k₁) :
    k₂.rest.head? = some c := by
  obtain ⟨l, hl⟩ := List.head?_eq_some_iff.mp hc.1
  rw [h.meets.rest_eq (.inl (by rw [hl]; exact List.cons_ne_nil c l)), hl,
    Joint.across_cons (hl ▸ hc.2)]
  rfl

/-- Where the first text is over, the line break at the joint is skipped. -/
theorem Begins.rest_eq_of_ended (h : k₁.Begins s .free k₂) (hleft : s.left = [])
    (hnil : k₁.rest = []) : k₂.rest = pastBlanks s.right := by
  rcases h.meets with hmeets | ⟨-, -, -, hpast⟩
  · have hacross := s.across_append []
    rw [hleft, List.append_nil, List.nil_append] at hacross
    rw [hnil, hacross] at hmeets
    rw [← hmeets, ← rest_skip, h.right]
  · exact hpast

/-- Where nothing is ahead in the first text, an expression ends in the second. -/
theorem Begins.ends (h : k₁.Begins s .free k₂) (hnil : k₁.rest = []) :
    k₂.rest.head? ∈ endings := by
  by_cases hleft : s.left = []
  · obtain ⟨l, hright, hfresh, hends⟩ := s.ended hleft
    rw [h.rest_eq_of_ended hleft hnil, hright, pastBlanks_of_isBlank rfl,
      pastBlanks_of_blankLength_eq_zero hfresh]
    exact hends
  · have hrest : k₂.rest = [] := by
      rcases h.meets with hmeets | ⟨-, hnot, -, -⟩
      · rw [hmeets, hnil, Joint.across_nil_of_ne hleft]
      · exact absurd hnot hleft
    rw [hrest]
    decide

/-- Characters read in both texts on one side of the joint are the same. -/
theorem Reaches.chars_eq {a b : Bool} {k₁' k₂' : Cursor} (h₁ : k₁.Reaches a k₁')
    (h₂ : k₂.Reaches b k₂') (hk : k₂.rest = s.across k₁.rest) (hk' : k₂'.rest = s.across k₁'.rest)
    (hside : s.Ahead k₁ → s.Ahead k₁') (r : Rule) (ts us : List Token) :
    (Token.mk r k₁ (k₁'.offset - k₁.offset) ts).chars =
      (Token.mk r k₂ (k₂'.offset - k₂.offset) us).chars := by
  obtain ⟨i, hi, rfl, -⟩ := h₁
  obtain ⟨j, hj, rfl, -⟩ := h₂
  have hword : k₂.rest = k₁.rest.take i ++ s.across (k₁.rest.drop i) := by
    rw [hk, ← Joint.across_word, List.take_append_drop]
    rw [List.take_append_drop]
    intro h
    have := hside h
    rwa [Joint.Ahead, rest_advance] at this
  have hij : i = j := by
    have hlength := congrArg List.length hk'
    rw [rest_advance, rest_advance, List.length_drop, hword] at hlength
    rw [hword] at hj
    simp only [List.length_append, List.length_take] at hlength hj
    omega
  subst hij
  simp only [Token.chars, Token.start, Token.length, offset_advance, Nat.add_sub_cancel_left]
  rw [Nat.min_eq_left hi, Nat.min_eq_left hj, hword, List.take_append_of_le_length (by simp [hi]),
    List.take_take, Nat.min_self]

end Cursor

/-! ## Patterns that stay on one side -/

namespace Pattern

/-- Whether the pattern, read with the spacing given, never asks for what is ahead of a joint: it
reads nothing with which blanks begin, skips nothing, and does without the rule that contains
itself. -/
def inline : Spacing → Pattern → Bool
  | _, .text w => edges.all fun c => !w.contains c
  | _, .one f => edges.all fun c => !f c
  | _, .stop | _, .recurse => false
  | sp, .seq x y => sp != .free && (x.inline sp && y.inline sp)
  | sp, .either x y => x.inline sp && y.inline sp
  | sp, .maybe x | sp, .unless x => x.inline sp
  | sp, .many x => sp != .free && (!x.nullable && x.inline sp)
  | sp, .rule _ kind x => x.inline (kind.body sp)

variable {s : Joint} {n : Reader} {G : GapReader} {m : Mode} {x y : Pattern}
  {k₁ k₂ k₁' k₂' : Cursor} {ts us : List Token}

/-- The readings of a text and of the other one come to the same, without getting over the joint. -/
def Follows (s : Joint) (n : Reader) (m : Mode) (x : Pattern) (k₂ : Cursor) (ts : List Token)
    (k₁' : Cursor) : Prop :=
  ∃ us k₂', x.Accepts n m k₂ us k₂' ∧ k₂'.rest = s.across k₁'.rest ∧ Alike s.across true ts us

/-- Behind the blanks at the joint the same is accepted. -/
theorem follows_of_not_ahead (h : n.Regular G) (hk : ¬ s.Ahead k₁)
    (hk₂ : k₂.rest = s.across k₁.rest) (hacc : x.Accepts n m k₁ ts k₁') :
    x.Follows s n m k₂ ts k₁' := by
  rw [Joint.across_of_not hk] at hk₂
  obtain ⟨us, k₂', hacc', hrest, halike⟩ := (placeless h.placeless x).accepts
    (accepts_or_rejects h.settled x) (Joint.keeps_across hk) hk₂ hacc
  refine ⟨us, k₂', hacc', ?_, halike⟩
  rw [hrest, Joint.across_of_not fun hleft => hk (hleft.trans (hacc.reaches h.proceeds).suffix)]

/-- And the same is rejected. -/
theorem rejects_of_not_ahead (h : n.Regular G) (hk : ¬ s.Ahead k₁)
    (hk₂ : k₂.rest = s.across k₁.rest) (hrej : x.Rejects n m k₁) : x.Rejects n m k₂ := by
  rw [Joint.across_of_not hk] at hk₂
  exact (placeless h.placeless x).rejects hk₂ hrej

/-- Accepted in the second text as in the first, before the joint, and rejected there as here. -/
structure Mirrored (s : Joint) (n : Reader) (m : Mode) (x : Pattern) (k₁ k₂ : Cursor) : Prop where
  accepts : ∀ ts k₁', x.Accepts n m k₁ ts k₁' → s.Ahead k₁' ∧ x.Follows s n m k₂ ts k₁'
  rejects : x.Rejects n m k₁ → x.Rejects n m k₂

/-- A word is ahead on one side of the joint, or not at all. -/
theorem isPrefix_append_iff {w a b : List Char} (h : ∀ c ∈ b.head?, c ∉ w) :
    w <+: a ++ b ↔ w <+: a := by
  refine ⟨fun hw => ?_, fun hw => hw.trans (List.prefix_append _ _)⟩
  rcases List.prefix_or_prefix_of_prefix hw (List.prefix_append a b) with h' | ⟨v, rfl⟩
  · exact h'
  · rw [List.prefix_append_right_inj] at hw
    cases v with
    | nil => exact ⟨[], by simp⟩
    | cons c v =>
      obtain ⟨t, rfl⟩ := hw
      exact absurd (List.mem_append_right a List.mem_cons_self) (h c (by simp))

theorem head?_left_mem : ∀ c ∈ s.left.head?, c ∈ edges := by
  intro c hc
  obtain ⟨l, hl⟩ := List.head?_eq_some_iff.mp (Option.mem_def.mp hc)
  exact mem_edges_of_blankLength (hl ▸ (s.past (by rw [hl]; exact List.cons_ne_nil c l)).1)

theorem head?_right_mem : ∀ c ∈ s.right.head?, c ∈ edges := by
  obtain ⟨d, l, hright, hd⟩ := s.blank
  intro c hc
  rw [hright, List.head?_cons, Option.mem_some] at hc
  exact hc ▸ mem_edges_of_isBlank hd

theorem isPrefix_across {w : List Char} (hw : ∀ c ∈ edges, c ∉ w) (hk : s.Ahead k₁)
    (hk₂ : k₂.rest = s.across k₁.rest) : w <+: k₂.rest ↔ w <+: k₁.rest := by
  obtain ⟨a, ha⟩ := hk
  rw [hk₂, ← ha, Joint.across_append,
    isPrefix_append_iff fun c hc => hw c (head?_right_mem c hc),
    isPrefix_append_iff fun c hc => hw c (head?_left_mem c hc)]

theorem mirrored_text {w : List Char} (hw : ∀ c ∈ edges, c ∉ w) (hk : s.Ahead k₁)
    (hk₂ : k₂.rest = s.across k₁.rest) : Mirrored s n m (.text w) k₁ k₂ where
  accepts := by
    intro ts k₁' h
    obtain ⟨hpre, rfl, rfl⟩ := accepts_text_iff.mp h
    have hpre₂ := (isPrefix_across hw hk hk₂).mpr hpre
    obtain ⟨a, ha⟩ := hk
    rw [← ha, isPrefix_append_iff fun c hc => hw c (head?_left_mem c hc)] at hpre
    obtain ⟨b, rfl⟩ := hpre
    rw [List.append_assoc] at ha
    have hahead : s.Ahead (k₁.advance w.length) := by
      rw [Joint.Ahead, Cursor.rest_advance, ← ha, List.drop_left]
      exact List.suffix_append b s.left
    refine ⟨hahead, [], _, accepts_text_iff.mpr ⟨hpre₂, rfl, rfl⟩, ?_, .nil⟩
    rw [Cursor.rest_advance, Cursor.rest_advance, hk₂, ← ha, List.drop_left, ← List.append_assoc,
      Joint.across_append, Joint.across_append, List.append_assoc, List.drop_left]
  rejects := by
    intro h
    rw [rejects_text_iff] at h ⊢
    rwa [isPrefix_across hw hk hk₂]

theorem mirrored_one {f : Char → Bool} (hf : ∀ c ∈ edges, f c = false) (hk : s.Ahead k₁)
    (hk₂ : k₂.rest = s.across k₁.rest) : Mirrored s n m (.one f) k₁ k₂ := by
  obtain ⟨a, ha⟩ := hk
  rw [← ha, Joint.across_append] at hk₂
  cases a with
  | nil =>
    have hleft : (Pattern.one f).Rejects n m k₁ := rejects_one fun c l hl => by
      refine hf c (head?_left_mem (s := s) c ?_)
      rw [← List.nil_append s.left, ha, hl]
      rfl
    refine ⟨fun ts k₁' h => absurd hleft h.not_rejects, fun _ => rejects_one fun c l hl => ?_⟩
    refine hf c (head?_right_mem (s := s) c ?_)
    rw [← List.nil_append s.right, ← hk₂, hl]
    rfl
  | cons d a =>
    rw [List.cons_append] at ha hk₂
    refine ⟨fun ts k₁' h => ?_, fun h => ?_⟩
    · obtain ⟨⟨c, l, hl, hc⟩, rfl, rfl⟩ := accepts_one_iff.mp h
      rw [← ha, List.cons.injEq] at hl
      obtain ⟨rfl, rfl⟩ := hl
      have hrest : (k₁.advance 1).rest = a ++ s.left := by
        rw [Cursor.rest_advance, ← ha]
        rfl
      refine ⟨?_, [], _, accepts_one hk₂ hc, ?_, .nil⟩
      · rw [Joint.Ahead, hrest]
        exact List.suffix_append a s.left
      · rw [hrest, Joint.across_append, Cursor.rest_advance, hk₂]
        rfl
    · rw [rejects_one_iff] at h ⊢
      intro c l hl
      rw [hk₂, List.cons.injEq] at hl
      rw [← hl.1]
      exact h d (a ++ s.left) ha.symm

section Mirrored

variable (h : n.Regular G)
include h

theorem Mirrored.seq (hm : m.spacing ≠ .free) (hx : Mirrored s n m x k₁ k₂)
    (hy : ∀ k₁ k₂ : Cursor, s.Ahead k₁ → k₂.rest = s.across k₁.rest → Mirrored s n m y k₁ k₂) :
    Mirrored s n m (.seq x y) k₁ k₂ where
  accepts := by
    intro ts k₁' hacc
    obtain ⟨us, vs, k, hxacc, hyacc, rfl⟩ := (accepts_seq_iff h.settled).mp hacc
    obtain ⟨hahead, us', k', hxacc', hk', hus⟩ := hx.accepts us k hxacc
    rw [Cursor.skip_of_ne_free hm] at hyacc
    obtain ⟨hahead', vs', k₂', hyacc', hk₂', hvs⟩ := (hy k k' hahead hk').accepts vs k₁' hyacc
    refine ⟨hahead', _, k₂', accepts_seq hxacc' ?_, hk₂', hus.append hvs⟩
    rw [Cursor.skip_of_ne_free hm]
    exact hyacc'
  rejects := by
    intro hrej
    rcases (rejects_seq_iff h.settled).mp hrej with hxrej | ⟨us, k, hxacc, hyrej⟩
    · exact rejects_seq (hx.rejects hxrej)
    · obtain ⟨hahead, us', k', hxacc', hk', -⟩ := hx.accepts us k hxacc
      rw [Cursor.skip_of_ne_free hm] at hyrej
      refine rejects_seq_right hxacc' ?_
      rw [Cursor.skip_of_ne_free hm]
      exact (hy k k' hahead hk').rejects hyrej

theorem Mirrored.either (hx : Mirrored s n m x k₁ k₂) (hy : Mirrored s n m y k₁ k₂) :
    Mirrored s n m (.either x y) k₁ k₂ where
  accepts := by
    intro ts k₁' hacc
    rcases (accepts_either_iff h.settled).mp hacc with hxacc | ⟨hxrej, hyacc⟩
    · obtain ⟨hahead, us, k₂', hacc', hrest⟩ := hx.accepts ts k₁' hxacc
      exact ⟨hahead, us, k₂', accepts_either_left hacc', hrest⟩
    · obtain ⟨hahead, us, k₂', hacc', hrest⟩ := hy.accepts ts k₁' hyacc
      exact ⟨hahead, us, k₂', accepts_either_right (hx.rejects hxrej) hacc', hrest⟩
  rejects := by
    intro hrej
    obtain ⟨hxrej, hyrej⟩ := (rejects_either_iff h.settled).mp hrej
    exact rejects_either (hx.rejects hxrej) (hy.rejects hyrej)

theorem Mirrored.maybe (hk : s.Ahead k₁) (hk₂ : k₂.rest = s.across k₁.rest)
    (hx : Mirrored s n m x k₁ k₂) : Mirrored s n m (.maybe x) k₁ k₂ where
  accepts := by
    intro ts k₁' hacc
    rcases (accepts_maybe_iff h.settled).mp hacc with hxacc | ⟨hxrej, rfl, rfl⟩
    · obtain ⟨hahead, us, k₂', hacc', hrest⟩ := hx.accepts ts k₁' hxacc
      exact ⟨hahead, us, k₂', accepts_maybe hacc', hrest⟩
    · exact ⟨hk, [], k₂, accepts_maybe_nil (hx.rejects hxrej), hk₂, .nil⟩
  rejects := fun hrej => absurd hrej (not_rejects_maybe h.settled)

theorem Mirrored.unless (hk : s.Ahead k₁) (hk₂ : k₂.rest = s.across k₁.rest)
    (hx : Mirrored s n { m with ahead := true } x k₁ k₂) :
    Mirrored s n m (.unless x) k₁ k₂ where
  accepts := by
    intro ts k₁' hacc
    obtain ⟨hxrej, rfl, rfl⟩ := (accepts_unless_iff h.settled).mp hacc
    exact ⟨hk, [], k₂, accepts_unless (hx.rejects hxrej), hk₂, .nil⟩
  rejects := by
    intro hrej
    obtain ⟨ts, k, hxacc⟩ := (rejects_unless_iff h.settled).mp hrej
    obtain ⟨-, us, k', hacc, -⟩ := hx.accepts ts k hxacc
    exact rejects_unless hacc

omit h in
/-- Repetitions that skip nothing. -/
theorem Mirrored.repeats (hp : n.Proceeds) (hnull : x.nullable = false) (hm : m.spacing ≠ .free)
    (hx : ∀ k₁ k₂ : Cursor, s.Ahead k₁ → k₂.rest = s.across k₁.rest → Mirrored s n m x k₁ k₂)
    (hk : s.Ahead k₁) (hk₂ : k₂.rest = s.across k₁.rest) (hrep : Repeats n x m k₁ ts k₁') :
    s.Ahead k₁' ∧ ∃ us k₂', Repeats n x m k₂ us k₂' ∧ k₂'.rest = s.across k₁'.rest ∧
      Alike s.across true ts us := by
  induction hrep generalizing k₂ with
  | done hrej =>
    rw [Cursor.skip_of_ne_free hm] at hrej
    refine ⟨hk, [], k₂, .done ?_, hk₂, .nil⟩
    rw [Cursor.skip_of_ne_free hm]
    exact (hx _ k₂ hk hk₂).rejects hrej
  | next hacc _ _ ih =>
    rw [Cursor.skip_of_ne_free hm] at hacc
    obtain ⟨hahead, us, k, hacc', hk', hus⟩ := (hx _ k₂ hk hk₂).accepts _ _ hacc
    obtain ⟨hahead', vs, k₂', hrep, hk₂', hvs⟩ := ih hahead hk'
    refine ⟨hahead', vs ++ us, k₂', .next ?_ (hacc'.length_lt hp hnull) hrep, hk₂', hus.append hvs⟩
    rw [Cursor.skip_of_ne_free hm]
    exact hacc'

theorem Mirrored.many (hnull : x.nullable = false) (hm : m.spacing ≠ .free)
    (hx : ∀ k₁ k₂ : Cursor, s.Ahead k₁ → k₂.rest = s.across k₁.rest → Mirrored s n m x k₁ k₂)
    (hk : s.Ahead k₁) (hk₂ : k₂.rest = s.across k₁.rest) : Mirrored s n m (.many x) k₁ k₂ where
  accepts := by
    intro ts k₁' hacc
    rw [accepts_many_iff h.settled h.proceeds hnull (Cursor.skip_of_ne_free hm k₁)] at hacc
    obtain ⟨hahead, us, k₂', hrep, hrest⟩ := Mirrored.repeats h.proceeds hnull hm hx hk hk₂ hacc
    exact ⟨hahead, us, k₂', accepts_many hrep (Cursor.skip_of_ne_free hm k₂), hrest⟩
  rejects := by
    intro hrej
    obtain ⟨us, k, hrep⟩ := exists_repeats h.settled h.proceeds hnull m k₁
    exact absurd hrej
      (Reader.Accepts.not_rejects (accepts_many hrep (Cursor.skip_of_ne_free hm k₁)))

/-- The token of a rule holds the same characters in both texts. -/
theorem Mirrored.rule {r : Rule} {kind : RuleKind} (hk₂ : k₂.rest = s.across k₁.rest)
    (hx : Mirrored s n { m with spacing := kind.body m.spacing } x k₁ k₂) :
    Mirrored s n m (.rule r kind x) k₁ k₂ where
  accepts := by
    intro ts k₁' hacc
    obtain ⟨us, hbody, rfl⟩ := (accepts_rule_iff h.settled).mp hacc
    obtain ⟨hahead, us', k₂', hbody', hk', hus⟩ := hx.accepts us k₁' hbody
    refine ⟨hahead, _, k₂', accepts_rule_of_body hbody', hk', ?_⟩
    split
    · exact .token hk₂ ((hbody.reaches h.proceeds).chars_eq (hbody'.reaches h.proceeds) hk₂ hk'
        (fun _ => hahead) r _ _) hus
    · exact .nil
  rejects := fun hrej => rejects_rule (hx.rejects ((rejects_rule_iff h.settled).mp hrej))

/-- A pattern that stays on one side of the joint is read alike before it. -/
theorem mirrored (hx : x.inline m.spacing = true) (hk : s.Ahead k₁)
    (hk₂ : k₂.rest = s.across k₁.rest) : Mirrored s n m x k₁ k₂ := by
  induction x generalizing m k₁ k₂ with
  | text w => exact mirrored_text (by simpa [inline] using hx) hk hk₂
  | one f => exact mirrored_one (by simpa [inline] using hx) hk hk₂
  | stop | recurse => cases hx
  | seq x y ihx ihy =>
    simp only [inline, Bool.and_eq_true, bne_iff_ne] at hx
    exact .seq h hx.1 (ihx hx.2.1 hk hk₂) fun _ _ hk' hk₂' => ihy hx.2.2 hk' hk₂'
  | either x y ihx ihy =>
    simp only [inline, Bool.and_eq_true] at hx
    exact .either h (ihx hx.1 hk hk₂) (ihy hx.2 hk hk₂)
  | maybe x ih => exact .maybe h hk hk₂ (ih hx hk hk₂)
  | many x ih =>
    simp only [inline, Bool.and_eq_true, bne_iff_ne, Bool.not_eq_true'] at hx
    exact .many h hx.2.1 hx.1 (fun _ _ hk' hk₂' => ih hx.2.2 hk' hk₂') hk hk₂
  | «unless» x ih => exact .unless h hk hk₂ (ih hx hk hk₂)
  | rule r kind x ih => exact .rule h hk₂ (ih hx hk hk₂)

/-- A pattern that stays on one side of the joint is accepted alike everywhere. -/
theorem follows_of_inline (hx : x.inline m.spacing = true) (hk₂ : k₂.rest = s.across k₁.rest)
    (hacc : x.Accepts n m k₁ ts k₁') : x.Follows s n m k₂ ts k₁' := by
  by_cases hk : s.Ahead k₁
  · exact ((mirrored h hx hk hk₂).accepts ts k₁' hacc).2
  · exact follows_of_not_ahead h hk hk₂ hacc

/-- And it is rejected alike. -/
theorem rejects_of_inline (hx : x.inline m.spacing = true) (hk₂ : k₂.rest = s.across k₁.rest)
    (hrej : x.Rejects n m k₁) : x.Rejects n m k₂ := by
  by_cases hk : s.Ahead k₁
  · exact (mirrored h hx hk hk₂).rejects hrej
  · exact rejects_of_not_ahead h hk hk₂ hrej

end Mirrored

end Pattern

end ExprLang
