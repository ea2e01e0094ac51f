import ExprLang.Proofs.Source.Pass

/-!
# ExprLang.Proofs.Source.Comments

Where the pass over a text takes comments as the grammar does.

The two part in two ways.  A line comment ends at a carriage return for the grammar, but not for
the pass, which goes on to the next line feed; this does no harm as long as what the pass misses is
blank or another line comment.  And a slash and an asterisk that no closing follows are no comment
for the grammar, but swallow the rest of the text in the pass.
-/

namespace ExprLang

/-- Whether the rest of a line is blank, or blank up to a line comment. -/
def blankLine : List Char → Bool
  | [] => true
  | c :: rest =>
    c == '\n' || (c == '/' && rest.head? == some '/') || (isBlank c && blankLine rest)

namespace Scan

/-- Whether in the pass over a text every line comment ends where it ends for the grammar, up to
blanks and further comments, and every block comment ends at all. -/
def commentsEnd (s : Scan) : List Char → Bool
  | [] => decide (s.mode ≠ .block)
  | c :: rest =>
    decide (s.mode = .line → c = '\r' → blankLine rest = true) &&
      commentsEnd (s.step c rest.head?) rest

/-! ## Line comments -/

@[simp] theorem mode_push (s : Scan) (o : Opener) : (s.push o).mode = s.mode := rfl

@[simp] theorem mode_popIf (s : Scan) (os : List Opener) : (s.popIf os).mode = s.mode := by
  unfold popIf
  split
  · split <;> rfl
  · rfl

theorem mode_stepTemplate (s : Scan) (c : Char) (next : Option Char) :
    (s.stepTemplate c next).mode = s.mode := by
  simp only [stepTemplate, apply_ite mode, mode_push, ite_self]

/-- Only two slashes begin a line comment. -/
theorem stepCode_of_mode_line {s : Scan} {c : Char} {next : Option Char} (hs : s.mode = .code)
    (hline : (s.stepCode c next).mode = .line) : s.stepCode c next = { s with mode := .line } := by
  by_cases hquote : c = '\x27' ∨ c = '"'
  · simp [stepCode, hquote] at hline
  · by_cases hslash : c = '/' ∧ next = some '/'
    · rw [stepCode, if_neg hquote, if_pos hslash]
    · simp only [stepCode, hquote, hslash, if_false, apply_ite mode, mode_push, mode_popIf, hs,
        ite_self] at hline
      split_ifs at hline

/-- In a line comment nothing is skipped, and it stands in no template. -/
def Steady (s : Scan) : Prop :=
  s.mode = .line → s.skipping = false ∧ s.opened.head? ≠ some .template

theorem steady_of_mode_ne {s : Scan} (hs : s.mode ≠ .line) : s.Steady :=
  fun hline => absurd hline hs

theorem Steady.step {s : Scan} (hs : s.Steady) (c : Char) (next : Option Char) :
    (s.step c next).Steady := by
  intro hline
  by_cases hskip : s.skipping = true
  · simp only [Scan.step, hskip, if_true] at hline ⊢
    exact ⟨trivial, (hs hline).2⟩
  · simp only [Scan.step, hskip, Bool.false_eq_true, if_false] at hline ⊢
    rw [Bool.not_eq_true] at hskip
    cases hmode : s.mode with
    | code =>
      simp only [hmode] at hline ⊢
      by_cases htop : s.opened.head? = some .template
      · rw [if_pos htop, mode_stepTemplate, hmode] at hline
        cases hline
      · rw [if_neg htop] at hline ⊢
        rw [stepCode_of_mode_line hmode hline]
        exact ⟨hskip, htop⟩
    | line =>
      simp only [hmode] at hline ⊢
      split_ifs at hline ⊢
      exact ⟨hskip, (hs hmode).2⟩
    | quoted q | regexp | block =>
      simp only [hmode] at hline
      split_ifs at hline
      all_goals simp [hmode] at hline

/-! ## Block comments -/

/-- A block comment that is not closed swallows the rest. -/
theorem commentsEnd_eq_false_of_block {s : Scan} (hmode : s.mode = .block)
    (hskip : s.skipping = false) {text : List Char} (hopen : closesBlock text = false) :
    s.commentsEnd text = false := by
  induction text with
  | nil => simp [commentsEnd, hmode]
  | cons c rest ih =>
    simp only [closesBlock, Bool.or_eq_false_iff, Bool.and_eq_false_iff,
      beq_eq_false_iff_ne] at hopen
    have hstep : s.step c rest.head? = s := by
      simp only [step, hskip, hmode, Bool.false_eq_true, if_false]
      rw [if_neg (by tauto)]
    simp [commentsEnd, hstep, ih hopen.2]

/-- A slash and an asterisk begin a block comment for the pass in any case. -/
theorem next_eq_step_of_commentsEnd {s : Scan} {c : Char} {rest : List Char}
    (hline : ¬ (s.mode = .line ∧ c = '\r'))
    (hend : (s.step c rest.head?).commentsEnd rest = true) :
    s.next c rest = s.step c rest.head? := by
  by_cases hopen : s.mode = .code ∧ c = '/' ∧ rest.head? = some '*' ∧ closesBlock rest.tail = false
  · obtain ⟨hmode, rfl, hstar, hclose⟩ := hopen
    rw [next, if_neg hline, if_pos ⟨hmode, rfl, hstar, hclose⟩]
    by_cases hskip : s.skipping = true
    · simp only [step, hskip, if_true]
    · by_cases htop : s.opened.head? = some .template
      · simp [step, hskip, hmode, htop, stepTemplate]
      · obtain ⟨tail, rfl⟩ : ∃ tail, rest = '*' :: tail := by
          cases rest with
          | nil => cases hstar
          | cons d tail => exact ⟨tail, by rw [Option.some.inj hstar]⟩
        have hblock : s.step '/' (some '*') = { s with mode := .block, skipping := true } := by
          simp [step, hskip, hmode, htop, stepCode]
        rw [List.head?_cons, hblock, commentsEnd, Bool.and_eq_true] at hend
        rw [List.tail_cons] at hclose
        have hswallow := commentsEnd_eq_false_of_block
          (s := Scan.step { s with mode := .block, skipping := true } '*' tail.head?)
          (by simp [step]) (by simp [step]) hclose
        rw [hend.2] at hswallow
        cases hswallow
  · rw [next, if_neg hline, if_neg hopen]

/-! ## Agreement -/

/-- Where comments end as they should, the pass finds as much nesting as with comments as in the
grammar; and while it passes over the blank rest of a line, the grammar may be in the code. -/
theorem truePeak_eq_peak_of_steady (text : List Char) {s : Scan} (hs : s.Steady)
    (hend : s.commentsEnd text = true) :
    s.truePeak text = s.peak text ∧
      (s.mode = .line → blankLine text = true →
        truePeak { s with mode := .code } text = s.peak text) := by
  induction text generalizing s with
  | nil => exact ⟨rfl, fun _ _ => rfl⟩
  | cons c rest ih =>
    simp only [commentsEnd, Bool.and_eq_true, decide_eq_true_eq] at hend
    obtain ⟨hreturn, hend⟩ := hend
    obtain ⟨ihsame, ihblank⟩ := ih (hs.step c rest.head?) hend
    constructor
    · by_cases hline : s.mode = .line ∧ c = '\r'
      · obtain ⟨hmode, rfl⟩ := hline
        have hstep : s.step '\r' rest.head? = s := by
          simp [step, hmode, (hs hmode).1]
        rw [hstep] at ihblank
        simp only [truePeak, peak, peakBy, next, hmode, hstep] at ihblank ⊢
        simp only [and_self, if_true]
        rw [ihblank trivial (hreturn hmode rfl)]
      · simp only [truePeak, peak, peakBy] at ihsame ⊢
        rw [next_eq_step_of_commentsEnd hline hend, ihsame]
    · intro hmode hblank
      obtain ⟨mode, st, b, skipping⟩ := s
      obtain ⟨hskip, htop⟩ := hs hmode
      simp only at hmode hskip htop
      subst hmode hskip
      simp only [truePeak, peak, peakBy] at ihsame ihblank ⊢
      simp only [blankLine, Bool.or_eq_true, Bool.and_eq_true, beq_iff_eq] at hblank
      by_cases hfeed : c = '\n'
      · subst hfeed
        have hstep : step ⟨.line, st, b, false⟩ '\n' rest.head? = code st b := by
          simp [step, code]
        have hnext : (code st b).next '\n' rest = code st b := next_blank htop (by decide)
        rw [code] at hnext hstep
        rw [hstep] at ihsame ⊢
        rw [hnext, ihsame]
      · have hstep : step ⟨.line, st, b, false⟩ c rest.head? = ⟨.line, st, b, false⟩ := by
          simp [step, hfeed]
        rw [hstep] at ihsame ihblank ⊢
        obtain (rfl | ⟨rfl, hslash⟩) | ⟨hc, hrest⟩ := hblank
        · exact absurd rfl hfeed
        · have hnext : (code st b).next '/' rest = ⟨.line, st, b, false⟩ :=
            next_line_comment htop hslash
          rw [code] at hnext
          rw [hnext, ihsame]
        · have hnext : (code st b).next c rest = code st b := next_blank htop hc
          rw [code] at hnext
          rw [hnext, ihblank rfl hrest]

end Scan

/-- Where comments end as they should, the pass finds as much nesting as with comments as in the
grammar. -/
theorem truePeak_eq_peak {text : List Char} (hend : Scan.initial.commentsEnd text = true) :
    Scan.initial.truePeak text = Scan.initial.peak text :=
  (Scan.truePeak_eq_peak_of_steady text (Scan.steady_of_mode_ne (by decide)) hend).1

end ExprLang
