import ExprLang.Proofs.Source.Pass

/-!
# ExprLang.Proofs.Source.Blanks

Blanks leave the state of the pass as it was: while `blankRun` passes over blanks and comments, the
pass goes along, state by state (`BlankState.scan`), and is between tokens again where the blanks
end.  Only at the end of the text may it still be in a line comment.
-/

namespace ExprLang

open Scan

/-- The pass is between tokens with the levels `st` open, or at the end of the text. -/
def Between (st : List Opener) (b : Bool) (l : List Char) (s : Scan) : Prop :=
  s.opened = st ∧ (l ≠ [] → s = code st b)

theorem between_code (st : List Opener) (b : Bool) (l : List Char) : Between st b l (code st b) :=
  ⟨rfl, fun _ => rfl⟩

attribute [grind =] BlankState.atStart blankRun

/-! ## Where no blank begins -/

/-- An unclosed block comment is no blank. -/
theorem blankRun_of_not_closesBlock {text : List Char} (hopen : closesBlock text = false)
    {star : Bool} (hstar : star = true → text.head? ≠ some '/') (seen sure : Nat) :
    blankRun (.block star) seen sure text = sure := by
  induction text generalizing star seen with
  | nil => rfl
  | cons c rest ih =>
    simp only [closesBlock, Bool.or_eq_false_iff, Bool.and_eq_false_iff,
      beq_eq_false_iff_ne] at hopen
    have hc : ¬ (star = true ∧ c = '/') := by
      rintro ⟨rfl, rfl⟩
      exact hstar rfl rfl
    rw [blankRun, if_neg hc]
    refine ih hopen.2 (fun hsc => ?_) _
    rw [beq_iff_eq] at hsc
    exact hopen.1.resolve_left (fun hne => hne hsc)

/-- Blanks end where neither a blank nor a comment that is closed begins. -/
theorem blankRun_outside_of_atStart {text : List Char}
    (h : BlankState.atStart text = none ∨
      BlankState.atStart text = some (.opening true) ∧ closesBlock (text.drop 2) = false)
    (n : Nat) :
    blankRun .outside n n text = n := by
  cases text with
  | nil => rfl
  | cons c rest =>
    rcases h with h | ⟨h, hopen⟩
    · simp only [blankRun, h]
    · simp only [blankRun, h]
      cases rest with
      | nil => rfl
      | cons d tail =>
        rw [blankRun]
        refine blankRun_of_not_closesBlock hopen (fun h => by cases h) _ _

/-! ## Going along -/

/-- The state of the pass where a pass over blanks stands, `text` being ahead: after an asterisk
that a slash follows the pass has left the comment already. -/
def BlankState.scan (st : List Opener) (b : Bool) (text : List Char) : BlankState → Scan
  | .outside => code st b
  | .opening false => ⟨.line, st, b, false⟩
  | .opening true => ⟨.block, st, b, true⟩
  | .line => ⟨.line, st, b, false⟩
  | .block star =>
    if star = true ∧ text.head? = some '/' then ⟨.code, st, b, true⟩ else ⟨.block, st, b, false⟩

/-- What is ahead of a pass over blanks, given that the comment it is in is one. -/
def BlankState.Ahead (text : List Char) : BlankState → Prop
  | .outside | .line => True
  | .opening false => text.head? = some '/'
  | .opening true => text ≠ [] ∧ closesBlock text.tail = true
  | .block star => (star = true ∧ text.head? = some '/') ∨ closesBlock text = true

section Scan

variable (st : List Opener) (b : Bool) (text : List Char)

@[simp]
theorem BlankState.scan_outside : outside.scan st b text = code st b :=
  rfl

@[simp]
theorem BlankState.scan_line : line.scan st b text = ⟨.line, st, b, false⟩ :=
  rfl

@[simp]
theorem BlankState.scan_opening (block : Bool) : (opening block).scan st b text =
    if block then ⟨.block, st, b, true⟩ else ⟨.line, st, b, false⟩ := by
  cases block <;> rfl

theorem BlankState.scan_block (star : Bool) : (block star).scan st b text =
    if star = true ∧ text.head? = some '/' then ⟨.code, st, b, true⟩
    else ⟨.block, st, b, false⟩ :=
  rfl

theorem BlankState.opened_scan (σ : BlankState) : (σ.scan st b text).opened = st := by
  cases σ with
  | outside | line => rfl
  | opening block => cases block <;> rfl
  | block star =>
    rw [scan_block]
    split <;> rfl

end Scan

/-- What can begin a blank at `text`, and what the pass does there. -/
theorem next_of_atStart {st : List Opener} (hst : st.head? ≠ some .template) (b : Bool) {c : Char}
    {rest : List Char} {σ : BlankState} (h : BlankState.atStart (c :: rest) = some σ)
    (hclose : σ = .opening true → closesBlock (rest.drop 1) = true) :
    σ.Ahead rest ∧ (code st b).next c rest = σ.scan st b rest ∧
      (σ = .outside ∨ ∃ block, σ = .opening block) := by
  unfold BlankState.atStart at h
  split at h
  · next tail heq =>
    cases heq
    cases h
    exact ⟨rfl, next_line_comment hst rfl, .inr ⟨_, rfl⟩⟩
  · next tail heq =>
    cases heq
    cases h
    have hclose := hclose rfl
    exact ⟨⟨by simp, hclose⟩, next_block_comment hst rfl hclose, .inr ⟨_, rfl⟩⟩
  · next heq =>
    cases heq
    split at h
    · next hblank =>
      cases h
      exact ⟨trivial, next_blank hst hblank, .inl rfl⟩
    · cases h
  · cases h

/-- From where a pass over blanks stands, the pass over the text reaches the end of the blanks
without opening or closing anything, and no blank begins there. -/
def ReachesEnd (st : List Opener) (b : Bool) (text : List Char) (σ : BlankState)
    (seen sure : Nat) : Prop :=
  ∃ j s, blankRun σ seen sure text = seen + j ∧
    Walk text (σ.scan st b text) st.length (text.drop j) s ∧
    Between st b (text.drop j) s ∧ blankLength (text.drop j) = 0

/-- The end is reached from every state that can be met at `text`. -/
def Onward (st : List Opener) (b : Bool) (text : List Char) : Prop :=
  ∀ (σ : BlankState) (seen sure : Nat), σ.Ahead text → (σ = .outside → sure = seen) →
    ReachesEnd st b text σ seen sure

variable {st : List Opener} {b : Bool} {c : Char} {rest : List Char} {seen sure : Nat}

/-- One character, after which the pass over blanks stands at `τ`. -/
theorem Onward.step (h : Onward st b rest) {σ : BlankState} (τ : BlankState) (sure' : Nat)
    (hrun : blankRun σ seen sure (c :: rest) = blankRun τ (seen + 1) sure' rest)
    (hscan : (σ.scan st b (c :: rest)).next c rest = τ.scan st b rest) (hτ : τ.Ahead rest)
    (hsure : τ = .outside → sure' = seen + 1) : ReachesEnd st b (c :: rest) σ seen sure := by
  obtain ⟨j, s, hj, w, hbetween, hzero⟩ := h τ (seen + 1) sure' hτ hsure
  refine ⟨j + 1, s, by omega, ?_, hbetween, hzero⟩
  rw [← hscan] at w
  have w' := Walk.step w
  rwa [BlankState.opened_scan, Nat.max_self] at w'

theorem Onward.outside (hst : st.head? ≠ some .template) (h : Onward st b rest) (n : Nat) :
    ReachesEnd st b (c :: rest) .outside n n := by
  have hdone : BlankState.atStart (c :: rest) = none ∨
      BlankState.atStart (c :: rest) = some (.opening true) ∧
        closesBlock ((c :: rest).drop 2) = false → ReachesEnd st b (c :: rest) .outside n n := by
    intro hat
    exact ⟨0, code st b, blankRun_outside_of_atStart hat _, .refl _ _, between_code _ _ _,
      blankRun_outside_of_atStart hat 0⟩
  cases hat : BlankState.atStart (c :: rest) with
  | none => exact hdone (.inl hat)
  | some τ =>
    by_cases hclose : τ = .opening true ∧ closesBlock (rest.drop 1) = false
    · obtain ⟨rfl, hclose⟩ := hclose
      exact hdone (.inr ⟨hat, hclose⟩)
    · rw [not_and, Bool.not_eq_false] at hclose
      obtain ⟨hτ, hscan, rfl | ⟨block, rfl⟩⟩ := next_of_atStart hst b hat hclose
      · exact h.step .outside (n + 1) (by simp only [blankRun, hat]) hscan hτ fun _ => rfl
      · exact h.step (.opening block) n (by simp only [blankRun, hat]) hscan hτ nofun

theorem Onward.opening (h : Onward st b rest) {block : Bool}
    (hahead : (BlankState.opening block).Ahead (c :: rest)) :
    ReachesEnd st b (c :: rest) (.opening block) seen sure := by
  cases block with
  | false =>
    obtain rfl : c = '/' := Option.some.inj hahead
    exact h.step .line (seen + 1) rfl (by simp [next, Scan.step]) trivial (fun h => by cases h)
  | true =>
    exact h.step (.block false) sure rfl (by simp [BlankState.scan_block, next_skipping])
      (.inr hahead.2) (fun h => by cases h)

theorem Onward.line (h : Onward st b rest) : ReachesEnd st b (c :: rest) .line seen sure := by
  by_cases hend : c = '\n' ∨ c = '\r'
  · refine h.step .outside (seen + 1) (by rw [blankRun, if_pos hend]) ?_ trivial fun _ => rfl
    rcases hend with rfl | rfl <;> simp [next, Scan.step, code]
  · refine h.step .line (seen + 1) (by rw [blankRun, if_neg hend]) ?_ trivial (fun h => by cases h)
    rw [not_or] at hend
    simp [next, Scan.step, hend]

theorem Onward.block (h : Onward st b rest) {star : Bool}
    (hahead : (BlankState.block star).Ahead (c :: rest)) :
    ReachesEnd st b (c :: rest) (.block star) seen sure := by
  by_cases hend : star = true ∧ c = '/'
  · refine h.step .outside (seen + 1) (by rw [blankRun, if_pos hend]) ?_ trivial fun _ => rfl
    obtain ⟨rfl, rfl⟩ := hend
    simp [BlankState.scan_block, next_skipping, code]
  · have hclose : closesBlock (c :: rest) = true :=
      hahead.resolve_left fun h => hend ⟨h.1, Option.some.inj h.2⟩
    have hscan : (BlankState.block star).scan st b (c :: rest) = ⟨.block, st, b, false⟩ := by
      simp [BlankState.scan_block, hend]
    simp only [closesBlock, Bool.or_eq_true, Bool.and_eq_true, beq_iff_eq] at hclose
    refine h.step (.block (c == '*')) sure (by rw [blankRun, if_neg hend]) ?_ ?_
      (fun h => by cases h)
    · rw [hscan]
      by_cases hleave : c = '*' ∧ rest.head? = some '/'
      · simp [BlankState.scan_block, next, Scan.step, hleave]
      · simp only [BlankState.scan_block, beq_iff_eq, hleave, if_false]
        simp [next, Scan.step, hleave]
    · exact hclose.imp_left fun hleave => ⟨beq_iff_eq.mpr hleave.1, hleave.2⟩

theorem onward (hst : st.head? ≠ some .template) (b : Bool) (text : List Char) :
    Onward st b text := by
  induction text with
  | nil =>
    intro σ seen sure hahead hsure
    cases σ with
    | outside =>
      exact ⟨0, code st b, by simp [blankRun, hsure], .refl _ _, between_code _ _ _, rfl⟩
    | line => exact ⟨0, ⟨.line, st, b, false⟩, rfl, .refl _ _, ⟨rfl, nofun⟩, rfl⟩
    | opening block =>
      cases block with
      | false => cases hahead
      | true => exact absurd rfl hahead.1
    | block star => obtain ⟨-, hahead⟩ | hahead := hahead <;> cases hahead
  | cons c rest ih =>
    intro σ seen sure hahead hsure
    cases σ with
    | outside =>
      rw [hsure rfl]
      exact ih.outside hst seen
    | opening block => exact ih.opening hahead
    | line => exact ih.line
    | block star => exact ih.block hahead

/-- A slash at which no blank begins does not begin a comment. -/
theorem slash_of_blankLength_eq_zero (h : blankLength ('/' :: rest) = 0) :
    rest.head? ≠ some '/' ∧ (rest.head? = some '*' → closesBlock rest.tail = false) := by
  have hreach : ∀ block, (BlankState.opening block).Ahead rest →
      blankRun (.opening block) 1 0 rest ≠ 0 := by
    intro block hahead
    have hreach : ReachesEnd [] false rest (.opening block) 1 0 :=
      onward (by decide) false rest _ 1 0 hahead nofun
    obtain ⟨j, -, hj, -⟩ := hreach
    omega
  cases rest with
  | nil => exact ⟨nofun, nofun⟩
  | cons d tail =>
    constructor
    · rintro ⟨⟩
      exact hreach false rfl h
    · rintro ⟨⟩
      by_contra hclose
      rw [List.tail_cons, Bool.not_eq_false] at hclose
      exact hreach true ⟨List.cons_ne_nil _ _, hclose⟩ h

/-- Skipping blanks leaves the pass between tokens. -/
theorem Between.walk_skip (hst : st.head? ≠ some .template) {l : List Char} {s : Scan}
    (h : Between st b l s) :
    ∃ s', Walk l s st.length (l.drop (blankLength l)) s' ∧
      Between st b (l.drop (blankLength l)) s' ∧ blankLength (l.drop (blankLength l)) = 0 := by
  cases l with
  | nil =>
    obtain ⟨rfl, -⟩ := h
    exact ⟨s, .refl _ _, ⟨rfl, nofun⟩, rfl⟩
  | cons c rest =>
    rw [h.2 (List.cons_ne_nil c rest)]
    obtain ⟨j, s', hj, w, hbetween, hzero⟩ :=
      onward hst b (c :: rest) .outside 0 0 trivial fun _ => rfl
    rw [Nat.zero_add] at hj
    rw [blankLength, hj]
    exact ⟨s', w, hbetween, hzero⟩

end ExprLang
