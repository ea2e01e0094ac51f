import ExprLang.Proofs.Source.Blanks

/-!
# ExprLang.Proofs.Grammar.Blanks

The blanks at the beginning of two texts that begin alike.  Where those of the first text end before
the texts part, those of the second end there too, if it goes on with a blank
(`blankLength_append_eq`): a comment that is open where the texts part stays open unless the second
text closes it.  And a text of blanks alone that is continued on a new line is followed by what the
continuation has behind its own blanks.
-/

namespace ExprLang

variable {σ : BlankState} {seen sure : Nat} {l b b' t : List Char}

/-- How many characters were read before does not matter. -/
theorem blankRun_add (σ : BlankState) (seen sure d : Nat) (l : List Char) :
    blankRun σ (seen + d) (sure + d) l = blankRun σ seen sure l + d := by
  induction l generalizing σ seen sure with
  | nil => cases σ <;> rfl
  | cons c l ih =>
    have hstep : ∀ τ sure', blankRun τ (seen + d + 1) (sure' + d) l =
        blankRun τ (seen + 1) sure' l + d := fun τ sure' => by
      rw [Nat.add_right_comm, ih]
    have hsure : ∀ τ, blankRun τ (seen + d + 1) (seen + d + 1) l =
        blankRun τ (seen + 1) (seen + 1) l + d := fun τ => by
      rw [Nat.add_right_comm seen d 1, ih]
    simp only [blankRun]
    repeat' split
    all_goals first | rfl | exact hstep _ _ | exact hsure _

theorem blankRun_le (hsure : sure ≤ seen) (l : List Char) :
    blankRun σ seen sure l ≤ seen + l.length := by
  induction l generalizing σ seen sure with
  | nil => cases σ <;> simp only [blankRun, List.length_nil] <;> omega
  | cons c l ih =>
    have hstep : ∀ τ sure', sure' ≤ seen + 1 →
        blankRun τ (seen + 1) sure' l ≤ seen + (c :: l).length := by
      intro τ sure' h
      have hle : blankRun τ (seen + 1) sure' l ≤ seen + 1 + l.length := ih h
      rw [List.length_cons]
      omega
    unfold blankRun
    repeat' split
    all_goals first | exact hstep _ _ (by omega) | omega

theorem blankLength_le (l : List Char) : blankLength l ≤ l.length := by
  have hle : blankRun .outside 0 0 l ≤ 0 + l.length := blankRun_le (Nat.le_refl 0) l
  rwa [Nat.zero_add] at hle

/-- The blanks end where they were certain to reach, or further on than the pass has come. -/
theorem blankRun_eq_or_le (σ : BlankState) (seen sure : Nat) (l : List Char) :
    blankRun σ seen sure l = sure ∨ seen ≤ blankRun σ seen sure l := by
  induction l generalizing σ seen sure with
  | nil => cases σ <;> simp [blankRun]
  | cons c l ih =>
    have hstep : ∀ τ, blankRun τ (seen + 1) sure l = sure ∨
        seen ≤ blankRun τ (seen + 1) sure l := fun τ => (ih τ _ _).imp_right fun h => by omega
    have hsure : ∀ τ, blankRun τ (seen + 1) (seen + 1) l = sure ∨
        seen ≤ blankRun τ (seen + 1) (seen + 1) l := fun τ => by
      rcases ih τ (seen + 1) (seen + 1) with h | h <;> omega
    unfold blankRun
    repeat' split
    all_goals first | exact hstep _ | exact hsure _ | exact .inl rfl

/-- What begins with a comment is longer than a character. -/
theorem ne_nil_of_atStart {c : Char} {block : Bool}
    (h : BlankState.atStart (c :: l) = some (.opening block)) : l ≠ [] := by
  rintro rfl
  simp only [BlankState.atStart] at h
  split at h <;> cases h

theorem isPrefix_of_atStart (h : BlankState.atStart l = some (.opening true)) :
    ['/', '*'] <+: l := by
  unfold BlankState.atStart at h
  split at h
  · cases h
  · next rest => exact ⟨rest, rfl⟩
  · split at h <;> cases h
  · cases h

/-- A pass is never in a comment at the beginning. -/
theorem atStart_cases {τ : BlankState} (h : BlankState.atStart l = some τ) :
    τ = .outside ∨ ∃ block, τ = .opening block := by
  unfold BlankState.atStart at h
  split at h
  · exact .inr ⟨false, (Option.some.inj h).symm⟩
  · exact .inr ⟨true, (Option.some.inj h).symm⟩
  · split at h
    · exact .inl (Option.some.inj h).symm
    · cases h
  · cases h

/-- The first two characters tell whether a blank begins. -/
theorem atStart_cons_append (c d : Char) (l b : List Char) :
    BlankState.atStart (c :: d :: l ++ b) = BlankState.atStart (c :: d :: l) := by
  by_cases hc : c = '/'
  · subst hc
    by_cases hline : d = '/'
    · subst hline
      rfl
    · by_cases hblock : d = '*'
      · subst hblock
        rfl
      · simp [BlankState.atStart, hline, hblock]
  · simp [BlankState.atStart, hc]

/-- Before a blank a slash begins no comment. -/
theorem atStart_cons_of_isBlank {d : Char} (hd : isBlank d = true) (c : Char) (t : List Char) :
    BlankState.atStart (c :: d :: t) = if isBlank c then some .outside else none := by
  by_cases hc : c = '/'
  · subst hc
    have hline : d ≠ '/' := by
      rintro rfl
      cases hd
    have hblock : d ≠ '*' := by
      rintro rfl
      cases hd
    simp [BlankState.atStart, hline, hblock]
  · simp [BlankState.atStart, hc]

theorem atStart_cons_of_ne {c : Char} (hc : c ≠ '/') (l : List Char) :
    BlankState.atStart (c :: l) = if isBlank c then some .outside else none := by
  simp [BlankState.atStart, hc]

/-- Where a pass over the blanks of a text can stand before what is left of it.  In a block comment
the certain blanks end where the comment begins. -/
def BlankState.Stands (σ : BlankState) (text : List Char) (seen sure : Nat) (l : List Char) : Prop :=
  match σ with
  | .outside | .line => sure = seen
  | .opening comment => sure < seen ∧ l ≠ [] ∧ (comment = true → ['/', '*'] <+: text.drop sure)
  | .block _ => sure < seen ∧ ['/', '*'] <+: text.drop sure

/-- A pass that goes on is in a state that depends on the characters ahead only as far as they tell
whether a blank begins. -/
theorem exists_step {text : List Char} {c : Char} (htext : text.drop seen = c :: l)
    (hσ : σ.Stands text seen sure (c :: l)) (hgo : σ = .outside → BlankState.atStart (c :: l) ≠ none) :
    ∃ τ sure', τ.Stands text (seen + 1) sure' l ∧ ∀ l',
      (σ = .outside → BlankState.atStart (c :: l') = BlankState.atStart (c :: l)) →
      blankRun σ seen sure (c :: l') = blankRun τ (seen + 1) sure' l' := by
  cases σ with
  | outside =>
    obtain rfl : sure = seen := hσ
    obtain ⟨τ, h⟩ := Option.ne_none_iff_exists'.mp (hgo rfl)
    rcases atStart_cases h with rfl | ⟨block, rfl⟩
    · exact ⟨.outside, sure + 1, rfl, fun l' h' => by simp only [blankRun, h' rfl, h]⟩
    · refine ⟨.opening block, sure, ⟨Nat.lt_succ_self _, ne_nil_of_atStart h, ?_⟩,
        fun l' h' => by simp only [blankRun, h' rfl, h]⟩
      rintro rfl
      rw [htext]
      exact isPrefix_of_atStart h
  | line =>
    by_cases hc : c = '\n' ∨ c = '\r'
    · exact ⟨.outside, seen + 1, rfl, fun l' _ => by simp only [blankRun, if_pos hc]⟩
    · exact ⟨.line, seen + 1, rfl, fun l' _ => by simp only [blankRun, if_neg hc]⟩
  | opening block =>
    obtain ⟨hseen, -, hcomment⟩ := hσ
    cases block with
    | false => exact ⟨.line, seen + 1, rfl, fun _ _ => rfl⟩
    | true => exact ⟨.block false, sure, ⟨Nat.lt_succ_of_lt hseen, hcomment rfl⟩, fun _ _ => rfl⟩
  | block star =>
    obtain ⟨hseen, hcomment⟩ := hσ
    by_cases hc : star = true ∧ c = '/'
    · exact ⟨.outside, seen + 1, rfl, fun l' _ => by simp only [blankRun, if_pos hc]⟩
    · exact ⟨.block (c == '*'), sure, ⟨Nat.lt_succ_of_lt hseen, hcomment⟩,
        fun l' _ => by simp only [blankRun, if_neg hc]⟩

/-- Where the blanks of the first text end in the common part although the pass has come to its end,
a block comment is open there, and the second text does not close it. -/
theorem blankRun_eq_of_parted {text : List Char} {c : Char} (hc : isBlank c = true)
    (hσ : σ.Stands text seen sure b) (hlt : blankRun σ seen sure b < seen)
    (hopen : closesBlock (c :: t) = false ∨ ¬ ['/', '*'] <+: text.drop (blankRun σ seen sure b)) :
    blankRun σ seen sure (c :: t) = blankRun σ seen sure b := by
  have hsure : blankRun σ seen sure b = sure :=
    (blankRun_eq_or_le σ seen sure b).resolve_right (Nat.not_le.mpr hlt)
  rw [hsure] at hlt hopen ⊢
  have hslash : c ≠ '/' := by
    rintro rfl
    cases hc
  cases σ with
  | outside | line => exact absurd (show sure = seen from hσ) (by omega)
  | opening block =>
    cases block with
    | false =>
      obtain ⟨d, rest, rfl⟩ := List.exists_cons_of_ne_nil hσ.2.1
      have hle := blankRun_eq_or_le .line (seen + 1) (seen + 1) rest
      have hrun : blankRun .line (seen + 1) (seen + 1) rest = sure := hsure
      omega
    | true =>
      have hnone := hopen.resolve_right (not_not_intro (hσ.2.2 rfl))
      rw [closesBlock, Bool.or_eq_false_iff] at hnone
      exact blankRun_of_not_closesBlock hnone.2 (fun h => by cases h) _ _
  | block star =>
    have hnone := hopen.resolve_right (not_not_intro hσ.2)
    refine blankRun_of_not_closesBlock hnone (fun _ => ?_) _ _
    simpa using hslash

/-- A pass over blanks that stops in the common part of two texts stops there in both.  If it stops
before a block comment that is open, the second text must not close it. -/
theorem blankRun_append_eq {text : List Char} {c : Char} (hc : isBlank c = true)
    (htext : text.drop seen = l ++ b) (hσ : σ.Stands text seen sure (l ++ b))
    (hlt : blankRun σ seen sure (l ++ b) < seen + l.length)
    (hopen : closesBlock (c :: t) = false ∨
      ¬ ['/', '*'] <+: text.drop (blankRun σ seen sure (l ++ b))) :
    blankRun σ seen sure (l ++ c :: t) = blankRun σ seen sure (l ++ b) := by
  induction l generalizing σ seen sure with
  | nil => exact blankRun_eq_of_parted hc hσ hlt hopen
  | cons d l ih =>
    by_cases hslash : σ = .outside ∧ l = [] ∧ d = '/'
    · -- the texts part behind the slash, which begins no comment in the second one
      obtain ⟨rfl, rfl, rfl⟩ := hslash
      obtain rfl : sure = seen := hσ
      have hstop : blankRun .outside sure sure ('/' :: c :: t) = sure := by
        simp [blankRun, atStart_cons_of_isBlank hc, isBlank]
      refine hstop.trans ((blankRun_eq_or_le .outside sure sure ('/' :: b)).elim Eq.symm fun hle => ?_)
      rw [List.length_singleton] at hlt
      exact Nat.le_antisymm hle (Nat.le_of_lt_succ hlt)
    · have hat : σ = .outside →
          BlankState.atStart (d :: (l ++ c :: t)) = BlankState.atStart (d :: (l ++ b)) := by
        intro hout
        cases l with
        | nil =>
          have hd : d ≠ '/' := fun h => hslash ⟨hout, rfl, h⟩
          rw [atStart_cons_of_ne hd, atStart_cons_of_ne hd]
        | cons e l => exact (atStart_cons_append d e l _).trans (atStart_cons_append d e l b).symm
      rw [List.cons_append] at htext hσ hlt hopen
      rw [List.cons_append, List.cons_append]
      by_cases hgo : σ = .outside → BlankState.atStart (d :: (l ++ b)) ≠ none
      · obtain ⟨τ, sure', hτ, hrun⟩ := exists_step htext hσ hgo
        rw [hrun _ fun _ => rfl] at hlt hopen
        rw [hrun _ hat, hrun _ fun _ => rfl]
        refine ih (by rw [← List.drop_drop, htext]; rfl) hτ ?_ hopen
        rw [List.length_cons] at hlt
        omega
      · push Not at hgo
        obtain ⟨rfl, hnone⟩ := hgo
        simp only [blankRun, hat rfl, hnone]

/-- Blanks that end before two texts part. -/
theorem blankLength_append_eq {c : Char} (hc : isBlank c = true)
    (hlt : blankLength (l ++ b) < l.length)
    (hopen : closesBlock (c :: t) = false ∨
      ¬ ['/', '*'] <+: (l ++ b).drop (blankLength (l ++ b))) :
    blankLength (l ++ c :: t) = blankLength (l ++ b) := by
  have hstands : BlankState.outside.Stands (l ++ b) 0 0 (l ++ b) := rfl
  exact blankRun_append_eq hc List.drop_zero hstands (by rwa [Nat.zero_add]) hopen

/-- A pass over a text that is nothing but blanks goes on to the end of the line. -/
theorem blankRun_append_line {text : List Char} (hblank : blankLength t = 0)
    (htext : text.drop seen = l) (hσ : σ.Stands text seen sure l)
    (hall : blankRun σ seen sure l = seen + l.length) :
    blankRun σ seen sure (l ++ '\n' :: t) = seen + l.length + 1 := by
  induction l generalizing σ seen sure with
  | nil =>
    have hstop : blankRun .outside (seen + 1) (seen + 1) t = seen + 1 := by
      have hadd := blankRun_add .outside 0 0 (seen + 1) t
      rwa [Nat.zero_add, ← blankLength, hblank, Nat.zero_add] at hadd
    cases σ with
    | outside | line => exact hstop
    | opening block => exact absurd rfl hσ.2.1
    | block star => exact absurd (show sure = seen from hall) (Nat.ne_of_lt hσ.1)
  | cons c l ih =>
    have hgo : σ = .outside → BlankState.atStart (c :: l) ≠ none := by
      rintro rfl hnone
      obtain rfl : sure = seen := hσ
      simp only [blankRun, hnone, List.length_cons] at hall
      omega
    have hat : BlankState.atStart (c :: (l ++ '\n' :: t)) = BlankState.atStart (c :: l) := by
      cases l with
      | nil =>
        by_cases hc : c = '/'
        · subst hc
          rfl
        · rw [List.nil_append, atStart_cons_of_ne hc, atStart_cons_of_ne hc]
      | cons d l => exact atStart_cons_append c d l _
    obtain ⟨τ, sure', hτ, hrun⟩ := exists_step htext hσ hgo
    rw [hrun _ fun _ => rfl, List.length_cons] at hall
    rw [List.cons_append, hrun _ fun _ => hat,
      ih (by rw [← List.drop_drop, htext]; rfl) hτ (by omega), List.length_cons]
    omega

/-- A text of blanks alone that is continued on a new line. -/
theorem blankLength_append_line (hblank : blankLength t = 0) (hall : blankLength l = l.length) :
    blankLength (l ++ '\n' :: t) = l.length + 1 := by
  have hstands : BlankState.outside.Stands l 0 0 l := rfl
  have hrun := blankRun_append_line hblank List.drop_zero hstands (by rwa [Nat.zero_add])
  rwa [Nat.zero_add] at hrun

end ExprLang
