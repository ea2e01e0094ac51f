import ExprLang.Error.Span
import ExprLang.Grammar.Blank
import ExprLang.Proofs.Grammar.Steps
import ExprLang.Source.Nesting

/-!
# ExprLang.Proofs.Source.Place

Places that lie in a text, and the text that stands at them.

A place is only a line and a column.  `Position.In` says that the text has this line and that the
line has this column, and `textAt` is what of the text begins there.  What the parser keeps is more:
its cursors hold the place after what was read together with what is left (`Position.Marks`), and
from that both follow (`Position.Marks.isIn`, `Position.Marks.textAt_eq`).
-/

namespace ExprLang

/-- A place in a text: one of its lines, and a character of that line or the end of it. -/
structure Position.In (text : List Char) (p : Position) : Prop where
  line_pos : 1 ≤ p.line
  line_le : p.line ≤ (splitLines text).length
  column_pos : 1 ≤ p.column
  column_le : ∀ line, (splitLines text)[p.line - 1]? = some line → p.column ≤ line.length + 1

/-- What of a text begins at a place. -/
def textAt (text : List Char) (p : Position) : List Char :=
  text.drop (lineStart text p.line + (p.column - 1))

/-- The place that is reached after the part of a text before `rest`. -/
def Position.Marks (text : List Char) (p : Position) (rest : List Char) : Prop :=
  ∃ read, text = read ++ rest ∧ p = Position.first.after read

/-! ## Lines -/

/-- Lines, each with the line feed that ends it. -/
def joinLines (lines : List (List Char)) : List Char := lines.flatMap fun l => l ++ ['\n']

@[simp] theorem joinLines_nil : joinLines [] = [] := rfl

@[simp] theorem joinLines_cons (l : List Char) (ls : List (List Char)) :
    joinLines (l :: ls) = l ++ '\n' :: joinLines ls := by
  simp [joinLines]

/-- A text is some whole lines and the beginning of the next. -/
theorem exists_lines (text : List Char) : ∃ lines last, text = joinLines lines ++ last ∧
    (∀ l ∈ lines, '\n' ∉ l) ∧ '\n' ∉ last := by
  induction text with
  | nil => exact ⟨[], [], by simp⟩
  | cons c text ih =>
    obtain ⟨lines, last, rfl, hlines, hlast⟩ := ih
    by_cases hc : c = '\n'
    · refine ⟨[] :: lines, last, by simp [hc], ?_, hlast⟩
      simpa using hlines
    · have hne : ¬ '\n' = c := fun h => hc h.symm
      cases lines with
      | nil => exact ⟨[], c :: last, by simp, by simp, by simp [hlast, hne]⟩
      | cons l ls =>
        refine ⟨(c :: l) :: ls, last, by simp, ?_, hlast⟩
        simp only [List.forall_mem_cons] at hlines ⊢
        exact ⟨by simp [hlines.1, hne], hlines.2⟩

theorem splitLines_ne_nil (text : List Char) : splitLines text ≠ [] := by
  cases text with
  | nil => simp [splitLines]
  | cons c text =>
    rw [splitLines]
    split
    · simp
    · split <;> simp

/-- Characters other than line feeds lengthen the first line. -/
theorem splitLines_append {w : List Char} (hw : '\n' ∉ w) (text : List Char) :
    ∃ l ls, splitLines text = l :: ls ∧ splitLines (w ++ text) = (w ++ l) :: ls := by
  induction w with
  | nil =>
    cases h : splitLines text with
    | nil => exact absurd h (splitLines_ne_nil text)
    | cons l ls => exact ⟨l, ls, rfl, h⟩
  | cons c w ih =>
    rw [List.mem_cons, not_or] at hw
    obtain ⟨l, ls, htext, happend⟩ := ih hw.2
    refine ⟨l, ls, htext, ?_⟩
    rw [List.cons_append, splitLines, if_neg (fun h => hw.1 h.symm), happend]
    rfl

/-- Each whole line is split off as it is. -/
theorem splitLines_joinLines {lines : List (List Char)} (h : ∀ l ∈ lines, '\n' ∉ l)
    (text : List Char) : splitLines (joinLines lines ++ text) = lines ++ splitLines text := by
  induction lines with
  | nil => rfl
  | cons l lines ih =>
    rw [List.forall_mem_cons] at h
    have hrest := ih h.2
    obtain ⟨first, others, hfirst, hall⟩ :=
      splitLines_append h.1 ('\n' :: (joinLines lines ++ text))
    rw [splitLines, if_pos rfl, List.cons.injEq] at hfirst
    rw [joinLines_cons, List.append_assoc, List.cons_append, hall, ← hfirst.1, ← hfirst.2, hrest]
    simp

theorem Position.after_of_notMem {w : List Char} (hw : '\n' ∉ w) (p : Position) :
    p.after w = ⟨p.line, p.column + w.length⟩ := by
  induction w generalizing p with
  | nil => rfl
  | cons c w ih =>
    rw [List.mem_cons, not_or] at hw
    rw [after_cons, ih hw.2, next, if_neg (fun h => hw.1 h.symm), List.length_cons]
    simp only [Position.mk.injEq, true_and]
    omega

theorem Position.after_joinLines {lines : List (List Char)} (h : ∀ l ∈ lines, '\n' ∉ l)
    (line : Nat) : (⟨line, 1⟩ : Position).after (joinLines lines) = ⟨line + lines.length, 1⟩ := by
  induction lines generalizing line with
  | nil => rfl
  | cons l lines ih =>
    rw [List.forall_mem_cons] at h
    rw [joinLines_cons, after_append, after_of_notMem h.1, after_cons, next, if_pos rfl, ih h.2,
      List.length_cons]
    simp only [Position.mk.injEq, and_true]
    omega

theorem foldl_length_eq (ls : List (List Char)) (n : Nat) :
    ls.foldl (fun n l => n + l.length + 1) n = n + (joinLines ls).length := by
  induction ls generalizing n with
  | nil => simp
  | cons l ls ih =>
    rw [List.foldl_cons, ih, joinLines_cons, List.length_append, List.length_cons]
    omega

/-- A line begins behind the lines before it, with their line feeds. -/
theorem lineStart_eq (text : List Char) (line : Nat) :
    lineStart text line = (joinLines ((splitLines text).take (line - 1))).length := by
  rw [lineStart, foldl_length_eq, Nat.zero_add]

/-- The lines before a line, with their line feeds, are as long as the number of its first
character says. -/
theorem lineStart_joinLines {lines : List (List Char)} (h : ∀ l ∈ lines, '\n' ∉ l)
    (text : List Char) :
    lineStart (joinLines lines ++ text) (lines.length + 1) = (joinLines lines).length := by
  rw [lineStart_eq, splitLines_joinLines h, Nat.add_sub_cancel, List.take_left]

/-! ## Marked places -/

namespace Position

variable {text rest : List Char} {p : Position}

theorem marks_first (text : List Char) : Position.first.Marks text text := ⟨[], rfl, rfl⟩

theorem Marks.after {w : List Char} (h : p.Marks text (w ++ rest)) :
    (p.after w).Marks text rest := by
  obtain ⟨read, rfl, rfl⟩ := h
  exact ⟨read ++ w, by simp, (after_append _ _ _).symm⟩

/-- A marked place is the one behind its lines and behind the beginning of its own line. -/
theorem Marks.lines (h : p.Marks text rest) : ∃ lines last,
    text = joinLines lines ++ (last ++ rest) ∧ (∀ l ∈ lines, '\n' ∉ l) ∧ '\n' ∉ last ∧
      p = ⟨lines.length + 1, last.length + 1⟩ := by
  obtain ⟨read, rfl, rfl⟩ := h
  obtain ⟨lines, last, rfl, hlines, hlast⟩ := exists_lines read
  refine ⟨lines, last, by simp, hlines, hlast, ?_⟩
  rw [after_append, first, after_joinLines hlines, after_of_notMem hlast]
  simp only [Position.mk.injEq]
  omega

/-- A marked place lies in the text. -/
theorem Marks.isIn (h : p.Marks text rest) : p.In text := by
  obtain ⟨lines, last, rfl, hlines, hlast, rfl⟩ := h.lines
  obtain ⟨l, ls, -, hsplit⟩ := splitLines_append hlast rest
  have hall : splitLines (joinLines lines ++ (last ++ rest)) = lines ++ (last ++ l) :: ls := by
    rw [splitLines_joinLines hlines, hsplit]
  refine ⟨Nat.le_add_left _ _, ?_, Nat.le_add_left _ _, fun line hline => ?_⟩
  · simp [hall]
  · rw [hall, Nat.add_sub_cancel, List.getElem?_append_right (Nat.le_refl _), Nat.sub_self] at hline
    obtain rfl := Option.some.inj hline
    simp

/-- What is left at a marked place is what of the text begins there. -/
theorem Marks.textAt_eq (h : p.Marks text rest) : textAt text p = rest := by
  obtain ⟨lines, last, rfl, hlines, hlast, rfl⟩ := h.lines
  rw [textAt, lineStart_joinLines hlines, Nat.add_sub_cancel, ← List.drop_drop, List.drop_left,
    List.drop_left]

end Position

/-! ## Cursors -/

namespace Cursor

variable {text : List Char} {k : Cursor}

/-- A cursor over a text. -/
def In (text : List Char) (k : Cursor) : Prop := k.position.Marks text k.rest

theorem in_ofText (text : List Char) : (Cursor.ofText text).In text := Position.marks_first text

theorem In.advance (h : k.In text) (n : Nat) : (k.advance n).In text := by
  rw [In, rest_advance, position_advance]
  refine Position.Marks.after ?_
  rwa [List.take_append_drop]

theorem In.skip (h : k.In text) (s : Spacing) : (k.skip s).In text := by
  cases s with
  | free => exact h.advance _
  | tight | sealed => exact h

end Cursor

/-- The opener that nests too deeply stands in the text. -/
theorem marks_deepOpener? {limit : Nat} {text : List Char} {p : Position}
    (h : deepOpener? limit text = some p) : ∃ rest, p.Marks text rest := by
  have hfrom : ∀ (s : Scan) (q : Position) (l : List Char), q.Marks text l →
      deepOpenerFrom limit s q l = some p → ∃ rest, p.Marks text rest := by
    intro s q l
    induction l generalizing s q with
    | nil =>
      intro _ hsome
      cases hsome
    | cons c l ih =>
      intro hq hsome
      rw [deepOpenerFrom] at hsome
      split at hsome
      · rw [← Option.some.inj hsome]
        exact ⟨_, hq⟩
      · exact ih _ _ (hq.after (w := [c])) hsome
  exact hfrom _ _ _ (Position.marks_first text) h

end ExprLang
