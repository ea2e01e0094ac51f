import ExprLang.Proofs.Source.Place
import Mathlib.Algebra.Group.Nat.Defs

/-!
# ExprLang.Proofs.Error.Excerpts

Which lines an excerpt shows, and where a span begins.

The line meant is always one of the text, and so is the last line shown.  Both the last line and the
start of a span are found by a sum of words.  As long as the sum is a word, the excerpt has the line
meant, with the caret below it, and the span begins at the character meant; where it is not, the
excerpt ends before that line, and the span begins before it (`excerpt_and_span`).
-/

namespace ExprLang

/-! ## Lines -/

/-- The lines of a text with their line feeds are the text with one more. -/
theorem joinLines_splitLines (text : List Char) : joinLines (splitLines text) = text ++ ['\n'] := by
  induction text with
  | nil => rfl
  | cons c text ih =>
    rw [splitLines]
    split
    · next hc => rw [joinLines_cons, ih, hc, List.nil_append, List.cons_append]
    · split
      · next l ls heq =>
        rw [heq, joinLines_cons] at ih
        rw [joinLines_cons, List.cons_append, ih, List.cons_append]
      · next heq => exact absurd heq (splitLines_ne_nil text)

theorem length_le_length_joinLines (lines : List (List Char)) :
    lines.length ≤ (joinLines lines).length := by
  induction lines with
  | nil => exact Nat.le_refl 0
  | cons l lines ih =>
    rw [joinLines_cons, List.length_append, List.length_cons, List.length_cons]
    omega

theorem length_splitLines_le (text : List Char) : (splitLines text).length ≤ text.length + 1 := by
  have hle := length_le_length_joinLines (splitLines text)
  rwa [joinLines_splitLines, List.length_append, List.length_singleton] at hle

/-- Every line begins in the text or, where there is none, just behind its end. -/
theorem lineStart_le (text : List Char) (line : Nat) : lineStart text line ≤ text.length + 1 := by
  have hall := congrArg List.length (joinLines_splitLines text)
  rw [← List.take_append_drop (line - 1) (splitLines text), joinLines, List.flatMap_append,
    List.length_append, List.length_append, List.length_singleton] at hall
  rw [lineStart_eq, joinLines]
  omega

/-! ## Parts of lists -/

/-- The elements from one index up to but not including another. -/
def List.between {α : Type} (xs : List α) (i j : Nat) : List α := (xs.take j).drop i

theorem List.between_eq_append {α : Type} {xs : List α} {i t j : Nat} {x : α} (hi : i ≤ t)
    (hj : t < j) (hx : xs[t]? = some x) :
    List.between xs i j = List.between xs i t ++ x :: List.between xs (t + 1) j := by
  obtain ⟨hlt, rfl⟩ := List.getElem?_eq_some_iff.mp hx
  have htake : xs.take j = xs.take t ++ (xs.take j).drop t := by
    have hsplit := (List.take_append_drop t (xs.take j)).symm
    rwa [List.take_take, Nat.min_eq_left (Nat.le_of_lt hj)] at hsplit
  have hle : i ≤ (xs.take t).length := by
    rw [List.length_take]
    omega
  have hdrop : (xs.take j).drop t = xs[t] :: List.between xs (t + 1) j := by
    rw [List.drop_eq_getElem_cons (by rw [List.length_take]; omega), List.getElem_take,
      List.between]
  rw [List.between, htake, List.drop_append_of_le_length hle, hdrop]
  rfl

theorem List.mem_between_zipIdx {α : Type} {xs : List α} {i j : Nat} {l : α × Nat}
    (h : l ∈ List.between xs.zipIdx i j) : i ≤ l.2 ∧ l.2 < j := by
  obtain ⟨k, hk, rfl⟩ := List.getElem_of_mem h
  simp only [List.between, List.length_drop, List.length_take, List.length_zipIdx] at hk
  simp only [List.between, List.getElem_drop, List.getElem_take, List.getElem_zipIdx]
  omega

theorem toNat_ofNat_add (n : Nat) (w : UInt64) :
    (UInt64.ofNat n + w).toNat = (n + w.toNat) % 2 ^ 64 := by
  rw [UInt64.toNat_add, UInt64.toNat_ofNat', Nat.mod_add_mod]

/-! ## Windows -/

namespace Excerpt

variable {count line : Nat} {o : ExcerptOptions} {w : Window}

/-- The line meant is one of the text, and so are the first and the last. -/
theorem window_bounds (hcount : 0 < count) (line : Nat) (o : ExcerptOptions) :
    (window count line o).first ≤ (window count line o).target ∧
      (window count line o).target < count ∧ (window count line o).last < count := by
  have htarget : max 1 (min line count) - 1 < count := by omega
  have hlast : (window count line o).last ≤ count - 1 := Nat.min_le_right _ _
  exact ⟨Nat.sub_le _ _, htarget, by omega⟩

theorem last_window : (window count line o).last =
    min (((window count line o).target + o.below.toNat) % 2 ^ 64) (count - 1) := by
  rw [← toNat_ofNat_add]
  rfl

/-- Where the sum is no word, the last line comes before the line meant. -/
theorem last_window_lt_target (hcount : 0 < count) (hcount' : count ≤ 2 ^ 64)
    (hsum : 2 ^ 64 ≤ (window count line o).target + o.below.toNat) :
    (window count line o).last < (window count line o).target := by
  have htarget := (window_bounds hcount line o).2.1
  have hbelow := o.below.toNat_lt
  have hmod : ((window count line o).target + o.below.toNat) % 2 ^ 64 =
      (window count line o).target + o.below.toNat - 2 ^ 64 := by
    rw [Nat.mod_eq_sub_mod hsum, Nat.mod_eq_of_lt (by omega)]
  rw [last_window, hmod]
  omega

/-! ## Rows -/

/-- The lines of a source, as they are shown. -/
def lines (source : String) : List (List Char) := (splitLines source.toList).map dropReturns

/-- The row above all others. -/
def heading (o : ExcerptOptions) (message : String) : String :=
  styled o.color "1;31" "ERROR" ++ ": " ++ message ++ "\n"

/-- The row of a line with its number, in bold for the line meant. -/
def numberedRow (o : ExcerptOptions) (w : Window) (l : List Char × Nat) : String :=
  let number := alignRight (toString (w.last + 1)).length (toString (l.2 + 1))
  (if l.2 = w.target then styled o.color "1" number else number) ++ " | " ++ String.ofList l.1 ++
    "\n"

/-- The row of the caret, below a line. -/
def caretRow (o : ExcerptOptions) (w : Window) (column : Nat) (line : List Char) : String :=
  alignRight (toString (w.last + 1)).length "" ++ " | " ++
    String.ofList (caretPadding line column) ++ styled o.color "1;31" "^" ++ "\n"

/-- The rows of some lines without a caret. -/
def numberedRows (o : ExcerptOptions) (w : Window) (ls : List (List Char × Nat)) : String :=
  String.join (ls.map (numberedRow o w))

theorem rows_of_ne {index : Nat} (h : index ≠ w.target) (column : Nat) (line : List Char) :
    rows o w column index line = numberedRow o w (line, index) := by
  simp only [rows, numberedRow, if_neg h]

theorem rows_target (column : Nat) (line : List Char) :
    rows o w column w.target line =
      numberedRow o w (line, w.target) ++ caretRow o w column line := by
  simp only [rows, numberedRow, caretRow, if_pos, String.append_assoc]

/-- Lines other than the line meant have no caret. -/
theorem join_rows (o : ExcerptOptions) {ls : List (List Char × Nat)}
    (h : ∀ l ∈ ls, l.2 ≠ w.target) (column : Nat) :
    String.join (ls.map fun l => rows o w column l.2 l.1) = numberedRows o w ls := by
  rw [numberedRows]
  exact congrArg _ (List.map_congr_left fun l hl => rows_of_ne (h l hl) column l.1)

end Excerpt

theorem excerpt_eq (source : String) (pos : Position) (message : String) (o : ExcerptOptions) :
    excerpt source pos message o =
      let w := Excerpt.window (Excerpt.lines source).length pos.line o
      Excerpt.heading o message ++
        String.join ((List.between (Excerpt.lines source).zipIdx w.first (w.last + 1)).map
          fun l => Excerpt.rows o w pos.column l.2 l.1) := rfl

/-! ## Where the sums are words -/

namespace Excerpt

variable {source message : String} {pos : Position} {o : ExcerptOptions}

theorem lines_length_pos (source : String) : 0 < (lines source).length := by
  rw [lines, List.length_map]
  exact List.length_pos_iff.mpr (splitLines_ne_nil source.toList)

theorem lines_length_le (source : String) : (lines source).length ≤ source.toList.length + 1 := by
  rw [lines, List.length_map]
  exact length_splitLines_le source.toList

/-- The line meant is there with the caret below it, between the lines above and below. -/
theorem excerpt_of_lt (w : Window) (hw : w = window (lines source).length pos.line o)
    (hsum : w.target + o.below.toNat < 2 ^ 64) :
    w.last = min (w.target + o.below.toNat) ((lines source).length - 1) ∧
      ∃ line, (lines source)[w.target]? = some line ∧
        excerpt source pos message o = heading o message ++
          (numberedRows o w (List.between (lines source).zipIdx w.first w.target) ++
          (numberedRow o w (line, w.target) ++ caretRow o w pos.column line ++
          numberedRows o w (List.between (lines source).zipIdx (w.target + 1) (w.last + 1)))) := by
  have hlast : w.last = min (w.target + o.below.toNat) ((lines source).length - 1) := by
    rw [← Nat.mod_eq_of_lt hsum, hw]
    exact last_window
  obtain ⟨hfirst, htarget, -⟩ := window_bounds (lines_length_pos source) pos.line o
  rw [← hw] at hfirst htarget
  have hline : (lines source).zipIdx[w.target]? = some ((lines source)[w.target], w.target) := by
    rw [List.getElem?_zipIdx, List.getElem?_eq_getElem htarget, Option.map_some, Nat.zero_add]
  refine ⟨hlast, (lines source)[w.target], List.getElem?_eq_getElem htarget, ?_⟩
  have habove : ∀ l ∈ List.between (lines source).zipIdx w.first w.target, l.2 ≠ w.target :=
    fun l hl => Nat.ne_of_lt (List.mem_between_zipIdx hl).2
  have hbelow : ∀ l ∈ List.between (lines source).zipIdx (w.target + 1) (w.last + 1),
      l.2 ≠ w.target := fun l hl => Nat.ne_of_gt (List.mem_between_zipIdx hl).1
  rw [excerpt_eq]
  dsimp only
  rw [← hw, List.between_eq_append hfirst (by omega) hline, List.map_append, List.map_cons,
    String.join_append, String.join_cons, join_rows o habove, join_rows o hbelow, rows_target]

/-- No line comes as late as the line meant, and no caret. -/
theorem excerpt_of_le (w : Window) (hw : w = window (lines source).length pos.line o)
    (hsize : source.toList.length < 2 ^ 64) (hsum : 2 ^ 64 ≤ w.target + o.below.toNat) :
    w.last < w.target ∧ excerpt source pos message o = heading o message ++
      numberedRows o w (List.between (lines source).zipIdx w.first (w.last + 1)) := by
  have hpos := lines_length_pos source
  have hle := lines_length_le source
  have hlast : w.last < w.target := by
    rw [hw] at hsum ⊢
    exact last_window_lt_target hpos (by omega) hsum
  refine ⟨hlast, ?_⟩
  have hrows : ∀ l ∈ List.between (lines source).zipIdx w.first (w.last + 1),
      l.2 ≠ w.target := by
    intro l hl
    have hlt := (List.mem_between_zipIdx hl).2
    omega
  rw [excerpt_eq]
  dsimp only
  rw [← hw, join_rows o hrows]

end Excerpt

theorem Span.start_at {source : List Char} {pos : Position} (hcolumn : pos.column ≤ 2 ^ 64) :
    (Span.at source pos).start =
      min ((lineStart source pos.line + (pos.column - 1)) % 2 ^ 64) source.length := by
  have htoNat : (UInt64.ofNat (pos.column - 1)).toNat = pos.column - 1 := by
    rw [UInt64.toNat_ofNat', Nat.mod_eq_of_lt (by omega)]
  rw [Span.at]
  dsimp only
  rw [toNat_ofNat_add, htoNat]

/-- Excerpts and spans of a text shorter than a word can count, for any place and distances.

The line meant is clamped to the lines of the text, and it and the first and last lines shown are
among these.  If the line meant and the distance below add up to a word, the excerpt has the lines
above it, the line itself, the row of the caret and the lines below; if they do not, the excerpt
ends before that line and has no caret.  Likewise the span begins at the character meant, or at the
end of the text if that comes first, as long as its number is a word, and before the line meant if
it is not. -/
theorem excerpt_and_span (source message : String) (pos : Position) (o : ExcerptOptions)
    (hsize : source.toList.length + 1 < 2 ^ 64) (hcolumn : pos.column < 2 ^ 64) :
    let lines := Excerpt.lines source
    let w := Excerpt.window lines.length pos.line o
    let number := lineStart source.toList pos.line + (pos.column - 1)
    (w.target = max 1 (min pos.line lines.length) - 1 ∧ w.first = w.target - o.above.toNat ∧
      w.first ≤ w.target ∧ w.target < lines.length ∧ w.last < lines.length ∧
      lines.length < 2 ^ 64 ∧ lineStart source.toList pos.line < 2 ^ 64) ∧
    (w.target + o.below.toNat < 2 ^ 64 →
      w.last = min (w.target + o.below.toNat) (lines.length - 1) ∧
      ∃ line, lines[w.target]? = some line ∧
        excerpt source pos message o = Excerpt.heading o message ++
          (Excerpt.numberedRows o w (List.between lines.zipIdx w.first w.target) ++
          (Excerpt.numberedRow o w (line, w.target) ++ Excerpt.caretRow o w pos.column line ++
          Excerpt.numberedRows o w (List.between lines.zipIdx (w.target + 1) (w.last + 1))))) ∧
    (2 ^ 64 ≤ w.target + o.below.toNat → w.last < w.target ∧
      excerpt source pos message o = Excerpt.heading o message ++
        Excerpt.numberedRows o w (List.between lines.zipIdx w.first (w.last + 1))) ∧
    (number < 2 ^ 64 → (Span.at source.toList pos).start = min number source.toList.length) ∧
    (2 ^ 64 ≤ number →
      (Span.at source.toList pos).start < lineStart source.toList pos.line) := by
  dsimp only
  have hstart := lineStart_le source.toList pos.line
  have hbounds := Excerpt.window_bounds (Excerpt.lines_length_pos source) pos.line o
  have hle := Excerpt.lines_length_le source
  refine ⟨⟨rfl, rfl, hbounds.1, hbounds.2.1, hbounds.2.2, by omega, by omega⟩,
    Excerpt.excerpt_of_lt _ rfl, Excerpt.excerpt_of_le _ rfl (by omega), fun hnumber => ?_,
    fun hnumber => ?_⟩
  · rw [Span.start_at (Nat.le_of_lt hcolumn), Nat.mod_eq_of_lt hnumber]
  · rw [Span.start_at (Nat.le_of_lt hcolumn), Nat.mod_eq_sub_mod hnumber,
      Nat.mod_eq_of_lt (by omega)]
    omega

/-- As many lines below the second line as there can be, and a place behind its end. -/
theorem excerpt_and_span_most :
    let o : ExcerptOptions := ⟨.ofNat (2 ^ 64 - 1), .ofNat (2 ^ 64 - 2), false⟩
    (Excerpt.window (Excerpt.lines "a\nb").length 2 o).last = 1 ∧
      excerpt "a\nb" ⟨2, 3⟩ "m" o = "ERROR: m\n1 | a\n2 | b\n  |  ^\n" ∧
      (Span.at "a\nb".toList ⟨2, 3⟩).start = 3 := by
  dsimp only
  obtain ⟨-, hexcerpt, -, hspan, -⟩ := excerpt_and_span "a\nb" "m" ⟨2, 3⟩
    ⟨.ofNat (2 ^ 64 - 1), .ofNat (2 ^ 64 - 2), false⟩ (by decide +kernel) (by decide)
  obtain ⟨hlast, line, hline, htext⟩ := hexcerpt (by decide +kernel)
  have hb : (Excerpt.lines "a\nb")[1]? = some ['b'] := by decide +kernel
  obtain rfl : line = ['b'] := Option.some.inj (hline.symm.trans hb)
  exact ⟨hlast.trans (by decide +kernel), htext.trans (by decide +kernel),
    (hspan (by decide +kernel)).trans (by decide +kernel)⟩

/-- One line more below or one column further, and the line meant is not shown, and the span begins
with the text. -/
theorem excerpt_and_span_past_words :
    excerpt "a\nb" ⟨2, 1⟩ "m" ⟨0, .ofNat (2 ^ 64 - 1), false⟩ = "ERROR: m\n" ∧
      Span.at "a\nb".toList ⟨2, 2 ^ 64 - 1⟩ = ⟨0, 1⟩ := by
  constructor
  · decide +kernel
  · decide +kernel

end ExprLang
