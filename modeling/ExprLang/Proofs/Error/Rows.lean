import ExprLang.Proofs.Error.Excerpts

/-!
# ExprLang.Proofs.Error.Rows

An excerpt, row by row.

For a place in the text and a distance below that keeps the sum a word, the rows are known
exactly: a heading, the lines from the first to the last shown with their numbers, and below the
line meant the caret, in the column of the character meant (`splitLines_excerpt`).  Colours add
nothing but escape sequences, which `dropStyles` takes out again (`Uncolors`).
-/

namespace ExprLang

/-! ## Lines of a text -/

section Lines

variable {text l : List Char} {c : Char}

theorem splitLines_of_notMem (h : '\n' ∉ text) : splitLines text = [text] := by
  obtain ⟨l, ls, hnil, happend⟩ := splitLines_append h []
  simp only [splitLines, List.cons.injEq] at hnil
  rw [List.append_nil] at happend
  simp [happend, ← hnil.1, ← hnil.2]

/-- The lines of a text have its characters, but no line feeds. -/
theorem mem_of_mem_splitLines (hl : l ∈ splitLines text) (hc : c ∈ l) : c ∈ text ∧ c ≠ '\n' := by
  obtain ⟨lines, last, rfl, hlines, hlast⟩ := exists_lines text
  rw [splitLines_joinLines hlines, splitLines_of_notMem hlast, List.mem_append,
    List.mem_singleton] at hl
  obtain hl | rfl := hl
  · refine ⟨List.mem_append_left _ (List.mem_flatMap.mpr ⟨l, hl, List.mem_append_left _ hc⟩), ?_⟩
    exact fun h => hlines l hl (h ▸ hc)
  · exact ⟨List.mem_append_right _ hc, fun h => hlast (h ▸ hc)⟩

/-- Rows without line feeds are the lines of the text they make. -/
theorem splitLines_rows {rows : List (List Char)} (h : ∀ row ∈ rows, '\n' ∉ row) :
    splitLines (joinLines rows) = rows ++ [[]] := by
  simpa [splitLines] using splitLines_joinLines h []

/-- What is dropped from a line is its last characters, and all of them are carriage returns. -/
theorem exists_dropReturns (line : List Char) :
    (∃ k, line = dropReturns line ++ List.replicate k '\r') ∧
      (dropReturns line).getLast? ≠ some '\r' := by
  let isReturn : Char → Bool := fun c => c = '\r'
  have hsplit := List.takeWhile_append_dropWhile (p := isReturn) (l := line.reverse)
  have hall := List.all_takeWhile (p := isReturn) (l := line.reverse)
  have hend := List.head?_dropWhile_not isReturn line.reverse
  rw [← List.getLast?_reverse] at hend
  constructor
  · generalize line.reverse.takeWhile isReturn = returns at hsplit hall
    refine ⟨returns.length, ?_⟩
    have hreturns : returns = List.replicate returns.length '\r' := by
      rw [List.eq_replicate_iff]
      simpa [isReturn] using hall
    have hline := congrArg List.reverse hsplit
    rw [List.reverse_append, List.reverse_reverse] at hline
    rw [← List.reverse_replicate, ← hreturns]
    exact hline.symm
  · intro hlast
    rw [← dropReturns, hlast] at hend
    simp [isReturn] at hend

theorem mem_of_mem_lines {source : String} (hl : l ∈ Excerpt.lines source) (hc : c ∈ l) :
    c ∈ source.toList ∧ c ≠ '\n' := by
  obtain ⟨raw, hraw, rfl⟩ := List.mem_map.mp hl
  obtain ⟨⟨k, hk⟩, -⟩ := exists_dropReturns raw
  exact mem_of_mem_splitLines hraw (hk ▸ List.mem_append_left _ hc)

end Lines

/-! ## Gutters -/

/-- What stands before a line: its number, right-aligned, and a bar. -/
def gutter (width : Nat) (number : List Char) : List Char :=
  List.replicate (width - number.length) ' ' ++ number ++ [' ', '|', ' ']

theorem length_gutter {width : Nat} {number : List Char} (h : number.length ≤ width) :
    (gutter width number).length = width + 3 := by
  simp only [gutter, List.length_append, List.length_replicate, List.length_cons, List.length_nil]
  omega

/-- The row of the line with the given number, behind a gutter. -/
def lineRow (width : Nat) (lines : List (List Char)) (number : Nat) : List Char :=
  gutter width (toString number).toList ++ lines.getD (number - 1) []

/-- A larger number has no fewer digits. -/
theorem length_toString_le {m n : Nat} (h : m ≤ n) :
    (toString m).toList.length ≤ (toString n).toList.length := by
  rw [Nat.toString_eq_ofList_toDigits, Nat.toString_eq_ofList_toDigits, String.toList_ofList,
    String.toList_ofList]
  have hpos : 0 < (Nat.toDigits 10 n).length := List.length_pos_iff.mpr Nat.toDigits_ne_nil
  rw [Nat.length_toDigits_le_iff (by decide) hpos]
  exact Nat.lt_of_le_of_lt h ((Nat.length_toDigits_le_iff (by decide) hpos).mp (Nat.le_refl _))

theorem isDigit_of_mem_toString {n : Nat} {c : Char} (hc : c ∈ (toString n).toList) :
    c.isDigit = true := by
  rw [Nat.toString_eq_ofList_toDigits, String.toList_ofList] at hc
  exact Nat.isDigit_of_mem_toDigits (by decide) (by decide) hc

theorem Excerpt.length_caretPadding (line : List Char) (column : Nat) :
    (Excerpt.caretPadding line column).length = min (column - 1) line.length := by
  rw [Excerpt.caretPadding, List.length_map, List.length_take]

/-- The padding of a caret keeps the tabs of the line and has blanks for its other characters. -/
theorem Excerpt.eq_of_getElem?_caretPadding {text : List Char} {column i : Nat} {c : Char}
    (h : (Excerpt.caretPadding text column)[i]? = some c) :
    c = if text[i]? = some '\t' then '\t' else ' ' := by
  rw [Excerpt.caretPadding, List.getElem?_map, Option.map_eq_some_iff] at h
  obtain ⟨d, hd, rfl⟩ := h
  have htext : text[i]? = some d := by
    rw [List.getElem?_take] at hd
    split at hd
    · exact hd
    · cases hd
  simp [htext]

/-- Below a gutter and the padding of a caret are the gutter of the line and its characters before
the one meant. -/
theorem drop_gutter {width column : Nat} {number : List Char} (h : number.length ≤ width)
    (line : List Char) :
    (gutter width number ++ line).drop
      (gutter width [] ++ Excerpt.caretPadding line column).length = line.drop (column - 1) := by
  have hgutter : (gutter width []).length = (gutter width number).length := by
    rw [length_gutter h, length_gutter (Nat.zero_le width)]
  rw [List.length_append, hgutter, ← List.drop_drop, List.drop_left, Excerpt.length_caretPadding]
  rcases Nat.le_total (column - 1) line.length with hle | hle
  · rw [Nat.min_eq_left hle]
  · rw [Nat.min_eq_right hle, List.drop_length, List.drop_eq_nil_of_le hle]

theorem Excerpt.mem_caretPadding {line : List Char} {column : Nat} {c : Char}
    (hc : c ∈ Excerpt.caretPadding line column) : c = '\t' ∨ c = ' ' := by
  rw [Excerpt.caretPadding, List.mem_map] at hc
  obtain ⟨d, -, rfl⟩ := hc
  by_cases hd : d = '\t'
  · exact .inl (if_pos hd)
  · exact .inr (if_neg hd)

theorem newline_notMem_gutter (width : Nat) {number : List Char} (h : '\n' ∉ number) :
    '\n' ∉ gutter width number := by
  simp [gutter, h]

theorem newline_notMem_lineRow (source : String) (width n : Nat) :
    '\n' ∉ lineRow width (Excerpt.lines source) n := by
  have hnumber : '\n' ∉ (toString n).toList :=
    fun h => absurd (isDigit_of_mem_toString h) (by decide)
  have hline : '\n' ∉ (Excerpt.lines source).getD (n - 1) [] := by
    rw [List.getD_eq_getElem?_getD]
    cases hget : (Excerpt.lines source)[n - 1]? with
    | none => simp
    | some l => exact fun h => (mem_of_mem_lines (List.mem_of_getElem? hget) h).2 rfl
  rw [lineRow, List.mem_append, not_or]
  exact ⟨newline_notMem_gutter width hnumber, hline⟩

/-! ## Rows without colours -/

namespace Excerpt

section Uncoloured

variable (above below : UInt64)

theorem toList_heading (message : String) : (heading ⟨above, below, false⟩ message).toList =
    ("ERROR: " ++ message).toList ++ ['\n'] := by
  simp [heading, styled]

variable (w : Window) {last : Nat}

theorem toList_numberedRow (hw : w.last + 1 = last) (l : List Char × Nat) :
    (numberedRow ⟨above, below, false⟩ w l).toList =
      gutter (toString last).length (toString (l.2 + 1)).toList ++ l.1 ++ ['\n'] := by
  simp [numberedRow, styled, alignRight, gutter, hw, ← String.length_toList]

theorem toList_caretRow (hw : w.last + 1 = last) (column : Nat) (line : List Char) :
    (caretRow ⟨above, below, false⟩ w column line).toList =
      gutter (toString last).length [] ++ caretPadding line column ++ ['^'] ++ ['\n'] := by
  simp [caretRow, styled, alignRight, gutter, hw]

/-- The lines between two, by their numbers. -/
theorem between_zipIdx {ls : List (List Char)} {i j : Nat} (hj : j ≤ ls.length) :
    List.between ls.zipIdx i j =
      (List.range' (i + 1) (j - i)).map fun n => (ls.getD (n - 1) [], n - 1) := by
  refine List.ext_getElem ?_ fun k hk hk' => ?_
  · simp only [List.between, List.length_drop, List.length_take, List.length_zipIdx,
      List.length_map, List.length_range']
    omega
  · simp only [List.length_map, List.length_range'] at hk'
    have hlt : i + k < ls.length := by omega
    simp only [List.between, List.getElem_drop, List.getElem_take, List.getElem_zipIdx,
      List.getElem_map, List.getElem_range', Nat.one_mul, Nat.zero_add]
    rw [show i + 1 + k - 1 = i + k by omega, ← List.getElem_eq_getD (h := hlt) []]

theorem toList_numberedRows (hw : w.last + 1 = last) {ls : List (List Char)} {i j : Nat}
    (hj : j ≤ ls.length) :
    (numberedRows ⟨above, below, false⟩ w (List.between ls.zipIdx i j)).toList =
      joinLines ((List.range' (i + 1) (j - i)).map (lineRow (toString last).length ls)) := by
  rw [numberedRows, String.toList_join, joinLines, between_zipIdx hj, List.flatMap_def,
    List.flatMap_def, List.map_map, List.map_map, List.map_map]
  refine congrArg List.flatten (List.map_congr_left fun n hn => ?_)
  have hpos : n - 1 + 1 = n := by
    rw [List.mem_range'_1] at hn
    omega
  simp only [Function.comp_apply, toList_numberedRow _ _ _ hw, hpos, lineRow]

end Uncoloured

variable {source message : String} {pos : Position} {above below : UInt64}

theorem line_le_length (hpos : pos.In source.toList) : pos.line ≤ (lines source).length := by
  rw [lines, List.length_map]
  exact hpos.line_le

/-- The window around a line of the text, as long as the distance below keeps the sum a word. -/
theorem window_of_in (hpos : pos.In source.toList) (hbelow : pos.line + below.toNat ≤ 2 ^ 64)
    (color : Bool) : window (lines source).length pos.line ⟨above, below, color⟩ =
      ⟨max 1 (pos.line - above.toNat) - 1, pos.line - 1,
        min (lines source).length (pos.line + below.toNat) - 1⟩ := by
  have hline := hpos.line_pos
  have hle := line_le_length hpos
  have htarget : max 1 (min pos.line (lines source).length) - 1 = pos.line - 1 := by omega
  have hsum : (UInt64.ofNat (pos.line - 1) + below).toNat = pos.line - 1 + below.toNat := by
    rw [toNat_ofNat_add, Nat.mod_eq_of_lt (by omega)]
  simp only [window, htarget, hsum, Window.mk.injEq, true_and]
  omega

/-- The rows around a line of the text are the heading, the lines above, the line itself, the caret
and the lines below. -/
theorem toList_excerpt (hpos : pos.In source.toList) (hbelow : pos.line + below.toNat ≤ 2 ^ 64) :
    let first := max 1 (pos.line - above.toNat)
    let last := min (lines source).length (pos.line + below.toNat)
    let width := (toString last).length
    (excerpt source pos message ⟨above, below, false⟩).toList =
      joinLines (("ERROR: " ++ message).toList ::
        ((List.range' first (pos.line + 1 - first)).map (lineRow width (lines source)) ++
          (gutter width [] ++ caretPadding ((lines source).getD (pos.line - 1) []) pos.column ++
            ['^']) ::
          (List.range' (pos.line + 1) (last - pos.line)).map (lineRow width (lines source)))) := by
  intro first last width
  have hline := hpos.line_pos
  have hle := line_le_length hpos
  have hfirst : first - 1 + 1 = first := by omega
  have hlast : last - 1 + 1 = last := by omega
  let w : Window := ⟨first - 1, pos.line - 1, last - 1⟩
  obtain ⟨-, line, hget, htext⟩ := @excerpt_of_lt source message pos _ w
    (window_of_in hpos hbelow false).symm (by dsimp only [w]; omega)
  dsimp only [w] at hget htext
  have hlookup : (lines source).getD (pos.line - 1) [] = line := by
    rw [List.getD_eq_getElem?_getD, hget, Option.getD_some]
  have habove : List.range' first (pos.line + 1 - first) =
      List.range' first (pos.line - first) ++ [pos.line] := by
    rw [show pos.line + 1 - first = pos.line - first + 1 by omega, List.range'_1_concat,
      show first + (pos.line - first) = pos.line by omega]
  have hrow := toList_numberedRow above below w hlast (line, pos.line - 1)
  have hcaret := toList_caretRow above below w hlast pos.column line
  have hrows {i j : Nat} (hj : j ≤ (lines source).length) :=
    toList_numberedRows above below w hlast (i := i) hj
  rw [Nat.sub_add_cancel hline] at hrow
  rw [htext, hlookup, habove, Nat.sub_add_cancel hline, hlast, String.toList_append,
    String.toList_append, String.toList_append, String.toList_append, toList_heading,
    hrows (by omega), hrows (by omega), hrow, hcaret, hfirst,
    show pos.line - 1 - (first - 1) = pos.line - first by omega]
  simp [joinLines, lineRow, ← hlookup, width]

end Excerpt

/-! ## Colours -/

/-- A text without its escape sequences, from each escape character to the next `m`.  The flag says
whether the text begins within one. -/
def dropStyles (inside : Bool) : List Char → List Char
  | [] => []
  | c :: cs =>
    if inside then dropStyles (c ≠ 'm') cs
    else if c = '\x1b' then dropStyles true cs
    else c :: dropStyles false cs

/-- A text that is another once its escape sequences are dropped, whatever follows it. -/
def Uncolors (colored plain : List Char) : Prop :=
  ∀ rest, dropStyles false (colored ++ rest) = plain ++ dropStyles false rest

namespace Uncolors

variable {a b a' b' : List Char}

theorem of_notMem (h : '\x1b' ∉ a) : Uncolors a a := by
  intro rest
  induction a with
  | nil => rfl
  | cons c a ih =>
    rw [List.mem_cons, not_or] at h
    rw [List.cons_append, dropStyles, if_neg (by decide), if_neg (fun hc => h.1 hc.symm), ih h.2,
      List.cons_append]

theorem append (h : Uncolors a b) (h' : Uncolors a' b') : Uncolors (a ++ a') (b ++ b') := by
  intro rest
  rw [List.append_assoc, h, h', List.append_assoc]

theorem flatMap {α : Type} {l : List α} {f g : α → List Char}
    (h : ∀ x ∈ l, Uncolors (f x) (g x)) : Uncolors (l.flatMap f) (l.flatMap g) := by
  induction l with
  | nil => exact of_notMem (a := []) (by simp)
  | cons x l ih =>
    rw [List.forall_mem_cons] at h
    rw [List.flatMap_cons, List.flatMap_cons]
    exact h.1.append (ih h.2)

theorem dropStyles_eq (h : Uncolors a b) : dropStyles false a = b := by
  simpa [dropStyles] using h []

/-- What begins a style is dropped up to its end. -/
theorem dropStyles_style {style : List Char} (h : 'm' ∉ style) (rest : List Char) :
    dropStyles true (style ++ 'm' :: rest) = dropStyles false rest := by
  induction style with
  | nil => simp [dropStyles]
  | cons c style ih =>
    rw [List.mem_cons, not_or] at h
    have hc : decide (c ≠ 'm') = true := decide_eq_true fun hc => h.1 hc.symm
    rw [List.cons_append, dropStyles, if_pos rfl, hc, ih h.2]

/-- A text in a style, switched on or not, is the text. -/
theorem styled (color : Bool) {style text : String} (hstyle : 'm' ∉ style.toList)
    (htext : '\x1b' ∉ text.toList) :
    Uncolors (Excerpt.styled color style text).toList text.toList := by
  cases color with
  | false => exact of_notMem htext
  | true =>
    intro rest
    have hbegin := dropStyles_style hstyle (text.toList ++ ("\x1b[0m".toList ++ rest))
    have hend : dropStyles false ("\x1b[0m".toList ++ rest) = dropStyles false rest := rfl
    rw [← hend, ← of_notMem htext, ← hbegin]
    simp [Excerpt.styled, dropStyles]

end Uncolors

namespace Excerpt

variable {source message : String}

theorem escape_notMem_alignRight (width n : Nat) :
    '\x1b' ∉ (alignRight width (toString n)).toList := by
  intro hmem
  rw [alignRight, String.toList_append, String.toList_ofList, List.mem_append,
    List.mem_replicate] at hmem
  obtain ⟨-, h⟩ | h := hmem
  · exact absurd h (by decide)
  · exact absurd (isDigit_of_mem_toString h) (by decide)

theorem uncolors_numberedRow (o : ExcerptOptions) (w : Window) {l : List Char × Nat}
    (hl : '\x1b' ∉ l.1) : Uncolors (numberedRow o w l).toList
      (numberedRow { o with color := false } w l).toList := by
  have hdigits := escape_notMem_alignRight (toString (w.last + 1)).length (l.2 + 1)
  have hbar : Uncolors " | ".toList " | ".toList := .of_notMem (by decide)
  have hfeed : Uncolors "\n".toList "\n".toList := .of_notMem (by decide)
  have hline : Uncolors (String.ofList l.1).toList (String.ofList l.1).toList := by
    rw [String.toList_ofList]
    exact .of_notMem hl
  simp only [numberedRow, String.toList_append]
  split
  · exact (((Uncolors.styled _ (by decide) hdigits).append hbar).append hline).append hfeed
  · exact (((Uncolors.of_notMem hdigits).append hbar).append hline).append hfeed

theorem uncolors_caretRow (o : ExcerptOptions) (w : Window) (column : Nat) (line : List Char) :
    Uncolors (caretRow o w column line).toList
      (caretRow { o with color := false } w column line).toList := by
  have hblank : '\x1b' ∉ (alignRight (toString (w.last + 1)).length "").toList := by
    simp [alignRight]
  have hbar : Uncolors " | ".toList " | ".toList := .of_notMem (by decide)
  have hpadding : '\x1b' ∉ (String.ofList (caretPadding line column)).toList := by
    rw [String.toList_ofList]
    exact fun h => by simpa using mem_caretPadding h
  simp only [caretRow, String.toList_append]
  exact ((((Uncolors.of_notMem hblank).append hbar).append (.of_notMem hpadding)).append
    (.styled _ (by decide) (by decide))).append (.of_notMem (by decide))

/-- Colours change a row by their escape sequences only. -/
theorem uncolors_rows (o : ExcerptOptions) (w : Window) (column index : Nat) {line : List Char}
    (hline : '\x1b' ∉ line) : Uncolors (rows o w column index line).toList
      (rows { o with color := false } w column index line).toList := by
  by_cases h : index = w.target
  · subst h
    rw [rows_target, rows_target, String.toList_append, String.toList_append]
    exact (uncolors_numberedRow o w hline).append (uncolors_caretRow o w column line)
  · rw [rows_of_ne h, rows_of_ne h]
    exact uncolors_numberedRow o w hline

/-- Colours change an excerpt by their escape sequences only. -/
theorem uncolors_excerpt (hsource : '\x1b' ∉ source.toList) (hmessage : '\x1b' ∉ message.toList)
    (pos : Position) (o : ExcerptOptions) :
    Uncolors (excerpt source pos message o).toList
      (excerpt source pos message { o with color := false }).toList := by
  have hheading : Uncolors (heading o message).toList
      (heading { o with color := false } message).toList := by
    simp only [heading, String.toList_append]
    exact (((Uncolors.styled _ (by decide) (by decide)).append (.of_notMem (by decide))).append
      (.of_notMem hmessage)).append (.of_notMem (by decide))
  have hrows : ∀ l ∈ List.between (lines source).zipIdx
      (window (lines source).length pos.line o).first
      ((window (lines source).length pos.line o).last + 1),
      Uncolors (rows o (window (lines source).length pos.line o) pos.column l.2 l.1).toList
        (rows { o with color := false } (window (lines source).length pos.line o) pos.column
          l.2 l.1).toList := by
    intro l hl
    have hmem := List.mem_zipIdx (List.mem_of_mem_take (List.mem_of_mem_drop hl))
    refine uncolors_rows o _ pos.column l.2 fun hescape => ?_
    refine hsource (mem_of_mem_lines (l := l.1) ?_ hescape).1
    rw [hmem.2.2]
    exact List.getElem_mem _
  rw [excerpt_eq, excerpt_eq]
  dsimp only
  rw [String.toList_append, String.toList_append, String.toList_join, String.toList_join,
    List.flatMap_map, List.flatMap_map]
  exact hheading.append (.flatMap hrows)

end Excerpt

/-! ## The layout -/

/-- The layout of an excerpt around a place of the text.

Behind the heading come the lines from the first to the last shown, in their order and each once,
without the carriage returns at their ends and with their numbers right-aligned to one width.  The
row below the line meant is a gutter without a number, a padding that keeps the tabs, and the caret;
what of the line's own row begins in the column of the caret is the line from the character meant
on, so it is empty, and the caret just behind the row, where the line has no such character.
Colours add escape sequences and nothing else. -/
theorem splitLines_excerpt (source message : String) (pos : Position) (above below : UInt64)
    (hpos : pos.In source.toList) (hmessage : '\n' ∉ message.toList)
    (hbelow : pos.line + below.toNat ≤ 2 ^ 64) :
    let lines := Excerpt.lines source
    let shown := lines.getD (pos.line - 1) []
    let first := max 1 (pos.line - above.toNat)
    let last := min lines.length (pos.line + below.toNat)
    let width := (toString last).length
    (∃ padding : List Char,
      splitLines (excerpt source pos message ⟨above, below, false⟩).toList =
        ("ERROR: " ++ message).toList ::
          ((List.range' first (pos.line + 1 - first)).map (lineRow width lines) ++
            (gutter width [] ++ padding ++ ['^']) ::
            (List.range' (pos.line + 1) (last - pos.line)).map (lineRow width lines)) ++ [[]] ∧
      padding.length = min (pos.column - 1) shown.length ∧
      (∀ (i : Nat) c, padding[i]? = some c → c = if shown[i]? = some '\t' then '\t' else ' ') ∧
      (gutter width [] ++ padding).length ≤ (lineRow width lines pos.line).length ∧
      (lineRow width lines pos.line).drop (gutter width [] ++ padding).length =
        shown.drop (pos.column - 1)) ∧
    (1 ≤ first ∧ first ≤ pos.line ∧ pos.line ≤ last ∧ last ≤ lines.length) ∧
    (∀ n ≤ last, (gutter width (toString n).toList).length = width + 3) ∧
    (∀ n raw, (splitLines source.toList)[n]? = some raw →
      (∃ k, raw = lines.getD n [] ++ List.replicate k '\r') ∧
        (lines.getD n []).getLast? ≠ some '\r') ∧
    ('\x1b' ∉ source.toList → '\x1b' ∉ message.toList →
      dropStyles false (excerpt source pos message ⟨above, below, true⟩).toList =
        (excerpt source pos message ⟨above, below, false⟩).toList) := by
  intro lines shown first last width
  have hline := hpos.line_pos
  have hle : pos.line ≤ lines.length := Excerpt.line_le_length hpos
  have hnumber : ∀ n ≤ last, (toString n).toList.length ≤ width :=
    fun n hn => length_toString_le hn
  have hcaret : '\n' ∉ gutter width [] ++ Excerpt.caretPadding shown pos.column ++ ['^'] := by
    have hgutter := newline_notMem_gutter width (List.not_mem_nil (a := '\n'))
    have hpadding : '\n' ∉ Excerpt.caretPadding shown pos.column :=
      fun h => by simpa using Excerpt.mem_caretPadding h
    simp [hgutter, hpadding]
  have hrows : ∀ row ∈ ("ERROR: " ++ message).toList ::
      ((List.range' first (pos.line + 1 - first)).map (lineRow width lines) ++
        (gutter width [] ++ Excerpt.caretPadding shown pos.column ++ ['^']) ::
        (List.range' (pos.line + 1) (last - pos.line)).map (lineRow width lines)), '\n' ∉ row := by
    intro row hrow
    simp only [List.mem_cons, List.mem_append, List.mem_map] at hrow
    obtain rfl | ⟨n, -, rfl⟩ | rfl | ⟨n, -, rfl⟩ := hrow
    · simp [hmessage]
    · exact newline_notMem_lineRow source width n
    · exact hcaret
    · exact newline_notMem_lineRow source width n
  refine ⟨⟨Excerpt.caretPadding shown pos.column, ?_, ?_, ?_, ?_, ?_⟩, ?_, ?_, ?_, ?_⟩
  · rw [Excerpt.toList_excerpt hpos hbelow]
    exact splitLines_rows hrows
  · exact Excerpt.length_caretPadding shown pos.column
  · exact fun i c hc => Excerpt.eq_of_getElem?_caretPadding hc
  · have hpadding := Excerpt.length_caretPadding shown pos.column
    rw [lineRow, List.length_append, List.length_append, length_gutter (Nat.zero_le width),
      length_gutter (hnumber pos.line (by omega)), hpadding]
    exact Nat.add_le_add_left (Nat.min_le_right _ _) _
  · exact drop_gutter (hnumber pos.line (by omega)) shown
  · omega
  · exact fun n hn => length_gutter (hnumber n hn)
  · intro n raw hraw
    have hget : lines.getD n [] = dropReturns raw := by
      simp [lines, Excerpt.lines, hraw]
    rw [hget]
    exact exists_dropReturns raw
  · exact fun hsource hmessage' => (Excerpt.uncolors_excerpt hsource hmessage' pos _).dropStyles_eq

/-- The ninth of ten lines, which begins with a tab and ends with a carriage return. -/
theorem splitLines_excerpt_ninth :
    let source := "1\n2\n3\n4\n5\n6\n7\n8\n\ta\r\nb"
    splitLines (excerpt source ⟨9, 2⟩ "m" ⟨1, 1, false⟩).toList =
        ["ERROR: m", " 8 | 8", " 9 | \ta", "   | \t^", "10 | b", ""].map String.toList ∧
      dropStyles false (excerpt source ⟨9, 2⟩ "m" ⟨1, 1, true⟩).toList =
        (excerpt source ⟨9, 2⟩ "m" ⟨1, 1, false⟩).toList := by
  intro source
  have hmarks : Position.Marks source.toList ⟨9, 2⟩ "a\r\nb".toList :=
    ⟨"1\n2\n3\n4\n5\n6\n7\n8\n\t".toList, by decide +kernel, by decide +kernel⟩
  obtain ⟨⟨padding, hrows, hlength, htabs, -, -⟩, -, -, -, hcolors⟩ :=
    splitLines_excerpt source "m" ⟨9, 2⟩ 1 1 hmarks.isIn (by decide) (by decide +kernel)
  refine ⟨?_, hcolors (by decide +kernel) (by decide)⟩
  have hone : padding.length = 1 := hlength.trans (by decide +kernel)
  obtain ⟨c, rfl⟩ := List.length_eq_one_iff.mp hone
  have htab : c = '\t' := (htabs 0 c rfl).trans (by decide +kernel)
  rw [hrows, htab]
  decide +kernel

end ExprLang
