import ExprLang.Proofs.Error.Rows
import ExprLang.Proofs.Tree.Blame
import ExprLang.Proofs.Tree.Built

/-!
# ExprLang.Proofs.Error.Boundaries

Places and the numbers of characters they stand for.

A boundary of a text, before one of its characters or at its end, has a place: `placeAt` counts the
line feeds before it and what follows the last of them.  Read on character by character, the place
is the same (`after_take`), also where a carriage return and a line feed end a line together
(`pairedAfter_eq`): behind the carriage return alone the pair is not complete.  Hence tokens, nodes,
steps and faults all have the places of boundaries, and a span finds the boundary again
(`placeAt_agrees`).
-/

namespace ExprLang

/-- The place before the character with the number `o`: one more than the line feeds before it,
and one more than the characters behind the last of these. -/
def placeAt (text : List Char) (o : Nat) : Position :=
  ⟨(text.take o).count '\n' + 1, ((splitLines (text.take o)).getLastD []).length + 1⟩

/-- The place after some characters, where a line ends after a line feed or after a carriage return
and a line feed. -/
def pairedAfter (p : Position) : List Char → Position
  | [] => p
  | '\r' :: '\n' :: cs => pairedAfter ⟨p.line + 1, 1⟩ cs
  | '\n' :: cs => pairedAfter ⟨p.line + 1, 1⟩ cs
  | _ :: cs => pairedAfter ⟨p.line, p.column + 1⟩ cs

/-- The number of the first opener that nests deeper than `limit`, where `o` characters were read
before. -/
def deepOffsetFrom (limit : Nat) (s : Scan) (o : Nat) : List Char → Option Nat
  | [] => none
  | c :: rest =>
    let s' := s.step c rest.head?
    if s.opened.length < s'.opened.length ∧ limit < s'.opened.length then some o
    else deepOffsetFrom limit s' (o + 1) rest

/-- The number of the first opener of a text that nests deeper than `limit`. -/
def deepOffset? (limit : Nat) (text : List Char) : Option Nat :=
  deepOffsetFrom limit .initial 0 text

/-! ## One place, counted in several ways -/

section Boundary

variable {text rest : List Char} {p : Position} {o : Nat}

theorem count_joinLines {lines : List (List Char)} (h : ∀ l ∈ lines, '\n' ∉ l) :
    (joinLines lines).count '\n' = lines.length := by
  induction lines with
  | nil => rfl
  | cons l lines ih =>
    rw [List.forall_mem_cons] at h
    simp [ih h.2, List.count_eq_zero.mpr h.1]

/-- Read on from the beginning, the place is the same. -/
theorem after_take (text : List Char) (o : Nat) :
    Position.first.after (text.take o) = placeAt text o := by
  obtain ⟨lines, last, htake, hlines, hlast⟩ := exists_lines (text.take o)
  obtain ⟨l, ls, hnil, hsplit⟩ := splitLines_append hlast []
  simp only [splitLines, List.cons.injEq] at hnil
  rw [List.append_nil] at hsplit
  rw [placeAt, htake, Position.after_append, Position.first, Position.after_joinLines hlines,
    Position.after_of_notMem hlast, splitLines_joinLines hlines, hsplit, List.count_append,
    count_joinLines hlines, List.count_eq_zero.mpr hlast, ← hnil.1, ← hnil.2]
  simp
  omega

/-- A carriage return before a line feed changes no place: the line feed alone ends the line. -/
theorem pairedAfter_eq (p : Position) (text : List Char) : pairedAfter p text = p.after text := by
  fun_induction pairedAfter p text with
  | case1 p => rfl
  | case2 p cs ih => rw [ih]; rfl
  | case3 p cs ih => rw [ih]; rfl
  | case4 p c cs hpair hfeed ih =>
    rw [ih, Position.after_cons, Position.next, if_neg (fun h => hfeed h)]

theorem deepOpenerFrom_eq (limit : Nat) (s : Scan) (read rest : List Char) :
    deepOpenerFrom limit s (Position.first.after read) rest =
      (deepOffsetFrom limit s read.length rest).map (placeAt (read ++ rest)) := by
  induction rest generalizing s read with
  | nil => rfl
  | cons c rest ih =>
    rw [deepOpenerFrom, deepOffsetFrom]
    split
    · rw [Option.map_some, ← after_take, List.take_left]
    · have hread := ih (s.step c rest.head?) (read ++ [c])
      rw [Position.after_append, List.length_append, List.append_assoc] at hread
      exact hread

/-- An opener that nests too deeply has the place of its number. -/
theorem deepOpener?_eq (limit : Nat) (text : List Char) :
    deepOpener? limit text = (deepOffset? limit text).map (placeAt text) :=
  deepOpenerFrom_eq limit .initial [] text

/-! ## Places in the text -/

theorem marks_placeAt (text : List Char) (o : Nat) :
    (placeAt text o).Marks text (text.drop o) :=
  ⟨text.take o, (List.take_append_drop o text).symm, (after_take text o).symm⟩

/-- What is left of a text tells how much of it was read. -/
theorem Position.Marks.eq_placeAt (h : p.Marks text (text.drop o)) : p = placeAt text o := by
  obtain ⟨read, htext, rfl⟩ := h
  have hread : read = text.take o :=
    List.append_cancel_right (htext.symm.trans (List.take_append_drop o text).symm)
  rw [hread, after_take]

/-- A text up to a character of one of its lines, or the end of the line. -/
theorem take_lineStart {lines others : List (List Char)} {line : List Char} {column : Nat}
    (hsplit : splitLines text = lines ++ line :: others) (hcolumn : column ≤ line.length) :
    text.take ((joinLines lines).length + column) = joinLines lines ++ line.take column := by
  have hjoin := joinLines_splitLines text
  rw [hsplit, joinLines, List.flatMap_append, ← joinLines, ← joinLines, joinLines_cons] at hjoin
  have hlength := congrArg List.length hjoin
  simp only [List.length_append, List.length_cons, List.length_nil] at hlength
  have hfeed : (text ++ ['\n']).take ((joinLines lines).length + column) =
      text.take ((joinLines lines).length + column) := List.take_append_of_le_length (by omega)
  rw [← hfeed, ← hjoin, List.take_length_add_append, List.take_append_of_le_length hcolumn]

/-- A place in a text is reached after what stands before it. -/
theorem Position.In.marks (h : p.In text) : p.Marks text (textAt text p) := by
  have hpos := h.line_pos
  have hle := h.line_le
  have hlt : p.line - 1 < (splitLines text).length := by omega
  have hcolumn := h.column_le _ (List.getElem?_eq_getElem hlt)
  have hcolumn' := h.column_pos
  have hsplit : splitLines text = (splitLines text).take (p.line - 1) ++
      (splitLines text)[p.line - 1] :: (splitLines text).drop (p.line - 1 + 1) := by
    rw [← List.drop_eq_getElem_cons, List.take_append_drop]
  have hlines : ∀ l ∈ (splitLines text).take (p.line - 1), '\n' ∉ l :=
    fun l hl hc => (mem_of_mem_splitLines (List.mem_of_mem_take hl) hc).2 rfl
  have hlast : '\n' ∉ (splitLines text)[p.line - 1].take (p.column - 1) :=
    fun hc => (mem_of_mem_splitLines (List.getElem_mem hlt) (List.mem_of_mem_take hc)).2 rfl
  have htake := take_lineStart hsplit (show p.column - 1 ≤ _ by omega)
  rw [← lineStart_eq] at htake
  refine ⟨_, (List.take_append_drop (lineStart text p.line + (p.column - 1)) text).symm, ?_⟩
  rw [htake, after_append, first, after_joinLines hlines, after_of_notMem hlast, List.length_take,
    List.length_take, Nat.min_eq_left (by omega), Nat.min_eq_left (by omega)]
  obtain ⟨line, column⟩ := p
  simp only [mk.injEq]
  dsimp only at hpos hcolumn'
  omega

/-- The place of a boundary is told by what of the text begins there. -/
theorem Position.In.textAt_eq_iff (h : p.In text) (o : Nat) :
    textAt text p = text.drop o ↔ p = placeAt text o := by
  constructor
  · intro htext
    exact Position.Marks.eq_placeAt (htext ▸ h.marks)
  · rintro rfl
    exact (marks_placeAt text o).textAt_eq

/-- The span of the place of a boundary begins at the boundary. -/
theorem Span.at_placeAt (hsize : text.length < 2 ^ 64) (ho : o ≤ text.length) :
    Span.at text (placeAt text o) = ⟨o, min (o + 1) text.length⟩ := by
  obtain ⟨lines, last, htext, hlines, -, hplace⟩ := (marks_placeAt text o).lines
  have hlength := congrArg List.length htext
  simp only [List.length_append, List.length_drop] at hlength
  have hstart : lineStart text (lines.length + 1) = (joinLines lines).length := by
    rw [htext, lineStart_joinLines hlines]
  have hnumber : (joinLines lines).length + last.length = o := by omega
  have hspan : (Span.at text (placeAt text o)).start = o := by
    rw [hplace, Span.start_at (by dsimp only; omega)]
    dsimp only
    rw [hstart, Nat.add_sub_cancel, hnumber, Nat.mod_eq_of_lt (by omega), Nat.min_eq_left ho]
  calc Span.at text (placeAt text o)
      = ⟨(Span.at text (placeAt text o)).start,
          min ((Span.at text (placeAt text o)).start + 1) text.length⟩ := rfl
    _ = ⟨o, min (o + 1) text.length⟩ := by rw [hspan]

end Boundary

/-! ## What the parser records -/

/-- The places that come out of reading a text: those of the nodes and steps of its tree, or that
of what is wrong with it. -/
inductive Recorded (limit : Nat) (source : String) : Position → Prop
  | node {tree n : Node} (parsed : parseWithin limit source = .ok tree) (within : n.Within tree) :
    Recorded limit source n.position
  | step {tree base : Node} {p : Position} {steps : List (Step Node)} {s : Step Node}
    (parsed : parseWithin limit source = .ok tree)
    (within : (Node.select p base steps).Within tree) (mem : s ∈ steps) :
    Recorded limit source s.position
  | fault {e : ParseError} (failed : parseWithin limit source = .error e) :
    Recorded limit source e.position

theorem Recorded.isIn {limit : Nat} {source : String} {p : Position}
    (h : Recorded limit source p) : p.In source.toList := by
  cases h with
  | node parsed within =>
    obtain ⟨role, heach⟩ := (each_sound_of_parse parsed).of_within within
    exact heach.here.placed.1.1
  | @step _ base pos steps s parsed within mem =>
    obtain ⟨role, heach⟩ := (each_sound_of_parse parsed).of_within within
    have hsteps : ∀ s ∈ steps, s.Placed source.toList := heach.here.placed.2
    exact (hsteps s mem).1.1
  | fault failed => exact position_in_of_parse failed

/-- A syntax error is placed at the boundary where reading stopped. -/
theorem position_of_tokenOf {text : List Char} {e : ParseError} (h : tokenOf text = .error e) :
    e.position = placeAt text (readProgram text).attempts.offset := by
  rw [← after_take]
  unfold tokenOf at h
  generalize readProgram text = reading at h ⊢
  split at h
  · cases h
  · cases h
    rfl

theorem Token.Formed.of_within {source : List Char} {t u : Token} (ht : t.Formed source)
    (hu : u.Within t) : u.Formed source := by
  induction hu with
  | refl => exact ht
  | inside hv _ ih =>
    cases ht with
    | mk _ _ inside => exact ih (inside _ hv)

/-- A token within that of a text stands at the boundary where it was read. -/
theorem Token.Within.position_eq {text : List Char} {t u : Token} {o : Nat}
    (ht : tokenOf text = .ok t) (hu : u.Within t) (hrest : u.start.rest = text.drop o) :
    u.start.position = placeAt text o := by
  have hin : u.start.In text := by
    cases (formed_of_tokenOf ht).1.of_within hu with
    | mk place _ _ => exact place
  exact Position.Marks.eq_placeAt (hrest ▸ hin)

/-- The ways to count places agree at every boundary of a text.

The place before a character, or at the end, is found by counting the line feeds before it; by
reading on to it, as a node does; and by reading on with carriage returns and line feeds taken
together, as an error does.  It is the place of a token that is read from this boundary on, of a
syntax error if reading stopped there, and of an opener found there to nest too deeply, and a place
that is recorded for a node, a step or a fault is this place just when the text from there on is
that behind the boundary.  The span of the place is the character behind the boundary, or the empty
span at the end. -/
theorem placeAt_agrees (limit : Nat) (source : String) (o : Nat) (ho : o ≤ source.toList.length)
    (hsize : source.toList.length < 2 ^ 64) :
    let text := source.toList
    ((Cursor.ofText text).advance o).position = placeAt text o ∧
    pairedAfter .first (text.take o) = placeAt text o ∧
    (∀ t u : Token, tokenOf text = .ok t → u.Within t → u.start.rest = text.drop o →
      u.start.position = placeAt text o) ∧
    (∀ e, tokenOf text = .error e → (readProgram text).attempts.offset = o →
      e.position = placeAt text o) ∧
    (deepOffset? limit text = some o → deepOpener? limit text = some (placeAt text o)) ∧
    (∀ p, Recorded limit source p → (textAt text p = text.drop o ↔ p = placeAt text o)) ∧
    Span.at text (placeAt text o) = ⟨o, min (o + 1) text.length⟩ := by
  intro text
  refine ⟨?_, ?_, fun t u => Token.Within.position_eq, ?_, ?_, fun p hp => hp.isIn.textAt_eq_iff o,
    Span.at_placeAt hsize ho⟩
  · rw [Cursor.position_advance, ← after_take]
    rfl
  · rw [pairedAfter_eq, after_take]
  · rintro e he rfl
    exact position_of_tokenOf he
  · intro hdeep
    rw [deepOpener?_eq, hdeep, Option.map_some]

/-- The boundary between a carriage return and a line feed. -/
theorem placeAt_agrees_between :
    let text := "a\r\nb".toList
    ((Cursor.ofText text).advance 2).position = ⟨1, 3⟩ ∧
      pairedAfter .first (text.take 2) = ⟨1, 3⟩ ∧ Span.at text ⟨1, 3⟩ = ⟨2, 3⟩ := by
  intro text
  obtain ⟨hread, hpaired, -, -, -, -, hspan⟩ :=
    placeAt_agrees 64 "a\r\nb" 2 (by decide +kernel) (by decide +kernel)
  have hplace : placeAt text 2 = ⟨1, 3⟩ := by decide +kernel
  rw [hplace] at hread hpaired hspan
  exact ⟨hread, hpaired, hspan⟩

end ExprLang
