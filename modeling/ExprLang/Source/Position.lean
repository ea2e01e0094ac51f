/-!
# ExprLang.Source.Position

Where a character stands in a source text: its line and its column, both counted from one.  A line
ends after a line feed and nowhere else, and a column is one character, so a carriage return takes
a column of its own.

`Cursor` pairs what is left of the text with the place reached, and `Cursor.advance` keeps the two
together: the place after some characters depends on those characters alone
(`Cursor.position_advance`).
-/

namespace ExprLang

/-- A line and a column, both counted from one. -/
structure Position where
  line : Nat
  column : Nat
  deriving DecidableEq

namespace Position

/-- The place of the first character of a text. -/
def first : Position := ⟨1, 1⟩

instance : Inhabited Position := ⟨first⟩

/-- The place just after the character `c` that stands at `p`. -/
def next (p : Position) (c : Char) : Position :=
  if c = '\n' then ⟨p.line + 1, 1⟩ else ⟨p.line, p.column + 1⟩

/-- The place just after `text`, which begins at `p`. -/
def after (p : Position) (text : List Char) : Position :=
  text.foldl next p

@[simp] theorem after_nil (p : Position) : p.after [] = p := rfl

@[simp] theorem after_cons (p : Position) (c : Char) (text : List Char) :
    p.after (c :: text) = (p.next c).after text := rfl

theorem after_append (p : Position) (s t : List Char) :
    p.after (s ++ t) = (p.after s).after t := by
  simp [after, List.foldl_append]

/-- The wording used in messages. -/
def describe (p : Position) : String :=
  s!"line {p.line}, column {p.column}"

end Position

/-- A place in a text: what is left to read, how many characters were read, and where that is. -/
structure Cursor where
  rest : List Char
  offset : Nat
  position : Position

namespace Cursor

/-- The beginning of a text. -/
def ofText (text : List Char) : Cursor := ⟨text, 0, .first⟩

/-- Reads `n` characters, or as many as are left. -/
def advance : Nat → Cursor → Cursor
  | 0, k => k
  | n + 1, k =>
    match k.rest with
    | [] => k
    | c :: rest => advance n ⟨rest, k.offset + 1, k.position.next c⟩

@[simp] theorem rest_advance (n : Nat) (k : Cursor) : (k.advance n).rest = k.rest.drop n := by
  induction n generalizing k with
  | zero => simp [advance]
  | succ n ih =>
    obtain ⟨rest, offset, position⟩ := k
    cases rest with
    | nil => simp [advance]
    | cons c rest => simp [advance, ih]

/-- The place reached is the place after the characters read. -/
theorem position_advance (n : Nat) (k : Cursor) :
    (k.advance n).position = k.position.after (k.rest.take n) := by
  induction n generalizing k with
  | zero => simp [advance]
  | succ n ih =>
    obtain ⟨rest, offset, position⟩ := k
    cases rest with
    | nil => simp [advance]
    | cons c rest => simp [advance, ih]

theorem offset_advance (n : Nat) (k : Cursor) :
    (k.advance n).offset = k.offset + min n k.rest.length := by
  induction n generalizing k with
  | zero => simp [advance]
  | succ n ih =>
    obtain ⟨rest, offset, position⟩ := k
    cases rest with
    | nil => simp [advance]
    | cons c rest => simp only [advance, ih, List.length_cons]; omega

end Cursor

end ExprLang
