import ExprLang.Error.Span
import ExprLang.Text.Whitespace
import ExprLang.Text.Width

/-!
# ExprLang.Error.Drawing

An error drawn for a terminal: a heading, the line with the character meant, an arrow from that
character to the message, and a note on the phase.

The drawing has its own idea of lines: besides line feeds, every character that Unicode counts as a
mandatory break ends one.  Characters fill as many columns as a terminal gives them, tabs reach to
the next multiple of four, and white space at the end of the line is not drawn.
-/

namespace ExprLang

/-- The characters that a drawing is made of. -/
inductive DrawingStyle
  | boxes
  /-- Nothing but ASCII. -/
  | plain
  deriving DecidableEq

/-- How an error is drawn. -/
structure DrawingOptions where
  color : Bool
  fileName : String
  style : DrawingStyle

/-- Coloured boxes, and a name for texts that come from no file. -/
def DrawingOptions.standard : DrawingOptions := ⟨true, "<expression>", .boxes⟩

/-- The parts of lines and corners. -/
structure Strokes where
  horizontal : Char
  vertical : Char
  topLeft : Char
  bottomLeft : Char
  bottomRight : Char
  /-- What the arrow begins with, below the character meant. -/
  tee : Char
  /-- What continues below a character of several columns. -/
  underline : Char

def DrawingStyle.strokes : DrawingStyle → Strokes
  | .boxes => ⟨'─', '│', '╭', '╰', '╯', '┬', '─'⟩
  | .plain => ⟨'-', '|', ',', '\x60', '\x27', '|', '^'⟩

namespace Drawing

/-! ## Lines -/

/-- Whether a character ends a line. -/
def isLineBreak (c : Char) : Bool :=
  ['\r', '\n', '\x0b', '\x0c', '\u0085', '\u2028', '\u2029'].contains c

/-- The lines of a text, each with the character that ends it, or the two of a carriage return with
a line feed.  A text that ends with a line has no further line after it. -/
def breakLines : List Char → List (List Char)
  | [] => []
  | '\r' :: '\n' :: cs => ['\r', '\n'] :: breakLines cs
  | c :: cs =>
    if isLineBreak c then [c] :: breakLines cs
    else
      match breakLines cs with
      | l :: ls => (c :: l) :: ls
      | [] => [[c]]

/-- A line, its number counted from zero, and a column of it. -/
structure Place where
  index : Nat
  column : Nat
  line : List Char

/-- The place of the character with a number, in lines of which the first has the number `index`.
The end of a text belongs to its last line. -/
def locate (index offset : Nat) : List (List Char) → Place
  | [] => ⟨index, offset, []⟩
  | [l] => ⟨index, offset, l⟩
  | l :: ls =>
    if offset < l.length then ⟨index, offset, l⟩ else locate (index + 1) (offset - l.length) ls

/-- A line without the white space at its end. -/
def trimEnd (line : List Char) : List Char := (line.reverse.dropWhile isWhitespace).reverse

/-! ## Columns -/

/-- The distance of tab stops. -/
def tabWidth : Nat := 4

/-- The number of columns that the character at an index fills. -/
def cellWidth (c : Char) (index : Nat) : Nat :=
  if c = '\t' then (index / tabWidth + 1) * tabWidth - index
  else if isWhitespace c then 1
  else charWidth c

/-- The columns of the first `length` characters of a line as it is drawn; what lies after its end
counts as one column each. -/
def widths (line : List Char) (length : Nat) : List Nat :=
  (line.zipIdx.map (fun (c, i) => cellWidth c i) ++
    List.replicate (length - line.length) 1).take length

/-! ## Colours -/

/-- A text in a colour of the terminal. -/
def painted (o : DrawingOptions) (code text : String) : String := Excerpt.styled o.color code text

/-- The colour of the error: of its heading, its character and its arrow. -/
def errorColor : String := "31"

/-- The colour of the frame. -/
def frameColor : String := "38;5;246"

/-- The colour of the frame beside rows that are no lines of the text. -/
def faintColor : String := "38;5;240"

/-- The colour of characters that are not meant. -/
def textColor : String := "38;5;249"

/-- The colour of the heading of a note. -/
def noteColor : String := "38;5;115"

/-! ## Rows -/

/-- A number of blanks. -/
def blanks (n : Nat) : String := String.ofList (List.replicate n ' ')

/-- The margin beside a row that is no line of the text. -/
def margin (o : DrawingOptions) (width : Nat) : String :=
  " " ++ painted o faintColor (blanks (width + 1) ++ o.style.strokes.vertical.toString) ++ " "

/-- The characters of a line, the one at `column` in the colour of the error. -/
def lineText (o : DrawingOptions) (s : Span) (column : Nat) (line : List Char) : String :=
  String.join (line.zipIdx.map fun (c, i) =>
    let color := if i = column ∧ s.start < s.stop then errorColor else textColor
    if isWhitespace c then String.join (List.replicate (cellWidth c i) (painted o color " "))
    else painted o color c.toString)

/-- A stroke over a number of columns: the stroke itself, and what continues it. -/
def stroke (o : DrawingOptions) (width : Nat) (first next : Char) : String :=
  match width with
  | 0 => ""
  | n + 1 =>
    painted o errorColor first.toString ++
      String.join (List.replicate n (painted o errorColor next.toString))

/-- The number of characters of the line that the arrow passes. -/
def arrowLength (s : Span) (column : Nat) : Nat := column + (s.stop - s.start) + 2

/-- The row below the line, in which the arrow begins. -/
def arrowStart (o : DrawingOptions) (s : Span) (column : Nat) (line : List Char) : String :=
  let k := o.style.strokes
  String.join ((widths line (arrowLength s column)).zipIdx.map fun (w, i) =>
    if i = column then
      if s.start < s.stop then stroke o w k.tee k.underline else stroke o w k.vertical ' '
    else blanks w)

/-- The row in which the arrow reaches the message. -/
def arrowEnd (o : DrawingOptions) (s : Span) (column : Nat) (line : List Char) : String :=
  let k := o.style.strokes
  String.join ((widths line (arrowLength s column)).zipIdx.map fun (w, i) =>
    if i = column then stroke o w k.bottomLeft k.horizontal
    else if column < i then stroke o w k.horizontal k.horizontal
    else blanks w)

/-- The rows of an error at a place of a text. -/
def rows (o : DrawingOptions) (e : Error) (source : List Char) (pos : Position) : List String :=
  let k := o.style.strokes
  let s := Span.at source pos
  let place := locate 0 s.start (breakLines source)
  let line := trimEnd place.line
  let number := toString (place.index + 1)
  let width := number.length
  let frame (c : Char) := painted o frameColor c.toString
  let note :=
    match e.origin with
    | some origin =>
      [margin o width, margin o width ++ painted o noteColor "Note" ++ ": raised by " ++ origin]
    | none => []
  [painted o errorColor ("[" ++ e.kind.name ++ "] Error:") ++ " " ++ e.message,
    blanks (width + 2) ++ frame k.topLeft ++ frame k.horizontal ++ frame '[' ++
      s!" {o.fileName}:{number}:{place.column + 1} " ++ frame ']',
    blanks (width + 2) ++ frame k.vertical,
    " " ++ painted o frameColor (number ++ " " ++ k.vertical.toString) ++ " " ++
      lineText o s place.column line,
    margin o width ++ arrowStart o s place.column line,
    margin o width ++ arrowEnd o s place.column line ++ " " ++ e.message] ++
  note ++
  [painted o frameColor
    (String.ofList (List.replicate (width + 2) k.horizontal) ++ k.bottomRight.toString)]

end Drawing

/-- Draws an error.  One without a place or a text is shown in one line. -/
def Error.draw (e : Error) (o : DrawingOptions) : String :=
  match e.source, e.position with
  | some source, some pos =>
    String.join ((Drawing.rows o e source.toList pos).map fun row => row ++ "\n")
  | _, _ => e.display ++ "\n"

end ExprLang
