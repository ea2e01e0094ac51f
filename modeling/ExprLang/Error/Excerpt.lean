import ExprLang.Error.Basic

/-!
# ExprLang.Error.Excerpt

The lines of a text around a place, with a caret below the character meant.

Line numbers and distances are 64-bit words, as is their sum: a distance below so large that the
sum passes the largest word comes out before the line meant.
-/

namespace ExprLang

/-- How much an excerpt shows. -/
structure ExcerptOptions where
  /-- The number of lines shown before the line meant. -/
  above : UInt64
  /-- The number of lines shown after it. -/
  below : UInt64
  /-- Whether the excerpt is coloured for a terminal. -/
  color : Bool
  deriving DecidableEq

/-- Two lines on either side, without colours. -/
def ExcerptOptions.standard : ExcerptOptions := ⟨2, 2, false⟩

/-- The lines of a text, which line feeds separate; they are not part of the lines. -/
def splitLines : List Char → List (List Char)
  | [] => [[]]
  | c :: cs =>
    if c = '\n' then [] :: splitLines cs
    else
      match splitLines cs with
      | l :: ls => (c :: l) :: ls
      | [] => [[c]]

/-- A line without the carriage returns at its end. -/
def dropReturns (line : List Char) : List Char := (line.reverse.dropWhile (· = '\r')).reverse

namespace Excerpt

/-- The lines of an excerpt: the first, the one meant and the last, counted from zero. -/
structure Window where
  first : Nat
  target : Nat
  last : Nat
  deriving DecidableEq

/-- The lines shown around a line of a text with `count` lines.  A line number outside the text
means its first or last line. -/
def window (count line : Nat) (o : ExcerptOptions) : Window :=
  let target := max 1 (min line count) - 1
  ⟨target - o.above.toNat, target, min (UInt64.ofNat target + o.below).toNat (count - 1)⟩

/-- A text in the style that `style` switches on. -/
def styled (color : Bool) (style text : String) : String :=
  if color then "\x1b[" ++ style ++ "m" ++ text ++ "\x1b[0m" else text

/-- A text with blanks before it up to a width. -/
def alignRight (width : Nat) (text : String) : String :=
  String.ofList (List.replicate (width - text.length) ' ') ++ text

/-- What stands before the caret: a blank for every character, but tabs stay. -/
def caretPadding (line : List Char) (column : Nat) : List Char :=
  (line.take (column - 1)).map fun c => if c = '\t' then '\t' else ' '

/-- The rows of a line: its number and text, and under the line meant the caret. -/
def rows (o : ExcerptOptions) (w : Window) (column index : Nat) (line : List Char) : String :=
  let width := (toString (w.last + 1)).length
  let number := alignRight width (toString (index + 1))
  let text := String.ofList line
  if index = w.target then
    styled o.color "1" number ++ " | " ++ text ++ "\n" ++
      alignRight width "" ++ " | " ++ String.ofList (caretPadding line column) ++
      styled o.color "1;31" "^" ++ "\n"
  else number ++ " | " ++ text ++ "\n"

end Excerpt

open Excerpt in
/-- The lines of a text around a place, below a heading. -/
def excerpt (source : String) (pos : Position) (message : String) (o : ExcerptOptions) : String :=
  let lines := (splitLines source.toList).map dropReturns
  let w := window lines.length pos.line o
  let shown := (lines.zipIdx.take (w.last + 1)).drop w.first
  styled o.color "1;31" "ERROR" ++ ": " ++ message ++ "\n" ++
    String.join (shown.map fun l => rows o w pos.column l.2 l.1)

/-- The lines around the place of an error, if it has a place and a text. -/
def Error.excerpt (e : Error) (o : ExcerptOptions) : Option String :=
  match e.source, e.position with
  | some source, some pos => some (ExprLang.excerpt source pos e.message o)
  | _, _ => none

end ExprLang
