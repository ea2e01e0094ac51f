import ExprLang.Source.Position

/-!
# ExprLang.Grammar.Blank

What may stand between two tokens: spaces, tabs, line ends and comments.  A line comment runs up to
a line feed or a carriage return; a block comment counts only if it is closed, and an unclosed one
is not a blank at all.

`blankLength` is the length of the longest run of blanks at the beginning of a text, found in one
pass.
-/

namespace ExprLang

/-- The characters that separate tokens. -/
def isBlank (c : Char) : Bool :=
  c == ' ' || c == '\t' || c == '\r' || c == '\n'

/-- Where a pass over blanks stands. -/
inductive BlankState
  /-- Between blanks. -/
  | outside
  /-- Just after a slash that begins a comment; `block` tells which kind. -/
  | opening (block : Bool)
  /-- In a line comment. -/
  | line
  /-- In a block comment; `star` tells whether the last character was an asterisk. -/
  | block (star : Bool)
  deriving DecidableEq

/-- The state at the beginning of `text`, or `none` where no blank begins. -/
def BlankState.atStart : List Char → Option BlankState
  | '/' :: '/' :: _ => some (.opening false)
  | '/' :: '*' :: _ => some (.opening true)
  | c :: _ => if isBlank c then some .outside else none
  | [] => none

/-- The length of the blanks at the beginning of a text.  `seen` characters were read so far, and
the first `sure` of them are certainly blanks: those before a comment that is still open are. -/
def blankRun (state : BlankState) (seen sure : Nat) : List Char → Nat
  | [] =>
    match state with
    | .line => seen
    | _ => sure
  | c :: rest =>
    match state with
    | .outside =>
      match BlankState.atStart (c :: rest) with
      | some .outside => blankRun .outside (seen + 1) (seen + 1) rest
      | some s => blankRun s (seen + 1) sure rest
      | none => sure
    | .opening false => blankRun .line (seen + 1) (seen + 1) rest
    | .opening true => blankRun (.block false) (seen + 1) sure rest
    | .line =>
      if c = '\n' ∨ c = '\r' then blankRun .outside (seen + 1) (seen + 1) rest
      else blankRun .line (seen + 1) (seen + 1) rest
    | .block star =>
      if star ∧ c = '/' then blankRun .outside (seen + 1) (seen + 1) rest
      else blankRun (.block (c == '*')) (seen + 1) sure rest

/-- The length of the blanks at the beginning of `text`. -/
def blankLength (text : List Char) : Nat :=
  blankRun .outside 0 0 text

/-- Skips blanks. -/
def Cursor.skipBlanks (k : Cursor) : Cursor :=
  k.advance (blankLength k.rest)

end ExprLang
