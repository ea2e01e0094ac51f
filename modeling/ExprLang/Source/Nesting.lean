import ExprLang.Source.Position
import ExprLang.Text.Whitespace
import ExprLang.Text.Alphanumeric

/-!
# ExprLang.Source.Nesting

How deeply the brackets of a text nest, found in one pass and before the text is read by the
grammar, so that a text that nests too deeply is refused without recursion.

The pass knows just enough of the language to pass over brackets in string literals, regular
expressions, the text of templates and comments.  A slash after an operand divides, anywhere else
it begins a regular expression; a single flag remembers which.
-/

namespace ExprLang

/-- What opens a level of nesting. -/
inductive Opener
  | paren | bracket | brace | template | templateHole | choice
  deriving DecidableEq

/-- What the characters of a text are being read as. -/
inductive ScanMode
  /-- Operators, names and brackets. -/
  | code
  /-- A string literal, up to the quote given. -/
  | quoted (quote : Char)
  /-- A regular expression, up to a slash or the end of the line. -/
  | regexp
  /-- A comment up to the end of the line. -/
  | line
  /-- A comment up to an asterisk and a slash. -/
  | block
  deriving DecidableEq

/-- The state of the pass. -/
structure Scan where
  mode : ScanMode
  /-- The openers that are still open, the innermost first. -/
  opened : List Opener
  /-- Whether the last token ends an operand. -/
  afterOperand : Bool
  /-- Whether the next character belongs to what was read last. -/
  skipping : Bool
  deriving DecidableEq

namespace Scan

/-- The state at the beginning of a text. -/
def initial : Scan := ⟨.code, [], false, false⟩

/-- Opens a level. -/
def push (s : Scan) (o : Opener) : Scan := { s with opened := o :: s.opened, afterOperand := false }

/-- Closes the innermost level if it is one of those given. -/
def popIf (s : Scan) (os : List Opener) : Scan :=
  match s.opened with
  | o :: rest => if os.contains o then { s with opened := rest } else s
  | [] => s

/-- The state after the character `c` of the text of a template. -/
def stepTemplate (s : Scan) (c : Char) (next : Option Char) : Scan :=
  if c = '\\' then { s with skipping := true }
  else if c = '\x60' then { s with opened := s.opened.tail, afterOperand := true }
  else if c = '$' ∧ next = some '\x7b' then { s.push .templateHole with skipping := true }
  else s

/-- The state after the character `c` of the code. -/
def stepCode (s : Scan) (c : Char) (next : Option Char) : Scan :=
  if c = '\x27' ∨ c = '"' then { s with mode := .quoted c, afterOperand := true }
  else if c = '/' ∧ next = some '/' then { s with mode := .line }
  else if c = '/' ∧ next = some '*' then { s with mode := .block, skipping := true }
  else if c = '/' ∧ !s.afterOperand then { s with mode := .regexp, afterOperand := true }
  else if c = '\x60' then { s with opened := .template :: s.opened }
  else if c = '(' then s.push .paren
  else if c = '[' then s.push .bracket
  else if c = '\x7b' then s.push .brace
  else if c = ')' then { s.popIf [.paren] with afterOperand := true }
  else if c = ']' then { s.popIf [.bracket] with afterOperand := true }
  else if c = '\x7d' then { s.popIf [.brace, .templateHole] with afterOperand := true }
  else if c = '?' then
    if next = some ':' ∨ next = some '.' then { s with skipping := true, afterOperand := false }
    else s.push .choice
  else if c = ':' then { s.popIf [.choice] with afterOperand := false }
  else if isWhitespace c then s
  else { s with afterOperand := isAlphanumeric c || c == '_' || c == '$' }

/-- The state after the character `c`, where `next` follows it. -/
def step (s : Scan) (c : Char) (next : Option Char) : Scan :=
  if s.skipping then { s with skipping := false }
  else
    match s.mode with
    | .code =>
      if s.opened.head? = some .template then s.stepTemplate c next else s.stepCode c next
    | .quoted q =>
      if c = '\\' then { s with skipping := true }
      else if c = q then { s with mode := .code }
      else s
    | .regexp =>
      if c = '\\' then { s with skipping := true }
      else if c = '/' ∨ c = '\n' then { s with mode := .code }
      else s
    | .line => if c = '\n' then { s with mode := .code } else s
    | .block =>
      if c = '*' ∧ next = some '/' then { s with mode := .code, skipping := true } else s

end Scan

/-- The place of the first opener that nests deeper than `limit`, in a text read from the state `s`
and beginning at `p`. -/
def deepOpenerFrom (limit : Nat) (s : Scan) (p : Position) : List Char → Option Position
  | [] => none
  | c :: rest =>
    let s' := s.step c rest.head?
    if s.opened.length < s'.opened.length ∧ limit < s'.opened.length then some p
    else deepOpenerFrom limit s' (p.next c) rest

/-- The place of the first opener of `text` that nests deeper than `limit`. -/
def deepOpener? (limit : Nat) (text : List Char) : Option Position :=
  deepOpenerFrom limit .initial .first text

end ExprLang
