import ExprLang.Grammar.Language

/-!
# ExprLang.Literal.Escape

Backslash escapes in string literals, in the text of templates and in regular expressions.

In a string or template a backslash and the character after it stand for one character, or for
none when the second is a line feed: the line goes on.  `\x` takes two hexadecimal digits, `\u`
takes four, or up to six between braces, and they must name a character.  In a regular expression
only the slash is unescaped, everything else being left to the pattern's own notation.
-/

namespace ExprLang

/-- Why an escape cannot be read. -/
inductive EscapeError
  /-- A backslash before a character that has no meaning after it. -/
  | unknown (c : Char)
  /-- Digits that name no character. -/
  | noCharacter (digits : List Char)
  /-- A backslash at the end. -/
  | unterminated
  deriving DecidableEq

/-- The wording of an escape error. -/
def EscapeError.message : EscapeError → String
  | .unknown c => "invalid escape sequence '\\" ++ c.toString ++ "'"
  | .noCharacter digits => "invalid unicode escape '" ++ String.ofList digits ++ "'"
  | .unterminated => "unterminated escape sequence"

namespace Escape

/-- The value of a hexadecimal digit. -/
def hexValue? (c : Char) : Option Nat :=
  if '0' ≤ c ∧ c ≤ '9' then some (c.toNat - '0'.toNat)
  else if 'a' ≤ c ∧ c ≤ 'f' then some (c.toNat - 'a'.toNat + 10)
  else if 'A' ≤ c ∧ c ≤ 'F' then some (c.toNat - 'A'.toNat + 10)
  else none

/-- The number that hexadecimal digits denote. -/
def hexNumber? : List Char → Nat → Option Nat
  | [], n => some n
  | c :: cs, n =>
    match hexValue? c with
    | some d => hexNumber? cs (16 * n + d)
    | none => none

/-- The character with the number given, if there is one. -/
def charOf? (n : Nat) : Option Char :=
  if h : n.isValidChar then some (Char.ofNatAux n h) else none

/-- The character that hexadecimal digits name. -/
def codePoint? (digits : List Char) : Option Char :=
  match digits with
  | [] => none
  | _ => (hexNumber? digits 0).bind charOf?

/-- The digits must name a character. -/
def codePoint (digits : List Char) : Except EscapeError Char :=
  match codePoint? digits with
  | some c => .ok c
  | none => .error (.noCharacter digits)

/-- The character that a single character after a backslash stands for. -/
def simple? : Char → Option Char
  | 'n' => some '\n'
  | 't' => some '\t'
  | 'r' => some '\r'
  | '0' => some '\x00'
  | 'b' => some '\x08'
  | 'f' => some '\x0c'
  | 'v' => some '\x0b'
  | '\\' => some '\\'
  | '\x27' => some '\x27'
  | '"' => some '"'
  | '\x60' => some '\x60'
  | '$' => some '$'
  | '/' => some '/'
  | _ => none

/-- What follows `\x` or `\u`: as many digits as asked for. -/
def fixedDigits (count : Nat) (s : List Char) : Except EscapeError (Option Char × List Char) :=
  if s.length < count then .error (.noCharacter s)
  else (codePoint (s.take count)).map fun c => (some c, s.drop count)

/-- What follows `\u` and an opening brace: one to six digits and the closing brace. -/
def bracedDigits (s : List Char) : Except EscapeError (Option Char × List Char) :=
  if '\x7d' ∈ s then
    let digits := s.takeWhile (· != '\x7d')
    if 6 < digits.length then .error (.noCharacter digits)
    else (codePoint digits).map fun c => (some c, s.drop (digits.length + 1))
  else .error (.noCharacter ('\x7b' :: s))

/-- Reads what follows a backslash: the character meant, if any, and what is left. -/
def read : List Char → Except EscapeError (Option Char × List Char)
  | [] => .error .unterminated
  | '\n' :: s => .ok (none, s)
  | 'x' :: s => fixedDigits 2 s
  | 'u' :: '\x7b' :: s => bracedDigits s
  | 'u' :: s => fixedDigits 4 s
  | c :: s =>
    match simple? c with
    | some d => .ok (some d, s)
    | none => .error (.unknown c)

theorem length_fixedDigits {n : Nat} {s : List Char} {d : Option Char} {s' : List Char}
    (h : fixedDigits n s = .ok (d, s')) : s'.length ≤ s.length := by
  unfold fixedDigits at h
  split at h
  · cases h
  · cases hc : codePoint (s.take n) <;> simp [hc, Except.map] at h
    rw [← h.2]; simp

theorem length_bracedDigits {s : List Char} {d : Option Char} {s' : List Char}
    (h : bracedDigits s = .ok (d, s')) : s'.length ≤ s.length := by
  unfold bracedDigits at h
  split at h
  · dsimp only at h
    split at h
    · cases h
    · generalize hc : codePoint (s.takeWhile (· != '\x7d')) = r at h
      cases r <;> simp [Except.map] at h
      rw [← h.2]; simp
  · cases h

/-- What is left is shorter than what was given. -/
theorem length_read {s : List Char} {d : Option Char} {s' : List Char}
    (h : read s = .ok (d, s')) : s'.length < s.length := by
  unfold read at h
  split at h
  · cases h
  · cases h; simp
  · have := length_fixedDigits h; simp; omega
  · have := length_bracedDigits h; simp; omega
  · have := length_fixedDigits h; simp; omega
  · split at h
    · cases h; simp
    · cases h

end Escape

/-- The text that a string literal or the text of a template stands for. -/
def unescape (s : List Char) : Except EscapeError (List Char) :=
  match s with
  | [] => .ok []
  | c :: rest =>
    if c = '\\' then
      match h : Escape.read rest with
      | .error e => .error e
      | .ok (d, rest') => (unescape rest').map (d.toList ++ ·)
    else (unescape rest).map (c :: ·)
termination_by s.length
decreasing_by
  · have := Escape.length_read h; simp; omega
  · simp

/-- The pattern that the body of a regular expression literal stands for: a slash needs no
backslash there, every other escape stays. -/
def unescapeSlashes : List Char → List Char
  | '\\' :: '/' :: rest => '/' :: unescapeSlashes rest
  | '\\' :: c :: rest => '\\' :: c :: unescapeSlashes rest
  | c :: rest => c :: unescapeSlashes rest
  | [] => []

end ExprLang
