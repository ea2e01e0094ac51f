import ExprLang.Error.Excerpt

/-!
# ExprLang.Error.Span

The character that a place means, by its number in the whole text.  The numbers are 64-bit words.
-/

namespace ExprLang

/-- A range of the characters of a text: from the first up to but not including the second. -/
structure Span where
  start : Nat
  stop : Nat
  deriving DecidableEq

/-- The number of the first character of a line, or a number past the text if there is no such
line. -/
def lineStart (source : List Char) (line : Nat) : Nat :=
  ((splitLines source).take (line - 1)).foldl (fun n l => n + l.length + 1) 0

/-- The character at a place; at the end of the text, and after it, the empty range at its end. -/
def Span.at (source : List Char) (pos : Position) : Span :=
  let size := source.length
  let start := (UInt64.ofNat (lineStart source pos.line) + UInt64.ofNat (pos.column - 1)).toNat
  ⟨min start size, min (min start size + 1) size⟩

end ExprLang
