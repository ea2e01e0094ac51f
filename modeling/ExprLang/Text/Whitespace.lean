import ExprLang.Text.CharClass

/-!
# ExprLang.Text.Whitespace

The Unicode property White_Space, and cutting white space off the ends of a text.
-/

namespace ExprLang

/-- The characters with the Unicode property White_Space. -/
def whitespaceClass : CharClass := ⟨#[
  0x9, 0xE, 0x20, 0x21, 0x85, 0x86, 0xA0, 0xA1, 0x1680, 0x1681, 0x2000, 0x200B, 0x2028, 0x202A,
  0x202F, 0x2030, 0x205F, 0x2060, 0x3000, 0x3001]⟩

/-- Whether a character is white space. -/
def isWhitespace (c : Char) : Bool := whitespaceClass.has c

/-- A text without the white space at its two ends. -/
def trimWhitespace (s : List Char) : List Char :=
  ((s.dropWhile isWhitespace).reverse.dropWhile isWhitespace).reverse

end ExprLang
