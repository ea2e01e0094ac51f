/-!
# ExprLang.Text.Search

Finding a text in another: where it first stands, and the text without it.
-/

namespace ExprLang

/-- The number of characters before the first place where `needle` stands in a text. -/
def findText (needle : List Char) : List Char → Option Nat
  | [] => if needle.isEmpty then some 0 else none
  | c :: rest =>
    if needle.isPrefixOf (c :: rest) then some 0 else (findText needle rest).map (· + 1)

/-- A text without the first occurrence of `needle`. -/
def removeFirst (needle text : List Char) : List Char :=
  match findText needle text with
  | some i => text.take i ++ text.drop (i + needle.length)
  | none => text

end ExprLang
