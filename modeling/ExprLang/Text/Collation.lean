import ExprLang.Text.Case

/-!
# ExprLang.Text.Collation

The order in which the language puts texts: first as if all were in lower case; then, of texts that
differ only in case, the one with a lower case letter first; and last by code points.
-/

namespace ExprLang

/-- The lexicographic order of two lists. -/
def compareLists (cmp : α → α → Ordering) : List α → List α → Ordering
  | [], [] => .eq
  | [], _ :: _ => .lt
  | _ :: _, [] => .gt
  | a :: as, b :: bs => (cmp a b).then (compareLists cmp as bs)

/-- The order of two characters by code point. -/
def compareChars (a b : Char) : Ordering := compare a.toNat b.toNat

/-- Lower case comes before upper case. -/
def compareCases (a b : Bool) : Ordering := compare a.toNat b.toNat

/-- The order of two texts. -/
def collate (s t : List Char) : Ordering :=
  (compareLists compareChars (s.flatMap lowerChar) (t.flatMap lowerChar)).then
    ((compareLists compareCases (s.map isUppercase) (t.map isUppercase)).then
      (compareLists compareChars s t))

end ExprLang
