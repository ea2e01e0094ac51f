import ExprLang.RegExp.CharSet.Age
import ExprLang.RegExp.CharSet.Category
import ExprLang.RegExp.CharSet.Folding
import ExprLang.RegExp.CharSet.Script

/-!
# ExprLang.RegExp.CharSet.Basic

The sets of characters that a pattern can ask for: single characters, ranges, the classes of
Unicode, and what set operations and case folding make of them.
-/

namespace ExprLang

/-- A set of characters. -/
inductive CharSet
  | nothing
  | anything
  | single (c : Char)
  | range (first last : Char)
  /-- Every `step`-th character from `first` to `last`. -/
  | every (step : Nat) (first last : Char)
  | ofClass (k : CharClass)
  | category (cs : List Category)
  /-- The characters that belong to a script. -/
  | script (index : Nat)
  /-- The characters that are used in a script. -/
  | usedIn (index : Nat)
  /-- The characters introduced by a version of Unicode or before. -/
  | introducedBy (version : Nat)
  | union (a b : CharSet)
  | inter (a b : CharSet)
  | compl (a : CharSet)
  /-- The characters that differ only in case from one in the set. -/
  | anyCase (a : CharSet)
  /-- The same for the letters of ASCII alone. -/
  | anyAsciiCase (a : CharSet)

namespace CharSet

/-- Whether a character is in a set. -/
def has : CharSet → Char → Bool
  | nothing, _ => false
  | anything, _ => true
  | single d, c => c == d
  | range first last, c => first ≤ c && c ≤ last
  | every step first last, c =>
    first ≤ c && c ≤ last && (c.toNat - first.toNat) % step == 0
  | ofClass k, c => k.has c
  | category cs, c => cs.contains (Category.of c)
  | script i, c => scriptOf c == i
  | usedIn i, c => (scriptsOf c).contains i
  | introducedBy v, c => 0 < ageOf c && ageOf c ≤ v
  | union a b, c => a.has c || b.has c
  | inter a b, c => a.has c && b.has c
  | compl a, c => !a.has c
  | anyCase a, c => (caseVariants c).any a.has
  | anyAsciiCase a, c => (asciiVariants c).any a.has

/-- What is in `a` and not in `b`. -/
def diff (a b : CharSet) : CharSet := inter a (compl b)

/-- What is in one of two sets and not in the other. -/
def symmDiff (a b : CharSet) : CharSet := union (diff a b) (diff b a)

/-- The union of some sets. -/
def unions : List CharSet → CharSet
  | [] => nothing
  | [a] => a
  | a :: as => union a (unions as)

/-- The characters between sorted bounds. -/
def within (bounds : Array Nat) : CharSet := ofClass ⟨bounds⟩

/-- The place of a script among the scripts, counted from one, by one of its names. -/
def scriptIndex? (name : String) : Option Nat :=
  (scriptNames.findIdx? (·.contains name)).map (· + 1)

/-- The characters of the script of a name. -/
def script? (name : String) : Option CharSet := (scriptIndex? name).map script

end CharSet

end ExprLang
