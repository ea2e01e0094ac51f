import ExprLang.Text.CaseTable

/-!
# ExprLang.Text.Case

Upper and lower case by the full Unicode mappings, under which a character may become several.  The
Greek capital sigma is the one letter whose lower case depends on its neighbours: at the end of a
word it becomes a final sigma.
-/

namespace ExprLang

/-- Maps a character by a table of exceptions and by runs. -/
def mapCase (special : List (Nat × List Nat)) (runs : List CaseRun) (c : Char) : List Char :=
  match special.lookup c.toNat with
  | some cs => cs.map Char.ofNat
  | none => [Char.ofNat (mapRuns runs c.toNat)]

/-- The lower case of a character, whatever stands next to it. -/
def lowerChar (c : Char) : List Char := mapCase lowerSpecial lowerRuns c

/-- The upper case of a character. -/
def upperChar (c : Char) : List Char := mapCase upperSpecial upperRuns c

/-- Whether a character is upper case. -/
def isUppercase (c : Char) : Bool := uppercaseClass.has c

/-- Whether the first of some characters that is not passed over has a case. -/
def meetsCased (s : List Char) : Bool :=
  match s.dropWhile caseIgnorableClass.has with
  | c :: _ => casedClass.has c
  | [] => false

/-- The lower case of a text that follows the characters `before`, the nearest first. -/
def lowerFrom (before : List Char) : List Char → List Char
  | [] => []
  | c :: rest =>
    let image :=
      if c = 'Σ' then (if meetsCased before && !meetsCased rest then ['ς'] else ['σ'])
      else lowerChar c
    image ++ lowerFrom (c :: before) rest

/-- A text in lower case. -/
def lowerText (s : List Char) : List Char := lowerFrom [] s

/-- A text in upper case. -/
def upperText (s : List Char) : List Char := s.flatMap upperChar

end ExprLang
