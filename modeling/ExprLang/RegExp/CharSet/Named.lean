import ExprLang.RegExp.CharSet.Break

/-!
# ExprLang.RegExp.CharSet.Named

The sets that patterns ask for by name: the short classes such as `\d`, the bracketed classes of
ASCII, and the properties of Unicode.
-/

namespace ExprLang.CharSet

/-! ## Short classes -/

/-- Decimal digits. -/
def digit (unicode : Bool) : CharSet := if unicode then category [.nd] else range '0' '9'

/-- White space. -/
def space (unicode : Bool) : CharSet :=
  if unicode then whitespace else union (range '\t' '\x0d') (single ' ')

/-- What words are made of: letters, marks, digits, connecting punctuation and joiners. -/
def wordPart (unicode : Bool) : CharSet :=
  if unicode then
    unions [alphabetic, category [.mn, .mc, .me, .nd, .pc], joinControl]
  else unions [range 'a' 'z', range 'A' 'Z', range '0' '9', single '_']

/-- The bracketed classes of ASCII, such as `[:alpha:]`. -/
def ascii? (name : String) : Option CharSet :=
  match name with
  | "alnum" => some (unions [range '0' '9', range 'A' 'Z', range 'a' 'z'])
  | "alpha" => some (unions [range 'A' 'Z', range 'a' 'z'])
  | "ascii" => some (range '\x00' '\x7f')
  | "blank" => some (union (single '\t') (single ' '))
  | "cntrl" => some (union (range '\x00' '\x1f') (single '\x7f'))
  | "digit" => some (range '0' '9')
  | "graph" => some (range '!' '~')
  | "lower" => some (range 'a' 'z')
  | "print" => some (range ' ' '~')
  | "punct" => some (unions [range '!' '/', range ':' '@', range '[' '\x60', range '\x7b' '~'])
  | "space" => some (union (range '\t' '\x0d') (single ' '))
  | "upper" => some (range 'A' 'Z')
  | "word" => some (unions [range '0' '9', range 'A' 'Z', single '_', range 'a' 'z'])
  | "xdigit" => some (unions [range '0' '9', range 'A' 'F', range 'a' 'f'])
  | _ => none

/-! ## Properties of Unicode -/

/-- A name as names are compared: without case, blanks, hyphens, underscores and a leading `is`. -/
def looseName (name : List Char) : String :=
  let lower := name.map Char.toLower
  let marked := "is".toList.isPrefixOf lower
  let body := if marked then lower.drop 2 else lower
  let plain := body.filter fun c => c.toNat < 128 && c != '_' && c != '-' && c != ' '
  if marked ∧ plain = ['c'] then "isc" else String.ofList plain

/-- The set that a table lists under a name. -/
def listed? (table : List (List String × CharSet)) (name : String) : Option CharSet :=
  (table.find? (·.1.contains name)).map (·.2)

/-- The general category, or group of categories, of a loose name. -/
def category? (name : String) : Option CharSet :=
  match name with
  | "any" => some anything
  | "ascii" => some (range '\x00' '\x7f')
  | "assigned" => some (compl (category [.cn]))
  | _ => (categoryNames.find? (·.1.contains name)).map fun e => category e.2

/-- The property of a loose name.  Three short names mean a category or a script first. -/
def property? (name : String) : Option CharSet :=
  if ["cf", "sc", "lc"].contains name then none else listed? propertyNames name

/-- The characters introduced by the version of a loose name or before. -/
def age? (name : String) : Option CharSet :=
  (ageNames.findIdx? (·.contains name)).map fun i => introducedBy (i + 1)

/-- What a name between braces asks for: a property, a category or a script. -/
def named? (name : List Char) : Option CharSet :=
  let n := looseName name
  (property? n).or ((category? n).or (script? n))

/-- What a property and a value ask for. -/
def valued? (property value : List Char) : Option CharSet :=
  let v := looseName value
  match looseName property with
  | "gc" | "generalcategory" => category? v
  | "sc" | "script" => script? v
  | "scx" | "scriptextensions" => (scriptIndex? v).map usedIn
  | "age" => age? v
  | "gcb" | "graphemeclusterbreak" => listed? graphemeBreaks v
  | "wb" | "wordbreak" => listed? wordBreaks v
  | "sb" | "sentencebreak" => listed? sentenceBreaks v
  | _ => none

end ExprLang.CharSet
