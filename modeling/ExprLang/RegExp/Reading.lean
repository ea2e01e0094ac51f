import ExprLang.Literal.Escape
import ExprLang.Number.Numeral
import ExprLang.RegExp.Pattern
import ExprLang.Text.Alphanumeric

/-!
# ExprLang.RegExp.Reading

The notation of regular expressions.

Besides the usual operators the notation has flags that hold from where they are set to the end of
the group (`(?i)`) or for one group (`(?i:…)`), named groups, set operations between brackets
(`&&`, `--`, `~~`), classes of Unicode and of ASCII, and a spaced mode in which blanks and comments
mean nothing.  It has no look-around and no back-references.

Reading says only whether the notation is right, not what is wrong with it.
-/

namespace ExprLang.RegexReader

/-- The modes that flags switch. -/
structure Flags where
  anyCase : Bool
  multiLine : Bool
  dotAll : Bool
  swapGreed : Bool
  unicode : Bool
  crlf : Bool
  spaced : Bool

/-- What is left of the pattern, the flags in force, the groups opened and the names given. -/
structure State where
  rest : List Char
  flags : Flags
  groups : Nat
  names : List (List Char)

/-- A reader of a part of a pattern, which fails on wrong notation. -/
abbrev Reader := StateT State Option

/-- What was read, with the height of its tree. -/
structure Part where
  regex : Regex
  height : Nat

/-- The height beyond which patterns are refused. -/
def heightLimit : Nat := 250

/-! ## Characters -/

/-- Drops blanks and comments; `comment` tells whether a comment is open. -/
def dropBlanks (comment : Bool) : List Char → List Char
  | [] => []
  | c :: rest =>
    if comment then dropBlanks (c != '\n') rest
    else if isWhitespace c then dropBlanks false rest
    else if c = '#' then dropBlanks true rest
    else c :: rest

/-- The next character, if there is one. -/
def peek : Reader (Option Char) := do return (← get).rest.head?

/-- The next character, which must be there. -/
def current : Reader Char := do
  match (← get).rest with
  | c :: _ => return c
  | [] => failure

/-- Whether the characters given are next. -/
def isNext (s : String) : Reader Bool := do return s.toList.isPrefixOf (← get).rest

/-- Passes over `n` characters. -/
def drop (n : Nat) : Reader Unit := modify fun s => { s with rest := s.rest.drop n }

/-- Passes over the characters given if they are next. -/
def dropIf (s : String) : Reader Bool := do
  if ← isNext s then
    drop s.length
    return true
  else return false

/-- Passes over blanks and comments in spaced mode. -/
def skip : Reader Unit :=
  modify fun s => if s.flags.spaced then { s with rest := dropBlanks false s.rest } else s

/-- Passes over one character and the blanks after it. -/
def next : Reader Unit := do
  drop 1
  skip

/-- The same where the pattern must go on. -/
def nextInside : Reader Unit := do
  next
  discard current

/-- The characters from here on that satisfy `p`, at most `fuel`, with blanks skipped after each. -/
def takeSpaced (p : Char → Bool) : (fuel : Nat) → Reader (List Char)
  | 0 => return []
  | fuel + 1 => do
    match ← peek with
    | some c =>
      if p c then
        next
        return c :: (← takeSpaced p fuel)
      else return []
    | none => return []

/-- The number of characters left. -/
def remaining : Reader Nat := do return (← get).rest.length

/-! ## Escapes -/

/-- What a single escape or character stands for. -/
inductive Atom
  | char (c : Char)
  | set (s : CharSet)
  | look (a : Assertion)

/-- Folds the case of a set if the flags ask for it, then negates it if `negated`. -/
def foldAndNegate (negated : Bool) (s : CharSet) : Reader CharSet := do
  let f := (← get).flags
  let folded :=
    if f.anyCase then (if f.unicode then .anyCase s else .anyAsciiCase s) else s
  if negated then
    if f.unicode then return .compl folded else failure
  else return folded

/-- The character that hexadecimal digits name, which must be there. -/
def named (digits : List Char) : Reader Char :=
  match Escape.codePoint? digits with
  | some c => return c
  | none => failure

/-- Hexadecimal digits after `\x`, `\u` or `\U`: as many as `count`, or any number in braces.  Two
digits name a byte where Unicode is switched off, and a byte must be ASCII. -/
def hexEscape (count : Nat) : Reader Char := do
  nextInside
  if (← current) = '\x7b' then
    next
    let digits ← takeSpaced (· != '\x7d') (← remaining)
    discard current
    next
    named digits
  else
    let digits ← takeSpaced (fun c => (Escape.hexValue? c).isSome) count
    if digits.length != count then failure
    let c ← named digits
    if count == 2 && 128 ≤ c.toNat && !(← get).flags.unicode then failure
    return c

/-- Cuts a text at the first place where `mark` stands. -/
def cutAt (mark : List Char) : List Char → Option (List Char × List Char)
  | [] => none
  | c :: rest =>
    if mark.isPrefixOf (c :: rest) then some ([], (c :: rest).drop mark.length)
    else (cutAt mark rest).map fun (a, b) => (c :: a, b)

/-- The set that the text between the braces of a class asks for, and whether it is negated. -/
def classQuery (s : List Char) : Option (CharSet × Bool) :=
  match cutAt ['!', '='] s with
  | some (p, v) => (CharSet.valued? p v).map (·, true)
  | none =>
    match cutAt [':'] s with
    | some (p, v) => (CharSet.valued? p v).map (·, false)
    | none =>
      match cutAt ['='] s with
      | some (p, v) => (CharSet.valued? p v).map (·, false)
      | none => (CharSet.named? s).map (·, false)

/-- A class of Unicode, after `\p` or `\P`. -/
def unicodeClass : Reader CharSet := do
  let negated := (← current) == 'P'
  nextInside
  let name ←
    if (← current) = '\x7b' then do
      next
      let name ← takeSpaced (· != '\x7d') (← remaining)
      discard current
      drop 1
      pure name
    else do
      let c ← current
      if c = '\\' then failure
      next
      pure [c]
  if !(← get).flags.unicode then failure
  match classQuery name with
  | some (s, opposite) => foldAndNegate (negated != opposite) s
  | none => failure

/-- A class such as `\d`; its capital stands for the opposite. -/
def shortClass (c : Char) : Reader CharSet := do
  drop 1
  let unicode := (← get).flags.unicode
  let s :=
    match c.toLower with
    | 'd' => CharSet.digit unicode
    | 's' => CharSet.space unicode
    | _ => CharSet.wordPart unicode
  if c.isUpper then
    if unicode then return .compl s else failure
  else return s

/-- The kinds of word boundaries that `\b` names between braces. -/
def namedBoundary? (unicode : Bool) : String → Option Assertion
  | "start" => some (.wordStart unicode)
  | "end" => some (.wordEnd unicode)
  | "start-half" => some (.wordStartHalf unicode)
  | "end-half" => some (.wordEndHalf unicode)
  | _ => none

/-- A word boundary, after `\b`: braces after it name its kind, unless they hold a number. -/
def wordBoundary : Reader Assertion := do
  let unicode := (← get).flags.unicode
  let letter (c : Char) : Bool := Language.isLetter c || c == '-'
  if (← peek) = some '\x7b' then
    let s ← get
    nextInside
    if letter (← current) then
      let name ← takeSpaced letter (← remaining)
      if (← current) != '\x7d' then failure
      drop 1
      match namedBoundary? unicode (String.ofList name) with
      | some a => return a
      | none => failure
    else
      set s
      return .wordBoundary unicode
  else return .wordBoundary unicode

/-- Whether a backslash before the character leaves the character itself. -/
def escapable (c : Char) : Bool :=
  c.toNat < 128 && !Language.isLetter c && !Language.isDigit c && c != '<' && c != '>'

/-- The character that a letter after a backslash stands for. -/
def letterEscape? : Char → Option Char
  | 'a' => some '\x07'
  | 'f' => some '\x0c'
  | 't' => some '\t'
  | 'n' => some '\n'
  | 'r' => some '\r'
  | 'v' => some '\x0b'
  | _ => none

/-- An escape, from its backslash on. -/
def escape : Reader Atom := do
  drop 1
  let c ← current
  if Language.isDigit c then failure
  else if c = 'x' then return .char (← hexEscape 2)
  else if c = 'u' then return .char (← hexEscape 4)
  else if c = 'U' then return .char (← hexEscape 8)
  else if c = 'p' ∨ c = 'P' then return .set (← unicodeClass)
  else if ['d', 'D', 's', 'S', 'w', 'W'].contains c then return .set (← shortClass c)
  else
    drop 1
    if escapable c then return .char c
    let unicode := (← get).flags.unicode
    match letterEscape? c with
    | some d => return .char d
    | none =>
      match c with
      | 'A' => return .look .textStart
      | 'z' => return .look .textEnd
      | 'b' => return .look (← wordBoundary)
      | 'B' => return .look (.notWordBoundary unicode)
      | '<' => return .look (.wordStart unicode)
      | '>' => return .look (.wordEnd unicode)
      | _ => failure

/-! ## Brackets -/

/-- A class of ASCII between brackets, such as `[:alpha:]`, or nothing if there is none here. -/
def asciiClass? : Reader (Option CharSet) := do
  match (← get).rest with
  | '[' :: ':' :: rest =>
    let negated := rest.head? == some '^'
    let body := if negated then rest.drop 1 else rest
    let name := body.takeWhile (· != ':')
    let after := body.dropWhile (· != ':')
    match after, CharSet.ascii? (String.ofList name) with
    | ':' :: ']' :: after, some s =>
      modify fun st => { st with rest := after }
      return some (← foldAndNegate negated s)
    | _, _ => return none
  | _ => return none

/-- A character or an escape between brackets. -/
def setAtom : Reader Atom := do
  let c ← current
  if c = '\\' then escape
  else
    drop 1
    return .char c

/-- A character that may stand between brackets. -/
def setChar (c : Char) : Reader CharSet := do
  if 128 ≤ c.toNat ∧ !(← get).flags.unicode then failure
  return .single c

/-- The first character that is not blank.  The sign that opens a comment is blank too, once, but
not the comment after it. -/
def firstBeyondBlanks (s : List Char) : Option Char :=
  match s.dropWhile isWhitespace with
  | '#' :: rest => (rest.dropWhile isWhitespace).head?
  | rest => rest.head?

/-- The character after the next one, past blanks in spaced mode.  It decides whether a hyphen makes
a range, which it does not before a closing bracket or another hyphen. -/
def peekBeyond : Reader (Option Char) := do
  let s ← get
  let rest := s.rest.drop 1
  return if s.flags.spaced then firstBeyondBlanks rest else rest.head?

/-- A character, a range of characters or a class between brackets. -/
def setRange : Reader CharSet := do
  let first ← setAtom
  skip
  let after ← current
  let beyond ← peekBeyond
  if after != '-' || beyond == some ']' || beyond == some '-' then
    match first with
    | .char c => setChar c
    | .set s => return s
    | .look _ => failure
  else
    nextInside
    match first, ← setAtom with
    | .char a, .char b =>
      discard (setChar a)
      discard (setChar b)
      if a ≤ b then return .range a b else failure
    | _, _ => failure

/-- The operations between sets. -/
inductive SetOp
  | inter | diff | symmDiff

/-- What is read so far between two brackets: an operation that waits for its right side, and the
members read since. -/
structure SetState where
  pending : Option (SetOp × CharSet)
  members : List CharSet

/-- The set read so far. -/
def SetState.value (s : SetState) (f : Flags) : CharSet :=
  let right := CharSet.unions s.members
  match s.pending with
  | none => right
  | some (op, left) =>
    let fold (x : CharSet) : CharSet :=
      if f.anyCase then (if f.unicode then .anyCase x else .anyAsciiCase x) else x
    match op with
    | .inter => .inter (fold left) (fold right)
    | .diff => .diff (fold left) (fold right)
    | .symmDiff => .symmDiff (fold left) (fold right)

/-- Begins the right side of an operation. -/
def SetState.operate (s : SetState) (f : Flags) (op : SetOp) : SetState :=
  ⟨some (op, s.value f), []⟩

/-- The opening of a bracket: whether it is negated, and the hyphens and the closing bracket that
stand for themselves at the beginning. -/
def openBracket : Reader (Bool × List CharSet) := do
  nextInside
  let negated := (← current) == '^'
  if negated then nextInside
  let hyphens ← takeSpaced (· == '-') (← remaining)
  discard current
  let hyphens := hyphens.map CharSet.single
  if hyphens.isEmpty && (← current) == ']' then
    nextInside
    return (negated, [.single ']'])
  else return (negated, hyphens)

mutual

/-- A bracketed set, from its opening bracket on, and the height of its tree. -/
def bracket : (fuel : Nat) → Reader (CharSet × Nat)
  | 0 => failure
  | fuel + 1 => do
    let (negated, members) ← openBracket
    let (s, height) ← bracketBody fuel ⟨none, members⟩ 0
    return (← foldAndNegate negated s, height + 1)

/-- The inside of a bracketed set, up to and with its closing bracket. -/
def bracketBody : (fuel : Nat) → SetState → Nat → Reader (CharSet × Nat)
  | 0, _, _ => failure
  | fuel + 1, s, height => do
    skip
    let f := (← get).flags
    let c ← current
    if c = '[' then
      match ← asciiClass? with
      | some k => bracketBody fuel { s with members := k :: s.members } height
      | none =>
        let (k, h) ← bracket fuel
        bracketBody fuel { s with members := k :: s.members } (Nat.max height h)
    else if c = ']' then
      drop 1
      return (s.value f, height)
    else if ← dropIf "&&" then bracketBody fuel (s.operate f .inter) height
    else if ← dropIf "--" then bracketBody fuel (s.operate f .diff) height
    else if ← dropIf "~~" then bracketBody fuel (s.operate f .symmDiff) height
    else
      let k ← setRange
      bracketBody fuel { s with members := k :: s.members } height

end

/-! ## Repetitions -/

/-- A repetition of what was read last.  Flags and the beginning of a group cannot be repeated. -/
def repeatLast (min : Nat) (max : Option Nat) (greedy : Bool) :
    List (Option Part) → Reader (List (Option Part))
  | some p :: before => do
    let greedy := greedy != (← get).flags.swapGreed
    return some ⟨.repeating min max greedy p.regex, p.height + 1⟩ :: before
  | _ => failure

/-- A decimal number with blanks around it. -/
def decimal : Reader Nat := do
  modify fun s => { s with rest := s.rest.dropWhile isWhitespace }
  let digits ← takeSpaced Language.isDigit (← remaining)
  discard (takeSpaced isWhitespace (← remaining))
  if digits.isEmpty then failure
  let n := decimalNat digits
  if n < twoPow 32 then return n else failure

/-- Passes over the question mark of a reluctant repetition; whether there was none. -/
def greediness : Reader Bool := do return !(← dropIf "?")

/-- The bounds of a counted repetition, from its opening brace on. -/
def counts : Reader (Nat × Option Nat) := do
  nextInside
  let least ← decimal
  let c ← current
  if c = ',' then
    nextInside
    if (← current) = '\x7d' then
      next
      return (least, none)
    else
      let most ← decimal
      if (← current) != '\x7d' || most < least then failure
      next
      return (least, some most)
  else if c = '\x7d' then
    next
    return (least, some least)
  else failure

/-! ## Groups -/

/-- Whether a character may stand in the name of a group. -/
def isNameChar (first : Bool) (c : Char) : Bool :=
  if first then c == '_' || alphabeticClass.has c
  else c == '_' || c == '.' || c == '[' || c == ']' || isAlphanumeric c

/-- The name of a group, up to and with its closing angle bracket. -/
def groupName : Reader Unit := do
  let s ← get
  let name := s.rest.takeWhile (· != '>')
  match name, s.rest.dropWhile (· != '>') with
  | c :: cs, '>' :: rest =>
    if isNameChar true c && cs.all (isNameChar false) && !s.names.contains name then
      set { s with rest := rest, names := name :: s.names }
    else failure
  | _, _ => failure

/-- The flag of a letter, set to `on`. -/
def setFlag (f : Flags) (on : Bool) : Char → Option Flags
  | 'i' => some { f with anyCase := on }
  | 'm' => some { f with multiLine := on }
  | 's' => some { f with dotAll := on }
  | 'U' => some { f with swapGreed := on }
  | 'u' => some { f with unicode := on }
  | 'R' => some { f with crlf := on }
  | 'x' => some { f with spaced := on }
  | _ => none

/-- Applies letters of flags, each of which may occur once; those after a hyphen are switched off,
and a hyphen must be followed by one. -/
def applyFlags (f : Flags) (on : Bool) (seen : List Char) : List Char → Option Flags
  | [] => if seen.head? = some '-' then none else some f
  | c :: cs =>
    if seen.contains c then none
    else if c = '-' then applyFlags f false (c :: seen) cs
    else
      match setFlag f on c with
      | some f' => applyFlags f' on (c :: seen) cs
      | none => none

/-- How a group begins. -/
inductive Opening
  /-- Flags for the rest of the group around. -/
  | flags (f : Flags)
  /-- A group that is not counted, with its flags. -/
  | plain (f : Flags)
  /-- A group that is counted. -/
  | counted (index : Nat)

/-- The beginning of a group, from its parenthesis on. -/
def opening : Reader Opening := do
  drop 1
  skip
  if (← isNext "?=") || (← isNext "?!") || (← isNext "?<=") || (← isNext "?<!") then failure
  if (← dropIf "?P<") || (← dropIf "?<") then
    let index := (← get).groups + 1
    modify fun s => { s with groups := index }
    groupName
    return .counted index
  else if ← dropIf "?" then
    let s ← get
    let letters := s.rest.takeWhile fun c => c != ':' && c != ')'
    match s.rest.dropWhile (fun c => c != ':' && c != ')'), applyFlags s.flags true [] letters with
    | c :: rest, some f =>
      set { s with rest := rest }
      if c = ':' then return .plain f
      else if letters.isEmpty then failure
      else return .flags f
    | _, _ => failure
  else
    let index := (← get).groups + 1
    modify fun s => { s with groups := index }
    return .counted index

/-! ## Patterns -/

/-- A character that stands for itself, in any case if the flags say so. -/
def literal (c : Char) : Reader Regex := do
  let f := (← get).flags
  if f.anyCase then
    if f.unicode then return .set (.anyCase (.single c))
    else return .set (.anyAsciiCase (.single c))
  else return .set (.single c)

/-- The set that the dot stands for. -/
def dot : Reader Regex := do
  let f := (← get).flags
  if !f.unicode then failure
  if f.dotAll then return .set .anything
  else if f.crlf then return .set (.compl (.union (.single '\r') (.single '\n')))
  else return .set (.compl (.single '\n'))

/-- A single character, an escape, the dot or an anchor. -/
def simple : Reader Regex := do
  let c ← current
  let f := (← get).flags
  if c = '\\' then
    match ← escape with
    | .char c => literal c
    | .set s => return .set s
    | .look a => return .look a
  else
    drop 1
    match c with
    | '.' => dot
    | '^' => return .look (if f.multiLine then .lineStart f.crlf else .textStart)
    | '$' => return .look (if f.multiLine then .lineEnd f.crlf else .textEnd)
    | c => literal c

/-- A sequence from its parts, the last part first; flags count toward the height of the tree. -/
def sequenceOf (parts : List (Option Part)) : Part :=
  let regexes := parts.reverse.filterMap fun p => p.map Part.regex
  let height := parts.foldl (fun h p => Nat.max h ((p.map Part.height).getD 0)) 0
  ⟨.seqs regexes, if parts.length < 2 then height else height + 1⟩

/-- Alternatives from their branches, the last branch first. -/
def alternativesOf (branches : List Part) : Part :=
  let height := branches.foldl (fun h p => Nat.max h p.height) 0
  ⟨.alts (branches.reverse.map Part.regex), if branches.length < 2 then height else height + 1⟩

mutual

/-- Alternatives up to the end of the group or of the pattern. -/
def alternatives : (fuel : Nat) → List Part → Reader Part
  | 0, _ => failure
  | fuel + 1, before => do
    let branch ← branch fuel []
    if ← dropIf "|" then alternatives fuel (branch :: before)
    else return alternativesOf (branch :: before)

/-- One alternative, of which the parts given were read, the last part first. -/
def branch : (fuel : Nat) → List (Option Part) → Reader Part
  | 0, _ => failure
  | fuel + 1, parts => do
    skip
    match ← peek with
    | none | some ')' | some '|' => return sequenceOf parts
    | some '(' =>
      match ← opening with
      | .flags f =>
        modify fun s => { s with flags := f }
        branch fuel (none :: parts)
      | .plain f => group fuel f id parts
      | .counted index => group fuel (← get).flags (Regex.group index) parts
    | some '[' =>
      let (s, height) ← bracket fuel
      branch fuel (some ⟨.set s, height⟩ :: parts)
    | some '?' =>
      drop 1
      let greedy ← greediness
      branch fuel (← repeatLast 0 (some 1) greedy parts)
    | some '*' =>
      drop 1
      let greedy ← greediness
      branch fuel (← repeatLast 0 none greedy parts)
    | some '+' =>
      drop 1
      let greedy ← greediness
      branch fuel (← repeatLast 1 none greedy parts)
    | some '\x7b' =>
      let (least, most) ← counts
      let greedy ← greediness
      branch fuel (← repeatLast least most greedy parts)
    | some _ => branch fuel (some ⟨← simple, 0⟩ :: parts)

/-- The inside of a group with the flags given, and what follows the group. -/
def group : (fuel : Nat) → Flags → (Regex → Regex) → List (Option Part) → Reader Part
  | 0, _, _, _ => failure
  | fuel + 1, f, wrap, parts => do
    let outer := (← get).flags
    modify fun s => { s with flags := f }
    let inner ← alternatives fuel []
    if !(← dropIf ")") then failure
    modify fun s => { s with flags := outer }
    branch fuel (some ⟨wrap inner.regex, inner.height + 1⟩ :: parts)

end

/-- Reads a pattern under the flags given. -/
def readPattern? (pattern : List Char) (f : Flags) : Option Regex :=
  match alternatives (4 * pattern.length + 8) [] ⟨pattern, f, 0, []⟩ with
  | some (p, s) => if s.rest.isEmpty && p.height ≤ heightLimit then some p.regex else none
  | none => none

end ExprLang.RegexReader
