import ExprLang.Grammar.Attempts
import ExprLang.Grammar.Blank
import ExprLang.Grammar.Pattern
import ExprLang.Grammar.Token

/-!
# ExprLang.Grammar.Match

Reading a text by a pattern.  `Pattern.read` follows the pattern, so it ends by the pattern's own
size; the one rule that contains itself is entered through a reader handed in, which `readNested`
supplies to a bounded depth.

A reading always says which rules failed where, whether it succeeds or not: what failed inside a
successful part may still be the furthest failure of the whole text.
-/

namespace ExprLang

/-- How a pattern is being read: the spacing, and whether it is only looked ahead for, in which
case nothing of it is noted or kept. -/
structure Mode where
  spacing : Spacing
  ahead : Bool

/-- Whether the rules read in this mode leave tokens and are named in errors. -/
def Mode.visible (m : Mode) : Bool :=
  !m.ahead && m.spacing != .sealed

/-- A place in the text together with the tokens read so far, the latest first. -/
structure Progress where
  cursor : Cursor
  tokens : List Token

/-- What a reading comes to: the failures noted, and the place reached if it succeeded. -/
structure Reading where
  attempts : Attempts
  result : Option Progress

/-- Reads in a mode, from the failures noted and the place reached so far. -/
abbrev Reader := Mode → Attempts → Progress → Reading

namespace Progress

/-- Reads `n` characters. -/
def advance (p : Progress) (n : Nat) : Progress := { p with cursor := p.cursor.advance n }

/-- Skips what may stand between two parts. -/
def skip (p : Progress) (s : Spacing) : Progress :=
  match s with
  | .free => { p with cursor := p.cursor.skipBlanks }
  | _ => p

end Progress

/-- Reads as often as the reader succeeds and moves on, with blanks skipped before each reading;
those before a reading that fails are given back. -/
def repeatReading (r : Reader) (m : Mode) : Nat → Attempts → Progress → Reading
  | 0, a, p => ⟨a, some p⟩
  | n + 1, a, p =>
    match r m a (p.skip m.spacing) with
    | ⟨a', none⟩ => ⟨a', some p⟩
    | ⟨a', some p'⟩ => repeatReading r m n a' p'

/-- Calls the rule `r`, whose body is read by `body`: a failure is noted, and a success leaves a
token around the tokens of the body. -/
def readRule (r : Rule) (kind : RuleKind) (body : Reader) : Reader := fun m a p =>
  let outer : Mode := { m with spacing := kind.outer m.spacing }
  let before := a.countAt p.cursor.offset
  match body { m with spacing := kind.body m.spacing } a { p with tokens := [] } with
  | ⟨a', none⟩ => ⟨if outer.visible then a'.fail r p.cursor.offset before else a', none⟩
  | ⟨a', some q⟩ =>
    if outer.visible then
      let token := .mk r p.cursor (q.cursor.offset - p.cursor.offset) q.tokens.reverse
      ⟨a', some ⟨q.cursor, token :: p.tokens⟩⟩
    else ⟨a', some ⟨q.cursor, p.tokens⟩⟩

/-- Reads by a pattern; `nested` reads the rule that contains itself. -/
def Pattern.read (nested : Reader) : Pattern → Reader
  | .text s, _, a, p =>
    if s.isPrefixOf p.cursor.rest then ⟨a, some (p.advance s.length)⟩ else ⟨a, none⟩
  | .one f, _, a, p =>
    match p.cursor.rest with
    | c :: _ => if f c then ⟨a, some (p.advance 1)⟩ else ⟨a, none⟩
    | [] => ⟨a, none⟩
  | .stop, _, a, p =>
    match p.cursor.rest with
    | [] => ⟨a, some p⟩
    | _ :: _ => ⟨a, none⟩
  | .seq x y, m, a, p =>
    match x.read nested m a p with
    | ⟨a', none⟩ => ⟨a', none⟩
    | ⟨a', some q⟩ => y.read nested m a' (q.skip m.spacing)
  | .either x y, m, a, p =>
    match x.read nested m a p with
    | ⟨a', none⟩ => y.read nested m a' p
    | done => done
  | .maybe x, m, a, p =>
    match x.read nested m a p with
    | ⟨a', none⟩ => ⟨a', some p⟩
    | done => done
  | .many x, m, a, p =>
    match x.read nested m a p with
    | ⟨a', none⟩ => ⟨a', some p⟩
    | ⟨a', some q⟩ => repeatReading (x.read nested) m (q.cursor.rest.length + 1) a' q
  | .unless x, m, a, p =>
    match x.read nested { m with ahead := true } a p with
    | ⟨_, none⟩ => ⟨a, some p⟩
    | ⟨_, some _⟩ => ⟨a, none⟩
  | .rule r kind x, m, a, p => readRule r kind (x.read nested) m a p
  | .recurse, m, a, p => nested m a p

/-- Reads by `body` with its own recursion unfolded `depth` times. -/
def readNested (body : Pattern) : Nat → Reader
  | 0, _, a, _ => ⟨a, none⟩
  | depth + 1, m, a, p => body.read (readNested body depth) m a p

end ExprLang
