import ExprLang.Proofs.Grammar.Lexemes
import ExprLang.Tree.Build

/-!
# ExprLang.Proofs.Tree.Phrase

Expressions as they are written.  A `Phrase` is a tree with its parentheses; `Phrase.text` writes it
with single spaces between the lexemes, and `Phrase.node` is the tree it stands for, in which the
parentheses are gone and the steps that follow one another have joined one selection.

Names, captures and string literals carry the proof that they are well formed, so that every phrase
can be written.  A string literal comes in any spelling that denotes its text.
-/

namespace ExprLang

open ExprLang.Language

/-! ## Names, strings and operators -/

/-- Whether a text is a name. -/
def isName : List Char → Bool
  | [] => false
  | c :: w => isNameStart c && w.all isNamePart

/-- A name. -/
structure Name where
  chars : List Char
  valid : isName chars = true

/-- A name that is no keyword. -/
structure PlainName extends Name where
  plain : chars ∉ keywords.map String.toList

/-- What follows the dollar sign of a capture name. -/
structure CaptureName where
  chars : List Char
  valid : (!chars.isEmpty && chars.all isNamePart) = true

/-- Whether a text can stand between two quotes: neither quotes nor backslashes but in escapes. -/
def isQuotable (quote : Char) : List Char → Bool
  | [] => true
  | c :: w =>
    if c = '\\' then
      match w with
      | [] => false
      | _ :: w => isQuotable quote w
    else c != quote && isQuotable quote w

/-- A string literal and the text it denotes. -/
structure StringLiteral where
  double : Bool
  body : List Char
  text : List Char
  valid : isQuotable (if double then '"' else '\x27') body = true
  denotes : unescape body = .ok text

/-- The keywords whose values are not numbers. -/
inductive Keyword
  | true | false | null | undefined

def Keyword.word : Keyword → String
  | .true => "true"
  | .false => "false"
  | .null => "null"
  | .undefined => "undefined"

def Keyword.value : Keyword → Value
  | .true => .boolean .true
  | .false => .boolean .false
  | .null => .null
  | .undefined => .undefined

/-- The operators between operands other than the conditional, which has a middle. -/
abbrev Operator := { op : InfixOp // op ≠ .choice }

/-- How an operator is written, the conditional before its middle. -/
def InfixOp.symbol : InfixOp → String
  | .fallback => "?:"
  | .choice => "?"
  | .logical op => op.symbol
  | .bitwise op => op.symbol
  | .relational op => op.symbol
  | .arithmetic op => op.symbol

theorem Name.isLexeme (w : Name) : isLexeme w.chars = true := by
  obtain ⟨chars, valid⟩ := w
  cases chars with
  | nil => cases valid
  | cons c w =>
    rw [isName, Bool.and_eq_true] at valid
    simp only [ExprLang.isLexeme, valid.1, if_true, valid.2]

def Name.lexeme (w : Name) : Lexeme := ⟨w.chars, w.isLexeme⟩

def CaptureName.lexeme (w : CaptureName) : Lexeme := ⟨'$' :: w.chars, rfl⟩

def StringLiteral.quote (s : StringLiteral) : Char := if s.double then '"' else '\x27'

def StringLiteral.lexeme (s : StringLiteral) : Lexeme where
  chars := s.quote :: (s.body ++ [s.quote])
  valid := by
    unfold quote
    cases s.double <;> rfl

def Keyword.lexeme (w : Keyword) : Lexeme := ⟨w.word.toList, by cases w <;> decide⟩

def InfixOp.lexeme (op : InfixOp) : Lexeme where
  chars := op.symbol.toList
  valid := by
    cases op with
    | fallback | choice => decide
    | logical op | bitwise op | relational op | arithmetic op => cases op <;> decide

def UnaryOp.lexeme (op : UnaryOp) : Lexeme := ⟨op.symbol.toList, by cases op <;> decide⟩

/-! ## Phrases -/

/-- An operand that is one lexeme. -/
inductive Atom
  | plain (w : PlainName)
  | capture (w : CaptureName)
  | string (s : StringLiteral)
  | keyword (w : Keyword)

/-- A key of an object that is one lexeme. -/
inductive Key
  | name (w : Name)
  | string (s : StringLiteral)

mutual

/-- An expression as it is written. -/
inductive Phrase
  | atom (a : Atom)
  | paren (p : Phrase)
  | array (items : List Phrase)
  | object (items : List Item)
  | unary (op : UnaryOp) (operand : Phrase)
  | between (op : Operator) (left right : Phrase)
  /-- `condition ? middle : right` -/
  | choice (condition middle right : Phrase)
  | field (base : Phrase) (optional : Bool) (name : Name)
  | index (base : Phrase) (optional : Bool) (key : Phrase)
  | call (callee : Phrase) (optional : Bool) (args : List Phrase)

/-- A key of an object with its value. -/
inductive Item
  | plain (key : Key) (value : Phrase)
  | computed (key value : Phrase)

end

/-! ## How they are written -/

def Atom.lexeme : Atom → Lexeme
  | .plain w => w.lexeme
  | .capture w => w.lexeme
  | .string s => s.lexeme
  | .keyword w => w.lexeme

def Key.lexeme : Key → Lexeme
  | .name w => w.lexeme
  | .string s => s.lexeme

/-- What stands between the base of an index or call and the bracket. -/
def optionalDot (optional : Bool) : List Lexeme := if optional then [.dot true] else []

mutual

/-- The lexemes of a phrase. -/
def Phrase.lexemes : Phrase → List Lexeme
  | .atom a => [a.lexeme]
  | .paren p => .openParen :: (p.lexemes ++ [.closeParen])
  | .array ps => .openBracket :: (separated (Phrase.lexemesEach ps) ++ [.closeBracket])
  | .object ps => .openBrace :: (separated (Phrase.itemLexemes ps) ++ [.closeBrace])
  | .unary op x => op.lexeme :: x.lexemes
  | .between op l r => l.lexemes ++ op.1.lexeme :: r.lexemes
  | .choice c m r => c.lexemes ++ .mark :: (m.lexemes ++ .colon :: r.lexemes)
  | .field b optional w => b.lexemes ++ [.dot optional, w.lexeme]
  | .index b optional k =>
    b.lexemes ++ (optionalDot optional ++ .openBracket :: (k.lexemes ++ [.closeBracket]))
  | .call f optional args =>
    f.lexemes ++
      (optionalDot optional ++ .openParen :: (separated (Phrase.lexemesEach args) ++ [.closeParen]))

/-- The lexemes of each phrase. -/
def Phrase.lexemesEach : List Phrase → List (List Lexeme)
  | [] => []
  | p :: ps => p.lexemes :: Phrase.lexemesEach ps

/-- The lexemes of an item. -/
def Item.lexemes : Item → List Lexeme
  | .plain k v => k.lexeme :: .colon :: v.lexemes
  | .computed k v => .openBracket :: (k.lexemes ++ .closeBracket :: .colon :: v.lexemes)

/-- The lexemes of each item. -/
def Phrase.itemLexemes : List Item → List (List Lexeme)
  | [] => []
  | i :: is => i.lexemes :: Phrase.itemLexemes is

end

attribute [simp] Phrase.lexemes Phrase.lexemesEach Item.lexemes Phrase.itemLexemes

/-- How a phrase is written. -/
def Phrase.text (p : Phrase) : String := String.ofList (spaced p.lexemes)

/-! ## What they stand for -/

def Atom.node : Atom → Node
  | .plain w => .var .first (String.ofList w.chars)
  | .capture w => .var .first (String.ofList ('$' :: w.chars))
  | .string s => .string .first (String.ofList s.text)
  | .keyword w => .literal .first w.value

def Key.node : Key → Node
  | .name w => .identifier .first (String.ofList w.chars)
  | .string s => .string .first (String.ofList s.text)

/-- The tree of an operator and its operands. -/
def Operator.node : Operator → Node → Node → Node
  | ⟨.fallback, _⟩, l, r => .fallback .first l r
  | ⟨.choice, h⟩, _, _ => absurd rfl h
  | ⟨.logical op, _⟩, l, r => .logical .first op l r
  | ⟨.bitwise op, _⟩, l, r => .bitwise .first op l r
  | ⟨.relational op, _⟩, l, r => .relational .first op l r
  | ⟨.arithmetic op, _⟩, l, r => .arithmetic .first op l r

/-- The tree of a step: one more in a selection, or the first of a new one. -/
def Node.selecting (base key : Node) (optional : Bool) : Node :=
  match base with
  | .select _ base steps => .select .first base (steps ++ [⟨key, optional, .first⟩])
  | base => .select .first base [⟨key, optional, .first⟩]

mutual

/-- The tree a phrase stands for, with all places taken as the first. -/
def Phrase.node : Phrase → Node
  | .atom a => a.node
  | .paren p => p.node
  | .array ps => .array .first (Phrase.nodes ps)
  | .object is => .object .first (Phrase.itemNodes is)
  | .unary op x => .unary .first op x.node
  | .between op l r => op.node l.node r.node
  | .choice c m r => .choice .first c.node m.node r.node
  | .field b optional w =>
    b.node.selecting (.identifier .first (String.ofList w.chars)) optional
  | .index b optional k => b.node.selecting k.node optional
  | .call f optional args => .call .first f.node (Phrase.nodes args) optional

def Phrase.nodes : List Phrase → List Node
  | [] => []
  | p :: ps => p.node :: Phrase.nodes ps

def Item.node : Item → Node
  | .plain k v => .item .first k.node v.node
  | .computed k v => .item .first k.node v.node

def Phrase.itemNodes : List Item → List Node
  | [] => []
  | i :: is => i.node :: Phrase.itemNodes is

end

attribute [simp] Phrase.node Phrase.nodes Item.node Phrase.itemNodes

/-! ## Trees up to places -/

mutual

/-- A tree with all places taken as the first. -/
def Node.unplaced : Node → Node
  | .sequence _ ns => .sequence .first (unplacedAll ns)
  | .assignment _ a b => .assignment .first a.unplaced b.unplaced
  | .fallback _ a b => .fallback .first a.unplaced b.unplaced
  | .choice _ a b c => .choice .first a.unplaced b.unplaced c.unplaced
  | .logical _ op a b => .logical .first op a.unplaced b.unplaced
  | .bitwise _ op a b => .bitwise .first op a.unplaced b.unplaced
  | .relational _ op a b => .relational .first op a.unplaced b.unplaced
  | .arithmetic _ op a b => .arithmetic .first op a.unplaced b.unplaced
  | .unary _ op a => .unary .first op a.unplaced
  | .select _ a steps => .select .first a.unplaced (unplacedSteps steps)
  | .call _ a as optional => .call .first a.unplaced (unplacedAll as) optional
  | .identifier _ w => .identifier .first w
  | .var _ w => .var .first w
  | .array _ ns => .array .first (unplacedAll ns)
  | .object _ ns => .object .first (unplacedAll ns)
  | .item _ a b => .item .first a.unplaced b.unplaced
  | .template _ ns => .template .first (unplacedAll ns)
  | .string _ s => .string .first s
  | .regexp _ r => .regexp .first r
  | .number _ x => .number .first x
  | .literal _ v => .literal .first v

def Node.unplacedAll : List Node → List Node
  | [] => []
  | n :: ns => n.unplaced :: unplacedAll ns

def Node.unplacedSteps : List (Step Node) → List (Step Node)
  | [] => []
  | s :: ss => unplacedStep s :: unplacedSteps ss

def Node.unplacedStep : Step Node → Step Node
  | ⟨key, optional, _⟩ => ⟨key.unplaced, optional, .first⟩

end

end ExprLang
