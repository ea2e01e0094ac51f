import ExprLang.Source.Position
import ExprLang.Grammar.Rule

/-!
# ExprLang.Grammar.Token

The outcome of reading a text by the grammar: a tree of tokens, each labelled with the rule that
accepted it and holding the place where it begins, its length and the tokens inside it.
-/

namespace ExprLang

/-- A stretch of text accepted by a rule, with the tokens of the rules inside it. -/
inductive Token where
  | mk (rule : Rule) (start : Cursor) (length : Nat) (inner : List Token)

namespace Token

def rule : Token → Rule
  | mk r _ _ _ => r

def start : Token → Cursor
  | mk _ k _ _ => k

def length : Token → Nat
  | mk _ _ n _ => n

def inner : Token → List Token
  | mk _ _ _ ts => ts

/-- The place of the first character. -/
def position (t : Token) : Position := t.start.position

/-- The characters of the token. -/
def chars (t : Token) : List Char := t.start.rest.take t.length

/-- The characters of the token, as a text. -/
def text (t : Token) : String := String.ofList t.chars

end Token

end ExprLang
