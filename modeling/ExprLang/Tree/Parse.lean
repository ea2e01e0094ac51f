import ExprLang.Grammar.Language
import ExprLang.Grammar.Match
import ExprLang.Source.Nesting
import ExprLang.Tree.Build

/-!
# ExprLang.Tree.Parse

Reading an expression: the nesting of its brackets is measured, the grammar turns the text into
tokens, and the tokens become a tree.
-/

namespace ExprLang

/-- The nesting limit of `parse`. -/
def defaultDepth : Nat := 64

/-- The expression rule, nested at most `depth` times. -/
def readExpression (depth : Nat) : Reader := readNested Language.expression depth

/-- Reads a whole text by the grammar.  Every nested expression begins at least one character
further on, so the length of the text bounds the nesting. -/
def readProgram (text : List Char) : Reading :=
  Language.program.read (readExpression (text.length + 1)) ⟨.free, false⟩ .empty
    ⟨.ofText text, []⟩

/-- The token of a whole text. -/
def tokenOf (text : List Char) : Parsed Token :=
  match readProgram text with
  | ⟨_, some ⟨_, t :: _⟩⟩ => .ok t
  | ⟨a, _⟩ => .error ⟨.unexpected a.expected, Position.first.after (text.take a.offset)⟩

/-- The tree of a text whose nesting does not exceed `limit`. -/
def parseWithin (limit : Nat) (source : String) : Parsed Node :=
  let text := source.toList
  match deepOpener? limit text with
  | some p => .error ⟨.tooDeep limit, p⟩
  | none => do
    let t ← tokenOf text
    t.build limit 0

/-- The tree of a text. -/
def parse (source : String) : Parsed Node := parseWithin defaultDepth source

end ExprLang
