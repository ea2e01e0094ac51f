import ExprLang.Grammar.Token
import ExprLang.Number.Numeral
import ExprLang.Tree.Precedence

/-!
# ExprLang.Tree.Build

From tokens to a tree.

Each expression reserves a level of depth for itself and one for each of its operators and calls,
since each of these makes the tree a level deeper; what is inside goes on counting from there.
-/

namespace ExprLang

namespace Token

/-- Whether the piece adds a level to the tree of its expression.  Operands begin anew, and field
and index steps join one selection. -/
def addsLevel (t : Token) : Bool :=
  match t.rule with
  | .unary _ | .between _ | .call _ => true
  | _ => false

/-- The levels that an expression with these pieces takes up. -/
def levels (inner : List Token) : Nat := 1 + inner.countP addsLevel

/-- The text of the first of some tokens. -/
def firstChars (inner : List Token) : List Char :=
  match inner with
  | t :: _ => t.chars
  | [] => []

/-- The number that a numeral without sign denotes. -/
def magnitude (t : Token) : Float :=
  match t.rule with
  | .hexadecimal => accumulateRadix 16 (t.chars.drop 2)
  | .octal => accumulateRadix 8 (t.chars.drop 2)
  | .binary => accumulateRadix 2 (t.chars.drop 2)
  | _ => (readDecimal t.chars).getD 0.0

/-- The node of a number. -/
def numberNode (t : Token) : Parsed Node :=
  match t.inner with
  | m :: _ =>
    .ok (.number t.position (if t.chars.head? = some '-' then -m.magnitude else m.magnitude))
  | [] => .error ⟨.malformed, t.position⟩

/-- The node of a string literal. -/
def stringNode (t : Token) : Parsed Node :=
  match unescape (firstChars t.inner) with
  | .ok s => .ok (.string t.position (String.ofList s))
  | .error e => .error ⟨.stringEscape e, t.position⟩

/-- The node of the text of a template. -/
def templateTextNode (t : Token) : Parsed Node :=
  match unescape t.chars with
  | .ok s => .ok (.string t.position (String.ofList s))
  | .error e => .error ⟨.templateEscape e, t.position⟩

/-- The node of a regular expression. -/
def regexpNode (t : Token) : Parsed Node :=
  match t.inner with
  | body :: flags =>
    match RegExp.compile (String.ofList (unescapeSlashes body.chars))
        (String.ofList (firstChars flags)) with
    | .ok r => .ok (.regexp t.position r)
    | .error e => .error ⟨.regexp e, t.position⟩
  | [] => .error ⟨.malformed, t.position⟩

/-- The value that a keyword names. -/
def keywordValue? (s : String) : Option Value :=
  match s with
  | "true" => some (.boolean true)
  | "false" => some (.boolean false)
  | "null" => some .null
  | "undefined" => some .undefined
  | "NaN" => some (.number (0.0 / 0.0))
  | "Infinity" => some (.number (1.0 / 0.0))
  | _ => none

/-- The node of a keyword. -/
def literalNode (t : Token) : Parsed Node :=
  match keywordValue? t.text with
  | some v => .ok (.literal t.position v)
  | none => .error ⟨.malformed, t.position⟩

mutual

/-- The tree of a token at a depth, which must not exceed `limit`. -/
def build (limit depth : Nat) : Token → Parsed Node
  | t@(mk rule start _ inner) =>
    let pos := start.position
    match rule with
    | .program | .grouped | .computedKey | .templateHole => buildFirst limit depth pos inner
    | .statements => do
      match ← buildAll limit depth inner with
      | [n] => return n
      | ns => return .sequence pos ns
    | .assignment => do
      match ← buildAll limit depth inner with
      | [target, value] => return .assignment pos target value
      | _ => throw ⟨.malformed, pos⟩
    | .objectItem => do
      match ← buildAll limit depth inner with
      | [key, value] => return .item pos key value
      | _ => throw ⟨.malformed, pos⟩
    | .array => do return .array pos (← buildAll limit depth inner)
    | .object => do return .object pos (← buildAll limit depth inner)
    | .template => do return .template pos (← buildAll limit depth inner)
    | .expression =>
      let depth := depth + levels inner
      if limit < depth then .error ⟨.tooDeep limit, pos⟩
      else Piece.toTree (pieces limit depth inner)
    | .number => t.numberNode
    | .string => t.stringNode
    | .templateText => t.templateTextNode
    | .regexp => t.regexpNode
    | .literal => t.literalNode
    | .variable => .ok (.var pos t.text)
    | .identifier | .name => .ok (.identifier pos t.text)
    | _ => .error ⟨.malformed, pos⟩

/-- The tree of the first of some tokens. -/
def buildFirst (limit depth : Nat) (pos : Position) : List Token → Parsed Node
  | t :: _ => t.build limit depth
  | [] => .error ⟨.malformed, pos⟩

/-- The trees of some tokens, or the first fault among them. -/
def buildAll (limit depth : Nat) : List Token → Parsed (List Node)
  | [] => .ok []
  | t :: ts => do
    let n ← t.build limit depth
    return n :: (← buildAll limit depth ts)

/-- The tree of the first token inside a token. -/
def buildInnerFirst (limit depth : Nat) : Token → Parsed Node
  | mk _ start _ inner => buildFirst limit depth start.position inner

/-- The trees of the tokens inside a token. -/
def buildInner (limit depth : Nat) : Token → Parsed (List Node)
  | mk _ _ _ inner => buildAll limit depth inner

/-- The pieces of a flat expression. -/
def pieces (limit depth : Nat) : List Token → List Piece
  | [] => []
  | t :: ts =>
    let pos := t.position
    let piece : Piece :=
      match t.rule with
      | .unary op => .unary pos op
      | .between .choice => .choice pos (t.buildInnerFirst limit depth)
      | .between op => .between pos op
      | .field optional | .index optional =>
        .step ((t.buildInnerFirst limit depth).map fun key => ⟨key, optional, pos⟩)
      | .call optional => .call pos (t.buildInner limit depth) optional
      | _ => .operand (t.build limit depth)
    piece :: pieces limit depth ts

end

end Token

end ExprLang
