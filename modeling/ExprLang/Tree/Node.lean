import ExprLang.Source.Position
import ExprLang.Tree.Operator
import ExprLang.Value.Equality

/-!
# ExprLang.Tree.Node

Expression trees.  Every node carries the place of the token it is named after: an operator, the
bracket of a call, or the beginning of everything else.

A tree read from a text obeys more rules than the type states (statements stand at the root alone,
an object holds nothing but items, and so on); a tree built by hand need not.
-/

namespace ExprLang

/-- One step of a selection: `.name`, `[key]` or their `?.` forms. -/
structure Step (α : Type) where
  key : α
  optional : Bool
  position : Position

/-- An expression tree. -/
inductive Node
  /-- Statements, the last of which gives the value. -/
  | sequence (pos : Position) (statements : List Node)
  | assignment (pos : Position) (target value : Node)
  /-- `value ?: other` -/
  | fallback (pos : Position) (value other : Node)
  /-- `condition ? yes : no` -/
  | choice (pos : Position) (condition yes no : Node)
  | logical (pos : Position) (op : LogicalOp) (left right : Node)
  | bitwise (pos : Position) (op : BitwiseOp) (left right : Node)
  | relational (pos : Position) (op : RelationalOp) (left right : Node)
  | arithmetic (pos : Position) (op : ArithmeticOp) (left right : Node)
  | unary (pos : Position) (op : UnaryOp) (operand : Node)
  | select (pos : Position) (base : Node) (steps : List (Step Node))
  | call (pos : Position) (callee : Node) (args : List Node) (optional : Bool)
  /-- A bare name that stands for itself: a key or what is assigned to. -/
  | identifier (pos : Position) (name : String)
  /-- A name that stands for a variable. -/
  | var (pos : Position) (name : String)
  | array (pos : Position) (items : List Node)
  | object (pos : Position) (items : List Node)
  | item (pos : Position) (key value : Node)
  | template (pos : Position) (parts : List Node)
  | string (pos : Position) (text : String)
  | regexp (pos : Position) (r : RegExp)
  | number (pos : Position) (x : Float)
  /-- A named value such as `true` or `NaN`. -/
  | literal (pos : Position) (v : Value)

/-- The kinds of nodes. -/
inductive NodeKind
  | sequence | assignment | fallback | choice | logical | bitwise | relational | arithmetic | unary
  | select | call | identifier | var | array | object | item | template | string | regexp | number
  | literal
  deriving DecidableEq

/-- The name of a kind in outlines and traces. -/
def NodeKind.name : NodeKind → String
  | .sequence => "Sequence"
  | .assignment => "Assignment"
  | .fallback => "ConditionalBinary"
  | .choice => "ConditionalTernary"
  | .logical => "Logical"
  | .bitwise => "Bitwise"
  | .relational => "Relational"
  | .arithmetic => "Arithmetical"
  | .unary => "Unary"
  | .select => "Select"
  | .call => "FuncCall"
  | .identifier => "Identifier"
  | .var => "Variable"
  | .array => "LiteralArray"
  | .object => "LiteralObject"
  | .item => "LiteralObjectItem"
  | .template => "LiteralTemplate"
  | .string => "LiteralString"
  | .regexp => "LiteralRegExp"
  | .number => "LiteralNumber"
  | .literal => "LiteralValue"

namespace Node

def kind : Node → NodeKind
  | sequence .. => .sequence
  | assignment .. => .assignment
  | fallback .. => .fallback
  | choice .. => .choice
  | logical .. => .logical
  | bitwise .. => .bitwise
  | relational .. => .relational
  | arithmetic .. => .arithmetic
  | unary .. => .unary
  | select .. => .select
  | call .. => .call
  | identifier .. => .identifier
  | var .. => .var
  | array .. => .array
  | object .. => .object
  | item .. => .item
  | template .. => .template
  | string .. => .string
  | regexp .. => .regexp
  | number .. => .number
  | literal .. => .literal

/-- The place of the token the node is named after. -/
def position : Node → Position
  | sequence p _ | assignment p _ _ | fallback p _ _ | choice p _ _ _ | logical p _ _ _
  | bitwise p _ _ _ | relational p _ _ _ | arithmetic p _ _ _ | unary p _ _ | select p _ _
  | call p _ _ _ | identifier p _ | var p _ | array p _ | object p _ | item p _ _
  | template p _ | string p _ | regexp p _ | number p _ | literal p _ => p

/-- The nodes directly inside, in the order in which they are evaluated. -/
def children : Node → List Node
  | sequence _ ns | array _ ns | object _ ns | template _ ns => ns
  | assignment _ a b | fallback _ a b | item _ a b => [a, b]
  | choice _ a b c => [a, b, c]
  | logical _ _ a b | bitwise _ _ a b | relational _ _ a b | arithmetic _ _ a b => [a, b]
  | unary _ _ a => [a]
  | select _ base steps => base :: steps.map Step.key
  | call _ callee args _ => callee :: args
  | identifier .. | var .. | string .. | regexp .. | number .. | literal .. => []

/-! ## Equality

Trees are equal when their parts and places are, with numbers compared as numbers. -/

mutual

/-- Whether two trees are equal. -/
def equals : Node → Node → Bool
  | sequence p as, sequence q bs => p == q && equalNodes as bs
  | assignment p a b, assignment q c d => p == q && a.equals c && b.equals d
  | fallback p a b, fallback q c d => p == q && a.equals c && b.equals d
  | choice p a b c, choice q d e f => p == q && a.equals d && b.equals e && c.equals f
  | logical p o a b, logical q r c d => p == q && o == r && a.equals c && b.equals d
  | bitwise p o a b, bitwise q r c d => p == q && o == r && a.equals c && b.equals d
  | relational p o a b, relational q r c d => p == q && o == r && a.equals c && b.equals d
  | arithmetic p o a b, arithmetic q r c d => p == q && o == r && a.equals c && b.equals d
  | unary p o a, unary q r b => p == q && o == r && a.equals b
  | select p a ss, select q b ts => p == q && a.equals b && equalSteps ss ts
  | call p a as o, call q b bs r => p == q && a.equals b && equalNodes as bs && o == r
  | identifier p m, identifier q n => p == q && m == n
  | var p m, var q n => p == q && m == n
  | array p as, array q bs => p == q && equalNodes as bs
  | object p as, object q bs => p == q && equalNodes as bs
  | item p a b, item q c d => p == q && a.equals c && b.equals d
  | template p as, template q bs => p == q && equalNodes as bs
  | string p s, string q t => p == q && s == t
  | regexp p r, regexp q s => p == q && r == s
  | number p x, number q y => p == q && x == y
  | literal p v, literal q w => p == q && v.equals w
  | _, _ => false

/-- Whether two lists of trees are equal. -/
def equalNodes : List Node → List Node → Bool
  | [], [] => true
  | a :: as, b :: bs => a.equals b && equalNodes as bs
  | _, _ => false

/-- Whether two lists of steps are equal. -/
def equalSteps : List (Step Node) → List (Step Node) → Bool
  | [], [] => true
  | s :: ss, t :: ts => equalStep s t && equalSteps ss ts
  | _, _ => false

/-- Whether two steps are equal. -/
def equalStep : Step Node → Step Node → Bool
  | ⟨a, o, p⟩, ⟨b, r, q⟩ => a.equals b && o == r && p == q

end

end Node

end ExprLang
