import ExprLang.Number.Int32
import ExprLang.Text.Collation
import ExprLang.Text.Search
import ExprLang.Tree.Operator
import ExprLang.Value.Conversion
import ExprLang.Value.Equality
import ExprLang.Value.TypePair

/-!
# ExprLang.Eval.Operators

What the operators do to values.  The kinds of the two operands select the meaning: `+`, `-` and `/`
join, thin out and intersect texts and containers, the comparisons compare containers as sets, and
everything else is arithmetic.
-/

namespace ExprLang

/-! ## Sets -/

/-- Whether two values are the same member of a set; when names of maps are among the members their
texts are compared. -/
def sameMember (keyed : Bool) (a b : Value) : Bool :=
  if keyed then a.stringify == b.stringify else a.equals b

/-- Whether a value is a member. -/
def hasMember (keyed : Bool) (members : List Value) (v : Value) : Bool :=
  members.any fun m => sameMember keyed m v

/-- Whether all values are members. -/
def isSubset (keyed : Bool) (left right : List Value) : Bool :=
  left.all (hasMember keyed right)

/-- Whether a map has an entry under a key that counts as true. -/
def entryTruthy (entries : Bag) (key : String) : Bool :=
  match entries.get? key with
  | some v => v.truthy
  | none => false

/-! ## Arithmetic -/

/-- A power; unlike in the usual rule, one to an infinite power is not a number. -/
def power (base exponent : Float) : Float :=
  if exponent.isNaN || (base.abs == 1.0 && exponent.isInf) then 0.0 / 0.0 else base.pow exponent

/-- The sum of two values. -/
def Value.add (left right : Value) : Value :=
  match left, right with
  | .string s, r => .string (s ++ r.stringify)
  | l, .string s => .number (l.toNumber + (Value.string s).toNumber)
  | .array l, .array r => .array (l ++ r)
  | .array l, .map r =>
    .array (l ++ (r.filter fun e => e.2.truthy).map fun e => Value.string e.1)
  | .array l, r => .array (l ++ [r])
  | .map l, .array r => .map (Entries.insertAll l (r.map fun v => (v.stringify, .boolean true)))
  | .map l, .map r => .map (Entries.insertAll l r)
  | .map l, r => .map (Entries.insert r.stringify (.boolean true) l)
  | l, r => .number (l.toNumber + r.toNumber)

/-- What is left of a value without another, or their difference. -/
def Value.sub (left right : Value) : Value :=
  match left, right with
  | .string s, r =>
    .string (String.ofList (removeFirst r.stringify.toList s.toList))
  | l, .string s => .number (l.toNumber - (Value.string s).toNumber)
  | .array l, .array r => .array (l.filter fun v => !hasMember false r v)
  | .array l, .map r => .array (l.filter fun v => !entryTruthy r v.stringify)
  | .array l, r => .array (l.filter fun v => !v.equals r)
  | .map l, .array r => .map (l.filter fun e => !r.any fun v => v.stringify == e.1)
  | .map l, .map r => .map (l.filter fun e => !entryTruthy r e.1)
  | .map l, r => .map (l.filter fun e => e.1 != r.stringify)
  | l, r => .number (l.toNumber - r.toNumber)

/-- What a value has in common with another, or their quotient. -/
def Value.div (left right : Value) : Value :=
  match left, right with
  | .string s, r =>
    let needle := r.stringify
    .string (if (findText needle.toList s.toList).isSome then needle else "")
  | l, .string s => .number (l.toNumber / (Value.string s).toNumber)
  | .array l, .array r => .array (l.filter fun v => hasMember false r v)
  | .array l, .map r => .array (l.filter fun v => entryTruthy r v.stringify)
  | .array l, r => .array (l.filter fun v => v.equals r)
  | .map l, .array r => .map (l.filter fun e => r.any fun v => v.stringify == e.1)
  | .map l, .map r => .map (l.filter fun e => entryTruthy r e.1)
  | .map l, r => .map (l.filter fun e => e.1 == r.stringify)
  | l, r => .number (l.toNumber / r.toNumber)

/-- Applies an arithmetic operator. -/
def ArithmeticOp.apply (op : ArithmeticOp) (left right : Value) : Value :=
  match op with
  | .add => left.add right
  | .sub => left.sub right
  | .div => left.div right
  | .mul => .number (left.toNumber * right.toNumber)
  | .rem => .number (remainder left.toNumber right.toNumber)
  | .pow => .number (power left.toNumber right.toNumber)

/-! ## Comparison -/

/-- Whether two values are equal operands: containers are compared as sets. -/
def Value.looselyEquals (left right : Value) : Bool :=
  let sets (keyed : Bool) :=
    isSubset keyed left.toArray right.toArray && isSubset keyed right.toArray left.toArray
  match TypePair.of left right with
  | .arrayArray => sets false
  | .arrayObject | .objectArray | .objectObject => sets true
  | .stringAny | .arrayScalar | .objectScalar | .numeric => left.equals right

/-- Compares the texts of two values. -/
def compareTexts (op : RelationalOp) (left right : Value) : Bool :=
  let order := collate left.stringify.toList right.stringify.toList
  match op with
  | .le => order != .gt
  | .lt => order == .lt
  | .ge => order != .lt
  | _ => order == .gt

/-- Compares two values as sets. -/
def compareSets (op : RelationalOp) (keyed : Bool) (left right : Value) : Bool :=
  let subset := isSubset keyed left.toArray right.toArray
  let superset := isSubset keyed right.toArray left.toArray
  match op with
  | .le => subset
  | .lt => subset && !superset
  | .ge => superset
  | _ => superset && !subset

/-- Compares two values as numbers. -/
def compareNumbers (op : RelationalOp) (left right : Value) : Bool :=
  let l := left.toNumber
  let r := right.toNumber
  match op with
  | .le => l ≤ r
  | .lt => l < r
  | .ge => l ≥ r
  | _ => l > r

/-- Compares two values in order. -/
def compareValues (op : RelationalOp) (left right : Value) : Bool :=
  match TypePair.of left right with
  | .stringAny => compareTexts op left right
  | .arrayArray => compareSets op false left right
  | .arrayObject | .objectArray | .objectObject => compareSets op true left right
  | .arrayScalar | .objectScalar | .numeric => compareNumbers op left right

/-- Applies a comparison; the two regular expression matches, which also leave their captures, are
no comparisons. -/
def RelationalOp.compare (op : RelationalOp) (left right : Value) : Bool :=
  match op with
  | .eq => left.looselyEquals right
  | .neq => !left.looselyEquals right
  | op => compareValues op left right

/-! ## Bits -/

/-- Applies a bitwise operator. -/
def BitwiseOp.apply (op : BitwiseOp) (left right : Value) : Value :=
  let l := toInt32 left.toNumber
  let r := toInt32 right.toNumber
  let result :=
    match op with
    | .and => l &&& r
    | .or => l ||| r
    | .shl => l <<< shiftCount r
    | .shr => l.sshiftRight (shiftCount r)
  .number (ofInt32 result)

/-- Applies a unary operator. -/
def UnaryOp.apply (op : UnaryOp) (operand : Value) : Value :=
  match op with
  | .not => .boolean !operand.truthy
  | .bitNot => .number (ofInt32 (~~~(toInt32 operand.toNumber)))

end ExprLang
