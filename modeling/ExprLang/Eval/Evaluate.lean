import ExprLang.Eval.Operators
import ExprLang.Eval.Run
import ExprLang.Value.Property

/-!
# ExprLang.Eval.Evaluate

The value of a tree.

Nodes are evaluated from left to right, each at most once, and an operand only when the value
depends on it: the second operand of `&&`, `||` and `?:` and the branches of `? :` may be passed
over, and an optional step or call on nothing ends its selection or call there.  The evaluation
follows the tree, so it ends for every tree, whether or not a text has it.
-/

namespace ExprLang

/-- What the evaluation of a node finds: a value, and the container that it was read from if the
node is a selection.  A function that is called gets this container as its receiver. -/
structure Found where
  value : Value
  receiver : Value

/-- A value that was not read from a container. -/
def Found.plain (v : Value) : Found := ⟨v, .undefined⟩

/-- Why a step cannot be taken from a value of a type. -/
def Step.refusal (s : Step Node) (type : String) : FailureCause :=
  match s.key with
  | .identifier _ name => .noProperty name type
  | _ => .noIndex type

namespace Eval

variable {σ : Type}

/-- Reports a node around its evaluation. -/
def visit (kind : NodeKind) (depth : Nat) (pos : Position) (body : Eval σ Found) :
    Eval σ Found := do
  record fun _ => .enter kind depth pos
  let found ← body
  record fun _ => .exit kind depth found.value.summary
  return found

/-- Matches a text against a regular expression and leaves the groups in the capture variables.
The right operand is converted first, so that one that is no regular expression changes nothing. -/
def matchRegExp (pos : Position) (expected : Bool) (left right : Value) : Eval σ Value :=
  match right.toRegExp with
  | .error e => fail (.pattern e) pos
  | .ok r => do
    let groups := r.captures left.stringify
    recordCaptures groups
    return .boolean (groups.isSome == expected)

/-- Applies a comparison or a match. -/
def relate (pos : Position) (op : RelationalOp) (left right : Value) : Eval σ Value :=
  match op with
  | .isMatch => matchRegExp pos true left right
  | .noMatch => matchRegExp pos false left right
  | op => return .boolean (op.compare left right)

/-- What a name stands for where it is called: a variable, or else a function. -/
def findCallee (s : Surroundings σ) (pos : Position) (name : String) (optional : Bool) :
    Eval σ Found := do
  match (← lookup s name).or ((s.functions.resolve name).map .function) with
  | some v => return .plain v
  | none => if optional then return .plain .undefined else fail (.unknownFunction name) pos

mutual

/-- Evaluates a node that `depth` others enclose. -/
def find (s : Surroundings σ) (depth : Nat) (n : Node) : Eval σ Found :=
  visit n.kind depth n.position <|
    match n with
    | .sequence _ statements => return .plain (← findLast s (depth + 1) .undefined statements)
    | .assignment _ target value => do
      match (← find s (depth + 1) target).value with
      | .string name =>
        let v := (← find s (depth + 1) value).value
        assign name v
        return .plain v
      | _ => fail .target target.position
    | .fallback _ value other => do
      let v := (← find s (depth + 1) value).value
      if v.truthy then return .plain v
      else return .plain (← find s (depth + 1) other).value
    | .choice _ condition yes no => do
      if (← find s (depth + 1) condition).value.truthy then
        return .plain (← find s (depth + 1) yes).value
      else return .plain (← find s (depth + 1) no).value
    | .logical _ .and left right => do
      if (← find s (depth + 1) left).value.truthy then
        return .plain (.boolean (← find s (depth + 1) right).value.truthy)
      else return .plain (.boolean false)
    | .logical _ .or left right => do
      if (← find s (depth + 1) left).value.truthy then return .plain (.boolean true)
      else return .plain (.boolean (← find s (depth + 1) right).value.truthy)
    | .bitwise _ op left right => do
      let l := (← find s (depth + 1) left).value
      let r := (← find s (depth + 1) right).value
      return .plain (op.apply l r)
    | .relational pos op left right => do
      let l := (← find s (depth + 1) left).value
      let r := (← find s (depth + 1) right).value
      return .plain (← relate pos op l r)
    | .arithmetic _ op left right => do
      let l := (← find s (depth + 1) left).value
      let r := (← find s (depth + 1) right).value
      return .plain (op.apply l r)
    | .unary _ op operand => do
      return .plain (op.apply (← find s (depth + 1) operand).value)
    | .select _ base steps => do
      let v := (← find s (depth + 1) base).value
      follow s (depth + 1) (.plain v) steps
    | .call pos callee args optional => do
      let f ← match callee with
        | .var p name => visit .var (depth + 1) p (findCallee s p name optional)
        | _ => find s (depth + 1) callee
      match f.value with
      | .function g =>
        let vs ← findAll s (depth + 1) args
        return .plain (← call s pos g f.receiver vs)
      | v =>
        if optional && v.isNullish then return .plain .undefined
        else fail (.notCallable v.typeName) pos
    | .identifier _ name => return .plain (.string name)
    | .var pos name => do
      match ← lookup s name with
      | some v => return .plain v
      | none => fail (.unknownVariable name) pos
    | .array _ items => return .plain (.array (← findAll s (depth + 1) items))
    | .object _ items => return .plain (.map (← findItems s (depth + 1) [] items))
    | .item _ key value => do
      let k := (← find s (depth + 1) key).value.stringify
      let v := (← find s (depth + 1) value).value
      return .plain (.map [(k, v)])
    | .template _ parts => return .plain (.string (← findText s (depth + 1) "" parts))
    | .string _ text => return .plain (.string text)
    | .regexp _ r => return .plain (.regexp r)
    | .number _ x => return .plain (.number x)
    | .literal _ v => return .plain v

/-- Evaluates nodes one after the other; the value is that of the last. -/
def findLast (s : Surroundings σ) (depth : Nat) (last : Value) : List Node → Eval σ Value
  | [] => return last
  | n :: ns => do
    let v := (← find s depth n).value
    findLast s depth v ns

/-- The values of nodes. -/
def findAll (s : Surroundings σ) (depth : Nat) : List Node → Eval σ (List Value)
  | [] => return []
  | n :: ns => do
    let v := (← find s depth n).value
    return v :: (← findAll s depth ns)

/-- Adds the entries of the items of an object to `entries`. -/
def findItems (s : Surroundings σ) (depth : Nat) (entries : Bag) : List Node → Eval σ Bag
  | [] => return entries
  | n :: ns =>
    if n.kind = .item then do
      match (← find s depth n).value with
      | .map more => findItems s depth (entries.insertAll more) ns
      | _ => findItems s depth entries ns
    else fail (.misplaced n.kind) n.position

/-- Adds the texts of the parts of a template to `text`. -/
def findText (s : Surroundings σ) (depth : Nat) (text : String) : List Node → Eval σ String
  | [] => return text
  | n :: ns => do
    let v := (← find s depth n).value
    findText s depth (text ++ v.stringify) ns

/-- Takes the steps of a selection one after the other. -/
def follow (s : Surroundings σ) (depth : Nat) (found : Found) :
    List (Step Node) → Eval σ Found
  | [] => return found
  | step :: steps =>
    if step.optional && found.value.isNullish then return .plain .undefined
    else if found.value.isContainer then do
      let key ← findKey s depth step
      follow s depth ⟨(found.value.property? key).getD .undefined, found.value⟩ steps
    else fail (step.refusal found.value.typeName) step.position

/-- The key of a step. -/
def findKey (s : Surroundings σ) (depth : Nat) : Step Node → Eval σ String
  | ⟨key, _, _⟩ => return (← find s depth key).value.stringify

end

end Eval

/-- Evaluates a tree. -/
def Node.evaluate {σ : Type} (n : Node) (s : Surroundings σ) (r : Run σ) :
    Except Failure Value × Run σ :=
  ((Found.value <$> Eval.find s 0 n : Eval σ Value).run).run r

end ExprLang
