import ExprLang.Function.Error
import ExprLang.Text.Case
import ExprLang.Text.Search
import ExprLang.Value.Conversion
import ExprLang.Value.Equality

/-!
# ExprLang.Function.Library

The functions that come with the language.  Those on texts take the text of whatever they are given,
and count in characters; numbers among the arguments lose their fraction, and what is missing or
undefined counts as left out.
-/

namespace ExprLang

/-! ## Texts -/

/-- The larger of two numbers; one that is not a number gives way. -/
def maxNumber (x y : Float) : Float :=
  if x.isNaN then y else if y.isNaN then x else if x < y then y else x

/-- The smaller of two numbers; one that is not a number gives way. -/
def minNumber (x y : Float) : Float :=
  if x.isNaN then y else if y.isNaN then x else if y < x then y else x

/-- The first character of the part of a text that begins at `pos`: a negative one counts from the
end. -/
def substrStart (size pos : Float) : Float :=
  if pos < 0.0 then maxNumber (size + pos) 0.0 else minNumber pos size

/-- The end of the part of a text that begins at `start` and has `length` characters, or goes on to
the end. -/
def substrEnd (size start : Float) (length : Option Float) : Float :=
  match length with
  | some l => minNumber (start + maxNumber l 0.0) size
  | none => size

/-- Part of a text. -/
def substr (text : List Char) (pos length : Option Float) : List Char :=
  let size := Float.ofNat text.length
  let start := substrStart size (pos.getD 0.0)
  let stop := substrEnd size start length
  if start ≥ stop then []
  else (text.drop start.toUInt64.toNat).take (stop - start).toUInt64.toNat

/-- The place where a search in a text of `size` characters begins. -/
def searchStart (size : Nat) (start : Option Float) : Nat :=
  match start with
  | none => 0
  | some x => if x < 0.0 then 0 else if Float.ofNat size < x then size else x.toUInt64.toNat

/-- The place of the first occurrence of `needle` in a text at or after `start`. -/
def indexIn (text needle : List Char) (start : Option Float) : Option Nat :=
  let n := searchStart text.length start
  (findText needle (text.drop n)).map (n + ·)

/-! ## Containers -/

/-- The number of the items of an array, of the entries of a map, or of the characters of the text
of anything else. -/
def Value.count : Value → Nat
  | .array items => items.length
  | .map entries => entries.length
  | v => v.stringify.length

/-- Whether an array has an item equal to a value. -/
def containsItem (items : List Value) (v : Value) : Bool := items.any (·.equals v)

/-- The same for a value that must be an array. -/
def containsIn (list v : Value) : Except FunctionError Bool :=
  match list with
  | .array items => .ok (containsItem items v)
  | _ => .error (.invalidArgument "in" "array")

/-! ## Calls -/

namespace LibraryFunction

/-- The name under which a function is known. -/
def name : LibraryFunction → String
  | count => "count"
  | contains => "in"
  | substr => "substr"
  | index => "index"
  | trim => "trim"
  | lower => "lc"
  | upper => "uc"

/-- The functions on containers. -/
def onCollections : List LibraryFunction := [count, contains]

/-- The functions on texts. -/
def onTexts : List LibraryFunction := [substr, index, trim, lower, upper]

/-- The argument at a place; what is left out is undefined. -/
def argument (args : List Value) (i : Nat) : Value := (args[i]?).getD .undefined

/-- The characters of the text of an argument. -/
def textArgument (args : List Value) (i : Nat) : List Char := (argument args i).stringify.toList

/-- The number of an argument without its fraction, or nothing if it is left out. -/
def wholeArgument (args : List Value) (i : Nat) : Option Float :=
  match argument args i with
  | .undefined => none
  | v =>
    let x := v.toNumber
    some (if x.isNaN then 0.0 else truncate x)

/-- Calls a function of the library with a receiver, which stands in for a missing item. -/
def call (f : LibraryFunction) (receiver : Value) (args : List Value) :
    Except FunctionError Value :=
  match f with
  | count => .ok (.ofNat (argument args 0).count)
  | contains => (containsIn (argument args 0) ((args[1]?).getD receiver)).map .boolean
  | substr =>
    .ok (.string (String.ofList
      (ExprLang.substr (textArgument args 0) (wholeArgument args 1) (wholeArgument args 2))))
  | index =>
    match indexIn (textArgument args 0) (textArgument args 1) (wholeArgument args 2) with
    | some n => .ok (.ofNat n)
    | none => .ok (.number (-1.0))
  | trim => .ok (.string (String.ofList (trimWhitespace (textArgument args 0))))
  | lower => .ok (.string (String.ofList (lowerText (textArgument args 0))))
  | upper => .ok (.string (String.ofList (upperText (textArgument args 0))))

end LibraryFunction

end ExprLang
