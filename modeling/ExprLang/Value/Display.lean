import ExprLang.Number.Layout
import ExprLang.Text.Quoted
import ExprLang.Value.Basic

/-!
# ExprLang.Value.Display

Values as they are shown: the literal form, in which a value made of plain data reads back as
itself, its summary in traces, and the form for debugging.
-/

namespace ExprLang.Value

mutual

/-- The literal form of a value. -/
def display : Value → String
  | null => "null"
  | undefined => "undefined"
  | boolean b => if b then "true" else "false"
  | number x => formatNumber x
  | string s => quoted s
  | regexp r => r.text
  | array items => "[" ++ String.intercalate "," (displayAll items) ++ "]"
  | map entries => "\x7b" ++ String.intercalate "," (displayEntries entries) ++ "\x7d"
  | function f => "[Function: " ++ f.name ++ "]"

/-- The literal forms of some values. -/
def displayAll : List Value → List String
  | [] => []
  | v :: vs => v.display :: displayAll vs

/-- The literal forms of some entries. -/
def displayEntries : List (String × Value) → List String
  | [] => []
  | (n, v) :: es => (quoted n ++ ":" ++ v.display) :: displayEntries es

end

/-- The number of characters of the literal form that a summary keeps. -/
def summaryLimit : Nat := 40

/-- The literal form, cut short. -/
def summary (v : Value) : String :=
  let text := v.display.toList
  if summaryLimit < text.length then String.ofList (text.take summaryLimit ++ ['.', '.', '.'])
  else String.ofList text

mutual

/-- The debugging form of a value. -/
def debug : Value → String
  | null => "Null"
  | undefined => "Undefined"
  | boolean b => "Boolean(" ++ (if b then "true" else "false") ++ ")"
  | number x => "Number(" ++ debugNumber x ++ ")"
  | string s => "String(" ++ debugQuoted s ++ ")"
  | regexp r => "RegExp(RegExp(" ++ r.text ++ "))"
  | array items => "Array([" ++ String.intercalate ", " (debugAll items) ++ "])"
  | map entries => "Map(\x7b" ++ String.intercalate ", " (debugEntries entries) ++ "\x7d)"
  | function f => "Function(Function(" ++ f.name ++ "))"

/-- The debugging forms of some values. -/
def debugAll : List Value → List String
  | [] => []
  | v :: vs => v.debug :: debugAll vs

/-- The debugging forms of some entries. -/
def debugEntries : List (String × Value) → List String
  | [] => []
  | (n, v) :: es => (debugQuoted n ++ ": " ++ v.debug) :: debugEntries es

end

end ExprLang.Value
