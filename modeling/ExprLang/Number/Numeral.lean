import ExprLang.Number.Binary
import ExprLang.Text.Whitespace

/-!
# ExprLang.Number.Numeral

Reading numbers.  A decimal numeral denotes a whole number times a power of ten, and the number read
is the one nearest to it; a numeral in another radix is read digit by digit in a literal, and as a
64-bit integer in a text that is turned into a number.
-/

namespace ExprLang

/-- The value of a digit, up to radix 16. -/
def digitValue? (c : Char) : Option Nat :=
  if '0' ≤ c ∧ c ≤ '9' then some (c.toNat - '0'.toNat)
  else if 'a' ≤ c ∧ c ≤ 'f' then some (c.toNat - 'a'.toNat + 10)
  else if 'A' ≤ c ∧ c ≤ 'F' then some (c.toNat - 'A'.toNat + 10)
  else none

/-- Whether a character is a decimal digit. -/
def isDecimalDigit (c : Char) : Bool := '0' ≤ c && c ≤ '9'

/-- The whole number that decimal digits denote. -/
def decimalNat (digits : List Char) : Nat :=
  digits.foldl (fun n c => 10 * n + (c.toNat - '0'.toNat)) 0

/-- The number nearest to `digits * 10 ^ exponent`.  Beyond the range of numbers the result is
infinite or zero whatever the digits. -/
def nearestDecimal (digits : List Char) (exponent : Int) : Float :=
  let significant := digits.dropWhile (· == '0')
  let n := decimalNat significant
  let size := exponent + significant.length
  if n = 0 then 0.0
  else if 400 < size then 1.0 / 0.0
  else if size < -400 then 0.0
  else if 0 ≤ exponent then Float.ofScientific n false exponent.toNat
  else Float.ofScientific n true (-exponent).toNat

/-- The exponent after an `e`: digits with an optional sign. -/
def readExponent : List Char → Option Int
  | '-' :: s => if s ≠ [] ∧ s.all isDecimalDigit then some (-(decimalNat s : Int)) else none
  | '+' :: s => if s ≠ [] ∧ s.all isDecimalDigit then some (decimalNat s) else none
  | s => if s ≠ [] ∧ s.all isDecimalDigit then some (decimalNat s) else none

/-- An unsigned decimal numeral: digits with at most one point among, before or after them, and
perhaps an exponent. -/
def readDecimal (s : List Char) : Option Float :=
  let whole := s.takeWhile isDecimalDigit
  let afterWhole := s.dropWhile isDecimalDigit
  let fraction :=
    match afterWhole with
    | '.' :: r => r.takeWhile isDecimalDigit
    | _ => []
  let afterFraction :=
    match afterWhole with
    | '.' :: r => r.dropWhile isDecimalDigit
    | r => r
  if whole = [] ∧ fraction = [] then none
  else
    match afterFraction with
    | [] => some (nearestDecimal (whole ++ fraction) (-(fraction.length : Int)))
    | c :: r =>
      if c = 'e' ∨ c = 'E' then
        (readExponent r).map fun e => nearestDecimal (whole ++ fraction) (e - fraction.length)
      else none

/-- The digits of a radix, as a whole number. -/
def readRadix (radix : Nat) (digits : List Char) : Option Nat :=
  digits.foldl (fun n? c =>
    match n?, digitValue? c with
    | some n, some d => if d < radix then some (radix * n + d) else none
    | _, _ => none) (some 0)

/-- An integer that fits 64 bits, in a radix. -/
def readWord (radix : Nat) (digits : List Char) : Option Nat :=
  if digits = [] then none
  else (readRadix radix digits).filter (· < twoPow 64)

/-- Digits of a literal in a radix: each digit is added to `radix` times what came before, with the
rounding that this brings. -/
def accumulateRadix (radix : Nat) (digits : List Char) : Float :=
  digits.foldl (fun x c => x * Float.ofNat radix + Float.ofNat ((digitValue? c).getD 0)) 0.0

/-- The radix that a mark after a leading zero stands for. -/
def radixOf? : Char → Option Nat
  | 'x' | 'X' => some 16
  | 'o' | 'O' => some 8
  | 'b' | 'B' => some 2
  | _ => none

/-- An optionally signed decimal numeral, or an infinity. -/
def parseSigned (s : List Char) : Option Float :=
  let negative := s.head? == some '-'
  let body :=
    match s with
    | '-' :: r => r
    | '+' :: r => r
    | r => r
  let magnitude :=
    if body = "Infinity".toList then some (1.0 / 0.0) else readDecimal body
  magnitude.map fun x => if negative then -x else x

/-- The number of a text: white space around it does not matter, nothing is zero, and what is not
wholly a number is not a number. -/
def parseNumber (s : List Char) : Float :=
  match trimWhitespace s with
  | [] => 0.0
  | '0' :: c :: digits =>
    match radixOf? c with
    | some radix =>
      match readWord radix digits with
      | some n => Float.ofNat n
      | none => 0.0 / 0.0
    | none => (parseSigned ('0' :: c :: digits)).getD (0.0 / 0.0)
  | s => (parseSigned s).getD (0.0 / 0.0)

end ExprLang
