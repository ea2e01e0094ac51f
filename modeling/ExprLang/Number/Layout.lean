import ExprLang.Number.Shortest

/-!
# ExprLang.Number.Layout

How numbers are written: the shortest digits, in plain notation when the point comes no further
than 21 places after the first digit or five places before it, and otherwise with an exponent that
always carries its sign.
-/

namespace ExprLang

/-- The digits of a number, as characters. -/
def digitChars (n : Nat) : List Char := Nat.toDigits 10 n

/-- A positive decimal in plain notation or with an exponent. -/
def layoutDecimal (d : ShortDecimal) : List Char :=
  let digits := digitChars d.digits
  let point := d.exponent + 1
  if d.count ≤ point ∧ point ≤ 21 then
    digits ++ List.replicate (point - d.count).toNat '0'
  else if 1 ≤ point ∧ point ≤ 21 then
    digits.take point.toNat ++ '.' :: digits.drop point.toNat
  else if -5 ≤ point ∧ point ≤ 0 then
    '0' :: '.' :: (List.replicate (-point).toNat '0' ++ digits)
  else
    let fraction := if digits.length = 1 then [] else '.' :: digits.drop 1
    let sign := if d.exponent < 0 then '-' else '+'
    digits.take 1 ++ fraction ++ 'e' :: sign :: digitChars d.exponent.natAbs

/-- The text of a number.  Both zeros are written `0`. -/
def formatNumber (x : Float) : String :=
  match Binary.ofFloat x with
  | .nan => "NaN"
  | .infinite negative => if negative then "-Infinity" else "Infinity"
  | .finite negative m e =>
    if m = 0 then "0"
    else
      let body := layoutDecimal (shortestDecimal m e)
      String.ofList (if negative then '-' :: body else body)

/-- The text of a number in debugging output: plain notation with at least one digit after the
point from `1e-5` up to `1e16`, and an exponent beyond. -/
def debugNumber (x : Float) : String :=
  match Binary.ofFloat x with
  | .nan => "NaN"
  | .infinite negative => if negative then "-inf" else "inf"
  | .finite negative m e =>
    let body :=
      if m = 0 then "0.0".toList
      else
        let d := shortestDecimal m e
        let digits := digitChars d.digits
        let point := d.exponent + 1
        if 1e16 ≤ x.abs ∨ x.abs < 1e-4 then
          let fraction := if digits.length = 1 then [] else '.' :: digits.drop 1
          let sign := if d.exponent < 0 then ['-'] else []
          digits.take 1 ++ fraction ++ 'e' :: (sign ++ digitChars d.exponent.natAbs)
        else if point ≤ 0 then
          '0' :: '.' :: (List.replicate (-point).toNat '0' ++ digits)
        else if d.count ≤ point then
          digits ++ List.replicate (point - d.count).toNat '0' ++ ['.', '0']
        else digits.take point.toNat ++ '.' :: digits.drop point.toNat
    String.ofList (if negative then '-' :: body else body)

end ExprLang
