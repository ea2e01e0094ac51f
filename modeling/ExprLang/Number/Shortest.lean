import ExprLang.Number.Binary

/-!
# ExprLang.Number.Shortest

The shortest decimal digits that still tell a number from its neighbours.

The numbers that round to a given one fill an interval around it.  For one digit, two digits and so
on, the two decimals next to the number are tried; the first one found inside the interval is taken,
the nearer of two, and the larger of two equally near.  All comparisons are between whole numbers.
-/

namespace ExprLang

/-- A decimal `d₁.d₂d₃… * 10 ^ exponent`, where `digits` is `d₁d₂d₃…` as a whole number of `count`
digits. -/
structure ShortDecimal where
  digits : Nat
  count : Nat
  exponent : Int
  deriving DecidableEq

namespace Shortest

/-- A positive number and the interval that rounds to it, over one denominator. -/
structure Interval where
  value : Nat
  low : Nat
  high : Nat
  denominator : Nat
  /-- Whether the ends belong to the interval. -/
  closed : Bool

/-- The interval of the numbers that round to `mantissa * 2 ^ exponent`.  Below a power of two the
neighbours are twice as close. -/
def interval (mantissa : Nat) (exponent : Int) : Interval :=
  let below := if mantissa = twoPow 52 then 1 else 2
  let scale := if 2 ≤ exponent then twoPow (exponent - 2).toNat else 1
  { value := 4 * mantissa * scale
    low := (4 * mantissa - below) * scale
    high := (4 * mantissa + 2) * scale
    denominator := if 2 ≤ exponent then 1 else twoPow (2 - exponent).toNat
    closed := mantissa % 2 == 0 }

/-- The least `n` such that `value * 10 ^ n` reaches `denominator`. -/
def leadingZeros (denominator : Nat) : (fuel value n : Nat) → Nat
  | 0, _, n => n
  | fuel + 1, value, n =>
    if denominator ≤ value then n else leadingZeros denominator fuel (10 * value) (n + 1)

/-- The number of decimal digits of `n`, and one for zero. -/
def digitCount (n : Nat) : Nat := (Nat.toDigits 10 n).length

/-- The exponent of the first digit: the power of ten at or below the value. -/
def magnitude (i : Interval) : Int :=
  if i.denominator ≤ i.value then (digitCount (i.value / i.denominator) : Int) - 1
  else -(leadingZeros i.denominator 400 i.value 0 : Int)

/-- Whether the decimal `q * 10 ^ place` lies in the interval. -/
def holds (i : Interval) (q : Nat) (place : Int) : Bool :=
  let up := tenPow place.toNat
  let down := tenPow (-place).toNat
  let x := q * up * i.denominator
  if i.closed then i.low * down ≤ x && x ≤ i.high * down
  else i.low * down < x && x < i.high * down

/-- The decimal with `count` digits next to the value that lies in the interval, if one does. -/
def candidate? (i : Interval) (exponent : Int) (count : Nat) : Option Nat :=
  let place := exponent - count + 1
  let up := tenPow place.toNat
  let down := tenPow (-place).toNat
  let unit := up * i.denominator
  let q := i.value * down / unit
  let left := i.value * down % unit
  match holds i q place, holds i (q + 1) place with
  | true, true => some (if 2 * left < unit then q else q + 1)
  | true, false => some q
  | false, true => some (q + 1)
  | false, false => none

/-- The first candidate with `count` digits or more. -/
def search (i : Interval) (exponent : Int) : (fuel count : Nat) → ShortDecimal
  | 0, count => ⟨i.value / i.denominator, count, exponent⟩
  | fuel + 1, count =>
    match candidate? i exponent count with
    | some q => if q = tenPow count then ⟨1, 1, exponent + 1⟩ else ⟨q, count, exponent⟩
    | none => search i exponent fuel (count + 1)

end Shortest

/-- The shortest decimal that rounds to `mantissa * 2 ^ exponent`, which must be positive. -/
def shortestDecimal (mantissa : Nat) (exponent : Int) : ShortDecimal :=
  let i := Shortest.interval mantissa exponent
  Shortest.search i (Shortest.magnitude i) 17 1

end ExprLang
