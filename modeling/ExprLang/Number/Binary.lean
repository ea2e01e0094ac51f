/-!
# ExprLang.Number.Binary

Numbers taken apart.  A finite number is a sign and a magnitude `mantissa * 2 ^ exponent`; all exact
work (rounding toward zero, remainders, decimal digits) is done on that pair in whole numbers.
-/

namespace ExprLang

/-- A power of two. -/
def twoPow (k : Nat) : Nat := Nat.pow 2 k

/-- A power of ten. -/
def tenPow (k : Nat) : Nat := Nat.pow 10 k

/-- A number taken apart; zero has the mantissa zero. -/
inductive Binary
  | nan
  | infinite (negative : Bool)
  | finite (negative : Bool) (mantissa : Nat) (exponent : Int)
  deriving DecidableEq

namespace Binary

/-- The parts of a number. -/
def ofFloat (x : Float) : Binary :=
  let bits : Nat := x.toBits.toNat
  let negative := bits / twoPow 63 == 1
  let field : Nat := bits / twoPow 52 % twoPow 11
  let fraction : Nat := bits % twoPow 52
  if field = 2047 then
    if fraction = 0 then .infinite negative else .nan
  else if field = 0 then .finite negative fraction (-1074)
  else .finite negative (twoPow 52 + fraction) ((field : Int) - 1075)

/-- The number `mantissa * 2 ^ exponent`, which must have one; a mantissa that is too long or an
exponent that is too small loses its low bits. -/
def pack (negative : Bool) (mantissa : Nat) (exponent : Int) : Float :=
  let sign : Nat := if negative then twoPow 63 else 0
  if mantissa = 0 then Float.ofBits (UInt64.ofNat sign)
  else
    let place := max (exponent + mantissa.log2 - 52) (-1074)
    let m :=
      if place ≤ exponent then mantissa * twoPow (exponent - place).toNat
      else mantissa / twoPow (place - exponent).toNat
    if m < twoPow 52 then Float.ofBits (UInt64.ofNat (sign + m))
    else if 971 < place then Float.ofBits (UInt64.ofNat (sign + 2047 * twoPow 52))
    else Float.ofBits (UInt64.ofNat (sign + (place + 1075).toNat * twoPow 52 + (m - twoPow 52)))

/-- The whole part of a magnitude. -/
def wholePart (mantissa : Nat) (exponent : Int) : Nat :=
  if 0 ≤ exponent then mantissa * twoPow exponent.toNat else mantissa / twoPow (-exponent).toNat

end Binary

/-- A number without its fraction; its sign stays, also on zero. -/
def truncate (x : Float) : Float :=
  match Binary.ofFloat x with
  | .finite negative m e => if 0 ≤ e then x else Binary.pack negative (Binary.wholePart m e) 0
  | _ => x

/-- The remainder of a division that rounds toward zero, computed exactly; it has the sign of the
dividend. -/
def remainder (x y : Float) : Float :=
  match Binary.ofFloat x, Binary.ofFloat y with
  | .finite negative m e, .finite _ n d =>
    if n = 0 then 0.0 / 0.0
    else
      let low := min e d
      Binary.pack negative (m * twoPow (e - low).toNat % (n * twoPow (d - low).toNat)) low
  | .finite _ _ _, .infinite _ => x
  | _, _ => 0.0 / 0.0

end ExprLang
