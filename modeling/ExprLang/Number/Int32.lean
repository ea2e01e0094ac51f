import ExprLang.Number.Binary

/-!
# ExprLang.Number.Int32

The 32-bit integers on which the bitwise operators work.  A number becomes one by dropping its
fraction and then all but its lowest 32 bits, read as two's complement; what is not finite becomes
zero.
-/

namespace ExprLang

/-- The remainder of a division that rounds so that it is not negative. -/
def euclideanRemainder (x y : Float) : Float :=
  let r := remainder x y
  if r < 0.0 then r + y.abs else r

/-- The 32-bit integer of a number. -/
def toInt32 (x : Float) : BitVec 32 :=
  if x.isFinite then (euclideanRemainder (truncate x) 4294967296.0).toUInt32.toBitVec else 0

/-- The number of a 32-bit integer. -/
def ofInt32 (n : BitVec 32) : Float := Float.ofInt n.toInt

/-- How far a shift by `n` moves: the lowest five bits count. -/
def shiftCount (n : BitVec 32) : Nat := n.toNat % 32

end ExprLang
