import ExprLang.Eval.Operators
import ExprLang.Proofs.Number.Int32

/-!
# ExprLang.Proofs.Value.Bitwise

The operators on bits.

They work on the 32-bit integers of their operands and come to the number of a 32-bit integer, which
is exact.  So whatever is computed from their results is computed from these integers, and laws of
words in two's complement are laws of the operators.
-/

namespace ExprLang

/-! ## Words in two's complement -/

namespace Word

variable (n : BitVec 32)

theorem toInt_shiftLeft (k : Nat) : (n <<< k).toInt = (n.toInt * 2 ^ k).bmod (2 ^ 32) := by
  rw [BitVec.toInt_shiftLeft, BitVec.toInt_eq_toNat_bmod n, Int.bmod_mul_bmod, Nat.shiftLeft_eq]
  push_cast
  rfl

theorem toInt_sshiftRight (k : Nat) : (n.sshiftRight k).toInt = n.toInt / 2 ^ k := by
  rw [BitVec.toInt_sshiftRight, Int.shiftRight_eq_div_pow]
  push_cast
  rfl

theorem toInt_not : (~~~n).toInt = -n.toInt - 1 := by
  have hlt := n.isLt
  rw [BitVec.toInt_eq_toNat_cond, BitVec.toInt_eq_toNat_cond, BitVec.toNat_not]
  omega

theorem shiftCount_eq : shiftCount n = (n.toInt % 32).toNat := by
  have hlt := n.isLt
  rw [shiftCount, BitVec.toInt_eq_toNat_cond]
  omega

end Word

/-! ## Operators -/

/-- The value is a number that is exactly an integer. -/
def Value.IsInteger (v : Value) (z : ℤ) : Prop :=
  ∃ x, v = .number x ∧ (Binary.ofFloat x).value? = some (Binary.extended z)

theorem isInteger_ofInt32 (n : BitVec 32) : (Value.number (ofInt32 n)).IsInteger n.toInt :=
  ⟨_, rfl, value?_ofInt32 n⟩

/-- The number of a 32-bit integer stays what it is when it is taken as one. -/
theorem ofInt32_toNumber (n : BitVec 32) :
    Value.number (ofInt32 (toInt32 (Value.number (ofInt32 n)).toNumber)) =
      .number (ofInt32 n) := by
  rw [Value.toNumber, toInt32_ofInt32]

theorem bitNot_number (n : BitVec 32) :
    UnaryOp.bitNot.apply (.number (ofInt32 n)) = .number (ofInt32 (~~~n)) := by
  rw [UnaryOp.apply, Value.toNumber, toInt32_ofInt32]

theorem or_number (m n : BitVec 32) :
    BitwiseOp.or.apply (.number (ofInt32 m)) (.number (ofInt32 n)) =
      .number (ofInt32 (m ||| n)) := by
  rw [BitwiseOp.apply, Value.toNumber, Value.toNumber, toInt32_ofInt32, toInt32_ofInt32]

/-- Every operator comes to the number of a 32-bit integer. -/
theorem exists_bitwise (op : BitwiseOp) (a b : Value) :
    ∃ n : BitVec 32, op.apply a b = .number (ofInt32 n) := by
  cases op <;> exact ⟨_, rfl⟩

/-- The operators on bits are those of 32-bit integers in two's complement.  Each operand counts as the
integer in the range of 32 bits that differs from its number, rounded toward zero, by a multiple of
`2 ^ 32`; what is no finite number counts as zero.  A shift counts modulo 32, and one to the right
keeps the sign.  The results are exact, and are the same numbers when they are taken as 32-bit integers
again. -/
theorem bitwise_int32 (a b : Value) : ∃ X Y : ℤ,
    (∀ z, IsInt32 a.toNumber z ↔ z = X) ∧ (∀ z, IsInt32 b.toNumber z ↔ z = Y) ∧
    (BitwiseOp.and.apply a b).IsInteger (BitVec.ofInt 32 X &&& BitVec.ofInt 32 Y).toInt ∧
    (BitwiseOp.or.apply a b).IsInteger (BitVec.ofInt 32 X ||| BitVec.ofInt 32 Y).toInt ∧
    (BitwiseOp.shl.apply a b).IsInteger ((X * 2 ^ (Y % 32).toNat).bmod (2 ^ 32)) ∧
    (BitwiseOp.shr.apply a b).IsInteger (X / 2 ^ (Y % 32).toNat) ∧
    (UnaryOp.bitNot.apply a).IsInteger (-X - 1) ∧
    (∀ op : BitwiseOp,
      .number (ofInt32 (toInt32 (op.apply a b).toNumber)) = op.apply a b) ∧
    .number (ofInt32 (toInt32 (UnaryOp.bitNot.apply a).toNumber)) = UnaryOp.bitNot.apply a ∧
    (UnaryOp.bitNot.apply (UnaryOp.bitNot.apply a)).IsInteger X ∧
    UnaryOp.bitNot.apply (BitwiseOp.and.apply a b) =
      BitwiseOp.or.apply (UnaryOp.bitNot.apply a) (UnaryOp.bitNot.apply b) := by
  generalize hx : toInt32 a.toNumber = x
  generalize hy : toInt32 b.toNumber = y
  have hX : ∀ z, IsInt32 a.toNumber z ↔ z = x.toInt := fun z => hx ▸ isInt32_iff
  have hY : ∀ z, IsInt32 b.toNumber z ↔ z = y.toInt := fun z => hy ▸ isInt32_iff
  have hnot : UnaryOp.bitNot.apply a = .number (ofInt32 (~~~x)) := by rw [UnaryOp.apply, hx]
  have hnot' : UnaryOp.bitNot.apply b = .number (ofInt32 (~~~y)) := by rw [UnaryOp.apply, hy]
  have hand : BitwiseOp.and.apply a b = .number (ofInt32 (x &&& y)) := by
    rw [BitwiseOp.apply, hx, hy]
  have hor : BitwiseOp.or.apply a b = .number (ofInt32 (x ||| y)) := by
    rw [BitwiseOp.apply, hx, hy]
  have hshl : BitwiseOp.shl.apply a b = .number (ofInt32 (x <<< shiftCount y)) := by
    rw [BitwiseOp.apply, hx, hy]
  have hshr : BitwiseOp.shr.apply a b = .number (ofInt32 (x.sshiftRight (shiftCount y))) := by
    rw [BitwiseOp.apply, hx, hy]
  refine ⟨x.toInt, y.toInt, hX, hY, ?and, ?or, ?shl, ?shr, ?not, ?fixed, ?fixed_not, ?not_not,
    ?not_and⟩
  case and =>
    rw [hand, BitVec.ofInt_toInt, BitVec.ofInt_toInt]
    exact isInteger_ofInt32 _
  case or =>
    rw [hor, BitVec.ofInt_toInt, BitVec.ofInt_toInt]
    exact isInteger_ofInt32 _
  case shl =>
    rw [hshl, ← Word.shiftCount_eq, ← Word.toInt_shiftLeft]
    exact isInteger_ofInt32 _
  case shr =>
    rw [hshr, ← Word.shiftCount_eq, ← Word.toInt_sshiftRight]
    exact isInteger_ofInt32 _
  case not =>
    rw [hnot, ← Word.toInt_not]
    exact isInteger_ofInt32 _
  case fixed =>
    intro op
    obtain ⟨n, hn⟩ := exists_bitwise op a b
    rw [hn, ofInt32_toNumber]
  case fixed_not => rw [hnot, ofInt32_toNumber]
  case not_not =>
    rw [hnot, bitNot_number, BitVec.not_not]
    exact isInteger_ofInt32 x
  case not_and => rw [hand, hnot, hnot', bitNot_number, or_number, BitVec.not_and]

end ExprLang
