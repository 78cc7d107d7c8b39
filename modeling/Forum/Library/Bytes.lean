import Mathlib.Data.List.Basic
import Mathlib.Data.Nat.Digits.Lemmas

/-!
# Numbers as bytes

Numbers in little endian order in a fixed number of bytes, as a machine keeps them in memory: the
unsigned ones reduced modulo the width, the signed ones in two's complement. What is written in so
many bytes is read back when it fits into them.
-/

namespace Forum.Library

/-- The lowest `width` bytes of a number, the lowest first. -/
def toBytes : ℕ → ℕ → List UInt8
  | 0, _ => []
  | width + 1, n => UInt8.ofNat n :: toBytes width (n / 256)

/-- The number of a list of bytes, the lowest first. -/
def ofBytes : List UInt8 → ℕ
  | [] => 0
  | b :: bytes => b.toNat + 256 * ofBytes bytes

@[simp] theorem length_toBytes (width n : ℕ) : (toBytes width n).length = width := by
  induction width generalizing n with
  | zero => rfl
  | succ width ih => rw [toBytes, List.length_cons, ih]

theorem ofBytes_toBytes (width n : ℕ) : ofBytes (toBytes width n) = n % 256 ^ width := by
  induction width generalizing n with
  | zero => simp [toBytes, ofBytes, Nat.mod_one]
  | succ width ih =>
    have hlow : (UInt8.ofNat n).toNat = n % 256 := by simp
    rw [toBytes, ofBytes, ih, hlow, pow_succ, Nat.mul_comm (256 ^ width) 256, Nat.mod_mul]

/-- A number that fits is read back. -/
theorem ofBytes_toBytes_of_lt {width n : ℕ} (h : n < 256 ^ width) : ofBytes (toBytes width n) = n := by
  rw [ofBytes_toBytes, Nat.mod_eq_of_lt h]

/-- The bytes of a signed number in two's complement. -/
def intToBytes (width : ℕ) (i : ℤ) : List UInt8 := toBytes width (i % (256 ^ width : ℕ)).toNat

/-- The signed number of a list of bytes. -/
def intOfBytes (bytes : List UInt8) : ℤ :=
  if 2 * ofBytes bytes < 256 ^ bytes.length then ofBytes bytes
  else (ofBytes bytes : ℤ) - (256 ^ bytes.length : ℕ)

@[simp] theorem length_intToBytes (width : ℕ) (i : ℤ) : (intToBytes width i).length = width :=
  length_toBytes width _

/-- What a signed number is read back as: itself modulo the width, in the signed range. -/
theorem intOfBytes_intToBytes (width : ℕ) (i : ℤ) :
    intOfBytes (intToBytes width i) = Int.bmod i (256 ^ width) := by
  have hpos : (0 : ℤ) < (256 ^ width : ℕ) := by positivity
  have hlow := Int.emod_nonneg i hpos.ne'
  have hhigh := Int.emod_lt_of_pos i hpos
  have hread : ofBytes (intToBytes width i) = (i % (256 ^ width : ℕ)).toNat :=
    ofBytes_toBytes_of_lt (by omega)
  rw [intOfBytes, hread, length_intToBytes, Int.bmod]
  generalize (256 ^ width : ℕ) = m at hpos hlow hhigh
  split <;> split <;> omega

end Forum.Library
