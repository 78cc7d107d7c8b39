import Mathlib.Data.List.Induction
import Mathlib.Data.Nat.Notation
import Forum.Library.Ascii

/-!
# Hexadecimal digits

The digits of either case with their values, and the number that a text of them stands for.
-/

namespace Forum.Library

/-- The value of a hexadecimal digit. -/
def hexDigitValue (byte : UInt8) : Option ℕ :=
  if 48 ≤ byte ∧ byte ≤ 57 then some (byte.toNat - 48)
  else if 65 ≤ byte ∧ byte ≤ 70 then some (byte.toNat - 55)
  else if 97 ≤ byte ∧ byte ≤ 102 then some (byte.toNat - 87)
  else none

/-- Is it a hexadecimal digit? -/
def isHexDigit (byte : UInt8) : Bool := (hexDigitValue byte).isSome

/-- The value of a digit; other characters count as zero. -/
def hexValue (byte : UInt8) : ℕ := (hexDigitValue byte).getD 0

/-- The number of a text of digits. -/
def hexNumber (digits : List UInt8) : ℕ := digits.foldl (fun number digit => 16 * number + hexValue digit) 0

/-- The digit of a number below 16, with letters of upper case. -/
def upperHexDigit (n : ℕ) : UInt8 := UInt8.ofNat (if n < 10 then n + 48 else n + 55)

/-- The same with letters of lower case. -/
def lowerHexDigit (n : ℕ) : UInt8 := UInt8.ofNat (if n < 10 then n + 48 else n + 87)

/-- A property of all bytes, which their numbers have. -/
@[elab_as_elim]
theorem forall_byte {motive : UInt8 → Prop} (h : ∀ n : Fin 256, motive (UInt8.ofNat n)) (byte : UInt8) : motive byte := by
  have := h ⟨byte.toNat, byte.toNat_lt⟩
  rwa [UInt8.ofNat_toNat] at this

theorem hexValue_upperHexDigit {n : ℕ} (h : n < 16) : hexValue (upperHexDigit n) = n := by
  have hall : ∀ n : Fin 16, hexValue (upperHexDigit n) = n := by decide
  exact hall ⟨n, h⟩

theorem isHexDigit_upperHexDigit {n : ℕ} (h : n < 16) : isHexDigit (upperHexDigit n) = true := by
  have hall : ∀ n : Fin 16, isHexDigit (upperHexDigit n) = true := by decide
  exact hall ⟨n, h⟩

/-- Letters count the same in either case. -/
theorem hexDigitValue_toLower (byte : UInt8) : hexDigitValue (toLower byte) = hexDigitValue byte := by
  have hall : ∀ n : Fin 256, hexDigitValue (toLower (UInt8.ofNat n)) = hexDigitValue (UInt8.ofNat n) := by
    decide +kernel
  exact forall_byte hall byte

theorem hexValue_lt (byte : UInt8) : hexValue byte < 16 := by
  have hall : ∀ n : Fin 256, hexValue (UInt8.ofNat n) < 16 := by decide +kernel
  exact forall_byte hall byte

theorem hexNumber_concat (digits : List UInt8) (digit : UInt8) :
    hexNumber (digits ++ [digit]) = 16 * hexNumber digits + hexValue digit := by
  unfold hexNumber
  rw [List.foldl_append]
  rfl

theorem hexNumber_lt (digits : List UInt8) : hexNumber digits < 16 ^ digits.length := by
  induction digits using List.reverseRecOn with
  | nil => decide
  | append_singleton digits digit ih =>
    have hvalue := hexValue_lt digit
    rw [hexNumber_concat, List.length_append, List.length_singleton, Nat.pow_succ]
    omega

end Forum.Library
