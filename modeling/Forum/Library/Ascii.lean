import Mathlib.Algebra.Group.Int.Defs
import Mathlib.Algebra.Group.Nat.Defs
import Mathlib.Data.Nat.Notation

/-!
# ASCII texts

Texts as bytes: letters in either case, and numbers in decimal digits.
-/

namespace Forum.Library

/-- The bytes of a text of ASCII characters. -/
def asciiBytes (text : String) : List UInt8 := text.toList.map fun character => UInt8.ofNat character.toNat

/-- A literal is the text of its characters, so that its bytes are read off without decoding it. -/
theorem asciiBytes_ofList (text : List Char) :
    asciiBytes (String.ofList text) = text.map fun character => UInt8.ofNat character.toNat := by
  rw [asciiBytes, String.toList_ofList]

/-- `std::tolower`. -/
def toLower (byte : UInt8) : UInt8 := if 65 ≤ byte ∧ byte ≤ 90 then byte + 32 else byte

/-- `std::toupper`. -/
def toUpper (byte : UInt8) : UInt8 := if 97 ≤ byte ∧ byte ≤ 122 then byte - 32 else byte

/-- Is it a decimal digit? -/
def isDigit (byte : UInt8) : Bool := 48 ≤ byte ∧ byte ≤ 57

/-- A property of all bytes of a text, checked one by one. -/
theorem forall_mem_of_all {text : List UInt8} {P : UInt8 → Prop} [DecidablePred P]
    (h : text.all (fun byte => decide (P byte)) = true) : ∀ byte ∈ text, P byte :=
  fun byte hbyte => of_decide_eq_true (List.all_eq_true.1 h byte hbyte)

/-- The number in decimal digits. -/
def decimalNumber (digits : List UInt8) : ℕ := digits.foldl (fun number digit => 10 * number + (digit.toNat - 48)) 0

end Forum.Library
