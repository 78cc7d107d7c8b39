import Mathlib.Data.List.Basic
import Mathlib.Data.Nat.Notation
import Mathlib.Data.Int.Notation
import Mathlib.Tactic.SplitIfs
import Forum.Library.Ascii

/-!
# Numbers in decimal digits

The shortest digits of a number, and its text with a sign: what `%d` prints. Both are read back.
-/

namespace Forum.Library

/-- The last digit of a number. -/
def decimalDigit (n : ℕ) : UInt8 := UInt8.ofNat (n % 10 + 48)

/-- The digits of a number, without zeros in front. -/
def decimalDigits (n : ℕ) : List UInt8 :=
  if 9 < n then decimalDigits (n / 10) ++ [decimalDigit n] else [decimalDigit n]
termination_by n
decreasing_by omega

/-- The text of a number. -/
def decimalText (i : ℤ) : List UInt8 := (if i < 0 then [45] else []) ++ decimalDigits i.natAbs

theorem toNat_decimalDigit (n : ℕ) : (decimalDigit n).toNat = n % 10 + 48 := by
  have hlt : n % 10 < 10 := Nat.mod_lt _ (by decide)
  unfold decimalDigit
  rw [UInt8.toNat_ofNat']
  omega

theorem isDigit_iff (byte : UInt8) : isDigit byte = true ↔ 48 ≤ byte.toNat ∧ byte.toNat ≤ 57 := by
  unfold isDigit
  rw [decide_eq_true_eq, UInt8.le_iff_toNat_le, UInt8.le_iff_toNat_le]
  rfl

theorem isDigit_decimalDigit (n : ℕ) : isDigit (decimalDigit n) = true := by
  have hlt : n % 10 < 10 := Nat.mod_lt _ (by decide)
  rw [isDigit_iff, toNat_decimalDigit]
  omega

/-- The digits are those of the number, and the first of them is a zero only when there is no other. -/
theorem decimalDigits_spec (n : ℕ) :
    (∀ digit ∈ decimalDigits n, isDigit digit) ∧ decimalDigits n ≠ [] ∧ decimalNumber (decimalDigits n) = n ∧
      ((decimalDigits n).head? = some 48 → n = 0) := by
  induction n using Nat.strongRecOn with
  | _ n ih =>
    have hlast := toNat_decimalDigit n
    unfold decimalDigits
    split_ifs with hmore
    · obtain ⟨hdigits, hnonempty, hvalue, hzero⟩ := ih (n / 10) (by omega)
      refine ⟨?_, by simp, ?_, ?_⟩
      · intro digit hdigit
        rcases List.mem_append.1 hdigit with hdigit | hdigit
        · exact hdigits digit hdigit
        · rw [List.mem_singleton.1 hdigit]
          exact isDigit_decimalDigit n
      · unfold decimalNumber at hvalue ⊢
        rw [List.foldl_append, hvalue, List.foldl_cons, List.foldl_nil, hlast]
        omega
      · intro hhead
        obtain ⟨digit, digits, heq⟩ := List.exists_cons_of_ne_nil hnonempty
        rw [heq] at hhead hzero
        have := hzero hhead
        omega
    · refine ⟨?_, by simp, ?_, ?_⟩
      · intro digit hdigit
        rw [List.mem_singleton.1 hdigit]
        exact isDigit_decimalDigit n
      · unfold decimalNumber
        rw [List.foldl_cons, List.foldl_nil, hlast]
        omega
      · intro hhead
        have heq := congrArg UInt8.toNat (Option.some.inj hhead)
        rw [hlast, show (48 : UInt8).toNat = 48 from rfl] at heq
        omega

/-- Different numbers have different texts. -/
theorem decimalText_inj {i j : ℤ} (h : decimalText i = decimalText j) : i = j := by
  have hminus : ∀ n rest, 45 :: rest ≠ decimalDigits n := by
    intro n rest heq
    have hdigit := (decimalDigits_spec n).1 45 (heq ▸ List.mem_cons_self)
    revert hdigit
    decide
  have hdigits : ∀ {m n : ℕ}, decimalDigits m = decimalDigits n → m = n := by
    intro m n heq
    rw [← (decimalDigits_spec m).2.2.1, heq, (decimalDigits_spec n).2.2.1]
  unfold decimalText at h
  split_ifs at h with hi hj hj
  · have := hdigits (List.cons.inj h).2
    omega
  · exact absurd h (hminus _ _)
  · exact absurd h.symm (hminus _ _)
  · have := hdigits h
    omega

end Forum.Library
