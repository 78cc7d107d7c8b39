import Forum.Library.JsonQuotes
import Forum.FastJsonWriter.JsonWriter

/-!
# What a writer writes

The pieces of a text: strings behind their escapes, and numbers digit by digit, each read back as what it was written
for.
-/

namespace Forum.FastJsonWriter

open Library JsonValue

/-! ### Strings -/

/-- What is written for a character. -/
def escaped (c : UInt8) : List UInt8 :=
  if toEscape c = 0 then [c]
  else if toEscape c < 0xFF then [92, toEscape c]
  else asciiBytes "\\u00" ++ [hexDigits (c / 16), hexDigits (c % 16)]

/-- What is written for a string, with its quotation marks. -/
def quoted (value : List UInt8) : List UInt8 := 34 :: (value.flatMap escaped ++ [34])

/-- By induction on the string: what is pending is written before the next escape, or in the end. -/
theorem escapeLoop_eq (destination : StringBuffer) (pending value : List UInt8) :
    escapeLoop destination pending value = destination.write (pending ++ value.flatMap escaped) := by
  have hflush : ∀ (destination : StringBuffer) (pending : List UInt8),
      (if pending.isEmpty then destination else destination.write pending) = destination.write pending := by
    intro destination pending
    cases pending with
    | nil => exact destination.write_nil.symm
    | cons c pending => rfl
  induction value generalizing destination pending with
  | nil =>
    rw [escapeLoop, hflush, List.flatMap_nil, List.append_nil]
  | cons c value ih =>
    rw [escapeLoop, List.flatMap_cons]
    dsimp only
    rw [hflush]
    by_cases hnone : toEscape c = 0
    · rw [if_pos hnone, ih, escaped, if_pos hnone, List.append_assoc]
    · rw [if_neg hnone, ih, ih, escaped, if_neg hnone]
      split_ifs
      · rw [StringBuffer.write_write, StringBuffer.write_write, List.nil_append]
      · rw [StringBuffer.write_write, StringBuffer.write_write, List.nil_append]

theorem toEscape_of_not_isEscapeNeeded {value : List UInt8} (h : isEscapeNeeded value = false) :
    ∀ c ∈ value, toEscape c = 0 := by
  intro c hc
  by_contra hne
  have hneeded : isEscapeNeeded value = true := List.any_eq_true.2 ⟨c, hc, by simpa using hne⟩
  rw [h] at hneeded
  cases hneeded

theorem flatMap_escaped_of_not_isEscapeNeeded {value : List UInt8} (h : isEscapeNeeded value = false) :
    value.flatMap escaped = value := by
  have hsame : ∀ c ∈ value, escaped c = [c] := fun c hc => if_pos (toEscape_of_not_isEscapeNeeded h c hc)
  induction value with
  | nil => rfl
  | cons c value ih =>
    have hvalue : isEscapeNeeded value = false := (Bool.or_eq_false_iff.1 h).2
    rw [List.flatMap_cons, hsame c List.mem_cons_self, ih hvalue fun other hother => hsame other (List.mem_cons_of_mem _ hother)]
    rfl

theorem escapeString_eq (value : List UInt8) (destination : StringBuffer) :
    escapeString value destination = destination.write (value.flatMap escaped) := by
  unfold escapeString
  split_ifs with hneeded
  · rw [escapeLoop_eq, List.nil_append]
  · rw [flatMap_escaped_of_not_isEscapeNeeded (Bool.eq_false_iff.2 hneeded)]

/-- A control character is read back from its hexadecimal digits. -/
theorem unicodeEscape_hexDigits {c : UInt8} (h : c < 32) :
    unicodeEscape 48 48 (hexDigits (c / 16)) (hexDigits (c % 16)) = some c := by
  have hall : ∀ n : Fin 32, unicodeEscape 48 48 (hexDigits (UInt8.ofNat n / 16)) (hexDigits (UInt8.ofNat n % 16)) =
      some (UInt8.ofNat n) := by decide
  have hsame : UInt8.ofNat c.toNat = c := UInt8.ofNat_toNat
  have hc := hall ⟨c.toNat, UInt8.lt_iff_toNat_lt.1 h⟩
  rwa [hsame] at hc

/-- What the table says of a character agrees with what is read behind a backslash. -/
theorem toEscape_cases (c : UInt8) :
    (toEscape c = 0 ∧ c ≠ 34 ∧ c ≠ 92 ∧ ¬ c < 32) ∨ (toEscape c = 0xFF ∧ c < 32) ∨
      (toEscape c ≠ 0 ∧ toEscape c < 0xFF ∧ toEscape c ≠ 117 ∧ simpleEscape (toEscape c) = some c) := by
  have hall : ∀ n : Fin 256, (toEscape (UInt8.ofNat n) = 0 ∧ UInt8.ofNat n ≠ 34 ∧ UInt8.ofNat n ≠ 92 ∧ ¬ UInt8.ofNat n < 32) ∨
      (toEscape (UInt8.ofNat n) = 0xFF ∧ UInt8.ofNat n < 32) ∨
        (toEscape (UInt8.ofNat n) ≠ 0 ∧ toEscape (UInt8.ofNat n) < 0xFF ∧ toEscape (UInt8.ofNat n) ≠ 117 ∧
          simpleEscape (toEscape (UInt8.ofNat n)) = some (UInt8.ofNat n)) := by decide +kernel
  have hc := hall ⟨c.toNat, c.toNat_lt⟩
  rwa [show UInt8.ofNat c.toNat = c from UInt8.ofNat_toNat] at hc

/-- A character is read back from what is written for it. -/
theorem lexString_escaped (c : UInt8) (rest : List UInt8) :
    lexString (escaped c ++ rest) = (lexString rest).map fun read => (c :: read.1, read.2) := by
  rcases toEscape_cases c with ⟨hnone, hquote, hslash, hcontrol⟩ | ⟨hcode, hcontrol⟩ | ⟨hsome, hlt, hne, hescape⟩
  · rw [escaped, if_pos hnone]
    exact lexString_plain hquote hslash hcontrol rest
  · rw [escaped, hcode, if_neg (by decide), if_neg (by decide)]
    exact lexString_unicodeEscape (unicodeEscape_hexDigits hcontrol) rest
  · rw [escaped, if_neg hsome, if_pos hlt]
    exact lexString_simpleEscape hne hescape rest

/-- A string is read back from what is written for it. -/
theorem lexString_flatMap_escaped (value rest : List UInt8) :
    lexString (value.flatMap escaped ++ 34 :: rest) = some (value, rest) := by
  induction value with
  | nil => exact lexString_quote rest
  | cons c value ih => rw [List.flatMap_cons, List.append_assoc, lexString_escaped, ih, Option.map_some]

/-! ### Numbers -/

/-- The digits of a value. -/
def digitsOf (value : ℕ) : List UInt8 := digitLoop value [lastDigit value]

theorem digitLoop_append (value : ℕ) (digits behind : List UInt8) :
    digitLoop value (digits ++ behind) = digitLoop value digits ++ behind := by
  induction value using Nat.strong_induction_on generalizing digits with
  | _ value ih =>
    unfold digitLoop
    split_ifs with hmore
    · rw [← List.cons_append]
      exact ih (value / 10) (by omega) _
    · rfl

theorem digitsOf_eq (value : ℕ) :
    digitsOf value = if 9 < value then digitsOf (value / 10) ++ [lastDigit value] else [lastDigit value] := by
  unfold digitsOf
  rw [digitLoop]
  split_ifs
  · exact digitLoop_append (value / 10) [lastDigit (value / 10)] [lastDigit value]
  · rfl

theorem toNat_lastDigit (value : ℕ) : (lastDigit value).toNat = value % 10 + 48 := by
  have hlt : value % 10 < 10 := Nat.mod_lt _ (by decide)
  unfold lastDigit
  rw [UInt8.toNat_add, UInt8.toNat_ofNat', show (48 : UInt8).toNat = 48 from rfl]
  omega

theorem isDigit_lastDigit (value : ℕ) : isDigit (lastDigit value) = true := by
  have hlt : value % 10 < 10 := Nat.mod_lt _ (by decide)
  have htoNat := toNat_lastDigit value
  unfold isDigit
  rw [decide_eq_true_eq, UInt8.le_iff_toNat_le, UInt8.le_iff_toNat_le, htoNat, show (48 : UInt8).toNat = 48 from rfl,
    show (57 : UInt8).toNat = 57 from rfl]
  omega

/-- The digits are those of the value, and the first of them is a zero only when there is no other. -/
theorem digitsOf_spec (value : ℕ) :
    (∀ digit ∈ digitsOf value, isDigit digit) ∧ digitsOf value ≠ [] ∧ decimalNumber (digitsOf value) = value ∧
      ((digitsOf value).head? = some 48 → value = 0) := by
  induction value using Nat.strong_induction_on with
  | _ value ih =>
    have hlast := toNat_lastDigit value
    rw [digitsOf_eq]
    split_ifs with hmore
    · obtain ⟨hdigits, hnonempty, hvalue, hzero⟩ := ih (value / 10) (by omega)
      refine ⟨?_, by simp, ?_, ?_⟩
      · intro digit hdigit
        rcases List.mem_append.1 hdigit with hdigit | hdigit
        · exact hdigits digit hdigit
        · rw [List.mem_singleton.1 hdigit]
          exact isDigit_lastDigit value
      · unfold decimalNumber at hvalue ⊢
        rw [List.foldl_append, hvalue, List.foldl_cons, List.foldl_nil, hlast]
        omega
      · intro hhead
        obtain ⟨digit, digits, heq⟩ := List.exists_cons_of_ne_nil hnonempty
        rw [heq] at hhead hzero
        have := hzero hhead
        omega
    · refine ⟨?_, by simp, ?_, ?_⟩
      · intro digit hdigit
        rw [List.mem_singleton.1 hdigit]
        exact isDigit_lastDigit value
      · unfold decimalNumber
        rw [List.foldl_cons, List.foldl_nil, hlast]
        omega
      · intro hhead
        have heq := congrArg UInt8.toNat (Option.some.inj hhead)
        rw [hlast, show (48 : UInt8).toNat = 48 from rfl] at heq
        omega

theorem length_digitsOf {value n : ℕ} (h : value < 10 ^ (n + 1)) : (digitsOf value).length ≤ n + 1 := by
  induction n generalizing value with
  | zero =>
    rw [digitsOf_eq, if_neg (by omega)]
    exact Nat.le_refl _
  | succ n ih =>
    rw [digitsOf_eq]
    split_ifs
    · rw [List.length_append, List.length_singleton]
      have := @ih (value / 10) (by rw [Nat.pow_succ] at h; omega)
      omega
    · exact Nat.le_add_left 1 _

/-- The text of a number, without the comma. -/
def numberText (value : ℤ) : List UInt8 := (if value < 0 then [45] else []) ++ digitsOf value.natAbs

/-- A number is read back from its text, when no digit follows it. -/
theorem lex_numberText (value : ℤ) {rest : List UInt8} (hrest : ∀ byte, rest.head? = some byte → isDigit byte = false) :
    lex (numberText value ++ rest) = (lex rest).map (.number value :: ·) := by
  obtain ⟨hdigits, hnonempty, hvalue, hzero⟩ := digitsOf_spec value.natAbs
  have hlex := @lex_number (decide (value < 0)) _ _ hdigits hnonempty (fun hhead => by
    rw [hzero hhead, digitsOf_eq, if_neg (by decide)]
    rfl) hrest
  unfold numberText
  rw [hvalue] at hlex
  by_cases hneg : value < 0
  · rw [if_pos hneg]
    rw [decide_eq_true hneg, if_pos rfl, if_pos rfl, show -(value.natAbs : ℤ) = value by omega] at hlex
    exact hlex
  · rw [if_neg hneg]
    rw [decide_eq_false hneg, if_neg (by decide), if_neg (by decide), show (value.natAbs : ℤ) = value by omega] at hlex
    exact hlex

/-- The minimum of a signed type is written as a number. -/
theorem minimumText_eq {type : IntegerType} (h : type.isSigned = true) : minimumText type.sizeOf = numberText type.min := by
  cases type with
  | char => decide +kernel
  | short => decide +kernel
  | int => decide +kernel
  | long => decide +kernel
  | longLong => decide +kernel
  | unsignedChar => cases h
  | unsignedShort => cases h
  | unsignedInt => cases h
  | unsignedLong => cases h
  | unsignedLongLong => cases h

theorem range_lt_maxDigitsOfNumber (type : IntegerType) :
    0 < maxDigitsOfNumber type.sizeOf ∧ -type.min < 10 ^ maxDigitsOfNumber type.sizeOf ∧
      type.max < 10 ^ maxDigitsOfNumber type.sizeOf := by
  cases type <;> decide +kernel

/-- The digits of every value fit the buffer for them. -/
theorem length_digitsBuffer_le (number : Integer) (includeComma : Bool) :
    (number.digitsBuffer includeComma).length ≤ maxDigitsOfNumber number.type.sizeOf + 3 := by
  have hmin := number.min_le
  have hmax := number.le_max
  obtain ⟨hpos, hlow, hhigh⟩ := range_lt_maxDigitsOfNumber number.type
  have hlength : (digitsOf number.value.natAbs).length ≤ maxDigitsOfNumber number.type.sizeOf := by
    obtain ⟨n, hn⟩ := Nat.exists_eq_succ_of_ne_zero (Nat.ne_of_gt hpos)
    rw [hn] at hlow hhigh ⊢
    have hpow : ((10 ^ (n + 1) : ℕ) : ℤ) = 10 ^ (n + 1) := Int.natCast_pow 10 (n + 1)
    refine length_digitsOf (Int.ofNat_lt.1 ?_)
    rw [hpow]
    omega
  show (_ ++ _ ++ digitsOf number.value.natAbs).length ≤ _
  rw [List.length_append, List.length_append]
  split_ifs <;> simp only [List.length_cons, List.length_nil] <;> omega

end Forum.FastJsonWriter
