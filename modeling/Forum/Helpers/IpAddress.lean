import Mathlib.Data.List.OfFn
import Forum.Library.Bytes
import Forum.Library.Decimal
import Forum.Library.Hexadecimal

/-!
# IP addresses

`IpAddress` has 16 bytes and no family: an address whose last 12 bytes are zero is one of version 4. `toString` writes an
address of version 6 as eight groups without zeros in front, and takes the comparisons with the base for ones that include
it: a group whose upper byte is 16, or is zero with a lower byte of 16, loses its first digit.

How texts are parsed is a parameter, of which no more is used than that it reads these two forms. `toString_iff` says which
addresses come back from their texts.
-/

namespace Forum.Helpers

open Library

/-- An address, as `boost::asio` has it. -/
inductive Address
  | v4 (bytes : Fin 4 → UInt8)
  | v6 (bytes : Fin 16 → UInt8)

/-- How many characters there is room for. -/
def Address.maxCharacterCount : Address → ℕ
  | .v4 _ => 15
  | .v6 _ => 39

/-- `IpAddress`: 16 bytes, of which an address of version 4 only uses the first four. -/
structure IpAddress where
  bytes : Fin 16 → UInt8

/-! ### Writing -/

/-- The decimal digits of a byte. -/
def writeUInt8 (value : UInt8) : List UInt8 :=
  if value > 99 then [48 + value / 100, 48 + value % 100 / 10, 48 + value % 100 % 10]
  else if value > 9 then [48 + value / 10, 48 + value % 10]
  else [48 + value]

/-- The table of hexadecimal digits. -/
def hexDigits (value : UInt8) : UInt8 := upperHexDigit value.toNat

/-- The hexadecimal digits of a group, without leading zeros. -/
def writeUInt16Hex (mostSignificant leastSignificant : UInt8) : List UInt8 :=
  let base : UInt8 := 16
  if mostSignificant > 0 then
    if mostSignificant > base then
      [hexDigits (mostSignificant / base), hexDigits (mostSignificant % base), hexDigits (leastSignificant / base),
        hexDigits (leastSignificant % base)]
    else
      [hexDigits (mostSignificant % base), hexDigits (leastSignificant / base), hexDigits (leastSignificant % base)]
  else if leastSignificant > base then [hexDigits (leastSignificant / base), hexDigits (leastSignificant % base)]
  else [hexDigits (leastSignificant % base)]

namespace IpAddress

/-- The constructor from the address of a connection. -/
def ofAddress : Address → IpAddress
  | .v4 bytes => ⟨fun i => if h : i.val < 4 then bytes ⟨i, h⟩ else 0⟩
  | .v6 bytes => ⟨bytes⟩

/-- The constructor for a text, with a parser. -/
def ofString (fromString : List UInt8 → Option Address) (text : List UInt8) : IpAddress :=
  match fromString text with
  | some address => ofAddress address
  | none => ⟨fun _ => 0⟩

/-- `data_.int32[i]`. -/
def int32 (a : IpAddress) (i : Fin 4) : ℕ :=
  ofBytes [a.bytes ⟨4 * i, by omega⟩, a.bytes ⟨4 * i + 1, by omega⟩, a.bytes ⟨4 * i + 2, by omega⟩,
    a.bytes ⟨4 * i + 3, by omega⟩]

/-- Are all bytes behind the first four zero? -/
def isV4 (a : IpAddress) : Bool := decide (a.int32 1 = a.int32 2 ∧ a.int32 2 = a.int32 3 ∧ a.int32 1 = 0)

/-- A pair of bytes as it is written. -/
def group (a : IpAddress) (i : Fin 8) : List UInt8 :=
  writeUInt16Hex (a.bytes ⟨2 * i, by omega⟩) (a.bytes ⟨2 * i + 1, by omega⟩)

/-- The text of an address. -/
def toString (a : IpAddress) : List UInt8 :=
  if a.isV4 then
    writeUInt8 (a.bytes 0) ++ [46] ++ writeUInt8 (a.bytes 1) ++ [46] ++ writeUInt8 (a.bytes 2) ++ [46] ++
      writeUInt8 (a.bytes 3)
  else ([0, 1, 2, 3, 4, 5, 6] : List (Fin 8)).flatMap (fun i => a.group i ++ [58]) ++ a.group 7

end IpAddress

/-! ### Parsing -/

/-- A number up to 255, without zeros in front. -/
def IsOctet (text : List UInt8) : Prop :=
  text ≠ [] ∧ (∀ digit ∈ text, isDigit digit = true) ∧ (text.head? = some 48 → text = [48]) ∧ decimalNumber text < 256

/-- Up to four hexadecimal digits. -/
def IsGroup (text : List UInt8) : Prop :=
  text ≠ [] ∧ text.length ≤ 4 ∧ ∀ digit ∈ text, isHexDigit digit = true

/-- The bytes of eight groups. -/
def groupBytes (groups : Fin 8 → ℕ) : Fin 16 → UInt8 := fun i =>
  if i.val % 2 = 0 then UInt8.ofNat (groups ⟨i / 2, by omega⟩ / 256) else UInt8.ofNat (groups ⟨i / 2, by omega⟩ % 256)

/-- A parser reads four octets with dots between them, and eight groups with colons. -/
structure ParsesAddresses (fromString : List UInt8 → Option Address) : Prop where
  v4 : ∀ parts : Fin 4 → List UInt8, (∀ i, IsOctet (parts i)) →
    fromString (List.intercalate [46] (List.ofFn parts)) = some (.v4 fun i => UInt8.ofNat (decimalNumber (parts i)))
  v6 : ∀ parts : Fin 8 → List UInt8, (∀ i, IsGroup (parts i)) →
    fromString (List.intercalate [58] (List.ofFn parts)) = some (.v6 (groupBytes fun i => hexNumber (parts i)))

/-! ### The parts of a text -/

instance (text : List UInt8) : Decidable (IsOctet text) :=
  let _ : Decidable (∀ digit ∈ text, isDigit digit = true) := List.decidableBAll _ _
  inferInstanceAs (Decidable (_ ∧ _ ∧ _ ∧ _))

theorem writeUInt8_spec (value : UInt8) :
    IsOctet (writeUInt8 value) ∧ decimalNumber (writeUInt8 value) = value.toNat ∧ (writeUInt8 value).length ≤ 3 := by
  have hall : ∀ n : Fin 256, IsOctet (writeUInt8 (UInt8.ofNat n)) ∧
      decimalNumber (writeUInt8 (UInt8.ofNat n)) = (UInt8.ofNat n).toNat ∧ (writeUInt8 (UInt8.ofNat n)).length ≤ 3 := by
    decide +kernel
  exact forall_byte hall value

theorem hexDigits_spec {value : UInt8} (h : value.toNat < 16) :
    isHexDigit (hexDigits value) = true ∧ hexValue (hexDigits value) = value.toNat :=
  ⟨isHexDigit_upperHexDigit h, hexValue_upperHexDigit h⟩

/-- The digits of a byte. -/
theorem hexDigits_div_mod (value : UInt8) :
    (isHexDigit (hexDigits (value / 16)) = true ∧ hexValue (hexDigits (value / 16)) = value.toNat / 16) ∧
      isHexDigit (hexDigits (value % 16)) = true ∧ hexValue (hexDigits (value % 16)) = value.toNat % 16 := by
  have hlt := value.toNat_lt
  have hdiv : (value / 16).toNat = value.toNat / 16 := UInt8.toNat_div value 16
  have hmod : (value % 16).toNat = value.toNat % 16 := UInt8.toNat_mod value 16
  rw [← hdiv, ← hmod]
  exact ⟨hexDigits_spec (by omega), hexDigits_spec (by omega)⟩

/-- What is written for two bytes is a group, but not always the one of their number. -/
theorem writeUInt16Hex_spec (mostSignificant leastSignificant : UInt8) :
    IsGroup (writeUInt16Hex mostSignificant leastSignificant) ∧
      hexNumber (writeUInt16Hex mostSignificant leastSignificant) =
        if mostSignificant = 16 then leastSignificant.toNat
        else if mostSignificant = 0 ∧ leastSignificant = 16 then 0
        else 256 * mostSignificant.toNat + leastSignificant.toNat := by
  obtain ⟨⟨hdigit₁, hvalue₁⟩, hdigit₂, hvalue₂⟩ := hexDigits_div_mod mostSignificant
  obtain ⟨⟨hdigit₃, hvalue₃⟩, hdigit₄, hvalue₄⟩ := hexDigits_div_mod leastSignificant
  have hlt₁ := mostSignificant.toNat_lt
  have hlt₂ := leastSignificant.toNat_lt
  simp only [← UInt8.toNat_inj]
  unfold writeUInt16Hex hexNumber IsGroup
  dsimp only
  simp only [GT.gt, UInt8.lt_iff_toNat_lt, show (0 : UInt8).toNat = 0 from rfl, show (16 : UInt8).toNat = 16 from rfl]
  split_ifs
  all_goals
    simp only [List.foldl_cons, List.foldl_nil, hvalue₁, hvalue₂, hvalue₃, hvalue₄, List.length_cons, List.length_nil,
      List.forall_mem_cons, hdigit₁, hdigit₂, hdigit₃, hdigit₄]
    refine ⟨⟨List.cons_ne_nil _ _, by omega, by simp⟩, by omega⟩

/-! ### There and back -/

theorem groupBytes_eq_iff {groups : Fin 8 → ℕ} (hlt : ∀ i, groups i < 65536) (bytes : Fin 16 → UInt8) :
    groupBytes groups = bytes ↔
      ∀ i : Fin 8, groups i = 256 * (bytes ⟨2 * i, by omega⟩).toNat + (bytes ⟨2 * i + 1, by omega⟩).toNat := by
  constructor
  · rintro rfl i
    have hi := hlt i
    have hupper : groupBytes groups ⟨2 * i, by omega⟩ = UInt8.ofNat (groups i / 256) := by
      have hindex : (⟨2 * i.val / 2, by omega⟩ : Fin 8) = i := Fin.ext (by dsimp only; omega)
      unfold groupBytes
      dsimp only
      rw [if_pos (by omega), hindex]
    have hlower : groupBytes groups ⟨2 * i + 1, by omega⟩ = UInt8.ofNat (groups i % 256) := by
      have hindex : (⟨(2 * i.val + 1) / 2, by omega⟩ : Fin 8) = i := Fin.ext (by dsimp only; omega)
      unfold groupBytes
      dsimp only
      rw [if_neg (by omega), hindex]
    rw [hupper, hlower, UInt8.toNat_ofNat', UInt8.toNat_ofNat']
    omega
  · intro h
    funext i
    have hi := h ⟨i / 2, by omega⟩
    unfold groupBytes
    dsimp only at hi ⊢
    rw [← UInt8.toNat_inj]
    split_ifs with heven
    · have hindex : (⟨2 * (i.val / 2), by omega⟩ : Fin 16) = i := Fin.ext (by dsimp only; omega)
      have hlower := (bytes ⟨2 * (i.val / 2) + 1, by omega⟩).toNat_lt
      have hupper := (bytes i).toNat_lt
      rw [hindex] at hi
      rw [UInt8.toNat_ofNat']
      omega
    · have hindex : (⟨2 * (i.val / 2) + 1, by omega⟩ : Fin 16) = i := Fin.ext (by dsimp only; omega)
      have hlower := (bytes i).toNat_lt
      rw [hindex] at hi
      rw [UInt8.toNat_ofNat']
      omega

namespace IpAddress

/-- The last bytes of an address of version 4 are zero. -/
theorem isV4_iff (a : IpAddress) : a.isV4 = true ↔ ∀ i : Fin 16, 4 ≤ i.val → a.bytes i = 0 := by
  have hword : ∀ i : Fin 4, a.int32 i = 0 ↔ ∀ j : Fin 16, j.val / 4 = i.val → a.bytes j = 0 := by
    intro i
    unfold int32
    simp only [ofBytes, ← UInt8.toNat_inj, show (0 : UInt8).toNat = 0 from rfl]
    constructor
    · intro h j hj
      obtain ⟨k, hk⟩ : ∃ k, j.val = 4 * i.val + k := ⟨j.val - 4 * i.val, by omega⟩
      have hcases : k = 0 ∨ k = 1 ∨ k = 2 ∨ k = 3 := by omega
      rcases hcases with rfl | rfl | rfl | rfl
      · rw [show j = ⟨4 * i, by omega⟩ from Fin.ext hk]
        omega
      · rw [show j = ⟨4 * i + 1, by omega⟩ from Fin.ext hk]
        omega
      · rw [show j = ⟨4 * i + 2, by omega⟩ from Fin.ext hk]
        omega
      · rw [show j = ⟨4 * i + 3, by omega⟩ from Fin.ext hk]
        omega
    · intro h
      rw [h ⟨4 * i, by omega⟩ (by dsimp only; omega), h ⟨4 * i + 1, by omega⟩ (by dsimp only; omega),
        h ⟨4 * i + 2, by omega⟩ (by dsimp only; omega), h ⟨4 * i + 3, by omega⟩ (by dsimp only; omega)]
  unfold isV4
  rw [decide_eq_true_eq]
  constructor
  · rintro ⟨h₁₂, h₂₃, h₁⟩ i hi
    have hcases : i.val / 4 = 1 ∨ i.val / 4 = 2 ∨ i.val / 4 = 3 := by omega
    rcases hcases with heq | heq | heq
    · exact (hword 1).1 h₁ i heq
    · exact (hword 2).1 (h₁₂ ▸ h₁) i heq
    · exact (hword 3).1 (h₂₃ ▸ h₁₂ ▸ h₁) i heq
  · intro h
    have hzero : ∀ i : Fin 4, 1 ≤ i.val → a.int32 i = 0 := fun i hi => (hword i).2 fun j hj => h j (by omega)
    rw [hzero 1 (by decide), hzero 2 (by decide), hzero 3 (by decide)]
    exact ⟨rfl, rfl, rfl⟩

theorem toString_v4 {a : IpAddress} (h : a.isV4 = true) :
    a.toString = List.intercalate [46] (List.ofFn fun i : Fin 4 => writeUInt8 (a.bytes ⟨i, by omega⟩)) := by
  unfold toString
  rw [if_pos h]
  simp [List.intercalate]

theorem toString_v6 {a : IpAddress} (h : ¬ a.isV4 = true) : a.toString = List.intercalate [58] (List.ofFn a.group) := by
  unfold toString
  rw [if_neg h]
  simp [List.intercalate]

/-- There is room for the text. -/
theorem length_toString_le (a : IpAddress) : a.toString.length ≤ if a.isV4 then 15 else 39 := by
  unfold toString
  split_ifs
  · have hpart : ∀ i, (writeUInt8 (a.bytes i)).length ≤ 3 := fun i => (writeUInt8_spec (a.bytes i)).2.2
    have h₀ := hpart 0
    have h₁ := hpart 1
    have h₂ := hpart 2
    have h₃ := hpart 3
    simp only [List.length_append, List.length_singleton]
    omega
  · have hpart : ∀ i, (a.group i).length ≤ 4 := fun i => (writeUInt16Hex_spec _ _).1.2.1
    have hparts : ∀ is : List (Fin 8), (is.flatMap fun i => a.group i ++ [58]).length ≤ 5 * is.length := by
      intro is
      induction is with
      | nil => exact Nat.le_refl _
      | cons i is ih =>
        have hi := hpart i
        rw [List.flatMap_cons, List.length_append, List.length_append, List.length_singleton, List.length_cons]
        omega
    have hall := hparts [0, 1, 2, 3, 4, 5, 6]
    have hlast := hpart 7
    rw [List.length_append]
    simp only [List.length_cons, List.length_nil] at hall
    omega

/-- An address of version 4 is one. -/
theorem isV4_ofAddress_v4 (bytes : Fin 4 → UInt8) : (ofAddress (.v4 bytes)).isV4 = true := by
  rw [isV4_iff]
  intro i hi
  exact dif_neg (Nat.not_lt.2 hi)

/-- Every group is written as it is. -/
def GroupsWritten (bytes : Fin 16 → UInt8) : Prop :=
  ∀ i : Fin 8, bytes ⟨2 * i, by omega⟩ ≠ 16 ∧ ¬ (bytes ⟨2 * i, by omega⟩ = 0 ∧ bytes ⟨2 * i + 1, by omega⟩ = 16)

/-- The number of a group that is written is that of its bytes, unless a first digit is lost. -/
theorem hexNumber_group_iff (a : IpAddress) (i : Fin 8) :
    hexNumber (a.group i) = 256 * (a.bytes ⟨2 * i, by omega⟩).toNat + (a.bytes ⟨2 * i + 1, by omega⟩).toNat ↔
      a.bytes ⟨2 * i, by omega⟩ ≠ 16 ∧ ¬ (a.bytes ⟨2 * i, by omega⟩ = 0 ∧ a.bytes ⟨2 * i + 1, by omega⟩ = 16) := by
  unfold group
  rw [(writeUInt16Hex_spec _ _).2]
  generalize a.bytes ⟨2 * i, by omega⟩ = upper
  generalize a.bytes ⟨2 * i + 1, by omega⟩ = lower
  split_ifs with hupper hlower
  · subst hupper
    refine iff_of_false (fun heq => ?_) fun h => h.1 rfl
    rw [show (16 : UInt8).toNat = 16 from rfl] at heq
    omega
  · obtain ⟨rfl, rfl⟩ := hlower
    exact iff_of_false (by decide) fun h => h.2 ⟨rfl, rfl⟩
  · exact iff_of_true rfl ⟨hupper, hlower⟩

variable {fromString : List UInt8 → Option Address}

/-- The text of an address with zeros at its end is read as one of version 4. -/
theorem fromString_v4 (h : ParsesAddresses fromString) {a : IpAddress} (hv4 : a.isV4 = true) :
    fromString a.toString = some (.v4 fun i => a.bytes ⟨i, by omega⟩) := by
  rw [toString_v4 hv4, h.v4 _ fun i => (writeUInt8_spec _).1]
  congr 2
  funext i
  rw [(writeUInt8_spec _).2.1, UInt8.ofNat_toNat]

/-- Any other is read as the address of its groups. -/
theorem fromString_v6 (h : ParsesAddresses fromString) {a : IpAddress} (hv4 : ¬ a.isV4 = true) :
    fromString a.toString = some (.v6 (groupBytes fun i => hexNumber (a.group i))) := by
  rw [toString_v6 hv4]
  exact h.v6 _ fun i => (writeUInt16Hex_spec _ _).1

/-- The text of an address is read as the same address, in the space there is for it, and is that of an equal value,
exactly when the address is of version 4, or has something but zeros behind its first four bytes and each of its groups is
written as it is. -/
theorem toString_iff (h : ParsesAddresses fromString) (address : Address) :
    (fromString (ofAddress address).toString = some address ∧
        (ofAddress address).toString.length ≤ address.maxCharacterCount ∧
          ofString fromString (ofAddress address).toString = ofAddress address) ↔
      ∀ bytes, address = .v6 bytes → (∃ i : Fin 16, 4 ≤ i.val ∧ bytes i ≠ 0) ∧ GroupsWritten bytes := by
  have hlength := length_toString_le (ofAddress address)
  have hvalue : fromString (ofAddress address).toString = some address →
      ofString fromString (ofAddress address).toString = ofAddress address := by
    intro hread
    unfold ofString
    rw [hread]
  cases address with
  | v4 bytes =>
    have hv4 := isV4_ofAddress_v4 bytes
    rw [if_pos hv4] at hlength
    have hread : fromString (ofAddress (.v4 bytes)).toString = some (.v4 bytes) := by
      rw [fromString_v4 h hv4]
      congr 2
      funext i
      exact dif_pos i.isLt
    refine iff_of_true ⟨hread, hlength, hvalue hread⟩ fun bytes' heq => ?_
    cases heq
  | v6 bytes =>
    have hfits : (ofAddress (.v6 bytes)).toString.length ≤ 39 := Nat.le_trans hlength (by split_ifs <;> decide)
    by_cases hv4 : (ofAddress (.v6 bytes)).isV4 = true
    · refine iff_of_false (fun hread => ?_) fun hwritten => ?_
      · rw [fromString_v4 h hv4] at hread
        cases hread.1
      · obtain ⟨⟨i, hi, hne⟩, -⟩ := hwritten bytes rfl
        exact hne ((isV4_iff _).1 hv4 i hi)
    · have hread : fromString (ofAddress (.v6 bytes)).toString = some (.v6 bytes) ↔ GroupsWritten bytes := by
        rw [fromString_v6 h hv4, Option.some.injEq, Address.v6.injEq, groupBytes_eq_iff]
        · exact forall_congr' fun i => hexNumber_group_iff (ofAddress (.v6 bytes)) i
        · intro i
          obtain ⟨-, hle, -⟩ := (writeUInt16Hex_spec ((ofAddress (.v6 bytes)).bytes ⟨2 * i, by omega⟩)
            ((ofAddress (.v6 bytes)).bytes ⟨2 * i + 1, by omega⟩)).1
          exact Nat.lt_of_lt_of_le (hexNumber_lt _) (Nat.pow_le_pow_right (by decide) hle)
      constructor
      · rintro ⟨hsame, -⟩ bytes' heq
        cases heq
        refine ⟨?_, hread.1 hsame⟩
        by_contra hzero
        exact hv4 ((isV4_iff _).2 fun i hi => by
          by_contra hne
          exact hzero ⟨i, hi, hne⟩)
      · intro hwritten
        have hsame := hread.2 (hwritten bytes rfl).2
        exact ⟨hsame, hfits, hvalue hsame⟩

end IpAddress

/-! ### A parser -/

/-- The parts of a text between separators. -/
def splitParts (separator : UInt8) : List UInt8 → List (List UInt8)
  | [] => [[]]
  | c :: rest =>
    if c = separator then [] :: splitParts separator rest
    else
      match splitParts separator rest with
      | [] => [[c]]
      | part :: parts => (c :: part) :: parts

theorem splitParts_append {separator : UInt8} {part : List UInt8} (hpart : separator ∉ part) {text : List UInt8}
    {first : List UInt8} {parts : List (List UInt8)} (htext : splitParts separator text = first :: parts) :
    splitParts separator (part ++ text) = (part ++ first) :: parts := by
  induction part with
  | nil => exact htext
  | cons c part ih =>
    have hc : c ≠ separator := fun heq => hpart (heq ▸ List.mem_cons_self)
    rw [List.cons_append, splitParts, if_neg hc, ih fun hmem => hpart (List.mem_cons_of_mem _ hmem)]
    rfl

/-- Parts without separators are found again. -/
theorem splitParts_intercalate {separator : UInt8} {parts : List (List UInt8)} (hne : parts ≠ [])
    (hparts : ∀ part ∈ parts, separator ∉ part) : splitParts separator (List.intercalate [separator] parts) = parts := by
  induction parts with
  | nil => exact absurd rfl hne
  | cons part parts ih =>
    obtain ⟨hpart, hrest⟩ := List.forall_mem_cons.1 hparts
    cases parts with
    | nil =>
      rw [List.intercalate_singleton]
      have halone := @splitParts_append separator part hpart [] [] [] rfl
      rwa [List.append_nil] at halone
    | cons next parts =>
      rw [List.intercalate_cons_cons]
      have hothers := ih (List.cons_ne_nil _ _) hrest
      have hfound := @splitParts_append separator part hpart
        (separator :: List.intercalate [separator] (next :: parts)) [] (next :: parts)
        (by rw [splitParts, if_pos rfl, hothers])
      rw [List.append_nil] at hfound
      rw [List.append_assoc]
      exact hfound

instance (text : List UInt8) : Decidable (IsGroup text) :=
  let _ : Decidable (∀ digit ∈ text, isHexDigit digit = true) := List.decidableBAll _ _
  inferInstanceAs (Decidable (_ ∧ _ ∧ _))

/-- A parser of the two forms, and of nothing else. -/
def parseAddress (text : List UInt8) : Option Address :=
  if (splitParts 58 text).length = 8 ∧ (splitParts 58 text).all (decide <| IsGroup ·) then
    some (.v6 (groupBytes fun i => hexNumber ((splitParts 58 text).getD i [])))
  else if (splitParts 46 text).length = 4 ∧ (splitParts 46 text).all (decide <| IsOctet ·) then
    some (.v4 fun i => UInt8.ofNat (decimalNumber ((splitParts 46 text).getD i [])))
  else none

theorem getD_ofFn {n : ℕ} (parts : Fin n → List UInt8) (i : Fin n) : (List.ofFn parts).getD i [] = parts i := by
  rw [List.getD_eq_getElem?_getD, List.getElem?_ofFn, dif_pos i.isLt]
  rfl

theorem parsesAddresses : ParsesAddresses parseAddress where
  v4 parts hparts := by
    have hcolon : 58 ∉ List.intercalate [46] (List.ofFn parts) := by
      intro hmem
      have hdigit : ∀ i, 58 ∉ parts i := fun i hi => absurd ((hparts i).2.1 58 hi) (by decide)
      simp [List.intercalate, hdigit] at hmem
    have hdots : splitParts 46 (List.intercalate [46] (List.ofFn parts)) = List.ofFn parts := by
      refine splitParts_intercalate (by simp) fun part hpart hmem => ?_
      obtain ⟨i, rfl⟩ := List.mem_ofFn.1 hpart
      exact absurd ((hparts i).2.1 46 hmem) (by decide)
    have hcolons : splitParts 58 (List.intercalate [46] (List.ofFn parts)) =
        [List.intercalate [46] (List.ofFn parts)] := by
      have halone := @splitParts_append 58 (List.intercalate [46] (List.ofFn parts)) hcolon [] [] [] rfl
      rwa [List.append_nil] at halone
    unfold parseAddress
    rw [hcolons, hdots, if_neg (by simp), if_pos (by simp [hparts])]
    congr 2
    funext i
    rw [getD_ofFn]
  v6 parts hparts := by
    have hcolons : splitParts 58 (List.intercalate [58] (List.ofFn parts)) = List.ofFn parts := by
      refine splitParts_intercalate (by simp) fun part hpart hmem => ?_
      obtain ⟨i, rfl⟩ := List.mem_ofFn.1 hpart
      exact absurd ((hparts i).2.2 58 hmem) (by decide)
    unfold parseAddress
    rw [hcolons, if_pos (by simp [hparts])]
    congr 3
    funext i
    rw [getD_ofFn]

/-- The first byte. -/
def Address.first : Address → UInt8
  | .v4 bytes => bytes 0
  | .v6 bytes => bytes 0

/-- Is it of version 4? -/
def Address.isV4 : Address → Bool
  | .v4 _ => true
  | .v6 _ => false

namespace IpAddress

/-- An address with a letter in each place, and one of version 4. -/
theorem toString_iff_letters :
    parseAddress (ofAddress (.v6 fun i => UInt8.ofNat (171 + i))).toString = some (.v6 fun i => UInt8.ofNat (171 + i)) ∧
      parseAddress (ofAddress (.v4 fun i => UInt8.ofNat (10 * i))).toString = some (.v4 fun i => UInt8.ofNat (10 * i)) :=
  ⟨((toString_iff parsesAddresses (.v6 fun i => UInt8.ofNat (171 + i))).2 fun bytes heq => by
      cases heq
      exact ⟨⟨4, by decide, by decide⟩, by unfold GroupsWritten; decide⟩).1,
    ((toString_iff parsesAddresses (.v4 fun i => UInt8.ofNat (10 * i))).2 fun bytes heq => by cases heq).1⟩

/-- The address whose first group is 1000, in hexadecimal digits, is written with 000 in its place; the one whose first
group is 1 and whose other groups are zero is written as one of version 4. -/
theorem toString_lost :
    ((ofAddress (.v6 fun i => if i = 0 then 16 else if i = 15 then 1 else 0)).toString = asciiBytes "000:0:0:0:0:0:0:1" ∧
      parseAddress (ofAddress (.v6 fun i => if i = 0 then 16 else if i = 15 then 1 else 0)).toString ≠
        some (.v6 fun i => if i = 0 then 16 else if i = 15 then 1 else 0)) ∧
    (ofAddress (.v6 fun i => if i = 1 then 1 else 0)).toString = asciiBytes "0.1.0.0" ∧
      parseAddress (ofAddress (.v6 fun i => if i = 1 then 1 else 0)).toString ≠
        some (.v6 fun i => if i = 1 then 1 else 0) := by
  refine ⟨⟨by decide +kernel, fun heq => ?_⟩, by decide +kernel, fun heq => ?_⟩
  · exact absurd (congrArg (Option.map Address.first) heq) (by decide +kernel)
  · exact absurd (congrArg (Option.map Address.isV4) heq) (by decide +kernel)

end IpAddress

end Forum.Helpers
