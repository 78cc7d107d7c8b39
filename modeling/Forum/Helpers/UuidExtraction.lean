import Mathlib.Algebra.Group.Nat.Defs
import Mathlib.Data.Int.Notation
import Mathlib.Data.List.Forall2
import Mathlib.Data.List.Range
import Forum.Helpers.UuidString

/-!
# References to uuids in a text

`extractUuidReferences`, on bytes: at each position it looks for the two wrappers and the four dashes of a reference, then
whether the other 32 characters occur in uuids. The table that says so has the dash, too, and its index is a `char`, which is
negative for the bytes from 128 on. `extractUuidReferences_iff` says for which texts the references are found, and only
them.
-/

namespace Forum.Helpers.UuidString

open Library

/-- `static_cast<int>`. -/
def toInt (value : ℤ) : ℤ := value.bmod (2 ^ 32)

/-- The value of a `char`. -/
def signedChar (c : UInt8) : ℤ := if c < 128 then c.toNat else c.toNat - 256

/-- `OccursInUuids[index]`, if there is such an entry. -/
def occursInUuidsAt (index : ℤ) : Option Bool :=
  if 0 ≤ index ∧ index < 256 then some (occursInUuids (UInt8.ofNat index.toNat)) else none

/-- A reference is an id between two `@`. -/
def referenceSize : ℕ := StringRepresentationSizeDashed + 2

/-- Where the digits of an id are in a reference. -/
def hexIndexes : List ℕ :=
  [1, 2, 3, 4, 5, 6, 7, 8, 10, 11, 12, 13, 15, 16, 17, 18, 20, 21, 22, 23, 25, 26, 27, 28, 29, 30, 31, 32, 33, 34, 35, 36]

/-- A conjunction of comparisons with characters of the input, up to the first that is wrong. -/
def charsAre (input : List UInt8) (i : ℕ) : List (ℕ × UInt8) → Option Bool
  | [] => some true
  | (index, c) :: rest => (input[i + index]?).bind fun d => if c = d then charsAre input i rest else some false

/-- Where the wrappers and the dashes of a reference are. -/
def framePlaces : List (ℕ × UInt8) :=
  [(0, 64), (StringRepresentationSizeDashed + 1, 64), (9, 45), (14, 45), (19, 45), (24, 45)]

/-- Are the characters that frame the digits at their places behind `i`? -/
def possibleReferenceFound (input : List UInt8) (i : ℕ) : Option Bool := charsAre input i framePlaces

/-- `std::all_of`, up to the first character that does not occur in uuids. -/
def allOccur (input : List UInt8) (i : ℕ) : List ℕ → Option Bool
  | [] => some true
  | index :: rest =>
    (input[i + index]?).bind fun c =>
      (occursInUuidsAt (signedChar c)).bind fun occurs => if occurs then allOccur input i rest else some false

/-- A turn of the loop: whether there is a reference. Nothing is the result of an access out of bounds. -/
def referenceFound (input : List UInt8) (i : ℕ) : Option Bool :=
  (possibleReferenceFound input i).bind fun possible => if possible then allOccur input i hexIndexes else some false

/-- The uuid of a reference. -/
def referredUuid (input : List UInt8) (i : ℕ) : Uuid :=
  ofText ((input.drop (i + 1)).take StringRepresentationSizeDashed)

/-- The loop, with so many turns to go. -/
def extractLoop (input : List UInt8) : ℕ → ℕ → Option (List Uuid)
  | 0, _ => some []
  | remaining + 1, i =>
    (referenceFound input i).bind fun found =>
      (extractLoop input remaining (i + 1)).map fun output => if found then referredUuid input i :: output else output

/-- The last position, an `int` that is computed with a `size_t`. -/
def lastPosition (input : List UInt8) : ℤ := toInt ((toInt input.length - referenceSize) % 2 ^ 64)

/-- `extractUuidReferences`, on the bytes of the text. `none` when bytes outside it are read. -/
def extractUuidReferences (input : List UInt8) : Option (List Uuid) :=
  extractLoop input (lastPosition input + 1).toNat 0

/-! ### References -/

/-- From a position on, the text has a wrapper, the dashed text of a uuid with letters of either case, and a wrapper. -/
def RefersAt (input : List UInt8) (i : ℕ) (data : Uuid) : Prop :=
  ∃ before text after, input = before ++ 64 :: (text ++ 64 :: after) ∧ before.length = i ∧
    text.map toLower = (toStringDashed data).map toLower

/-- The uuids that are referred to, in the order of the positions. -/
def AreReferences (input : List UInt8) (output : List Uuid) : Prop :=
  ∃ positions : List ℕ, positions.Pairwise (· < ·) ∧ (∀ i, i ∈ positions ↔ ∃ data, RefersAt input i data) ∧
    List.Forall₂ (RefersAt input) positions output

/-- The wrappers and the dashes of a reference are there. -/
def Framed (input : List UInt8) (i : ℕ) : Prop := ∀ place ∈ framePlaces, input[i + place.1]? = some place.2

instance (input : List UInt8) (i : ℕ) : Decidable (Framed input i) := inferInstanceAs (Decidable (∀ _ ∈ framePlaces, _))

/-- The other characters. -/
def framedChars (input : List UInt8) (i : ℕ) : List UInt8 := hexIndexes.map fun index => input.getD (i + index) 0

/-- In a frame, the first character that does not occur in uuids is one of ASCII, or else there is no dash. -/
def Decided (input : List UInt8) (i : ℕ) : Prop :=
  match (framedChars input i).find? (!occursInUuids ·) with
  | some c => c < 128
  | none => 45 ∉ framedChars input i

theorem decided_iff {input : List UInt8} {i : ℕ} : Decided input i ↔
    ((framedChars input i).find? (!occursInUuids ·)).all (decide <| · < 128) ∧
      ((framedChars input i).find? (!occursInUuids ·) = none → 45 ∉ framedChars input i) := by
  unfold Decided
  cases (framedChars input i).find? (!occursInUuids ·) with
  | none => simp
  | some c => simp

instance (input : List UInt8) (i : ℕ) : Decidable (Decided input i) := decidable_of_iff _ decided_iff.symm

/-! ### What is looked at -/

theorem occursInUuidsAt_signedChar (c : UInt8) :
    occursInUuidsAt (signedChar c) = if c < 128 then some (occursInUuids c) else none := by
  have hall : ∀ n : Fin 256, occursInUuidsAt (signedChar (UInt8.ofNat n)) =
      if UInt8.ofNat n < 128 then some (occursInUuids (UInt8.ofNat n)) else none := by decide +kernel
  exact forall_byte hall c

/-- What occurs in uuids is one of ASCII. -/
theorem lt_of_occursInUuids {c : UInt8} (h : occursInUuids c = true) : c < 128 := by
  have hall : ∀ n : Fin 256, occursInUuids (UInt8.ofNat n) = true → UInt8.ofNat n < 128 := by decide +kernel
  exact forall_byte hall c h

theorem charsAre_eq {input : List UInt8} {i : ℕ} {pattern : List (ℕ × UInt8)}
    (h : ∀ place ∈ pattern, i + place.1 < input.length) :
    charsAre input i pattern = some (decide (∀ place ∈ pattern, input[i + place.1]? = some place.2)) := by
  induction pattern with
  | nil => rfl
  | cons place pattern ih =>
    obtain ⟨hplace, hrest⟩ := List.forall_mem_cons.1 h
    unfold charsAre
    rw [List.getElem?_eq_getElem hplace, Option.bind_some, ih hrest]
    split_ifs with heq
    · simp [heq, hplace]
    · rw [decide_eq_false]
      intro hall
      have hfirst := hall place List.mem_cons_self
      rw [List.getElem?_eq_getElem hplace] at hfirst
      exact heq (Option.some.inj hfirst).symm

/-- The characters are looked at up to the first that does not occur in uuids. -/
theorem allOccur_eq {input : List UInt8} {i : ℕ} {indexes : List ℕ} (h : ∀ index ∈ indexes, i + index < input.length) :
    allOccur input i indexes =
      match (indexes.map fun index => input.getD (i + index) 0).find? (!occursInUuids ·) with
      | some c => if c < 128 then some false else none
      | none => some true := by
  induction indexes with
  | nil => rfl
  | cons index indexes ih =>
    obtain ⟨hindex, hrest⟩ := List.forall_mem_cons.1 h
    have hget : input.getD (i + index) 0 = input[i + index] := by
      rw [List.getD_eq_getElem?_getD, List.getElem?_eq_getElem hindex]
      rfl
    unfold allOccur
    rw [List.getElem?_eq_getElem hindex, Option.bind_some, occursInUuidsAt_signedChar, List.map_cons, List.find?_cons, hget]
    cases hoccurs : occursInUuids input[i + index] with
    | true =>
      rw [if_pos (lt_of_occursInUuids hoccurs)]
      exact ih hrest
    | false =>
      by_cases hlt : input[i + index] < 128
      · rw [if_pos hlt]
        exact (if_pos hlt).symm
      · rw [if_neg hlt]
        exact (if_neg hlt).symm

/-- In a frame, the other characters decide; an access out of bounds comes with the first that is not of ASCII. -/
theorem referenceFound_eq {input : List UInt8} {i : ℕ} (h : i + 37 < input.length) :
    referenceFound input i =
      if Framed input i then
        match (framedChars input i).find? (!occursInUuids ·) with
        | some c => if c < 128 then some false else none
        | none => some true
      else some false := by
  have hplaces : ∀ place ∈ framePlaces, i + place.1 < input.length := by
    intro place hplace
    have hle : ∀ place ∈ framePlaces, place.1 ≤ 37 := by decide
    have := hle place hplace
    omega
  have hindexes : ∀ index ∈ hexIndexes, i + index < input.length := by
    intro index hindex
    have hle : ∀ index ∈ hexIndexes, index ≤ 36 := by decide
    have := hle index hindex
    omega
  unfold referenceFound possibleReferenceFound
  rw [charsAre_eq hplaces, Option.bind_some]
  by_cases hframed : Framed input i
  · rw [decide_eq_true (show ∀ place ∈ framePlaces, input[i + place.1]? = some place.2 from hframed), if_pos rfl,
      if_pos hframed, allOccur_eq hindexes]
    rfl
  · rw [decide_eq_false (show ¬ ∀ place ∈ framePlaces, input[i + place.1]? = some place.2 from hframed),
      if_neg Bool.false_ne_true, if_neg hframed]

theorem Framed.lt {input : List UInt8} {i : ℕ} (h : Framed input i) : i + 37 < input.length := by
  have hlast := h (StringRepresentationSizeDashed + 1, 64) (by decide)
  exact (List.getElem?_eq_some_iff.1 hlast).1

/-- What the loop finds, when no access is out of bounds. -/
theorem extractLoop_eq_some_iff {input : List UInt8} {remaining i : ℕ} {output : List Uuid} :
    extractLoop input remaining i = some output ↔
      (∀ j ∈ List.range' i remaining, (referenceFound input j).isSome) ∧
        output = ((List.range' i remaining).filter fun j => referenceFound input j == some true).map
          (referredUuid input) := by
  induction remaining generalizing i output with
  | zero =>
    show some [] = some output ↔ _
    rw [Option.some.injEq, eq_comm]
    exact (and_iff_right fun j hj => absurd hj List.not_mem_nil).symm
  | succ remaining ih =>
    unfold extractLoop
    rw [List.range'_succ, List.forall_mem_cons, List.filter_cons]
    cases hfound : referenceFound input i with
    | none =>
      refine iff_of_false (fun h => ?_) fun h => Bool.false_ne_true h.1.1
      cases h
    | some found =>
      rw [Option.bind_some, Option.map_eq_some_iff]
      constructor
      · rintro ⟨rest, hrest, rfl⟩
        obtain ⟨hsome, rfl⟩ := ih.1 hrest
        refine ⟨⟨rfl, hsome⟩, ?_⟩
        cases found <;> rfl
      · rintro ⟨⟨-, hsome⟩, rfl⟩
        refine ⟨_, ih.2 ⟨hsome, rfl⟩, ?_⟩
        cases found <;> rfl

/-- The loop looks at all positions from which there is room for a reference. -/
theorem lastPosition_eq {input : List UInt8} (h : input.length < 2 ^ 31) :
    (lastPosition input + 1).toNat = input.length - 37 := by
  have hlength : toInt input.length = input.length := by
    unfold toInt
    exact Int.bmod_eq_of_le (by omega) (by omega)
  have hsize : (referenceSize : ℤ) = 38 := rfl
  have hlast : lastPosition input = input.length - 38 := by
    unfold lastPosition
    rw [hlength, hsize]
    unfold toInt
    rcases Nat.lt_or_ge input.length 38 with hlt | hle
    · rw [show ((input.length : ℤ) - 38) % 2 ^ 64 = input.length - 38 + (2 ^ 32 : ℕ) * 2 ^ 32 by omega,
        Int.add_mul_bmod_self_left]
      exact Int.bmod_eq_of_le (by omega) (by omega)
    · rw [Int.emod_eq_of_lt (by omega) (by omega)]
      exact Int.bmod_eq_of_le (by omega) (by omega)
  rw [hlast]
  omega

/-! ### What is referred to -/

theorem toLower_eq_dash {c : UInt8} (h : toLower c = 45) : c = 45 := by
  have hall : ∀ n : Fin 256, toLower (UInt8.ofNat n) = 45 → UInt8.ofNat n = 45 := by decide +kernel
  exact forall_byte hall c h

theorem toLower_toLower (c : UInt8) : toLower (toLower c) = toLower c := by
  have hall : ∀ n : Fin 256, toLower (toLower (UInt8.ofNat n)) = toLower (UInt8.ofNat n) := by decide +kernel
  exact forall_byte hall c

/-- A hexadecimal digit in lower case is the one of its value. -/
theorem toLower_of_isHexDigit {c : UInt8} (h : isHexDigit c = true) :
    ∃ n : Fin 16, hexValues c = UInt8.ofNat n ∧ toLower c = lowerHexDigit n := by
  have hall : ∀ n : Fin 256, isHexDigit (UInt8.ofNat n) = true →
      ∃ m : Fin 16, hexValues (UInt8.ofNat n) = UInt8.ofNat m ∧ toLower (UInt8.ofNat n) = lowerHexDigit m := by
    decide +kernel
  exact forall_byte hall c h

/-- Two digits are those of their byte. -/
theorem digits_byteOf {a b : UInt8} (ha : isHexDigit a = true) (hb : isHexDigit b = true) :
    upperDigit (byteOf a b) = toLower a ∧ lowerDigit (byteOf a b) = toLower b := by
  have hall : ∀ m n : Fin 16, upperDigit ((UInt8.ofNat m <<< 4) ||| UInt8.ofNat n) = lowerHexDigit m ∧
      lowerDigit ((UInt8.ofNat m <<< 4) ||| UInt8.ofNat n) = lowerHexDigit n := by decide +kernel
  obtain ⟨m, hm, hupper⟩ := toLower_of_isHexDigit ha
  obtain ⟨n, hn, hlower⟩ := toLower_of_isHexDigit hb
  unfold byteOf
  rw [hm, hn, hupper, hlower]
  exact hall m n

/-- The places of the digits are those of the bytes. -/
theorem exists_of_mem_positions {j : ℕ} (h : j ∈ uuidValuePositions) :
    ∃ dst : Fin 16, j = uuidValuePositions.getD (2 * dst) 0 ∨ j = uuidValuePositions.getD (2 * dst + 1) 0 := by
  have hall : ∀ j ∈ uuidValuePositions, ∃ dst : Fin 16, j = uuidValuePositions.getD (2 * dst) 0 ∨
      j = uuidValuePositions.getD (2 * dst + 1) 0 := by decide
  exact hall j h

theorem getD_positions_mem (dst : Fin 16) : uuidValuePositions.getD (2 * dst) 0 ∈ uuidValuePositions ∧
    uuidValuePositions.getD (2 * dst + 1) 0 ∈ uuidValuePositions := by
  have hall : ∀ dst : Fin 16, uuidValuePositions.getD (2 * dst) 0 ∈ uuidValuePositions ∧
      uuidValuePositions.getD (2 * dst + 1) 0 ∈ uuidValuePositions := by decide
  exact hall dst

theorem getD_dashes (data : Uuid) : ∀ j ∈ [8, 13, 18, 23], (toStringDashed data).getD j 0 = 45 := by
  intro j hj
  simp only [List.mem_cons, List.not_mem_nil, or_false] at hj
  rcases hj with rfl | rfl | rfl | rfl <;> rfl

/-- A text with dashes and digits at their places is the one of its uuid. -/
theorem map_toLower_of_digits {text : List UInt8} (hlength : text.length = 36)
    (hdashes : ∀ j ∈ [8, 13, 18, 23], text.getD j 0 = 45)
    (hdigits : ∀ j ∈ uuidValuePositions, isHexDigit (text.getD j 0) = true) :
    text.map toLower = (toStringDashed (ofText text)).map toLower := by
  have hplaces : ∀ j < 36, j ∈ [8, 13, 18, 23] ∨ j ∈ uuidValuePositions := by decide
  have hsame : ∀ j < 36, toLower (text.getD j 0) = toLower ((toStringDashed (ofText text)).getD j 0) := by
    intro j hj
    rcases hplaces j hj with hdash | hdigit
    · rw [hdashes j hdash, getD_dashes _ j hdash]
    · obtain ⟨dst, hplace⟩ := exists_of_mem_positions hdigit
      obtain ⟨hfirst, hsecond⟩ := getD_positions_mem dst
      obtain ⟨hupper, hlow⟩ := getD_toStringDashed (ofText text) dst
      have hbyte : ofText text dst = byteOf (text.getD (uuidValuePositions.getD (2 * dst) 0) 0)
          (text.getD (uuidValuePositions.getD (2 * dst + 1) 0) 0) := by
        unfold ofText parseUuid
        rw [hlength, if_neg (by decide), if_pos (show 36 = StringRepresentationSizeDashed from rfl)]
        rfl
      obtain ⟨hupper', hlow'⟩ := digits_byteOf (hdigits _ hfirst) (hdigits _ hsecond)
      rcases hplace with rfl | rfl
      · rw [hupper, hbyte, hupper', toLower_toLower]
      · rw [hlow, hbyte, hlow', toLower_toLower]
  refine List.ext_getElem (by rw [List.length_map, List.length_map, hlength, length_toStringDashed]; rfl) fun j hj hj' => ?_
  rw [List.length_map] at hj hj'
  have heq := hsame j (by omega)
  rw [List.getD_eq_getElem?_getD, List.getD_eq_getElem?_getD, List.getElem?_eq_getElem hj,
    List.getElem?_eq_getElem hj'] at heq
  rw [List.getElem_map, List.getElem_map]
  exact heq

/-- The characters of the dashed text of a uuid, with letters of either case. -/
theorem chars_of_map_toLower {data : Uuid} {text : List UInt8}
    (h : text.map toLower = (toStringDashed data).map toLower) :
    (∀ j ∈ [8, 13, 18, 23], text.getD j 0 = 45) ∧ ∀ j ∈ uuidValuePositions, isHexDigit (text.getD j 0) = true := by
  have hmap : ∀ (l : List UInt8) (j : ℕ), (l.map toLower).getD j 0 = toLower (l.getD j 0) := by
    intro l j
    rw [List.getD_eq_getElem?_getD, List.getD_eq_getElem?_getD, List.getElem?_map]
    cases l[j]? <;> rfl
  have hsame : ∀ j, toLower (text.getD j 0) = toLower ((toStringDashed data).getD j 0) := fun j => by
    rw [← hmap, h, hmap]
  refine ⟨fun j hj => ?_, fun j hj => ?_⟩
  · have heq := hsame j
    rw [getD_dashes data j hj] at heq
    exact toLower_eq_dash heq
  · have hdigit : ∀ value, isHexDigit (upperDigit value) = true ∧ isHexDigit (lowerDigit value) = true := by
      have hall : ∀ n : Fin 256, isHexDigit (upperDigit (UInt8.ofNat n)) = true ∧
          isHexDigit (lowerDigit (UInt8.ofNat n)) = true := by decide +kernel
      exact fun value => forall_byte hall value
    have heq := hsame j
    obtain ⟨dst, hplace⟩ := exists_of_mem_positions hj
    obtain ⟨hupper, hlow⟩ := getD_toStringDashed data dst
    unfold isHexDigit at hdigit ⊢
    rw [← hexDigitValue_toLower, heq, hexDigitValue_toLower]
    rcases hplace with rfl | rfl
    · rw [hupper]
      exact (hdigit _).1
    · rw [hlow]
      exact (hdigit _).2

/-- The character of a text at a place of a reference. -/
theorem getElem?_reference {before text after : List UInt8} (hlength : text.length = 36) :
    (before ++ 64 :: (text ++ 64 :: after))[before.length]? = some 64 ∧
      (before ++ 64 :: (text ++ 64 :: after))[before.length + 37]? = some 64 ∧
        ∀ j < 36, (before ++ 64 :: (text ++ 64 :: after))[before.length + (j + 1)]? = some (text.getD j 0) := by
  refine ⟨?_, ?_, fun j hj => ?_⟩
  · rw [List.getElem?_append_right (Nat.le_refl _), Nat.sub_self]
    rfl
  · rw [List.getElem?_append_right (Nat.le_add_right _ _), Nat.add_sub_cancel_left, List.getElem?_cons_succ,
      List.getElem?_append_right (by omega), hlength]
    rfl
  · rw [List.getElem?_append_right (Nat.le_add_right _ _), Nat.add_sub_cancel_left, List.getElem?_cons_succ,
      List.getElem?_append_left (by omega), List.getD_eq_getElem?_getD, List.getElem?_eq_getElem (by omega)]
    rfl

/-- A text has a reference at a position exactly when its frame is there and the other characters are digits. -/
theorem refersAt_iff {input : List UInt8} {i : ℕ} {data : Uuid} : RefersAt input i data ↔
    Framed input i ∧ (∀ c ∈ framedChars input i, isHexDigit c = true) ∧ data = referredUuid input i := by
  constructor
  · rintro ⟨before, text, after, rfl, rfl, hmap⟩
    have hlength : text.length = 36 := length_of_map_eq hmap
    obtain ⟨hfirst, hlast, hmiddle⟩ := @getElem?_reference before text after hlength
    obtain ⟨hdashes, hdigits⟩ := chars_of_map_toLower hmap
    refine ⟨?_, ?_, ?_⟩
    · have hdash : ∀ j ∈ [8, 13, 18, 23], (before ++ 64 :: (text ++ 64 :: after))[before.length + (j + 1)]? = some 45 :=
        fun j hj => by
          have hlt : ∀ j ∈ [8, 13, 18, 23], j < 36 := by decide
          rw [hmiddle j (hlt j hj), hdashes j hj]
      intro place hplace
      simp only [framePlaces, List.mem_cons, List.not_mem_nil, or_false] at hplace
      rcases hplace with rfl | rfl | rfl | rfl | rfl | rfl
      · exact hfirst
      · exact hlast
      · exact hdash 8 (by decide)
      · exact hdash 13 (by decide)
      · exact hdash 18 (by decide)
      · exact hdash 23 (by decide)
    · intro c hc
      obtain ⟨index, hindex, rfl⟩ := List.mem_map.1 hc
      have hplaces : ∀ index ∈ hexIndexes, ∃ j ∈ uuidValuePositions, index = j + 1 ∧ j < 36 := by decide
      obtain ⟨j, hj, rfl, hlt⟩ := hplaces index hindex
      rw [List.getD_eq_getElem?_getD, hmiddle j hlt]
      exact hdigits j hj
    · have htext : ((before ++ 64 :: (text ++ 64 :: after)).drop (before.length + 1)).take 36 = text := by
        rw [show before ++ 64 :: (text ++ 64 :: after) = (before ++ [64]) ++ (text ++ 64 :: after) by simp,
          List.drop_left' (by simp), List.take_left' hlength]
      unfold referredUuid
      rw [show StringRepresentationSizeDashed = 36 from rfl, htext]
      exact (ofText_of_isTextOf (Or.inl hmap)).symm
  · rintro ⟨hframed, hchars, rfl⟩
    have hlt := hframed.lt
    obtain ⟨text, htext⟩ : ∃ text, text = (input.drop (i + 1)).take 36 := ⟨_, rfl⟩
    have hlength : text.length = 36 := by
      rw [htext, List.length_take, List.length_drop]
      omega
    have hget : ∀ j < 36, text.getD j 0 = input.getD (i + (j + 1)) 0 := by
      intro j hj
      rw [htext, List.getD_eq_getElem?_getD, List.getD_eq_getElem?_getD, List.getElem?_take_of_lt hj, List.getElem?_drop,
        show i + 1 + j = i + (j + 1) by omega]
    have hplace : ∀ place ∈ framePlaces, input.getD (i + place.1) 0 = place.2 := by
      intro place hplace
      rw [List.getD_eq_getElem?_getD, hframed place hplace]
      rfl
    refine ⟨input.take i, text, input.drop (i + 38), ?_, by rw [List.length_take]; omega, ?_⟩
    · have hfirst : input.drop i = 64 :: input.drop (i + 1) := by
        have hget' : input[i]? = some 64 := hframed (0, 64) (by decide)
        rw [← List.getElem_cons_drop (by omega : i < input.length), (List.getElem?_eq_some_iff.1 hget').2]
      have hlast : input.drop (i + 37) = 64 :: input.drop (i + 38) := by
        have hget' : input[i + 37]? = some 64 := hframed (StringRepresentationSizeDashed + 1, 64) (by decide)
        rw [← List.getElem_cons_drop hlt, (List.getElem?_eq_some_iff.1 hget').2]
      have hmiddle : input.drop (i + 1) = text ++ input.drop (i + 37) := by
        have hdrop : input.drop (i + 37) = (input.drop (i + 1)).drop 36 := by rw [List.drop_drop]
        rw [htext, hdrop, List.take_append_drop]
      rw [← hlast, ← hmiddle, ← hfirst, List.take_append_drop]
    · unfold referredUuid
      rw [show StringRepresentationSizeDashed = 36 from rfl, ← htext]
      refine map_toLower_of_digits hlength (fun j hj => ?_) fun j hj => ?_
      · have hplaces : ∀ j ∈ [8, 13, 18, 23], (j + 1, (45 : UInt8)) ∈ framePlaces ∧ j < 36 := by decide
        obtain ⟨hmem, hj'⟩ := hplaces j hj
        rw [hget j hj', hplace _ hmem]
      · have hplaces : ∀ j ∈ uuidValuePositions, j + 1 ∈ hexIndexes ∧ j < 36 := by decide
        obtain ⟨hmem, hj'⟩ := hplaces j hj
        rw [hget j hj']
        exact hchars _ (List.mem_map_of_mem hmem)

/-- What is found at a position where a reference would fit. -/
theorem referenceFound_eq_some_true_iff {input : List UInt8} {i : ℕ} (h : i + 37 < input.length) :
    referenceFound input i = some true ↔
      Framed input i ∧ (framedChars input i).find? (!occursInUuids ·) = none := by
  rw [referenceFound_eq h]
  split_ifs with hframed
  · rw [and_iff_right hframed]
    cases (framedChars input i).find? (!occursInUuids ·) with
    | none => simp
    | some c =>
      dsimp only
      split_ifs <;> simp
  · simp [hframed]

theorem referenceFound_isSome_iff {input : List UInt8} {i : ℕ} (h : i + 37 < input.length) :
    (referenceFound input i).isSome ↔
      (Framed input i → ∀ c, (framedChars input i).find? (!occursInUuids ·) = some c → c < 128) := by
  rw [referenceFound_eq h]
  split_ifs with hframed
  · rw [forall_prop_of_true hframed]
    cases (framedChars input i).find? (!occursInUuids ·) with
    | none => simp
    | some c =>
      dsimp only
      split_ifs with hlt
      · simp [hlt]
      · simp [hlt]
  · simp [hframed]

/-- The characters that occur in uuids, without the dash, are the digits. -/
theorem forall_isHexDigit_iff {chars : List UInt8} :
    (∀ c ∈ chars, isHexDigit c = true) ↔ chars.find? (!occursInUuids ·) = none ∧ 45 ∉ chars := by
  rw [List.find?_eq_none]
  constructor
  · refine fun h => ⟨fun c hc => ?_, fun hdash => absurd (h 45 hdash) (by decide)⟩
    simp [occursInUuids, h c hc]
  · rintro ⟨hoccurs, hdash⟩ c hc
    have hne : c ≠ 45 := fun heq => hdash (heq ▸ hc)
    simpa [occursInUuids, hne] using hoccurs c hc

/-- The references of a text are found, in the order of their positions, and nothing is accessed out of bounds, exactly
when in each frame the first character that does not occur in uuids is one of ASCII, or there is neither such a character
nor a dash. -/
theorem extractUuidReferences_iff {input : List UInt8} (hlength : input.length < 2 ^ 31) :
    (∃ output, extractUuidReferences input = some output ∧ AreReferences input output) ↔
      ∀ i, Framed input i → Decided input i := by
  obtain ⟨turns, hturns⟩ : ∃ turns, turns = (lastPosition input + 1).toNat := ⟨_, rfl⟩
  have hmem : ∀ i, i ∈ List.range' 0 turns ↔ i + 37 < input.length := by
    intro i
    rw [hturns, lastPosition_eq hlength, List.mem_range'_1]
    omega
  obtain ⟨found, hfound⟩ : ∃ found, found = (List.range' 0 turns).filter fun j => referenceFound input j == some true :=
    ⟨_, rfl⟩
  have hsorted : found.Pairwise (· < ·) := hfound ▸ List.Pairwise.filter _ List.pairwise_lt_range'
  have hmemFound : ∀ i, i ∈ found ↔ Framed input i ∧ (framedChars input i).find? (!occursInUuids ·) = none := by
    intro i
    rw [hfound, List.mem_filter, hmem, beq_iff_eq]
    constructor
    · rintro ⟨hlt, h⟩
      exact (referenceFound_eq_some_true_iff hlt).1 h
    · intro h
      exact ⟨h.1.lt, (referenceFound_eq_some_true_iff h.1.lt).2 h⟩
  have hrefers : ∀ i, (∃ data, RefersAt input i data) ↔ i ∈ found ∧ 45 ∉ framedChars input i := by
    intro i
    rw [hmemFound]
    constructor
    · rintro ⟨data, hdata⟩
      obtain ⟨hframed, hdigits, -⟩ := refersAt_iff.1 hdata
      obtain ⟨hnone, hdash⟩ := forall_isHexDigit_iff.1 hdigits
      exact ⟨⟨hframed, hnone⟩, hdash⟩
    · rintro ⟨⟨hframed, hnone⟩, hdash⟩
      exact ⟨_, refersAt_iff.2 ⟨hframed, forall_isHexDigit_iff.2 ⟨hnone, hdash⟩, rfl⟩⟩
  unfold extractUuidReferences
  rw [← hturns]
  constructor
  · rintro ⟨output, hrun, positions, hpositions, hall, houtput⟩ i hframed
    obtain ⟨hsome, rfl⟩ := extractLoop_eq_some_iff.1 hrun
    rw [← hfound] at houtput
    unfold Decided
    cases hfirst : (framedChars input i).find? (!occursInUuids ·) with
    | some c => exact (referenceFound_isSome_iff hframed.lt).1 (hsome i ((hmem i).2 hframed.lt)) hframed c hfirst
    | none =>
      -- as many are found as there are references, and all of these are found
      have hsub : positions.Subperm found :=
        List.subperm_of_subset (hpositions.imp Nat.ne_of_lt) fun p hp => ((hrefers p).1 ((hall p).1 hp)).1
      have hperm := hsub.perm_of_length_le (by
        have := houtput.length_eq
        rw [List.length_map] at this
        omega)
      have hi : i ∈ positions := hperm.mem_iff.2 ((hmemFound i).2 ⟨hframed, hfirst⟩)
      exact ((hrefers i).1 ((hall i).1 hi)).2
  · intro h
    have hdash : ∀ i ∈ found, 45 ∉ framedChars input i := by
      intro i hi
      obtain ⟨hframed, hnone⟩ := (hmemFound i).1 hi
      have hdecided := h i hframed
      unfold Decided at hdecided
      rw [hnone] at hdecided
      exact hdecided
    refine ⟨_, extractLoop_eq_some_iff.2 ⟨fun i hi => ?_, rfl⟩, found, hsorted, fun i => ?_, ?_⟩
    · refine (referenceFound_isSome_iff ((hmem i).1 hi)).2 fun hframed c hc => ?_
      have hdecided := h i hframed
      unfold Decided at hdecided
      rw [hc] at hdecided
      exact hdecided
    · rw [hrefers]
      exact ⟨fun hi => ⟨hi, hdash i hi⟩, And.left⟩
    · rw [← hfound, List.forall₂_map_right_iff, List.forall₂_same]
      intro i hi
      obtain ⟨data, hdata⟩ := (hrefers i).2 ⟨hi, hdash i hi⟩
      obtain ⟨-, -, rfl⟩ := refersAt_iff.1 hdata
      exact hdata

/-- Two references that share a wrapper, behind characters that are not of ASCII. -/
theorem extractUuidReferences_shared : ∃ output,
    extractUuidReferences ([195, 169] ++ asciiBytes
      "@00010203-0405-0607-0809-0a0b0c0d0e0f@FFFFFFFF-0405-0607-0809-0a0b0c0d0e0f@") = some output ∧
    AreReferences ([195, 169] ++ asciiBytes
      "@00010203-0405-0607-0809-0a0b0c0d0e0f@FFFFFFFF-0405-0607-0809-0a0b0c0d0e0f@") output := by
  refine (extractUuidReferences_iff (by decide)).2 fun i hframed => ?_
  have hall : ∀ i < 78, Framed ([195, 169] ++ asciiBytes
      "@00010203-0405-0607-0809-0a0b0c0d0e0f@FFFFFFFF-0405-0607-0809-0a0b0c0d0e0f@") i →
      Decided ([195, 169] ++ asciiBytes
        "@00010203-0405-0607-0809-0a0b0c0d0e0f@FFFFFFFF-0405-0607-0809-0a0b0c0d0e0f@") i := by decide +kernel
  have hlt := hframed.lt
  have hlength : ([195, 169] ++ asciiBytes
      "@00010203-0405-0607-0809-0a0b0c0d0e0f@FFFFFFFF-0405-0607-0809-0a0b0c0d0e0f@").length = 77 := by decide +kernel
  exact hall i (by omega) hframed

/-- A dash in the place of a digit is taken for one, though the text refers to nothing. With a character that is not of
ASCII in its place, the table is read out of bounds. -/
theorem extractUuidReferences_lost :
    ((extractUuidReferences (asciiBytes "@-0000000-0000-0000-0000-000000000000@")).map List.length = some 1 ∧
      ∀ i data, ¬ RefersAt (asciiBytes "@-0000000-0000-0000-0000-000000000000@") i data) ∧
    (extractUuidReferences (64 :: 233 :: asciiBytes "0000000-0000-0000-0000-000000000000@")).isNone := by
  refine ⟨⟨by decide +kernel, fun i data h => ?_⟩, by decide +kernel⟩
  obtain ⟨hframed, hdigits, -⟩ := refersAt_iff.1 h
  have hlt : i + 37 < 38 := hframed.lt
  obtain rfl : i = 0 := by omega
  exact absurd (hdigits 45 (by decide +kernel)) (by decide)

end Forum.Helpers.UuidString
