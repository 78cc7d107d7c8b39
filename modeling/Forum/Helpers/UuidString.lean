import Mathlib.Data.Fintype.Basic
import Mathlib.Data.List.OfFn
import Mathlib.Tactic.FinCases
import Mathlib.Tactic.SplitIfs
import Forum.Library.Hexadecimal

/-!
# Uuids and their texts

`UuidString`: 16 bytes, written as hexadecimal digits with or without dashes, and read from texts of either length; of the
characters of a text only those count that are at the places of digits. `parseMultipleUuidStrings` reads the runs of
characters that occur in uuids, and stops when there is no more room for what it read.
-/

namespace Forum.Helpers

open Library

/-- `boost::uuids::uuid`. -/
abbrev Uuid := Fin 16 → UInt8

namespace UuidString

/-- The size of a text with dashes. -/
def StringRepresentationSizeDashed : ℕ := 36

/-- The size of a text without dashes. -/
def StringRepresentationSizeCompact : ℕ := 32

/-- The table `OccursInUuids`. -/
def occursInUuids (c : UInt8) : Bool := c == 45 || isHexDigit c

/-- The table `hexValues`. -/
def hexValues (c : UInt8) : UInt8 := UInt8.ofNat (hexValue c)

/-- Where the digits are in a text with dashes. -/
def uuidValuePositions : List ℕ :=
  [0, 1, 2, 3, 4, 5, 6, 7, 9, 10, 11, 12, 14, 15, 16, 17, 19, 20, 21, 22, 24, 25, 26, 27, 28, 29, 30, 31, 32, 33, 34, 35]

/-! ### One uuid -/

/-- A byte of two digits. -/
def byteOf (upper lower : UInt8) : UInt8 := (hexValues upper <<< 4) ||| hexValues lower

/-- Reads a text with dashes, whatever its characters are. -/
def parseUuidDashed (data : List UInt8) : Uuid := fun dst =>
  byteOf (data.getD (uuidValuePositions.getD (2 * dst) 0) 0) (data.getD (uuidValuePositions.getD (2 * dst + 1) 0) 0)

/-- Reads a text without dashes, whatever its characters are. -/
def parseUuidCompact (data : List UInt8) : Uuid := fun dst => byteOf (data.getD (2 * dst) 0) (data.getD (2 * dst + 1) 0)

/-- The constructor from a text. What has another size than the two is not read. -/
def parseUuid (data : List UInt8) : Option Uuid :=
  if data.length = StringRepresentationSizeCompact then some (parseUuidCompact data)
  else if data.length = StringRepresentationSizeDashed then some (parseUuidDashed data)
  else none

/-- The constructor for a text. -/
def ofText (value : List UInt8) : Uuid := (parseUuid value).getD fun _ => 0

/-- The table of hexadecimal digits. -/
def hexCharsLowercase (n : UInt8) : UInt8 := lowerHexDigit n.toNat

/-- The upper digit of a byte, and its lower one. -/
def upperDigit (value : UInt8) : UInt8 := hexCharsLowercase (value / 16 &&& 15)

/-- The digit of the lower half of a byte. -/
def lowerDigit (value : UInt8) : UInt8 := hexCharsLowercase (value % 16 &&& 15)

/-- The loop of `toStringDashed`, over what is left of the bytes. -/
def writeDashed : List UInt8 → ℕ → List UInt8
  | [], _ => []
  | value :: data, destination =>
    upperDigit value :: lowerDigit value ::
      if destination + 2 = 8 ∨ destination + 2 = 13 ∨ destination + 2 = 18 ∨ destination + 2 = 23 then
        45 :: writeDashed data (destination + 3)
      else writeDashed data (destination + 2)

/-- The text with dashes. -/
def toStringDashed (data : Uuid) : List UInt8 := writeDashed (List.ofFn data) 0

/-- The text without dashes. -/
def toStringCompact (data : Uuid) : List UInt8 := (List.ofFn data).flatMap fun value => [upperDigit value, lowerDigit value]

/-- A text of a uuid, dashed or compact, with letters of either case. -/
def IsTextOf (data : Uuid) (text : List UInt8) : Prop :=
  text.map toLower = (toStringDashed data).map toLower ∨ text.map toLower = (toStringCompact data).map toLower

/-! ### There and back -/

theorem hexValues_of_toLower {a b : UInt8} (h : toLower a = toLower b) : hexValues a = hexValues b := by
  unfold hexValues hexValue
  rw [← hexDigitValue_toLower a, h, hexDigitValue_toLower]

/-- A byte is read back from its digits. -/
theorem byteOf_digits (value : UInt8) : byteOf (upperDigit value) (lowerDigit value) = value := by
  have hall : ∀ n : Fin 256, byteOf (upperDigit (UInt8.ofNat n)) (lowerDigit (UInt8.ofNat n)) = UInt8.ofNat n := by
    decide +kernel
  exact forall_byte hall value

/-- Characters of two texts that are the same up to case have the same values. -/
theorem hexValues_getD {text other : List UInt8} (h : text.map toLower = other.map toLower) (i : ℕ) :
    hexValues (text.getD i 0) = hexValues (other.getD i 0) := by
  have hmap : ∀ l : List UInt8, (l.map toLower).getD i 0 = toLower (l.getD i 0) := by
    intro l
    rw [List.getD_eq_getElem?_getD, List.getD_eq_getElem?_getD, List.getElem?_map]
    cases l[i]? <;> rfl
  refine hexValues_of_toLower ?_
  rw [← hmap, h, hmap]

theorem length_toStringDashed (data : Uuid) : (toStringDashed data).length = StringRepresentationSizeDashed := rfl

theorem length_toStringCompact (data : Uuid) : (toStringCompact data).length = StringRepresentationSizeCompact := rfl

/-- The digits of a byte are where they are read. -/
theorem getD_toStringDashed (data : Uuid) (dst : Fin 16) :
    (toStringDashed data).getD (uuidValuePositions.getD (2 * dst) 0) 0 = upperDigit (data dst) ∧
      (toStringDashed data).getD (uuidValuePositions.getD (2 * dst + 1) 0) 0 = lowerDigit (data dst) := by
  fin_cases dst <;> exact ⟨rfl, rfl⟩

theorem getD_toStringCompact (data : Uuid) (dst : Fin 16) :
    (toStringCompact data).getD (2 * dst) 0 = upperDigit (data dst) ∧
      (toStringCompact data).getD (2 * dst + 1) 0 = lowerDigit (data dst) := by
  fin_cases dst <;> exact ⟨rfl, rfl⟩

theorem length_of_map_eq {text other : List UInt8} (h : text.map toLower = other.map toLower) :
    text.length = other.length := by
  have := congrArg List.length h
  rwa [List.length_map, List.length_map] at this

/-- A text of a uuid is read as that uuid. -/
theorem ofText_of_isTextOf {data : Uuid} {text : List UInt8} (h : IsTextOf data text) : ofText text = data := by
  unfold ofText parseUuid
  rcases h with h | h
  · have hlength := (length_of_map_eq h).trans (length_toStringDashed data)
    rw [hlength, if_neg (by decide), if_pos rfl]
    funext dst
    obtain ⟨hupper, hlower⟩ := getD_toStringDashed data dst
    show parseUuidDashed text dst = data dst
    unfold parseUuidDashed byteOf
    rw [hexValues_getD h, hexValues_getD h, hupper, hlower]
    exact byteOf_digits (data dst)
  · have hlength := (length_of_map_eq h).trans (length_toStringCompact data)
    rw [hlength, if_pos rfl]
    funext dst
    obtain ⟨hupper, hlower⟩ := getD_toStringCompact data dst
    show parseUuidCompact text dst = data dst
    unfold parseUuidCompact byteOf
    rw [hexValues_getD h, hexValues_getD h, hupper, hlower]
    exact byteOf_digits (data dst)

/-! ### Lists of uuids -/

/-- The uuid of a run of characters of either length. -/
def uuidOfRun (run : List UInt8) : Option Uuid :=
  if run.length = StringRepresentationSizeDashed ∨ run.length = StringRepresentationSizeCompact then some (ofText run)
  else none

/-- The loop of `parseMultipleUuidStrings`, over what is left of the input: `run` is what is between `previousStart` and
`inputIt`, and `output` what was written so far. -/
def parseMultipleLoop (capacity : ℕ) : List UInt8 → List UInt8 → List Uuid → List Uuid
  | [], run, output => output ++ (uuidOfRun run).toList
  | c :: input, run, output =>
    if occursInUuids c then parseMultipleLoop capacity input (run ++ [c]) output
    else
      match uuidOfRun run with
      | some value =>
        if (output ++ [value]).length = capacity then output ++ [value]
        else parseMultipleLoop capacity input [] (output ++ [value])
      | none => parseMultipleLoop capacity input [] output

/-- `parseMultipleUuidStrings`, with room for so many uuids. -/
def parseMultipleUuidStrings (input : List UInt8) (capacity : ℕ) : List Uuid :=
  if capacity = 0 then [] else parseMultipleLoop capacity input [] []

/-- Characters that may be between uuids. -/
def AreSeparators (text : List UInt8) : Prop := ∀ c ∈ text, occursInUuids c = false

/-- What may be between separators: a text of a uuid, or a run of another length. -/
inductive Item
  | uuid (data : Uuid) (text : List UInt8)
  | other (run : List UInt8)

namespace Item

/-- The characters of an item. -/
def text : Item → List UInt8
  | .uuid _ text => text
  | .other run => run

/-- The id that an item is read as. -/
def uuid? : Item → Option Uuid
  | .uuid data _ => some data
  | .other _ => none

/-- Items that are read as what they stand for. -/
def Valid : Item → Prop
  | .uuid data text => IsTextOf data text
  | .other run => (∀ c ∈ run, occursInUuids c = true) ∧ run.length ≠ StringRepresentationSizeDashed ∧
      run.length ≠ StringRepresentationSizeCompact

end Item

theorem occursInUuids_digit (value : UInt8) :
    occursInUuids (upperDigit value) = true ∧ occursInUuids (lowerDigit value) = true := by
  have hall : ∀ n : Fin 256, occursInUuids (upperDigit (UInt8.ofNat n)) = true ∧
      occursInUuids (lowerDigit (UInt8.ofNat n)) = true := by decide +kernel
  exact forall_byte hall value

theorem occursInUuids_toLower (c : UInt8) : occursInUuids (toLower c) = occursInUuids c := by
  have hall : ∀ n : Fin 256, occursInUuids (toLower (UInt8.ofNat n)) = occursInUuids (UInt8.ofNat n) := by
    decide +kernel
  exact forall_byte hall c

theorem occursInUuids_writeDashed {data : List UInt8} {destination : ℕ} :
    ∀ c ∈ writeDashed data destination, occursInUuids c = true := by
  fun_induction writeDashed data destination with
  | case1 => exact fun c hc => absurd hc List.not_mem_nil
  | case2 value data destination hafter hplain =>
    obtain ⟨hupper, hlower⟩ := occursInUuids_digit value
    refine List.forall_mem_cons.2 ⟨hupper, List.forall_mem_cons.2 ⟨hlower, ?_⟩⟩
    split_ifs
    · exact List.forall_mem_cons.2 ⟨rfl, hafter⟩
    · exact hplain

/-- A text of a uuid is a run. -/
theorem IsTextOf.occurs {data : Uuid} {text : List UInt8} (h : IsTextOf data text) :
    ∀ c ∈ text, occursInUuids c = true := by
  have hwritten : ∀ {other : List UInt8}, (∀ c ∈ other, occursInUuids c = true) → text.map toLower = other.map toLower →
      ∀ c ∈ text, occursInUuids c = true := by
    intro other hother hmap c hc
    have hlower : toLower c ∈ other.map toLower := hmap ▸ List.mem_map_of_mem hc
    obtain ⟨d, hd, heq⟩ := List.mem_map.1 hlower
    rw [← occursInUuids_toLower, ← heq, occursInUuids_toLower]
    exact hother d hd
  rcases h with h | h
  · exact hwritten occursInUuids_writeDashed h
  · refine hwritten (fun c hc => ?_) h
    obtain ⟨value, -, hc⟩ := List.mem_flatMap.1 hc
    obtain ⟨hupper, hlower⟩ := occursInUuids_digit value
    rcases List.mem_pair.1 hc with rfl | rfl
    · exact hupper
    · exact hlower

theorem Item.Valid.occurs {item : Item} (h : item.Valid) : ∀ c ∈ item.text, occursInUuids c = true := by
  cases item with
  | uuid data text => exact IsTextOf.occurs h
  | other run => exact h.1

/-- A run is read as the uuid that it is a text of, if it is one. -/
theorem Item.Valid.uuidOfRun {item : Item} (h : item.Valid) : uuidOfRun item.text = item.uuid? := by
  unfold UuidString.uuidOfRun
  cases item with
  | uuid data text =>
    have hlength : text.length = StringRepresentationSizeDashed ∨ text.length = StringRepresentationSizeCompact := by
      rcases h with h | h
      · exact Or.inl (length_of_map_eq h)
      · exact Or.inr (length_of_map_eq h)
    exact (if_pos hlength).trans (congrArg some (ofText_of_isTextOf h))
  | other run => exact if_neg (not_or.2 h.2)

section Loop

variable {capacity : ℕ}

/-- The loop passes a run. -/
theorem parseMultipleLoop_run {chars : List UInt8} (hchars : ∀ c ∈ chars, occursInUuids c = true) (input run : List UInt8)
    (output : List Uuid) :
    parseMultipleLoop capacity (chars ++ input) run output = parseMultipleLoop capacity input (run ++ chars) output := by
  induction chars generalizing run with
  | nil => rw [List.nil_append, List.append_nil]
  | cons c chars ih =>
    obtain ⟨hc, hrest⟩ := List.forall_mem_cons.1 hchars
    rw [List.cons_append, parseMultipleLoop, if_pos hc, ih hrest, List.append_assoc]
    rfl

/-- It passes separators that follow no run. -/
theorem parseMultipleLoop_separators {separators : List UInt8} (hseparators : AreSeparators separators)
    (input : List UInt8) (output : List Uuid) :
    parseMultipleLoop capacity (separators ++ input) [] output = parseMultipleLoop capacity input [] output := by
  induction separators with
  | nil => rfl
  | cons c separators ih =>
    obtain ⟨hc, hrest⟩ := List.forall_mem_cons.1 hseparators
    rw [List.cons_append, parseMultipleLoop, if_neg (by rw [hc]; exact Bool.false_ne_true)]
    exact ih hrest

/-- An item with separators behind it adds its uuid, and ends the loop when there is no more room. -/
theorem parseMultipleLoop_item {item : Item} (h : item.Valid) {separators : List UInt8} (hne : separators ≠ [])
    (hseparators : AreSeparators separators) (input : List UInt8) (output : List Uuid) :
    parseMultipleLoop capacity (item.text ++ (separators ++ input)) [] output =
      if item.uuid?.isSome ∧ output.length + 1 = capacity then output ++ item.uuid?.toList
      else parseMultipleLoop capacity input [] (output ++ item.uuid?.toList) := by
  rw [parseMultipleLoop_run h.occurs, List.nil_append]
  cases separators with
  | nil => exact absurd rfl hne
  | cons c separators =>
    obtain ⟨hc, hrest⟩ := List.forall_mem_cons.1 hseparators
    rw [List.cons_append, parseMultipleLoop, if_neg (by rw [hc]; exact Bool.false_ne_true), h.uuidOfRun]
    cases item.uuid? with
    | none =>
      dsimp only
      rw [parseMultipleLoop_separators hrest, if_neg (by simp)]
      simp
    | some value =>
      dsimp only
      rw [parseMultipleLoop_separators hrest, List.length_append, List.length_singleton]
      simp

/-- The loop adds the uuids of the items for which there is room. -/
theorem parseMultipleLoop_items {items : List (Item × List UInt8)}
    (hitems : ∀ item ∈ items, item.1.Valid ∧ AreSeparators item.2) (hbetween : ∀ item ∈ items.dropLast, item.2 ≠ [])
    {output : List Uuid} (hroom : output.length < capacity) :
    parseMultipleLoop capacity (items.flatMap fun item => item.1.text ++ item.2) [] output =
      output ++ (items.filterMap (·.1.uuid?)).take (capacity - output.length) := by
  induction items generalizing output with
  | nil =>
    rw [List.filterMap_nil, List.take_nil]
    rfl
  | cons item items ih =>
    obtain ⟨⟨hvalid, hseparators⟩, hrest⟩ := List.forall_mem_cons.1 hitems
    obtain ⟨room, hcapacity⟩ : ∃ room, capacity = output.length + 1 + room := ⟨capacity - output.length - 1, by omega⟩
    have htake : ∀ others : List Uuid, (item.1.uuid?.toList ++ others).take (capacity - output.length) =
        item.1.uuid?.toList ++ others.take (capacity - (output ++ item.1.uuid?.toList).length) := by
      intro others
      rw [List.length_append, List.take_append, List.take_of_length_le (by cases item.1.uuid? <;> simp; omega)]
      congr 2
      omega
    have hfound : (item :: items).filterMap (·.1.uuid?) = item.1.uuid?.toList ++ items.filterMap (·.1.uuid?) := by
      rw [List.filterMap_cons]
      cases item.1.uuid? <;> rfl
    rw [hfound, htake, ← List.append_assoc, List.flatMap_cons, List.append_assoc]
    by_cases hlast : item.2 = []
    · -- only the last item has nothing behind it
      obtain rfl : items = [] := by
        by_contra hne
        rw [List.dropLast_cons_of_ne_nil hne] at hbetween
        exact hbetween item List.mem_cons_self hlast
      rw [hlast, parseMultipleLoop_run hvalid.occurs, List.nil_append]
      show output ++ (uuidOfRun item.1.text).toList = _
      rw [hvalid.uuidOfRun]
      simp
    · rw [parseMultipleLoop_item hvalid hlast hseparators]
      split_ifs with hfull
      · obtain ⟨hsome, hfull⟩ := hfull
        have hlength : (output ++ item.1.uuid?.toList).length = capacity := by
          obtain ⟨value, heq⟩ := Option.isSome_iff_exists.1 hsome
          rw [heq, ← hfull]
          simp
        rw [hlength, Nat.sub_self, List.take_zero, List.append_nil]
      · refine ih hrest (fun other hother => ?_) ?_
        · have hne : items ≠ [] := by
            rintro rfl
            exact absurd hother List.not_mem_nil
          rw [List.dropLast_cons_of_ne_nil hne] at hbetween
          exact hbetween other (List.mem_cons_of_mem _ hother)
        · cases huuid : item.1.uuid? with
          | none => simpa using hroom
          | some value =>
            rw [huuid] at hfull
            have hmore : output.length + 1 ≠ capacity := fun heq => hfull ⟨rfl, heq⟩
            simp only [Option.toList_some, List.length_append, List.length_singleton]
            omega

end Loop

/-- A text of a uuid is read as that uuid, and of texts of uuids with separators between them and around them, and runs of
other lengths among them, as many as there is room for are read, in their order. -/
theorem uuids_roundTrip :
    (∀ (data : Uuid) (text : List UInt8), IsTextOf data text → ofText text = data) ∧
    ∀ (capacity : ℕ) (leading : List UInt8) (items : List (Item × List UInt8)), AreSeparators leading →
      (∀ item ∈ items, item.1.Valid ∧ AreSeparators item.2) → (∀ item ∈ items.dropLast, item.2 ≠ []) →
        parseMultipleUuidStrings (leading ++ items.flatMap fun item => item.1.text ++ item.2) capacity =
          (items.filterMap (·.1.uuid?)).take capacity := by
  refine ⟨fun data text h => ofText_of_isTextOf h, fun capacity leading items hleading hitems hbetween => ?_⟩
  unfold parseMultipleUuidStrings
  split_ifs with hzero
  · rw [hzero, List.take_zero]
  · rw [parseMultipleLoop_separators hleading, parseMultipleLoop_items hitems hbetween (by simpa using Nat.pos_of_ne_zero hzero)]
    rfl

/-- The uuid of the bytes from 0 to 15. -/
def counting : Uuid := fun i => UInt8.ofNat i

/-- It is in capital letters, behind a run that is too short, and compact, with room for any number of uuids. -/
theorem uuids_roundTrip_counting :
    ofText (asciiBytes "000102030405060708090a0b0c0d0e0f") = counting ∧
      ∀ capacity, parseMultipleUuidStrings
        (asciiBytes ",00010203-0405-0607-0809-0A0B0C0D0E0F,;abc,000102030405060708090a0b0c0d0e0f") capacity =
          [counting, counting].take capacity := by
  have htext : IsTextOf counting (asciiBytes "00010203-0405-0607-0809-0A0B0C0D0E0F") := Or.inl (by decide +kernel)
  have hcompact : IsTextOf counting (asciiBytes "000102030405060708090a0b0c0d0e0f") := Or.inr (by decide +kernel)
  have hcomma : AreSeparators [44] := forall_mem_of_all (by decide)
  have hboth : AreSeparators [44, 59] := forall_mem_of_all (by decide)
  have hother : (Item.other (asciiBytes "abc")).Valid := ⟨forall_mem_of_all (by decide), by decide, by decide⟩
  obtain ⟨items, hitems⟩ : ∃ items : List (Item × List UInt8), items =
      [(.uuid counting (asciiBytes "00010203-0405-0607-0809-0A0B0C0D0E0F"), [44, 59]), (.other (asciiBytes "abc"), [44]),
        (.uuid counting (asciiBytes "000102030405060708090a0b0c0d0e0f"), [])] := ⟨_, rfl⟩
  have htexts : asciiBytes ",00010203-0405-0607-0809-0A0B0C0D0E0F,;abc,000102030405060708090a0b0c0d0e0f" =
      [44] ++ items.flatMap fun item => item.1.text ++ item.2 := by
    rw [hitems]
    decide +kernel
  refine ⟨uuids_roundTrip.1 _ _ hcompact, fun capacity => ?_⟩
  rw [htexts, uuids_roundTrip.2 capacity [44] items hcomma, hitems]
  · rfl
  · rw [hitems]
    simp [hcomma, hboth, hother, show (Item.uuid counting _).Valid from htext,
      show (Item.uuid counting _).Valid from hcompact, show AreSeparators [] from fun _ h => absurd h List.not_mem_nil]
  · rw [hitems]
    simp

end UuidString

end Forum.Helpers
