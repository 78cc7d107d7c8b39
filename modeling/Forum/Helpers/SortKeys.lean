import Mathlib.Data.Int.Notation
import Mathlib.Data.List.Lex
import Forum.FastJsonWriter.PreparedStrings

/-!
# Strings with sort keys

`JsonReadyStringWithSortKey`: behind the text of a prepared string is the key by which it is sorted. The collation library makes
the key in a buffer of the thread, while the room for it is asked for; the constructor copies it from there. Texts that are too
big for that buffer are refused. The other strings have the key of what they were constructed from wherever they are put, and are
ordered by it: `prepared_spec`.
-/

namespace Forum.Helpers

open Library FastJsonWriter

/-! ### Keys -/

/-- `MaxSortKeyGenerationUCharBufferSize`. -/
def maxUCharBufferSize : ℕ := 65536

/-- `MaxSortKeyGenerationDestinationBufferSize`. -/
def maxDestinationBufferSize : ℕ := 10 * maxUCharBufferSize

/-- The collation library. -/
structure Icu where
  /-- `u_strFromUTF8Lenient`, unless it fails. -/
  strFromUTF8Lenient : List UInt8 → Option (List UInt16)
  /-- `ucol_getSortKey`, of which as much is written as there is room for. -/
  getSortKey : List UInt16 → List UInt8

/-- What is relied on: the lenient conversion does not fail for a text that is malformed, and keys fit into the buffer. -/
structure Icu.Lawful (icu : Icu) : Prop where
  converts : ∀ view, view.length ≤ maxUCharBufferSize / 8 → ∃ chars, icu.strFromUTF8Lenient view = some chars
  fits : ∀ view chars, view.length ≤ maxUCharBufferSize / 8 → icu.strFromUTF8Lenient view = some chars →
    (icu.getSortKey chars).length ≤ maxDestinationBufferSize

/-- What a thread keeps of the last key: `SortKeyGenerationDestinationBuffer` and `CurrentSortKeyLength`. -/
structure CurrentSortKey where
  destination : List UInt8
  length_destination : destination.length = maxDestinationBufferSize
  length : ℕ

/-- Bytes are written to the beginning of the buffer, of which there are so many in the end. -/
def CurrentSortKey.write (current : CurrentSortKey) (bytes : List UInt8) (h : bytes.length ≤ maxDestinationBufferSize)
    (length : ℕ) : CurrentSortKey where
  destination := overwrite current.destination 0 bytes
  length_destination := by rw [length_overwrite (by rw [current.length_destination]; omega), current.length_destination]
  length := length

/-- `calculateSortKey`, unless it throws. -/
def calculateSortKey (icu : Icu) (view : List UInt8) (current : CurrentSortKey) : Option CurrentSortKey :=
  if view.isEmpty then some (current.write [0] (by decide) 1)
  else if h : view.length > maxUCharBufferSize / 8 then none
  else
    match icu.strFromUTF8Lenient view with
    | none =>
      let current := current.write view (by rw [maxDestinationBufferSize]; omega) (view.length + 1)
      -- the byte behind the one that ends the key
      some { current with
        destination := current.destination.set (view.length + 1) 0
        length_destination := by rw [List.length_set, current.length_destination] }
    | some chars =>
      some (current.write ((icu.getSortKey chars).take maxDestinationBufferSize) (List.length_take_le _ _)
        (icu.getSortKey chars).length)

/-- The key of a text. -/
def sortKeyOf (icu : Icu) (view : List UInt8) : List UInt8 :=
  if view.isEmpty then [0] else ((icu.strFromUTF8Lenient view).map icu.getSortKey).getD []

/-! ### Strings -/

/-- `SizeWithBoolAndSortKeySize`. -/
structure SizeWithBoolAndSortKeySize where
  boolean : Bool
  size : ℕ
  sortKeySize : ℕ

instance : DerivedString SizeWithBoolAndSortKeySize where
  ofSize size := ⟨false, size % 2 ^ 31, 0⟩
  size := SizeWithBoolAndSortKeySize.size
  boolean := SizeWithBoolAndSortKeySize.boolean
  setBoolean value info := { info with boolean := value }
  size_ofSize _ := rfl
  boolean_setBoolean _ _ := rfl
  size_setBoolean _ _ := rfl
  getExtraSize := SizeWithBoolAndSortKeySize.sortKeySize

namespace JsonReadyStringWithSortKey

variable {stackSize : ℕ}

/-- The constructor. When `calculateSortKey` throws, the base class has nothing yet that has to be given back. -/
def construct (icu : Icu) (p : Place) (source : List UInt8) (fresh : Fresh)
    (s : Containers stackSize SizeWithBoolAndSortKeySize CurrentSortKey) :
    Option (Containers stackSize SizeWithBoolAndSortKeySize CurrentSortKey) :=
  match calculateSortKey icu source s.thread with
  | none => some s
  | some current =>
    (JsonReadyStringBase.construct p source (current.length % 2 ^ 32) fresh { s with thread := current }).bind fun s =>
      (s.setSize p fun info => { info with sortKeySize := s.thread.length % 2 ^ 32 }).bind fun s =>
        (s.objects p).bind fun c =>
          if c.size_.sortKeySize ≤ maxDestinationBufferSize then
            s.write p (c.size_.size - c.size_.sortKeySize) (s.thread.destination.take c.size_.sortKeySize)
          else none

variable (p q : Place) (s : Containers stackSize SizeWithBoolAndSortKeySize CurrentSortKey)

/-- `sortKey`. It asserts that the key is not longer than everything. -/
def sortKey : Option (List UInt8) :=
  (s.objects p).bind fun c => s.read p (c.size_.size - c.size_.sortKeySize) c.size_.sortKeySize

/-- The value of a `char`. -/
def charValue (isSigned : Bool) (c : UInt8) : ℤ := if isSigned ∧ 128 ≤ c.toNat then (c.toNat : ℤ) - 256 else c.toNat

/-- `std::lexicographical_compare` of `char`s. -/
def lexicographicalCompare (isSigned : Bool) : List UInt8 → List UInt8 → Bool
  | _, [] => false
  | [], _ :: _ => true
  | a :: first, b :: second =>
    if charValue isSigned a < charValue isSigned b then true
    else if charValue isSigned b < charValue isSigned a then false
    else lexicographicalCompare isSigned first second

/-- `operator<`. -/
def less (isSigned : Bool) : Option Bool :=
  (sortKey p s).bind fun first => (sortKey q s).map fun second => lexicographicalCompare isSigned first second

/-- `operator==`. -/
def equal : Option Bool := (sortKey p s).bind fun first => (sortKey q s).map fun second => decide (first = second)

end JsonReadyStringWithSortKey

/-! ### What the functions do -/

theorem take_write {current : CurrentSortKey} {bytes : List UInt8} (h : bytes.length ≤ maxDestinationBufferSize) (length : ℕ) :
    (current.write bytes h length).destination.take bytes.length = bytes := by
  unfold CurrentSortKey.write
  dsimp only
  have hroom : bytes.length ≤ current.destination.length := by rwa [current.length_destination]
  rw [take_overwrite (by rw [Nat.zero_add]) hroom, overwrite_all (by rw [List.length_take, min_eq_left hroom])]

variable {icu : Icu} {view : List UInt8}

theorem calculateSortKey_eq_none (h : maxUCharBufferSize / 8 < view.length) (current : CurrentSortKey) :
    calculateSortKey icu view current = none := by
  have hne : ¬ view.isEmpty = true := fun hempty => by
    rw [List.isEmpty_iff.1 hempty] at h
    exact absurd h (Nat.not_lt_zero _)
  unfold calculateSortKey
  rw [if_neg hne, dif_pos h]

/-- The buffer has the key of the text then. -/
theorem exists_calculateSortKey (hicu : icu.Lawful) (h : view.length ≤ maxUCharBufferSize / 8) (current : CurrentSortKey) :
    ∃ current', calculateSortKey icu view current = some current' ∧ current'.length = (sortKeyOf icu view).length ∧
      (sortKeyOf icu view).length ≤ maxDestinationBufferSize ∧
      current'.destination.take (sortKeyOf icu view).length = sortKeyOf icu view := by
  unfold calculateSortKey sortKeyOf
  by_cases hempty : view.isEmpty = true
  · rw [if_pos hempty, if_pos hempty]
    exact ⟨_, rfl, rfl, by decide, take_write (by decide) 1⟩
  · obtain ⟨chars, hchars⟩ := hicu.converts view h
    have hfits := hicu.fits view chars h hchars
    rw [if_neg hempty, if_neg hempty, dif_neg (Nat.not_lt.2 h), hchars, Option.map_some, Option.getD_some]
    refine ⟨_, rfl, rfl, hfits, ?_⟩
    have htake : (icu.getSortKey chars).take maxDestinationBufferSize = icu.getSortKey chars := List.take_of_length_le hfits
    have hwritten := @take_write current ((icu.getSortKey chars).take maxDestinationBufferSize) (List.length_take_le _ _)
      (icu.getSortKey chars).length
    simpa only [htake] using hwritten

variable {stackSize : ℕ}

/-- What the containers of a string with a sort key stand for. -/
def storedWithSortKey (icu : Icu) (source : List UInt8) : Stored SizeWithBoolAndSortKeySize where
  size := ⟨isEscapeNeeded source, (preparedText source).length + (sortKeyOf icu source).length, (sortKeyOf icu source).length⟩
  bytes := preparedText source ++ sortKeyOf icu source

namespace JsonReadyStringWithSortKey

variable {s : Containers stackSize SizeWithBoolAndSortKeySize CurrentSortKey}
  {values : Place → Option (Stored SizeWithBoolAndSortKeySize)} {p : Place} {source : List UInt8} {fresh : Fresh}

/-- A text that is too big leaves no string. -/
theorem construct_of_lt (h : maxUCharBufferSize / 8 < source.length) : construct icu p source fresh s = some s := by
  unfold construct
  rw [calculateSortKey_eq_none h]

theorem yields_construct (hicu : icu.Lawful) (hsize : source.length ≤ maxUCharBufferSize / 8) (h : s.Represents values)
    (hp : values p = none) (hne : p ≠ .other) (hother : values .other = none) (hfresh : fresh.Usable s.heap) :
    ∃ thread, Containers.Yields (construct icu p source fresh s) thread
      (Function.update values p (some (storedWithSortKey icu source))) := by
  obtain ⟨current, hcurrent, hlength, hfits, hkey⟩ := exists_calculateSortKey hicu hsize s.thread
  have htext : (preparedText source).length ≤ maxUCharBufferSize / 8 + 2 := by
    rw [length_preparedText]
    split_ifs <;> omega
  have hsmall : maxUCharBufferSize / 8 + 2 + maxDestinationBufferSize < 2 ^ 31 := by decide
  have hmod : current.length % 2 ^ 32 = (sortKeyOf icu source).length := by
    rw [hlength]
    exact Nat.mod_eq_of_lt (by omega)
  set s₀ : Containers stackSize SizeWithBoolAndSortKeySize CurrentSortKey := { s with thread := current } with hs₀
  have h₀ : s₀.Represents values := h
  obtain ⟨extra, hextra, s₁, hs₁, hthread₁, h₁⟩ := JsonReadyStringBase.exists_construct h₀ hp hne hother hfresh
    (sortKeyOf icu source).length (show (preparedText source).length + _ < 2 ^ 31 by omega)
  have hkeySize : s₁.thread.length % 2 ^ 32 = (sortKeyOf icu source).length := by rw [hthread₁, hmod]
  obtain ⟨s₂, hs₂, hthread₂, h₂⟩ := @Containers.exists_setSize _ _ _ _ _ _ p _ h₁ (Function.update_self ..)
    (fun info : SizeWithBoolAndSortKeySize => { info with sortKeySize := s₁.thread.length % 2 ^ 32 }) rfl
  have hinfo : ((preparedText source).length + (sortKeyOf icu source).length) % 2 ^ 31 =
      (preparedText source).length + (sortKeyOf icu source).length := Nat.mod_eq_of_lt (by omega)
  obtain ⟨c, hc, hsize₂, -⟩ := Containers.exists_bytes h₂ (Function.update_self ..)
  have hcsize : c.size_ = (storedWithSortKey icu source).size := by
    rw [hsize₂, hkeySize]
    exact congrArg (fun size => SizeWithBoolAndSortKeySize.mk _ size _) hinfo
  have hroom : (preparedText source ++ extra).length = (preparedText source).length + (sortKeyOf icu source).length := by
    rw [List.length_append, hextra]
  obtain ⟨s₃, hs₃, hthread₃, h₃⟩ := Containers.exists_write h₂ (Function.update_self ..) (preparedText source).length
    (sortKeyOf icu source) hroom.ge
  have hwritten : overwrite (preparedText source ++ extra) (preparedText source).length (sortKeyOf icu source) =
      preparedText source ++ sortKeyOf icu source := by
    have happend := @overwrite_append (sortKeyOf icu source) (preparedText source) extra hextra []
    rwa [List.append_nil, List.append_nil] at happend
  have hthread : s₂.thread = current := hthread₂.trans hthread₁
  refine ⟨current, s₃, ?_, hthread₃.trans hthread, ?_⟩
  · unfold construct
    rw [hcurrent]
    dsimp only
    rw [hmod, hs₁, Option.bind_some, hs₂, Option.bind_some, hc, Option.bind_some, hcsize, hthread]
    unfold storedWithSortKey
    dsimp only
    rw [if_pos hfits, Nat.add_sub_cancel, hkey, hs₃]
  · rw [Function.update_idem, Function.update_idem, hwritten] at h₃
    rwa [← hsize₂, hcsize] at h₃

/-- What is read behind the text is the key. -/
theorem sortKey_eq (h : s.Represents values) (hp : values p = some (storedWithSortKey icu source)) :
    sortKey p s = some (sortKeyOf icu source) := by
  obtain ⟨c, hc, hsize, -⟩ := Containers.exists_bytes h hp
  unfold sortKey
  rw [hc, Option.bind_some, hsize]
  unfold storedWithSortKey
  dsimp only
  rw [Nat.add_sub_cancel, Containers.read_eq h hp (by unfold storedWithSortKey; rw [List.length_append])]
  unfold storedWithSortKey
  dsimp only
  rw [List.drop_left, List.take_length]

end JsonReadyStringWithSortKey

/-- `JsonReadyStringWithSortKey`, whose constructor throws when the text is too big. -/
def jsonReadyStringWithSortKey {icu : Icu} (hicu : icu.Lawful) (stackSize : ℕ) :
    StringClass stackSize SizeWithBoolAndSortKeySize CurrentSortKey where
  construct := JsonReadyStringWithSortKey.construct icu
  constructible source := decide (source.length ≤ maxUCharBufferSize / 8)
  fits _ := True
  stored := storedWithSortKey icu
  prepared _ := ⟨rfl, ⟨_, rfl, rfl⟩, (List.length_append ..).symm⟩
  yields_construct {s values p source fresh} h hp hne hother hfresh _ := by
    by_cases hsize : source.length ≤ maxUCharBufferSize / 8
    · rw [if_pos (decide_eq_true hsize)]
      exact JsonReadyStringWithSortKey.yields_construct hicu hsize h hp hne hother hfresh
    · rw [if_neg (by rwa [decide_eq_true_iff])]
      exact ⟨s.thread, s, JsonReadyStringWithSortKey.construct_of_lt (Nat.not_le.1 hsize), rfl, h⟩

instance {icu : Icu} (hicu : icu.Lawful) (source : List UInt8) :
    Decidable ((jsonReadyStringWithSortKey hicu stackSize).fits source) :=
  inferInstanceAs (Decidable True)

/-! ### The order -/

/-- A strict weak order, and the equality that it leads to. -/
structure StrictWeakOrder {α : Type*} (less equal : α → α → Bool) : Prop where
  irrefl : ∀ a, less a a = false
  trans : ∀ a b c, less a b = true → less b c = true → less a c = true
  equal_iff : ∀ a b, equal a b = true ↔ less a b = false ∧ less b a = false
  equivalence : Equivalence fun a b => equal a b = true

namespace JsonReadyStringWithSortKey

theorem charValue_injective (isSigned : Bool) : Function.Injective (charValue isSigned) := by
  intro a b h
  have ha := a.toNat_lt
  have hb := b.toNat_lt
  unfold charValue at h
  refine UInt8.toNat_inj.1 ?_
  split_ifs at h <;> omega

/-- The order is that of the lists of the values. -/
theorem lexicographicalCompare_iff (isSigned : Bool) (first second : List UInt8) :
    lexicographicalCompare isSigned first second = true ↔
      first.map (charValue isSigned) < second.map (charValue isSigned) := by
  induction first generalizing second with
  | nil =>
    cases second with
    | nil => exact iff_of_false Bool.false_ne_true (List.not_lt_nil _)
    | cons b second => exact iff_of_true rfl (List.nil_lt_cons _ _)
  | cons a first ih =>
    cases second with
    | nil => exact iff_of_false Bool.false_ne_true (List.not_lt_nil _)
    | cons b second =>
      unfold lexicographicalCompare
      rw [List.map_cons, List.map_cons, List.cons_lt_cons_iff]
      split_ifs with hless hgreater
      · exact iff_of_true rfl (Or.inl hless)
      · refine iff_of_false id ?_
        rintro (hlt | ⟨heq, -⟩) <;> omega
      · have heq : charValue isSigned a = charValue isSigned b := by omega
        rw [ih, or_iff_right hless, and_iff_right heq]

theorem strictWeakOrder (isSigned : Bool) :
    StrictWeakOrder (lexicographicalCompare isSigned) fun first second => decide (first = second) := by
  have hless := lexicographicalCompare_iff isSigned
  have hfalse : ∀ first second, lexicographicalCompare isSigned first second = false ↔
      ¬ first.map (charValue isSigned) < second.map (charValue isSigned) := fun first second => by
    rw [← hless, Bool.not_eq_true]
  refine ⟨fun a => (hfalse a a).2 (lt_irrefl _), fun a b c hab hbc => (hless a c).2 (((hless a b).1 hab).trans ((hless b c).1 hbc)),
    fun a b => ?_, ⟨fun a => decide_eq_true rfl, fun h => decide_eq_true (of_decide_eq_true h).symm,
      fun h h' => decide_eq_true ((of_decide_eq_true h).trans (of_decide_eq_true h'))⟩⟩
  rw [hfalse, hfalse, decide_eq_true_iff]
  constructor
  · rintro rfl
    exact ⟨lt_irrefl _, lt_irrefl _⟩
  · rintro ⟨hab, hba⟩
    exact List.map_injective_iff.2 (charValue_injective isSigned) (le_antisymm (not_lt.1 hba) (not_lt.1 hab))

end JsonReadyStringWithSortKey

/-! ### Prepared strings -/

/-- What is read of the strings with sort keys, and how two of them compare. -/
structure ReadsWithSortKey (icu : Icu) (isSigned : Bool) {stackSize : ℕ}
    (s : Containers stackSize SizeWithBoolAndSortKeySize CurrentSortKey) (strings : Strings) : Prop where
  reads : ∀ name source, strings name = some (some source) → StringClass.Reads s name source
  sortKey : ∀ name source, strings name = some (some source) →
    JsonReadyStringWithSortKey.sortKey (.object name) s = some (sortKeyOf icu source)
  compares : ∀ name other first second, strings name = some (some first) → strings other = some (some second) →
    JsonReadyStringWithSortKey.less (.object name) (.object other) s isSigned =
        some (JsonReadyStringWithSortKey.lexicographicalCompare isSigned (sortKeyOf icu first) (sortKeyOf icu second)) ∧
      JsonReadyStringWithSortKey.equal (.object name) (.object other) s =
        some (decide (sortKeyOf icu first = sortKeyOf icu second))

theorem readsWithSortKey {icu : Icu} (hicu : icu.Lawful) (isSigned : Bool) {stackSize : ℕ}
    {s : Containers stackSize SizeWithBoolAndSortKeySize CurrentSortKey} {strings : Strings}
    (h : (jsonReadyStringWithSortKey hicu stackSize).Holds s strings) : ReadsWithSortKey icu isSigned s strings := by
  have hkey : ∀ name source, strings name = some (some source) →
      JsonReadyStringWithSortKey.sortKey (.object name) s = some (sortKeyOf icu source) := by
    intro name source hname
    refine JsonReadyStringWithSortKey.sortKey_eq h ?_
    show (strings name).map _ = _
    rw [hname]
    rfl
  refine ⟨fun name source hname => h.reads hname, hkey, fun name other first second hname hother => ⟨?_, ?_⟩⟩
  · unfold JsonReadyStringWithSortKey.less
    rw [hkey name first hname, hkey other second hother]
    rfl
  · unfold JsonReadyStringWithSortKey.equal
    rw [hkey name first hname, hkey other second hother]
    rfl

/-- What is written for a string is its source with escapes. Whatever clients do with strings, each is what it was constructed
from, needs to be escaped if its source does, and is written as its source is; those with sort keys have its key and are ordered
by their keys. They are constructed if the source is not too big. -/
theorem prepared_spec {icu : Icu} (hicu : icu.Lawful) (isSigned : Bool) (stackSize : ℕ) :
    (∀ source, ∃ text, Escapes source text ∧
      ∀ destination : StringBuffer, escapeString source destination = destination.write text) ∧
    (∀ actions : List Action, Admissible (jsonReadyString stackSize Unit).perform (jsonReadyString stackSize Unit).Allowed
        (StringClass.start ()) actions →
      ∃ s, runFrom (jsonReadyString stackSize Unit).perform (StringClass.start ()) actions = some s ∧
        ∀ name source, actions.foldl (jsonReadyString stackSize Unit).after (fun _ => none) name = some (some source) →
          StringClass.Reads s name source) ∧
    (∀ (current : CurrentSortKey) (actions : List Action), Admissible (jsonReadyStringWithSortKey hicu stackSize).perform
        (jsonReadyStringWithSortKey hicu stackSize).Allowed (StringClass.start current) actions →
      ∃ s, runFrom (jsonReadyStringWithSortKey hicu stackSize).perform (StringClass.start current) actions = some s ∧
        ReadsWithSortKey icu isSigned s
          (actions.foldl (jsonReadyStringWithSortKey hicu stackSize).after fun _ => none)) ∧
    StrictWeakOrder (JsonReadyStringWithSortKey.lexicographicalCompare isSigned) fun first second => decide (first = second) := by
  refine ⟨exists_escapes, fun actions hallowed => ?_, fun current actions hallowed => ?_,
    JsonReadyStringWithSortKey.strictWeakOrder isSigned⟩
  · obtain ⟨s, hs, hholds⟩ := StringClass.exists_run () hallowed
    exact ⟨s, hs, fun name source hname => hholds.reads hname⟩
  · obtain ⟨s, hs, hholds⟩ := StringClass.exists_run current hallowed
    exact ⟨s, hs, readsWithSortKey hicu isSigned hholds⟩

/-- A library that sorts texts of ASCII by their characters. -/
def asciiIcu : Icu where
  strFromUTF8Lenient view := some (view.map UInt8.toUInt16)
  getSortKey chars := chars.map UInt16.toUInt8 ++ [0]

theorem lawful_asciiIcu : asciiIcu.Lawful := by
  refine ⟨fun view _ => ⟨_, rfl⟩, fun view chars hsize hchars => ?_⟩
  obtain rfl := Option.some.inj hchars
  have hkey : (asciiIcu.getSortKey (view.map UInt8.toUInt16)).length = view.length + 1 := by
    show ((view.map UInt8.toUInt16).map UInt16.toUInt8 ++ [0]).length = _
    rw [List.length_append, List.length_map, List.length_map, List.length_singleton]
  have hroom : maxUCharBufferSize / 8 + 1 ≤ maxDestinationBufferSize := by decide
  omega

/-- A thread that has not made a key yet. -/
def noSortKey : CurrentSortKey := ⟨List.replicate maxDestinationBufferSize 0, List.length_replicate, 0⟩

/-- `new` returns an address, where all bytes are zero. -/
def zeroed (address : ℕ) : Fresh := ⟨address, fun _ => 0⟩

/-- A text with a quotation mark and a line break. -/
def brokenLine : List UInt8 := [97, 34, 98, 10, 99, 100, 101, 102, 103, 104]

/-- A text without anything to escape. -/
def plainLine : List UInt8 := [97, 98, 99, 100, 101, 102, 103, 104, 105, 106]

/-- A text of two letters and the two others are constructed, copied, moved, exchanged and assigned. Only the first fits
into eight bytes. -/
def useOfStrings : List Action :=
  [.construct 0 [97, 98] (zeroed 1000), .construct 1 brokenLine (zeroed 2000), .copyConstruct 2 1 (zeroed 3000),
    .moveConstruct 3 0 (zeroed 4000), .swap 2 3 (zeroed 5000), .construct 4 plainLine (zeroed 6000),
    .assign 0 4 (zeroed 7000), .moveAssign 2 4, .destroy 1]

/-- What is under the names then. -/
def stringsInUse : List (ℕ × List UInt8) := [(0, plainLine), (2, plainLine), (3, brokenLine), (4, [97, 98])]

set_option maxRecDepth 2048 in
/-- The strings in use are what they should be, and the one with the quotation mark is the lesser. -/
theorem prepared_spec_useOfStrings :
    (∃ s, runFrom (jsonReadyString 8 Unit).perform (StringClass.start ()) useOfStrings = some s ∧
      ∀ string ∈ stringsInUse, StringClass.Reads s string.1 string.2) ∧
    ∃ s, runFrom (jsonReadyStringWithSortKey lawful_asciiIcu 8).perform (StringClass.start noSortKey) useOfStrings = some s ∧
      (∀ string ∈ stringsInUse, StringClass.Reads s string.1 string.2 ∧
        JsonReadyStringWithSortKey.sortKey (.object string.1) s = some (sortKeyOf asciiIcu string.2)) ∧
      JsonReadyStringWithSortKey.less (.object 3) (.object 4) s true = some true := by
  obtain ⟨-, hplain, hsorted, -⟩ := prepared_spec lawful_asciiIcu true 8
  obtain ⟨s, hs, hreads⟩ := hplain useOfStrings (by decide +kernel)
  obtain ⟨t, ht, hkeys⟩ := hsorted noSortKey useOfStrings (by decide +kernel)
  have hplain : ∀ string ∈ stringsInUse,
      useOfStrings.foldl (jsonReadyString 8 Unit).after (fun _ => none) string.1 = some (some string.2) := by
    decide +kernel
  have hsorted : ∀ string ∈ stringsInUse, useOfStrings.foldl (jsonReadyStringWithSortKey lawful_asciiIcu 8).after
      (fun _ => none) string.1 = some (some string.2) := by
    decide +kernel
  refine ⟨⟨s, hs, fun string hstring => hreads _ _ (hplain string hstring)⟩, t, ht, fun string hstring => ?_, ?_⟩
  · exact ⟨hkeys.reads _ _ (hsorted string hstring), hkeys.sortKey _ _ (hsorted string hstring)⟩
  · rw [(hkeys.compares 3 4 brokenLine [97, 98] (hsorted (3, brokenLine) (by decide))
      (hsorted (4, [97, 98]) (by decide))).1]
    decide +kernel

/-- There is no string with a sort key for a text of 8193 bytes. -/
theorem throws_of_8193 : (List.replicate 8193 (97 : UInt8)).length + 2 + maxDestinationBufferSize < 2 ^ 31 ∧
    (jsonReadyStringWithSortKey lawful_asciiIcu 8).perform (StringClass.start noSortKey)
      (.construct 0 (List.replicate 8193 97) ⟨4096, fun _ => 0⟩) = some (StringClass.start noSortKey) ∧
    JsonReadyStringBase.string (.object 0)
      (StringClass.start noSortKey : Containers 8 SizeWithBoolAndSortKeySize CurrentSortKey) = none := by
  have hlength : (List.replicate 8193 (97 : UInt8)).length = 8193 := List.length_replicate
  generalize List.replicate 8193 (97 : UInt8) = source at hlength
  exact ⟨by rw [hlength]; decide, JsonReadyStringWithSortKey.construct_of_lt (by rw [hlength]; decide), rfl⟩

end Forum.Helpers
