import Mathlib.Algebra.Group.Int.Defs
import Mathlib.Algebra.Group.Nat.Defs
import Mathlib.Data.Int.Notation
import Mathlib.Tactic.SplitIfs
import Forum.Library.Ring

/-!
# The circular buffer

`CircularBuffer`: an array of a fixed capacity and one signed index. While the index is not negative it is where the next
value goes, and how many there are; from the moment the array is full it is negative, and where the next value goes, which is
where the oldest one is, is the index plus the capacity.

The buffer shows the latest values that were pushed (`Shows.of_push_back`): it is a ring once it is full. That holds with
`++it`. With `it++`, which advances a copy and leaves the iterator where it is, no loop over a value ends (`shown_iff`).
-/

namespace Forum.Helpers

open Library

/-- A conversion to a signed type of so many bits. -/
def toIndexType (bits : ℕ) (value : ℤ) : ℤ := value.bmod (2 ^ bits)

/-- A conversion to `size_t`. -/
def toSize (value : ℤ) : ℕ := (value % 2 ^ 64).toNat

/-- `CircularBuffer`, with the items it has room for and the index of the next one, which is negative once it was full. -/
structure CircularBuffer (T : Type*) where
  items : List T
  index : ℤ
  deriving DecidableEq

namespace CircularBuffer

variable {T : Type*}

/-- A buffer as it is constructed. -/
def new (capacity : ℕ) (default : T) : CircularBuffer T := ⟨List.replicate capacity default, 0⟩

/-- `items_[index] = value`, if there is such an item. -/
def setItem (index : ℕ) (value : T) (b : CircularBuffer T) : Option (CircularBuffer T) :=
  if index < b.items.length then some { b with items := b.items.set index value } else none

/-- `push_back`, with the bits of the index type. Nothing is the result of an access out of bounds. -/
def push_back (bits capacity : ℕ) (value : T) (b : CircularBuffer T) : Option (CircularBuffer T) :=
  if 0 ≤ b.index then
    (b.setItem (toSize b.index) value).map fun b =>
      let index := toIndexType bits (b.index + 1)
      { b with index := if capacity = toSize index then toIndexType bits (-index) else index }
  else
    (b.setItem (toSize (b.index + capacity)) value).map fun b =>
      let index := toIndexType bits (b.index + 1)
      { b with index := if 0 = index then toIndexType bits (-toIndexType bits capacity) else index }

/-- Values that are pushed one after the other. -/
def pushAll (bits capacity : ℕ) : List T → CircularBuffer T → Option (CircularBuffer T)
  | [], b => some b
  | value :: values, b => (b.push_back bits capacity value).bind (pushAll bits capacity values)

/-! ### Iterators -/

/-- An iterator of either kind, over one buffer. -/
structure Iterator where
  start : ℕ
  i : ℕ
  deriving DecidableEq

namespace const_iterator

/-- The item that an iterator refers to. -/
def dereference (capacity : ℕ) (b : CircularBuffer T) (it : Iterator) : Option T :=
  b.items[(it.i + it.start) % 2 ^ 64 % capacity]?

/-- `++`. -/
def next (it : Iterator) : Iterator := { it with i := (it.i + 1) % 2 ^ 64 }

end const_iterator

namespace const_reverse_iterator

/-- The item before the one that the iterator counts. -/
def dereference (capacity : ℕ) (b : CircularBuffer T) (it : Iterator) : Option T :=
  b.items[(it.i + (2 ^ 64 - 1) + it.start) % 2 ^ 64 % capacity]?

/-- `++`, which counts down. -/
def next (it : Iterator) : Iterator := { it with i := (it.i + (2 ^ 64 - 1)) % 2 ^ 64 }

end const_reverse_iterator

/-- The two forms of `operator++`. -/
inductive Increment
  | prefixed
  | postfixed
  deriving DecidableEq

/-- What an increment returns, and the iterator behind it. The postfix form returns a copy that it has advanced, and leaves
the iterator itself alone. -/
def increment (next : Iterator → Iterator) : Increment → Iterator → Iterator × Iterator
  | .prefixed, it => (next it, next it)
  | .postfixed, it => (next it, it)

/-- `begin`. -/
def begin' (capacity : ℕ) (b : CircularBuffer T) : Iterator :=
  if 0 ≤ b.index then ⟨0, 0⟩ else ⟨toSize (b.index + capacity), 0⟩

/-- `end`. -/
def end' (capacity : ℕ) (b : CircularBuffer T) : Iterator :=
  if 0 ≤ b.index then ⟨0, toSize b.index⟩ else ⟨toSize (b.index + capacity), capacity⟩

/-- `rbegin`: before the newest item. -/
def rbegin (capacity : ℕ) (b : CircularBuffer T) : Iterator :=
  if 0 ≤ b.index then ⟨0, toSize b.index⟩ else ⟨toSize (b.index + capacity), capacity⟩

/-- `rend`: behind the oldest item. -/
def rend (capacity : ℕ) (b : CircularBuffer T) : Iterator :=
  if 0 ≤ b.index then ⟨0, 0⟩ else ⟨toSize (b.index + capacity), 0⟩

/-- A round of a loop: what is read, where, and what the increment behind it returns. -/
structure Round (T : Type*) where
  value : T
  position : Iterator
  returned : Iterator

/-- The rounds of `for (; it != last; ++it) *it`, or of one with `it++`, if it ends in so many rounds and reads in bounds. -/
def rounds (read : Iterator → Option T) (next : Iterator → Iterator) (form : Increment) (last : Iterator) :
    ℕ → Iterator → Option (List (Round T))
  | 0, _ => none
  | fuel + 1, it =>
    if it = last then some []
    else
      (read it).bind fun value =>
        (rounds read next form last fuel (increment next form it).2).map
          (⟨value, it, (increment next form it).1⟩ :: ·)

/-- A loop reads these values and ends, and each increment returns what its form says: the iterator as it comes to be, or as
it was. -/
def Reads (read : Iterator → Option T) (next : Iterator → Iterator) (form : Increment) (first last : Iterator)
    (values : List T) : Prop :=
  ∃ fuel passed, rounds read next form last fuel first = some passed ∧ passed.map Round.value = values ∧
    ∀ round ∈ passed, round.returned = match form with
      | .prefixed => next round.position
      | .postfixed => round.position

/-- The values that are iterated over, in both directions. -/
def Shows (capacity : ℕ) (form : Increment) (values : List T) (b : CircularBuffer T) : Prop :=
  Reads (const_iterator.dereference capacity b) const_iterator.next form (b.begin' capacity) (b.end' capacity) values ∧
    Reads (const_reverse_iterator.dereference capacity b) const_reverse_iterator.next form (b.rbegin capacity)
      (b.rend capacity) values.reverse

/-! ### What is held -/

/-- The latest values of those that were pushed. -/
def latest (capacity : ℕ) (values : List T) : List T := values.drop (values.length - capacity)

/-- A buffer behind these values: as long as there is room it has them all in a row, then it is a ring. -/
structure Holds (capacity : ℕ) (values : List T) (b : CircularBuffer T) : Prop where
  length : b.items.length = capacity
  index : -(capacity : ℤ) ≤ b.index ∧ b.index < capacity
  row : 0 ≤ b.index → (values.length : ℤ) = b.index ∧ b.items.take values.length = values
  ring : b.index < 0 → capacity ≤ values.length ∧ b.items.rotate (b.index + capacity).toNat = latest capacity values

variable {bits capacity : ℕ}

theorem holds_new (h : 0 < capacity) (default : T) : (new capacity default).Holds capacity [] where
  length := List.length_replicate
  index := by
    show -(capacity : ℤ) ≤ 0 ∧ (0 : ℤ) < capacity
    omega
  row := fun _ => ⟨rfl, rfl⟩
  ring := fun h => absurd h (Int.lt_irrefl 0)

/-- A value of an index type is not changed by a conversion to it. -/
theorem toIndexType_eq (hbits : capacity < 2 ^ (bits - 1)) (h : 0 < bits) {value : ℤ} (hle : -(capacity : ℤ) ≤ value)
    (hge : value ≤ capacity) : toIndexType bits value = value := by
  obtain ⟨n, rfl⟩ : ∃ n, bits = n + 1 := ⟨bits - 1, by omega⟩
  rw [Nat.add_sub_cancel] at hbits
  unfold toIndexType
  have hpow : 2 ^ (n + 1) = 2 * 2 ^ n := by rw [Nat.pow_succ, Nat.mul_comm]
  exact Int.bmod_eq_of_le (by omega) (by omega)

theorem toSize_eq {value : ℤ} (hle : 0 ≤ value) (hlt : value < 2 ^ 64) : (toSize value : ℤ) = value := by
  unfold toSize
  rw [Int.emod_eq_of_lt hle hlt]
  omega

theorem latest_of_le {values : List T} (h : values.length ≤ capacity) : latest capacity values = values := by
  unfold latest
  rw [Nat.sub_eq_zero_of_le h, List.drop_zero]

/-- The newest value takes the place of the oldest. -/
theorem latest_concat {values : List T} (h : capacity ≤ values.length) (hcapacity : 0 < capacity) (value : T) :
    latest capacity (values ++ [value]) = (latest capacity values).tail ++ [value] := by
  unfold latest
  rw [List.tail_drop, List.length_append, List.length_singleton, List.drop_append_of_le_length (by omega),
    show values.length + 1 - capacity = values.length - capacity + 1 by omega]

section Push

variable {values : List T} {b : CircularBuffer T}

/-- A value is pushed while there is room. -/
theorem Holds.push_row (h : b.Holds capacity values) (hbits : capacity < 2 ^ (bits - 1)) (hpositive : 0 < bits)
    (hsize : bits ≤ 64) (hindex : 0 ≤ b.index) (value : T) :
    ∃ b', b.push_back bits capacity value = some b' ∧ b'.Holds capacity (values ++ [value]) := by
  obtain ⟨hcount, htake⟩ := h.row hindex
  have hlength := h.length
  obtain ⟨hlower, hlt⟩ := h.index
  have hpow : 2 ^ (bits - 1) ≤ 2 ^ 63 := Nat.pow_le_pow_right (by decide) (by omega)
  have hplace : toSize b.index = values.length := by
    have := @toSize_eq b.index hindex (by omega)
    omega
  have hnext : toIndexType bits (b.index + 1) = values.length + 1 := by
    rw [toIndexType_eq hbits hpositive (by omega) (by omega), hcount]
  have hnextSize : toSize ((values.length : ℤ) + 1) = values.length + 1 := by
    have := @toSize_eq ((values.length : ℤ) + 1) (by omega) (by omega)
    omega
  have hitems : (b.items.set values.length value).take (values.length + 1) = values ++ [value] := by
    rw [List.take_add_one, List.take_set_of_le (Nat.le_refl _), htake, List.getElem?_set_self (by omega)]
    rfl
  unfold push_back setItem
  rw [if_pos hindex, hplace, if_pos (by omega)]
  refine ⟨_, rfl, ?_⟩
  dsimp only
  rw [hnext, hnextSize]
  by_cases hfull : capacity = values.length + 1
  · rw [if_pos hfull, toIndexType_eq hbits hpositive (by omega) (by omega)]
    refine ⟨by rw [List.length_set]; exact hlength, by dsimp only; omega, fun hle => ?_, fun _ => ⟨?_, ?_⟩⟩
    · dsimp only at hle
      omega
    · rw [List.length_append, List.length_singleton]
      exact Nat.le_of_eq hfull
    · dsimp only
      rw [show (-((values.length : ℤ) + 1) + capacity).toNat = 0 by omega, List.rotate_zero,
        latest_of_le (by rw [List.length_append, List.length_singleton]; exact Nat.le_of_eq hfull.symm), ← hitems,
        List.take_of_length_le (by rw [List.length_set]; omega)]
  · rw [if_neg hfull]
    refine ⟨by rw [List.length_set]; exact hlength, by dsimp only; omega, fun _ => ⟨?_, ?_⟩, fun hlt => ?_⟩
    · rw [List.length_append, List.length_singleton]
      rfl
    · rw [List.length_append, List.length_singleton]
      exact hitems
    · dsimp only at hlt
      omega

/-- A value is pushed when there is none any more. -/
theorem Holds.push_ring (h : b.Holds capacity values) (hbits : capacity < 2 ^ (bits - 1)) (hpositive : 0 < bits)
    (hsize : bits ≤ 64) (hindex : b.index < 0) (value : T) :
    ∃ b', b.push_back bits capacity value = some b' ∧ b'.Holds capacity (values ++ [value]) := by
  obtain ⟨hcount, hrotate⟩ := h.ring hindex
  have hlength := h.length
  obtain ⟨hlower, hlt⟩ := h.index
  have hpow : 2 ^ (bits - 1) ≤ 2 ^ 63 := Nat.pow_le_pow_right (by decide) (by omega)
  obtain ⟨i, hi⟩ : ∃ i : ℕ, b.index + capacity = i := ⟨(b.index + capacity).toNat, by omega⟩
  rw [hi, Int.toNat_natCast] at hrotate
  have hplace : toSize (b.index + capacity) = i := by
    have := @toSize_eq (b.index + capacity) (by omega) (by omega)
    omega
  have hnext : toIndexType bits (b.index + 1) = b.index + 1 := toIndexType_eq hbits hpositive (by omega) (by omega)
  have hwrapped : toIndexType bits (-toIndexType bits capacity) = -capacity := by
    rw [@toIndexType_eq bits capacity hbits hpositive capacity (by omega) (by omega),
      toIndexType_eq hbits hpositive (by omega) (by omega)]
  -- the place of the oldest value becomes that of the newest
  have hring : (b.items.set i value).rotate ((i + 1) % b.items.length) = latest capacity (values ++ [value]) := by
    rw [latest_concat hcount (by omega), ← hrotate]
    exact Ring.toList_push ⟨b.items, i, by omega⟩ value
  unfold push_back setItem
  rw [if_neg (by omega), hplace, if_pos (by omega)]
  refine ⟨_, rfl, ?_⟩
  dsimp only
  rw [hnext, hwrapped]
  have hlonger : capacity ≤ (values ++ [value]).length := by
    rw [List.length_append]
    omega
  by_cases hzero : 0 = b.index + 1
  · rw [if_pos hzero]
    refine ⟨by rw [List.length_set]; exact hlength, by dsimp only; omega, fun hle => ?_, fun _ => ⟨hlonger, ?_⟩⟩
    · dsimp only at hle
      omega
    · dsimp only
      rw [← hring, hlength, show i + 1 = capacity by omega, Nat.mod_self]
      congr 1
      omega
  · rw [if_neg hzero]
    refine ⟨by rw [List.length_set]; exact hlength, by dsimp only; omega, fun hle => ?_, fun _ => ⟨hlonger, ?_⟩⟩
    · dsimp only at hle
      omega
    · dsimp only
      rw [← hring, hlength, Nat.mod_eq_of_lt (by omega)]
      congr 1
      omega

end Push

/-- What any pushes leave. -/
theorem Holds.pushAll {values : List T} {b : CircularBuffer T} (h : b.Holds capacity values) (more : List T)
    (hbits : capacity < 2 ^ (bits - 1)) (hpositive : 0 < bits) (hsize : bits ≤ 64) :
    ∃ b', b.pushAll bits capacity more = some b' ∧ b'.Holds capacity (values ++ more) := by
  induction more generalizing values b with
  | nil => exact ⟨b, rfl, by rwa [List.append_nil]⟩
  | cons value more ih =>
    obtain ⟨pushed, hpush, hholds⟩ : ∃ b', b.push_back bits capacity value = some b' ∧
        b'.Holds capacity (values ++ [value]) := by
      rcases Int.lt_or_le b.index 0 with hindex | hindex
      · exact h.push_ring hbits hpositive hsize hindex value
      · exact h.push_row hbits hpositive hsize hindex value
    obtain ⟨b', hall, hholds'⟩ := ih hholds
    rw [List.append_assoc] at hholds'
    refine ⟨b', ?_, hholds'⟩
    unfold CircularBuffer.pushAll
    rw [hpush]
    exact hall

/-! ### Loops -/

section Loops

variable {read : Iterator → Option T} {next : Iterator → Iterator} {last : Iterator} {values : List T}

/-- A loop with `++it` goes through the positions up to its last one. -/
theorem reads_prefixed {position : ℕ → Iterator} (hnext : ∀ k < values.length, next (position k) = position (k + 1))
    (hread : ∀ k (hk : k < values.length), read (position k) = some (values.get ⟨k, hk⟩))
    (hlast : position values.length = last) (hne : ∀ k < values.length, position k ≠ last) :
    Reads read next .prefixed (position 0) last values := by
  induction values generalizing position with
  | nil => exact ⟨1, [], if_pos hlast, rfl, fun _ h => absurd h List.not_mem_nil⟩
  | cons value values ih =>
    obtain ⟨fuel, passed, hrounds, hvalues, hreturned⟩ := @ih (fun k => position (k + 1))
      (fun k hk => hnext (k + 1) (Nat.succ_lt_succ hk)) (fun k hk => hread (k + 1) (Nat.succ_lt_succ hk)) hlast
      fun k hk => hne (k + 1) (Nat.succ_lt_succ hk)
    have hfirst : next (position 0) = position 1 := hnext 0 (Nat.zero_lt_succ _)
    refine ⟨fuel + 1, ⟨value, position 0, position 1⟩ :: passed, ?_, ?_, List.forall_mem_cons.2 ⟨hfirst.symm, hreturned⟩⟩
    · unfold rounds
      rw [if_neg (hne 0 (Nat.zero_lt_succ _)), hread 0 (Nat.zero_lt_succ _)]
      show (rounds read next .prefixed last fuel (next (position 0))).map
        (⟨value, position 0, next (position 0)⟩ :: ·) = _
      rw [hfirst, hrounds]
      rfl
    · rw [List.map_cons, hvalues]

/-- One with `it++` never gets on. -/
theorem not_reads_postfixed {first : Iterator} (h : first ≠ last) : ¬ Reads read next .postfixed first last values := by
  rintro ⟨fuel, passed, hrounds, -⟩
  have hnone : ∀ fuel, rounds read next .postfixed last fuel first = none := by
    intro fuel
    induction fuel with
    | zero => rfl
    | succ fuel ih =>
      unfold rounds
      rw [if_neg h, Option.bind_eq_none_iff]
      intro value _
      exact Option.map_eq_none_iff.2 ih
  rw [hnone fuel] at hrounds
  cases hrounds

theorem reads_nil (form : Increment) : Reads read next form last last [] :=
  ⟨1, [], if_pos rfl, rfl, fun _ h => absurd h List.not_mem_nil⟩

end Loops

section Iterators

variable {values : List T} {b : CircularBuffer T}

/-- The iterators of a buffer go over as many items as it shows, from the oldest one. -/
theorem Holds.iterators (h : b.Holds capacity values) (hsmall : capacity < 2 ^ 63) :
    ∃ start, b.begin' capacity = ⟨start, 0⟩ ∧ b.end' capacity = ⟨start, (latest capacity values).length⟩ ∧
      b.rbegin capacity = ⟨start, (latest capacity values).length⟩ ∧ b.rend capacity = ⟨start, 0⟩ ∧ start < capacity ∧
      (latest capacity values).length ≤ capacity ∧ ∀ k (hk : k < (latest capacity values).length),
        b.items[(k + start) % capacity]? = some ((latest capacity values).get ⟨k, hk⟩) := by
  have hlength := h.length
  obtain ⟨hlower, hlt⟩ := h.index
  rcases Int.lt_or_le b.index 0 with hindex | hindex
  · obtain ⟨hcount, hrotate⟩ := h.ring hindex
    obtain ⟨i, hi⟩ : ∃ i : ℕ, b.index + capacity = i := ⟨(b.index + capacity).toNat, by omega⟩
    rw [hi, Int.toNat_natCast] at hrotate
    have hplace : toSize (b.index + capacity) = i := by
      have := @toSize_eq (b.index + capacity) (by omega) (by omega)
      omega
    have hall : (latest capacity values).length = capacity := by
      rw [← hrotate, List.length_rotate, hlength]
    have hnot : ¬ 0 ≤ b.index := by omega
    unfold begin' end' rbegin rend
    rw [if_neg hnot, if_neg hnot, hplace]
    refine ⟨i, rfl, by rw [hall], by rw [hall], rfl, by omega, Nat.le_of_eq hall, fun k hk => ?_⟩
    have hget : (b.items.rotate i)[k]? = some ((latest capacity values).get ⟨k, hk⟩) := by
      rw [hrotate]
      exact List.getElem?_eq_getElem _
    rw [List.getElem?_rotate (by omega), hlength] at hget
    exact hget
  · obtain ⟨hcount, htake⟩ := h.row hindex
    have hplace : toSize b.index = values.length := by
      have := @toSize_eq b.index hindex (by omega)
      omega
    have hall : latest capacity values = values := latest_of_le (by omega)
    unfold begin' end' rbegin rend
    rw [if_pos hindex, if_pos hindex, hplace]
    refine ⟨0, rfl, by rw [hall], by rw [hall], rfl, by omega, by rw [hall]; omega, fun k hk => ?_⟩
    have hk' : k < values.length := hall ▸ hk
    have hget : (b.items.take values.length)[k]? = values[k]? := by rw [htake]
    rw [List.getElem?_take_of_lt hk'] at hget
    rw [Nat.add_zero, Nat.mod_eq_of_lt (by omega), hget]
    simp [hall, hk']

/-- A buffer shows the latest values, with `++it`. -/
theorem Holds.shows (h : b.Holds capacity values) (hsmall : capacity < 2 ^ 63) :
    b.Shows capacity .prefixed (latest capacity values) := by
  obtain ⟨start, hbegin, hend, hrbegin, hrend, hstart, hle, hitems⟩ := h.iterators hsmall
  generalize latest capacity values = shown at *
  refine ⟨?_, ?_⟩
  · rw [hbegin, hend]
    refine @reads_prefixed _ _ _ _ _ (fun k => ⟨start, k⟩) (fun k hk => ?_) (fun k hk => ?_) rfl (fun k hk heq => ?_)
    · unfold const_iterator.next
      dsimp only
      rw [Nat.mod_eq_of_lt (by omega)]
    · unfold const_iterator.dereference
      rw [Nat.mod_eq_of_lt (by dsimp only; omega : _ < 2 ^ 64)]
      exact hitems k hk
    · cases heq
      exact Nat.lt_irrefl _ hk
  · rw [hrbegin, hrend]
    have hpositions : (⟨start, shown.length⟩ : Iterator) = ⟨start, shown.reverse.length - 0⟩ := by
      rw [List.length_reverse, Nat.sub_zero]
    rw [hpositions]
    refine @reads_prefixed _ _ _ _ _ (fun k => ⟨start, shown.reverse.length - k⟩) (fun k hk => ?_) (fun k hk => ?_) ?_
      (fun k hk heq => ?_)
    · rw [List.length_reverse] at hk ⊢
      show (⟨start, (shown.length - k + (2 ^ 64 - 1)) % 2 ^ 64⟩ : Iterator) = ⟨start, shown.length - (k + 1)⟩
      rw [show (shown.length - k + (2 ^ 64 - 1)) % 2 ^ 64 = shown.length - (k + 1) by omega]
    · have hk' : k < shown.length := by rwa [List.length_reverse] at hk
      have hvalue : shown.reverse.get ⟨k, hk⟩ = shown.get ⟨shown.length - 1 - k, by omega⟩ := by
        rw [List.get_eq_getElem, List.get_eq_getElem, List.getElem_reverse]
      rw [hvalue, ← hitems (shown.length - 1 - k) (by omega), List.length_reverse]
      show b.items[(shown.length - k + (2 ^ 64 - 1) + start) % 2 ^ 64 % capacity]? = _
      rw [show (shown.length - k + (2 ^ 64 - 1) + start) % 2 ^ 64 = shown.length - 1 - k + start by omega]
    · rw [Nat.sub_self]
    · injection heq with _ heq
      omega

end Iterators

/-- A buffer shows the latest of the values that were pushed, the oldest one first or last, exactly when it has room for
one, and either the loop uses `++it` or there is nothing to go over. Its index stays in bounds. -/
theorem shown_iff {bits capacity : ℕ} (hpositive : 0 < bits) (hsize : bits ≤ 64) (hbits : capacity ≤ 2 ^ (bits - 1) - 1)
    (default : T) (values : List T) (form : Increment) :
    (∃ b, (new capacity default).pushAll bits capacity values = some b ∧
      (-(capacity : ℤ) ≤ b.index ∧ b.index < capacity) ∧
        b.Shows capacity form (values.drop (values.length - capacity))) ↔
      0 < capacity ∧ (form = .prefixed ∨ values = []) := by
  have hpow : 2 ^ (bits - 1) ≤ 2 ^ 63 := Nat.pow_le_pow_right (by decide) (by omega)
  have hpow' : 0 < 2 ^ (bits - 1) := Nat.pow_pos (by decide)
  constructor
  · rintro ⟨b, hpush, ⟨hlower, hlt⟩, hforward, -⟩
    have hcapacity : 0 < capacity := by
      rcases Nat.eq_zero_or_pos capacity with rfl | hcapacity
      · omega
      · exact hcapacity
    refine ⟨hcapacity, ?_⟩
    cases form with
    | prefixed => exact Or.inl rfl
    | postfixed =>
      refine Or.inr ?_
      by_contra hvalues
      obtain ⟨b', hpush', hholds⟩ := (holds_new hcapacity default).pushAll values (by omega) hpositive hsize
      rw [hpush] at hpush'
      cases hpush'
      obtain ⟨start, hbegin, hend, -⟩ := hholds.iterators (by omega)
      refine not_reads_postfixed ?_ hforward
      rw [hbegin, hend]
      intro heq
      injection heq with _ heq
      have hsome := List.length_pos_iff.2 hvalues
      rw [List.nil_append] at heq
      unfold latest at heq
      rw [List.length_drop] at heq
      omega
  · rintro ⟨hcapacity, hform⟩
    obtain ⟨b, hpush, hholds⟩ := (holds_new hcapacity default).pushAll values (by omega) hpositive hsize
    rw [List.nil_append] at hholds
    refine ⟨b, hpush, hholds.index, ?_⟩
    rcases hform with rfl | rfl
    · exact hholds.shows (by omega)
    · obtain ⟨start, hbegin, hend, hrbegin, hrend, -⟩ := hholds.iterators (by omega)
      have hnothing : latest capacity ([] : List T) = [] := List.drop_nil
      unfold Shows
      rw [hbegin, hend, hrbegin, hrend, hnothing, List.drop_nil]
      exact ⟨reads_nil form, reads_nil form⟩

/-- The last three of five values. -/
theorem shown_three : ∃ b, (new 3 (0 : ℕ)).pushAll 8 3 [1, 2, 3, 4, 5] = some b ∧
    (-((3 : ℕ) : ℤ) ≤ b.index ∧ b.index < (3 : ℕ)) ∧ b.Shows 3 .prefixed [3, 4, 5] :=
  (shown_iff (by decide) (by decide) (by decide) 0 [1, 2, 3, 4, 5] .prefixed).2 ⟨by decide, Or.inl rfl⟩

/-- One value, which a loop with `it++` never gets past. -/
theorem not_shown_postfixed : ∃ b, (new 2 (0 : ℕ)).pushAll 8 2 [1] = some b ∧ ¬ b.Shows 2 .postfixed [1] := by
  refine ⟨⟨[1, 0], 1⟩, by decide, fun h => not_reads_postfixed ?_ h.1⟩
  decide

end CircularBuffer

end Forum.Helpers
