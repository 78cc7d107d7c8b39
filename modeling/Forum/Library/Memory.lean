import Forum.Library.Bytes

/-!
# Reading a memory through a cursor

A memory gives a byte for every address. A cursor is what code that reads a buffer carries along: the
address it reads next, and how many bytes it believes are left, in a size of 64 bits that wraps. The
cursor records every access, so that the accesses can be spoken about afterwards, of code that
stays in its buffer as of code that does not.
-/

namespace Forum.Library

/-- A byte at each address. -/
abbrev Memory := ℕ → UInt8

/-- The bytes from an address on. -/
def Memory.bytes (memory : Memory) (address n : ℕ) : List UInt8 := (List.range' address n).map memory

@[simp] theorem Memory.length_bytes (memory : Memory) (address n : ℕ) : (memory.bytes address n).length = n := by
  simp [Memory.bytes]

theorem Memory.bytes_add (memory : Memory) (address n m : ℕ) :
    memory.bytes address (n + m) = memory.bytes address n ++ memory.bytes (address + n) m := by
  rw [Memory.bytes, Memory.bytes, Memory.bytes, ← List.map_append, List.range'_append_1]

/-- The memory holds the bytes at an address. -/
def Memory.Holds (memory : Memory) (address : ℕ) (bytes : List UInt8) : Prop :=
  memory.bytes address bytes.length = bytes

theorem Memory.holds_append {memory : Memory} {address : ℕ} {first second : List UInt8} :
    memory.Holds address (first ++ second) ↔
      memory.Holds address first ∧ memory.Holds (address + first.length) second := by
  unfold Memory.Holds
  rw [List.length_append, Memory.bytes_add]
  constructor
  · intro h
    exact List.append_inj h (Memory.length_bytes _ _ _)
  · rintro ⟨h₁, h₂⟩
    rw [h₁, h₂]

/-- A memory that holds some bytes at an address, and zeros elsewhere. -/
def Memory.holding (address : ℕ) (bytes : List UInt8) : Memory :=
  fun a => if address ≤ a then bytes.getD (a - address) 0 else 0

theorem Memory.holds_holding (address : ℕ) (bytes : List UInt8) :
    (Memory.holding address bytes).Holds address bytes := by
  refine List.ext_getElem (by simp) fun i h₁ h₂ => ?_
  simp only [Memory.bytes, List.getElem_map, List.getElem_range', Nat.one_mul, Memory.holding]
  rw [if_pos (by omega), Nat.add_sub_cancel_left, List.getD_eq_getElem?_getD, List.getElem?_eq_getElem h₂, Option.getD_some]

/-- The subtraction of two sizes of 64 bits. -/
def sizeSub (size n : ℕ) : ℕ := if n ≤ size then size - n else 2 ^ 64 + size - n

theorem sizeSub_of_le {size n : ℕ} (h : n ≤ size) : sizeSub size n = size - n := if_pos h

/-- A read of `length` bytes at `address`. -/
structure Access where
  address : ℕ
  length : ℕ
  deriving DecidableEq

/-- An access of bytes between two addresses. -/
def Access.Within (a : Access) (start finish : ℕ) : Prop := start ≤ a.address ∧ a.address + a.length ≤ finish

instance (a : Access) (start finish : ℕ) : Decidable (a.Within start finish) := by
  unfold Access.Within
  infer_instance

/-- Where the code reads next, how much it believes is left, and what it has read. -/
structure Cursor where
  data : ℕ
  size : ℕ
  accesses : List Access
  deriving DecidableEq

namespace Cursor

/-- Read `n` bytes in place. -/
def access (c : Cursor) (n : ℕ) : Cursor := { c with accesses := c.accesses ++ [⟨c.data, n⟩] }

/-- Step over `n` bytes. -/
def advance (c : Cursor) (n : ℕ) : Cursor := { c with data := c.data + n, size := sizeSub c.size n }

/-- What was read lies between two addresses. -/
def Inside (c : Cursor) (start finish : ℕ) : Prop := ∀ a ∈ c.accesses, a.Within start finish

/-- The bytes that are left end at `finish`. -/
def EndsAt (c : Cursor) (start finish : ℕ) : Prop := start ≤ c.data ∧ c.data + c.size = finish

theorem Inside.access {c : Cursor} {start finish n : ℕ} (h : c.Inside start finish)
    (hends : c.EndsAt start finish) (hn : n ≤ c.size) : (c.access n).Inside start finish := by
  intro a ha
  rcases List.mem_append.1 ha with ha | ha
  · exact h a ha
  · obtain rfl := List.mem_singleton.1 ha
    obtain ⟨hstart, hfinish⟩ := hends
    exact ⟨hstart, by show c.data + n ≤ finish; omega⟩

theorem Inside.advance {c : Cursor} {start finish : ℕ} (h : c.Inside start finish) (n : ℕ) :
    (c.advance n).Inside start finish := h

theorem EndsAt.access {c : Cursor} {start finish : ℕ} (h : c.EndsAt start finish) (n : ℕ) :
    (c.access n).EndsAt start finish := h

theorem EndsAt.advance {c : Cursor} {start finish n : ℕ} (h : c.EndsAt start finish) (hn : n ≤ c.size) :
    (c.advance n).EndsAt start finish := by
  obtain ⟨hstart, hfinish⟩ := h
  refine ⟨Nat.le_add_right_of_le hstart, ?_⟩
  show c.data + n + sizeSub c.size n = finish
  rw [sizeSub_of_le hn]
  omega

/-- The cursor stands before the bytes that are left, and knows how many they are. -/
def Before (c : Cursor) (memory : Memory) (bytes : List UInt8) : Prop :=
  memory.Holds c.data bytes ∧ c.size = bytes.length

theorem Before.bytes {c : Cursor} {memory : Memory} {first rest : List UInt8}
    (h : c.Before memory (first ++ rest)) : memory.bytes c.data first.length = first :=
  (Memory.holds_append.1 h.1).1

theorem Before.advance {c : Cursor} {memory : Memory} {first rest : List UInt8}
    (h : c.Before memory (first ++ rest)) : (c.advance first.length).Before memory rest := by
  obtain ⟨hholds, hsize⟩ := h
  rw [List.length_append] at hsize
  refine ⟨(Memory.holds_append.1 hholds).2, ?_⟩
  show sizeSub c.size first.length = rest.length
  rw [sizeSub_of_le (by omega)]
  omega

theorem Before.access {c : Cursor} {memory : Memory} {bytes : List UInt8} (h : c.Before memory bytes) (n : ℕ) :
    (c.access n).Before memory bytes := h

end Cursor

end Forum.Library
