import Mathlib.Data.Int.Notation
import Mathlib.Data.List.Basic
import Mathlib.Logic.Function.Basic
import Mathlib.Tactic.SplitIfs

/-!
# Buffers leased from a pool

`FixedSizeBufferPool` and `ReadWriteBufferArray`: the bytes that are written go to buffers of one size, leased one by one,
and come out again as the used parts of these. A buffer has the bytes of whoever had it before.

Behind any writes, what is exposed is as much of what was written as fits the buffers that could be leased
(`Sound.writeAll`), and `reset` leaves the pool as it was found (`boundedQueue_of_holds`).
-/

namespace Forum.Http.Leased

/-! ### The pool -/

/-- The bytes of the buffers, and the indexes from which the next one is taken. -/
structure FixedSizeBufferPool where
  buffers : ℕ → List UInt8
  availableIndexes : List ℕ
  numberOfUsedBuffers : ℕ

/-- A buffer that is not in the pool. -/
structure LeasedBuffer where
  index : ℕ
  data : List UInt8
  deriving DecidableEq

namespace FixedSizeBufferPool

/-- How many buffers the pool has. -/
def maxBufferCount (pool : FixedSizeBufferPool) : ℕ := pool.availableIndexes.length

/-- Leases the next buffer that is available. -/
def leaseBuffer (pool : FixedSizeBufferPool) : Option (LeasedBuffer × FixedSizeBufferPool) :=
  if pool.maxBufferCount ≤ pool.numberOfUsedBuffers then none
  else
    (pool.availableIndexes[pool.numberOfUsedBuffers]?).map fun index =>
      (⟨index, pool.buffers index⟩, { pool with numberOfUsedBuffers := pool.numberOfUsedBuffers + 1 })

/-- Puts a buffer back. An index that is too large is ignored. -/
def returnBuffer (buffer : LeasedBuffer) (pool : FixedSizeBufferPool) : FixedSizeBufferPool :=
  if pool.maxBufferCount ≤ buffer.index then pool
  else
    { buffers := Function.update pool.buffers buffer.index buffer.data
      availableIndexes := pool.availableIndexes.set (pool.numberOfUsedBuffers - 1) buffer.index
      numberOfUsedBuffers := pool.numberOfUsedBuffers - 1 }

/-- How many buffers can be leased. -/
def available (pool : FixedSizeBufferPool) : ℕ := pool.maxBufferCount - pool.numberOfUsedBuffers

/-- The buffers with these indexes are leased, each once, and the others can be. -/
structure Holds (bufferSize : ℕ) (pool : FixedSizeBufferPool) (leased : List ℕ) : Prop where
  sizes : ∀ index, (pool.buffers index).length = bufferSize
  used : pool.numberOfUsedBuffers = leased.length
  indexes : (pool.availableIndexes.drop pool.numberOfUsedBuffers ++ leased).Perm (List.range pool.maxBufferCount)

/-- A pool as it is constructed. -/
def new (bufferSize maxBufferCount : ℕ) : FixedSizeBufferPool :=
  ⟨fun _ => List.replicate bufferSize 0, List.range maxBufferCount, 0⟩

variable {bufferSize : ℕ} {pool pool' : FixedSizeBufferPool} {leased : List ℕ} {buffer : LeasedBuffer}

theorem holds_new (bufferSize maxBufferCount : ℕ) : (new bufferSize maxBufferCount).Holds bufferSize [] where
  sizes := fun _ => List.length_replicate
  used := rfl
  indexes := by
    rw [List.append_nil]
    show (List.range maxBufferCount).Perm (List.range (List.range maxBufferCount).length)
    rw [List.length_range]

theorem Holds.perm (h : pool.Holds bufferSize leased) {others : List ℕ} (hperm : leased.Perm others) :
    pool.Holds bufferSize others where
  sizes := h.sizes
  used := h.used.trans hperm.length_eq
  indexes := (hperm.symm.append_left _).trans h.indexes

theorem Holds.used_le (h : pool.Holds bufferSize leased) : pool.numberOfUsedBuffers ≤ pool.maxBufferCount := by
  have hlength := h.indexes.length_eq
  rw [List.length_append, List.length_drop, List.length_range, ← h.used] at hlength
  show _ ≤ pool.availableIndexes.length
  have hmax : pool.maxBufferCount = pool.availableIndexes.length := rfl
  omega

theorem leaseBuffer_eq_none : pool.leaseBuffer = none ↔ pool.available = 0 := by
  unfold leaseBuffer available maxBufferCount
  split_ifs with hfull
  · exact ⟨fun _ => by omega, fun _ => rfl⟩
  · rw [Option.map_eq_none_iff, List.getElem?_eq_none_iff]
    omega

/-- A leased buffer was in the pool, and has the size of all. -/
theorem Holds.leaseBuffer (h : pool.Holds bufferSize leased) (hlease : pool.leaseBuffer = some (buffer, pool')) :
    pool'.Holds bufferSize (buffer.index :: leased) ∧ buffer.data.length = bufferSize ∧
      pool.available = pool'.available + 1 := by
  unfold FixedSizeBufferPool.leaseBuffer at hlease
  split_ifs at hlease with hfull
  obtain ⟨index, hindex, heq⟩ := Option.map_eq_some_iff.1 hlease
  obtain ⟨hlt, hget⟩ := List.getElem?_eq_some_iff.1 hindex
  cases heq
  refine ⟨⟨h.sizes, ?_, ?_⟩, h.sizes index, ?_⟩
  · rw [List.length_cons, ← h.used]
  · have hindexes := h.indexes
    rw [List.drop_eq_getElem_cons hlt, hget] at hindexes
    exact List.perm_middle.trans hindexes
  · show pool.availableIndexes.length - _ = pool.availableIndexes.length - (_ + 1) + 1
    omega

/-- A buffer that is returned can be leased again. -/
theorem Holds.returnBuffer (h : pool.Holds bufferSize (buffer.index :: leased)) (hsize : buffer.data.length = bufferSize) :
    (pool.returnBuffer buffer).Holds bufferSize leased := by
  have hmem : buffer.index ∈ List.range pool.maxBufferCount :=
    h.indexes.subset (List.mem_append_right _ List.mem_cons_self)
  have hlt : ¬ pool.maxBufferCount ≤ buffer.index := Nat.not_le.2 (List.mem_range.1 hmem)
  have hused := h.used
  rw [List.length_cons] at hused
  have hle := h.used_le
  unfold FixedSizeBufferPool.returnBuffer
  rw [if_neg hlt]
  refine ⟨fun index => ?_, ?_, ?_⟩
  · show (Function.update pool.buffers buffer.index buffer.data index).length = bufferSize
    by_cases heq : index = buffer.index
    · rw [heq, Function.update_self, hsize]
    · rw [Function.update_of_ne heq, h.sizes]
  · show pool.numberOfUsedBuffers - 1 = leased.length
    omega
  · show ((pool.availableIndexes.set (pool.numberOfUsedBuffers - 1) buffer.index).drop (pool.numberOfUsedBuffers - 1) ++
      leased).Perm (List.range (pool.availableIndexes.set (pool.numberOfUsedBuffers - 1) buffer.index).length)
    have hbound : pool.numberOfUsedBuffers - 1 < (pool.availableIndexes.set (pool.numberOfUsedBuffers - 1)
        buffer.index).length := by
      rw [List.length_set]
      have hmax : pool.maxBufferCount = pool.availableIndexes.length := rfl
      omega
    rw [List.drop_eq_getElem_cons hbound, List.getElem_set_self, List.length_set,
      show pool.numberOfUsedBuffers - 1 + 1 = pool.numberOfUsedBuffers by omega,
      List.drop_set_of_lt (by omega), List.cons_append]
    exact List.perm_middle.symm.trans h.indexes

end FixedSizeBufferPool

/-! ### The array -/

/-- The buffers up to `latestBuffer_`. -/
structure ReadWriteBufferArray where
  buffers : List LeasedBuffer := []
  usedBytesInLatestBuffer : ℕ := 0
  notEnoughRoom : Bool := false
  deriving DecidableEq

namespace ReadWriteBufferArray

/-- The index of the buffer that is written to, -1 when there is none. -/
def latestBuffer (a : ReadWriteBufferArray) : ℤ := a.buffers.length - 1

/-- Leases one more buffer, as long as there are fewer than `maxNrOfBuffers`. -/
def requestNewBuffer (maxNrOfBuffers : ℕ) (a : ReadWriteBufferArray) (pool : FixedSizeBufferPool) :
    Option (ReadWriteBufferArray × FixedSizeBufferPool) :=
  if (maxNrOfBuffers : ℤ) ≤ a.latestBuffer + 1 then none
  else
    pool.leaseBuffer.map fun (buffer, pool) =>
      ({ a with buffers := a.buffers ++ [buffer], usedBytesInLatestBuffer := 0 }, pool)

/-- `std::copy` behind the used bytes of the latest buffer. -/
def copyToLatest (input : List UInt8) (a : ReadWriteBufferArray) : ReadWriteBufferArray :=
  match a.buffers.getLast? with
  | none => a
  | some latest =>
    { a with
      buffers := a.buffers.dropLast ++ [{ latest with
        data := latest.data.take a.usedBytesInLatestBuffer ++ input ++
          latest.data.drop (a.usedBytesInLatestBuffer + input.length) }]
      usedBytesInLatestBuffer := a.usedBytesInLatestBuffer + input.length }

/-- The remaining space in the latest buffer, which is a new one when there was none. -/
def findSpace (bufferSize maxNrOfBuffers : ℕ) (a : ReadWriteBufferArray) (pool : FixedSizeBufferPool) :
    Option (ℕ × ReadWriteBufferArray × FixedSizeBufferPool) :=
  if a.latestBuffer < 0 ∨ bufferSize - a.usedBytesInLatestBuffer < 1 then
    (a.requestNewBuffer maxNrOfBuffers pool).map fun (a, pool) => (bufferSize, a, pool)
  else some (bufferSize - a.usedBytesInLatestBuffer, a, pool)

/-- The loop of `write`. A turn that goes on has copied something, so the size is a bound for the turns. -/
def writeLoop (bufferSize maxNrOfBuffers : ℕ) :
    ℕ → List UInt8 → ReadWriteBufferArray → FixedSizeBufferPool → Bool × ReadWriteBufferArray × FixedSizeBufferPool
  | 0, _, a, pool => (true, a, pool)
  | turns + 1, input, a, pool =>
    if input = [] then (true, a, pool)
    else if 0 ≤ a.latestBuffer ∧ input.length ≤ bufferSize - a.usedBytesInLatestBuffer then
      (true, a.copyToLatest input, pool)
    else
      match a.findSpace bufferSize maxNrOfBuffers pool with
      | none => (false, { a with notEnoughRoom := true }, pool)
      | some (space, a, pool) =>
        let toCopy := min space input.length
        writeLoop bufferSize maxNrOfBuffers turns (input.drop toCopy) (a.copyToLatest (input.take toCopy)) pool

/-- `write`: whether there was enough room. -/
def write (bufferSize maxNrOfBuffers : ℕ) (input : List UInt8) (a : ReadWriteBufferArray) (pool : FixedSizeBufferPool) :
    Bool × ReadWriteBufferArray × FixedSizeBufferPool :=
  if input.length = 0 then (true, a, pool) else writeLoop bufferSize maxNrOfBuffers input.length input a pool

/-- How many bytes were written. -/
def size (bufferSize : ℕ) (a : ReadWriteBufferArray) : ℤ :=
  if a.latestBuffer < 0 then 0 else a.latestBuffer * bufferSize + a.usedBytesInLatestBuffer

/-- The array behind a reset, and the pool with the buffers that the array had. -/
def reset (a : ReadWriteBufferArray) (pool : FixedSizeBufferPool) : ReadWriteBufferArray × FixedSizeBufferPool :=
  ({}, a.buffers.foldl (fun pool buffer => pool.returnBuffer buffer) pool)

/-- What an iterator stands for. -/
def dereference (bufferSize : ℕ) (a : ReadWriteBufferArray) (currentIndex : ℕ) : List UInt8 :=
  match a.buffers[currentIndex]? with
  | none => []
  | some buffer =>
    if (currentIndex : ℤ) < a.latestBuffer then buffer.data.take bufferSize
    else buffer.data.take a.usedBytesInLatestBuffer

/-- The buffers from `begin` to `end`. -/
def constBufferWrapper (bufferSize : ℕ) (a : ReadWriteBufferArray) : List (List UInt8) :=
  (List.range (max a.latestBuffer 0 + 1).toNat).map (a.dereference bufferSize)

/-- Writes, one after the other. -/
def writeAll (bufferSize maxNrOfBuffers : ℕ) :
    List (List UInt8) → ReadWriteBufferArray → FixedSizeBufferPool → List Bool × ReadWriteBufferArray × FixedSizeBufferPool
  | [], a, pool => ([], a, pool)
  | input :: inputs, a, pool =>
    let (ok, a, pool) := a.write bufferSize maxNrOfBuffers input pool
    let (results, a, pool) := writeAll bufferSize maxNrOfBuffers inputs a pool
    (ok :: results, a, pool)

/-! ### The bytes of an array -/

/-- The bytes that are exposed. -/
def contents (bufferSize : ℕ) (a : ReadWriteBufferArray) : List UInt8 := (a.constBufferWrapper bufferSize).flatten

/-- How many bytes an array can have, with the buffers of the pool. -/
def capacity (bufferSize maxNrOfBuffers : ℕ) (a : ReadWriteBufferArray) (pool : FixedSizeBufferPool) : ℕ :=
  min maxNrOfBuffers (a.buffers.length + pool.available) * bufferSize

/-- The array has no more buffers than it may, all of the same size, the latest one is not overfull, and what the pool
lacks is these and the buffers of others. -/
structure Sound (bufferSize maxNrOfBuffers : ℕ) (others : List ℕ) (a : ReadWriteBufferArray)
    (pool : FixedSizeBufferPool) : Prop where
  count : a.buffers.length ≤ maxNrOfBuffers
  sizes : ∀ buffer ∈ a.buffers, buffer.data.length = bufferSize
  used : a.usedBytesInLatestBuffer ≤ bufferSize
  holds : pool.Holds bufferSize (a.buffers.map LeasedBuffer.index ++ others)

variable {bufferSize maxNrOfBuffers : ℕ} {others : List ℕ} {a : ReadWriteBufferArray} {pool : FixedSizeBufferPool}

theorem contents_nil (h : a.buffers = []) : a.contents bufferSize = [] := by
  have hnone : ∀ i, a.dereference bufferSize i = [] := by
    intro i
    unfold dereference
    rw [h, List.getElem?_nil]
  unfold contents constBufferWrapper
  rw [List.flatten_eq_nil_iff]
  intro bytes hbytes
  obtain ⟨i, -, rfl⟩ := List.mem_map.1 hbytes
  exact hnone i

/-- All buffers but the latest are exposed as a whole. -/
theorem constBufferWrapper_concat {full : List LeasedBuffer} {latest : LeasedBuffer} (h : a.buffers = full ++ [latest]) :
    a.constBufferWrapper bufferSize =
      full.map (fun buffer => buffer.data.take bufferSize) ++ [latest.data.take a.usedBytesInLatestBuffer] := by
  have hlatest : a.latestBuffer = full.length := by
    unfold latestBuffer
    rw [h, List.length_append, List.length_singleton]
    omega
  have hlast : a.dereference bufferSize full.length = latest.data.take a.usedBytesInLatestBuffer := by
    unfold dereference
    rw [h, List.getElem?_concat_length, hlatest]
    exact if_neg (by omega)
  have hfull : (List.range full.length).map (a.dereference bufferSize) =
      full.map fun buffer => buffer.data.take bufferSize := by
    refine List.ext_getElem (by rw [List.length_map, List.length_map, List.length_range]) fun i hi hi' => ?_
    rw [List.length_map] at hi'
    rw [List.getElem_map, List.getElem_map, List.getElem_range]
    unfold dereference
    rw [h, List.getElem?_append_left hi', List.getElem?_eq_getElem hi', hlatest]
    exact if_pos (by omega)
  unfold constBufferWrapper
  rw [hlatest, show (max (full.length : ℤ) 0 + 1).toNat = full.length + 1 by omega, List.range_succ, List.map_append, hfull,
    List.map_singleton, hlast]

theorem contents_concat {full : List LeasedBuffer} {latest : LeasedBuffer} (h : a.buffers = full ++ [latest]) :
    a.contents bufferSize =
      (full.map fun buffer => buffer.data.take bufferSize).flatten ++ latest.data.take a.usedBytesInLatestBuffer := by
  unfold contents
  rw [constBufferWrapper_concat h, List.flatten_append, List.flatten_singleton]

/-- When nothing is left in the latest buffer, all are exposed as a whole. -/
theorem contents_of_full (h : a.buffers = [] ∨ a.usedBytesInLatestBuffer = bufferSize) :
    a.contents bufferSize = (a.buffers.map fun buffer => buffer.data.take bufferSize).flatten := by
  rcases List.eq_nil_or_concat a.buffers with hnil | ⟨full, latest, hconcat⟩
  · rw [contents_nil hnil, hnil]
    rfl
  · rw [List.concat_eq_append] at hconcat
    have hused : a.usedBytesInLatestBuffer = bufferSize := by
      rcases h with hnil | hused
      · rw [hnil] at hconcat
        exact absurd hconcat.symm (List.append_ne_nil_of_right_ne_nil _ (List.cons_ne_nil _ _))
      · exact hused
    rw [contents_concat hconcat, hconcat, hused, List.map_append, List.flatten_append, List.map_singleton,
      List.flatten_singleton]

theorem length_full {full : List LeasedBuffer} (h : ∀ buffer ∈ full, buffer.data.length = bufferSize) :
    (full.map fun buffer => buffer.data.take bufferSize).flatten.length = full.length * bufferSize := by
  induction full with
  | nil => simp
  | cons buffer full ih =>
    have hfirst := h buffer List.mem_cons_self
    rw [List.map_cons, List.flatten_cons, List.length_append, ih fun other hother => h other (List.mem_cons_of_mem _ hother),
      List.length_take, hfirst, Nat.min_self, List.length_cons, Nat.succ_mul, Nat.add_comm]

/-- `size` is the number of the bytes that are exposed. -/
theorem Sound.size_eq (h : a.Sound bufferSize maxNrOfBuffers others pool) :
    a.size bufferSize = (a.contents bufferSize).length := by
  rcases List.eq_nil_or_concat a.buffers with hnil | ⟨full, latest, hconcat⟩
  · rw [contents_nil hnil]
    unfold size latestBuffer
    rw [hnil]
    rfl
  · rw [List.concat_eq_append] at hconcat
    have hsizes := h.sizes
    rw [hconcat] at hsizes
    have hlatest := hsizes latest (List.mem_append_right _ List.mem_cons_self)
    have hused := h.used
    rw [contents_concat hconcat, List.length_append, length_full fun buffer hmem =>
      hsizes buffer (List.mem_append_left _ hmem), List.length_take, hlatest, Nat.min_eq_left hused]
    unfold size latestBuffer
    rw [hconcat, List.length_append, List.length_singleton, if_neg (by omega)]
    push_cast
    rw [show ((full.length : ℤ) + 1 - 1) = full.length by omega]

/-- The exposed bytes fit the buffers that there are. -/
theorem Sound.length_contents (h : a.Sound bufferSize maxNrOfBuffers others pool) :
    (a.contents bufferSize).length + (if a.buffers = [] then 0 else bufferSize - a.usedBytesInLatestBuffer) =
      a.buffers.length * bufferSize := by
  rcases List.eq_nil_or_concat a.buffers with hnil | ⟨full, latest, hconcat⟩
  · rw [contents_nil hnil, hnil]
    simp
  · rw [List.concat_eq_append] at hconcat
    have hsizes := h.sizes
    rw [hconcat] at hsizes
    have hlatest := hsizes latest (List.mem_append_right _ List.mem_cons_self)
    have hused := h.used
    rw [contents_concat hconcat, List.length_append, length_full fun buffer hmem =>
      hsizes buffer (List.mem_append_left _ hmem), List.length_take, hlatest, Nat.min_eq_left hused, hconcat,
      if_neg (by simp), List.length_append, List.length_singleton, Nat.add_mul, Nat.one_mul]
    omega

theorem copyToLatest_concat {full : List LeasedBuffer} {latest : LeasedBuffer} (h : a.buffers = full ++ [latest])
    (input : List UInt8) : a.copyToLatest input = { a with
      buffers := full ++ [{ latest with
        data := latest.data.take a.usedBytesInLatestBuffer ++ input ++
          latest.data.drop (a.usedBytesInLatestBuffer + input.length) }]
      usedBytesInLatestBuffer := a.usedBytesInLatestBuffer + input.length } := by
  unfold ReadWriteBufferArray.copyToLatest
  rw [h, List.getLast?_concat]
  dsimp only
  rw [List.dropLast_concat]

/-- What fits the latest buffer is copied behind what there is. -/
theorem Sound.copyToLatest (h : a.Sound bufferSize maxNrOfBuffers others pool) {input : List UInt8} (hne : a.buffers ≠ [])
    (hroom : a.usedBytesInLatestBuffer + input.length ≤ bufferSize) :
    (a.copyToLatest input).Sound bufferSize maxNrOfBuffers others pool ∧
      (a.copyToLatest input).contents bufferSize = a.contents bufferSize ++ input ∧
      (a.copyToLatest input).buffers.length = a.buffers.length ∧
      (a.copyToLatest input).notEnoughRoom = a.notEnoughRoom := by
  rcases List.eq_nil_or_concat a.buffers with hnil | ⟨full, latest, hconcat⟩
  · exact absurd hnil hne
  · rw [List.concat_eq_append] at hconcat
    have hsizes := h.sizes
    rw [hconcat] at hsizes
    have hlatest := hsizes latest (List.mem_append_right _ List.mem_cons_self)
    have hused := h.used
    have hcopy := copyToLatest_concat hconcat input
    have hlength : a.buffers.length = full.length + 1 := by
      rw [hconcat, List.length_append, List.length_singleton]
    refine ⟨⟨?_, ?_, ?_, ?_⟩, ?_, ?_, ?_⟩
    · rw [hcopy]
      have hcount := h.count
      simp only [List.length_append, List.length_singleton]
      omega
    · rw [hcopy]
      intro buffer hbuffer
      rcases List.mem_append.1 hbuffer with hmem | hmem
      · exact hsizes buffer (List.mem_append_left _ hmem)
      · obtain rfl := List.mem_singleton.1 hmem
        simp only [List.length_append, List.length_take, List.length_drop]
        omega
    · rw [hcopy]
      exact hroom
    · have hholds := h.holds
      rw [hconcat, List.map_append] at hholds
      rw [hcopy, List.map_append]
      exact hholds
    · rw [contents_concat hconcat, contents_concat (by rw [hcopy]), hcopy]
      have htake : (latest.data.take a.usedBytesInLatestBuffer).length = a.usedBytesInLatestBuffer := by
        rw [List.length_take]
        omega
      dsimp only
      rw [List.append_assoc _ _ input, List.take_left' (by rw [List.length_append, htake])]
    · rw [hcopy, hlength]
      simp
    · rw [hcopy]

/-- The array with one more buffer of the pool. -/
theorem Sound.leased (h : a.Sound bufferSize maxNrOfBuffers others pool) (hcount : a.buffers.length < maxNrOfBuffers)
    {buffer : LeasedBuffer} {pool' : FixedSizeBufferPool} (hlease : pool.leaseBuffer = some (buffer, pool')) :
    ({ a with buffers := a.buffers ++ [buffer], usedBytesInLatestBuffer := 0 } : ReadWriteBufferArray).Sound bufferSize
      maxNrOfBuffers others pool' := by
  obtain ⟨hholds, hdata, -⟩ := h.holds.leaseBuffer hlease
  refine ⟨?_, ?_, Nat.zero_le _, ?_⟩
  · simp only [List.length_append, List.length_singleton]
    omega
  · intro other hother
    rcases List.mem_append.1 hother with hmem | hmem
    · exact h.sizes other hmem
    · rw [List.mem_singleton.1 hmem, hdata]
  · refine hholds.perm ?_
    rw [List.map_append, List.append_assoc]
    exact List.perm_middle.symm

/-- What the search for space comes to: the capacity is used up, or there is space in a latest buffer. -/
theorem Sound.findSpace (h : a.Sound bufferSize maxNrOfBuffers others pool) (hsize : 0 < bufferSize) :
    (a.findSpace bufferSize maxNrOfBuffers pool = none ∧
      (a.contents bufferSize).length = a.capacity bufferSize maxNrOfBuffers pool) ∨
    ∃ space a' pool', a.findSpace bufferSize maxNrOfBuffers pool = some (space, a', pool') ∧
      a'.Sound bufferSize maxNrOfBuffers others pool' ∧ a'.contents bufferSize = a.contents bufferSize ∧
      a'.capacity bufferSize maxNrOfBuffers pool' = a.capacity bufferSize maxNrOfBuffers pool ∧
      a'.notEnoughRoom = a.notEnoughRoom ∧ a'.buffers ≠ [] ∧ 0 < space ∧
      a'.usedBytesInLatestBuffer + space = bufferSize := by
  have hcount := h.count
  have hused := h.used
  have hlatest : a.latestBuffer = a.buffers.length - 1 := rfl
  unfold ReadWriteBufferArray.findSpace
  split_ifs with hfull
  · have hall : a.buffers = [] ∨ a.usedBytesInLatestBuffer = bufferSize := by
      rcases hfull with hnone | hspace
      · exact Or.inl (List.length_eq_zero_iff.1 (by omega))
      · exact Or.inr (by omega)
    have hlength : (a.contents bufferSize).length = a.buffers.length * bufferSize := by
      rw [contents_of_full hall, length_full h.sizes]
    unfold requestNewBuffer
    split_ifs with hmax
    · left
      refine ⟨rfl, ?_⟩
      unfold capacity
      rw [hlength, Nat.min_eq_left (by omega), show maxNrOfBuffers = a.buffers.length by omega]
    · cases hlease : pool.leaseBuffer with
      | none =>
        left
        refine ⟨rfl, ?_⟩
        unfold capacity
        rw [hlength, FixedSizeBufferPool.leaseBuffer_eq_none.1 hlease, Nat.add_zero, Nat.min_eq_right hcount]
      | some leased =>
        obtain ⟨buffer, pool'⟩ := leased
        obtain ⟨-, -, havailable⟩ := h.holds.leaseBuffer hlease
        right
        refine ⟨bufferSize, { a with buffers := a.buffers ++ [buffer], usedBytesInLatestBuffer := 0 }, pool', rfl,
          h.leased (by omega) hlease, ?_, ?_, rfl, ?_, hsize, Nat.zero_add _⟩
        · rw [contents_concat rfl, contents_of_full hall, List.take_zero, List.append_nil]
        · unfold capacity
          simp only [List.length_append, List.length_singleton]
          rw [havailable, Nat.add_assoc, Nat.add_comm 1]
        · simp
  · right
    refine ⟨_, a, pool, rfl, h, rfl, rfl, rfl, ?_, ?_, ?_⟩
    · intro hnil
      rw [hnil] at hlatest
      have hneg : a.latestBuffer < 0 := by
        rw [hlatest]
        decide
      exact hfull (Or.inl hneg)
    · omega
    · omega

/-! ### Writes -/

theorem Sound.length_le_capacity (h : a.Sound bufferSize maxNrOfBuffers others pool) :
    (a.contents bufferSize).length ≤ a.capacity bufferSize maxNrOfBuffers pool := by
  have hlength := h.length_contents
  have hmin : a.buffers.length ≤ min maxNrOfBuffers (a.buffers.length + pool.available) :=
    Nat.le_min.2 ⟨h.count, Nat.le_add_right _ _⟩
  have hmul := Nat.mul_le_mul_right bufferSize hmin
  unfold capacity
  omega

/-- What a write comes to: as much is added as fits the capacity, which stays, and it reports whether that is all. -/
structure Written (bufferSize maxNrOfBuffers : ℕ) (others : List ℕ) (input : List UInt8) (a : ReadWriteBufferArray)
    (pool : FixedSizeBufferPool) (result : Bool × ReadWriteBufferArray × FixedSizeBufferPool) : Prop where
  sound : result.2.1.Sound bufferSize maxNrOfBuffers others result.2.2
  contents : result.2.1.contents bufferSize =
    (a.contents bufferSize ++ input).take (a.capacity bufferSize maxNrOfBuffers pool)
  capacity : result.2.1.capacity bufferSize maxNrOfBuffers result.2.2 = a.capacity bufferSize maxNrOfBuffers pool
  ok : result.1 = decide ((a.contents bufferSize).length + input.length ≤ a.capacity bufferSize maxNrOfBuffers pool)
  notEnoughRoom : result.2.1.notEnoughRoom = (a.notEnoughRoom || !result.1)

theorem Sound.written_nil (h : a.Sound bufferSize maxNrOfBuffers others pool) :
    Written bufferSize maxNrOfBuffers others [] a pool (true, a, pool) where
  sound := h
  contents := by
    rw [List.append_nil, List.take_of_length_le h.length_le_capacity]
  capacity := rfl
  ok := (decide_eq_true h.length_le_capacity).symm
  notEnoughRoom := (Bool.or_false _).symm

/-- The input fits the latest buffer. -/
theorem Sound.written_latest (h : a.Sound bufferSize maxNrOfBuffers others pool) (input : List UInt8) (hne : a.buffers ≠ [])
    (hroom : a.usedBytesInLatestBuffer + input.length ≤ bufferSize) :
    Written bufferSize maxNrOfBuffers others input a pool (true, a.copyToLatest input, pool) := by
  obtain ⟨hsound, hcontents, hbuffers, hkept⟩ := h.copyToLatest hne hroom
  have hcapacity : (a.copyToLatest input).capacity bufferSize maxNrOfBuffers pool =
      a.capacity bufferSize maxNrOfBuffers pool := by
    unfold ReadWriteBufferArray.capacity
    rw [hbuffers]
  have hle := hsound.length_le_capacity
  rw [hcapacity, hcontents] at hle
  refine ⟨hsound, ?_, hcapacity, ?_, ?_⟩
  · rw [List.take_of_length_le hle]
    exact hcontents
  · rw [List.length_append] at hle
    exact (decide_eq_true hle).symm
  · rw [hkept]
    exact (Bool.or_false _).symm

/-- There are neither bytes left in the latest buffer nor other buffers. -/
theorem Sound.written_full (h : a.Sound bufferSize maxNrOfBuffers others pool) {input : List UInt8} (hne : input ≠ [])
    (hfull : (a.contents bufferSize).length = a.capacity bufferSize maxNrOfBuffers pool) :
    Written bufferSize maxNrOfBuffers others input a pool (false, { a with notEnoughRoom := true }, pool) where
  sound := ⟨h.count, h.sizes, h.used, h.holds⟩
  contents := by
    rw [List.take_left' hfull]
    rfl
  capacity := rfl
  ok := by
    have hpos := List.length_pos_iff.2 hne
    exact (decide_eq_false (by omega)).symm
  notEnoughRoom := (Bool.or_true _).symm

/-- By induction on the turns: a turn that goes on copies what fits the latest buffer. -/
theorem Sound.writeLoop (hsize : 0 < bufferSize) {turns : ℕ} {input : List UInt8}
    (h : a.Sound bufferSize maxNrOfBuffers others pool) (hturns : input.length ≤ turns) :
    Written bufferSize maxNrOfBuffers others input a pool (writeLoop bufferSize maxNrOfBuffers turns input a pool) := by
  induction turns generalizing input a pool with
  | zero =>
    obtain rfl := List.length_eq_zero_iff.1 (Nat.le_zero.1 hturns)
    exact h.written_nil
  | succ turns ih =>
    unfold ReadWriteBufferArray.writeLoop
    split_ifs with hnil hfits
    · rw [hnil]
      exact h.written_nil
    · have hused := h.used
      refine h.written_latest _ (fun hempty => ?_) (by omega)
      have hlatest : a.latestBuffer = a.buffers.length - 1 := rfl
      rw [hempty] at hlatest
      simp only [List.length_nil] at hlatest
      omega
    · rcases h.findSpace hsize with ⟨hnone, hfull⟩ | ⟨space, a', pool', hsome, hsound, hcontents, hcapacity, hkept, hne,
        hpos, hspace⟩
      · rw [hnone]
        exact h.written_full hnil hfull
      · rw [hsome]
        dsimp only
        have hlength := List.length_pos_iff.2 hnil
        have htake : (input.take (min space input.length)).length = min space input.length := by
          rw [List.length_take]
          omega
        have hcopied := hsound.written_latest (input.take (min space input.length)) hne (by omega)
        have hsound' : (a'.copyToLatest (input.take (min space input.length))).Sound bufferSize maxNrOfBuffers others
            pool' := hcopied.sound
        have hcapacity' : (a'.copyToLatest (input.take (min space input.length))).capacity bufferSize maxNrOfBuffers
            pool' = a.capacity bufferSize maxNrOfBuffers pool := hcopied.capacity.trans hcapacity
        have hfits := of_decide_eq_true hcopied.ok.symm
        have hfirst : (a'.copyToLatest (input.take (min space input.length))).contents bufferSize =
            a.contents bufferSize ++ input.take (min space input.length) := by
          rw [← hcontents]
          exact hcopied.contents.trans (List.take_of_length_le (by rw [List.length_append]; exact hfits))
        have hrest := @ih _ _ (input.drop (min space input.length)) hsound' (by rw [List.length_drop]; omega)
        refine ⟨hrest.sound, ?_, hrest.capacity.trans hcapacity', ?_, ?_⟩
        · rw [hrest.contents, hcapacity', hfirst, List.append_assoc, List.take_append_drop]
        · rw [hrest.ok, hcapacity', hfirst, List.length_append, htake, List.length_drop,
            show (a.contents bufferSize).length + min space input.length + (input.length - min space input.length) =
              (a.contents bufferSize).length + input.length by omega]
        · rw [hrest.notEnoughRoom, hcopied.notEnoughRoom, hkept]
          simp

theorem Sound.write (hsize : 0 < bufferSize) (h : a.Sound bufferSize maxNrOfBuffers others pool) (input : List UInt8) :
    Written bufferSize maxNrOfBuffers others input a pool (a.write bufferSize maxNrOfBuffers input pool) := by
  unfold ReadWriteBufferArray.write
  split_ifs with hnil
  · rw [List.length_eq_zero_iff.1 hnil]
    exact h.written_nil
  · exact h.writeLoop hsize (Nat.le_refl _)

/-- What is cut off stays cut off. -/
theorem take_take_append (list more : List UInt8) (n : ℕ) : (list.take n ++ more).take n = (list ++ more).take n := by
  rw [List.take_append, List.take_append, List.take_take, Nat.min_self, List.length_take]
  by_cases hle : n ≤ list.length
  · rw [Nat.min_eq_left hle, Nat.sub_self, Nat.sub_eq_zero_of_le hle]
  · rw [Nat.min_eq_right (by omega)]

/-- Behind writes, what is exposed is as much of what was written as fits the capacity; the writes report that when it was
not all, and then the array has noted it. -/
theorem Sound.writeAll (hsize : 0 < bufferSize) {inputs : List (List UInt8)} {results : List Bool}
    {a' : ReadWriteBufferArray} {pool' : FixedSizeBufferPool} (h : a.Sound bufferSize maxNrOfBuffers others pool)
    (hwrites : writeAll bufferSize maxNrOfBuffers inputs a pool = (results, a', pool')) :
    a'.Sound bufferSize maxNrOfBuffers others pool' ∧
      a'.capacity bufferSize maxNrOfBuffers pool' = a.capacity bufferSize maxNrOfBuffers pool ∧
      a'.contents bufferSize =
        (a.contents bufferSize ++ inputs.flatten).take (a.capacity bufferSize maxNrOfBuffers pool) ∧
      ((∀ ok ∈ results, ok = true) → (a.contents bufferSize).length + inputs.flatten.length ≤
        a.capacity bufferSize maxNrOfBuffers pool) ∧
      (a'.notEnoughRoom = true ↔ a.notEnoughRoom = true ∨ false ∈ results) := by
  induction inputs generalizing a pool results with
  | nil =>
    cases hwrites
    refine ⟨h, rfl, ?_, fun _ => h.length_le_capacity, by simp⟩
    rw [List.flatten_nil, List.append_nil, List.take_of_length_le h.length_le_capacity]
  | cons input inputs ih =>
    have hfirst := h.write hsize input
    rcases hthis : a.write bufferSize maxNrOfBuffers input pool with ⟨ok, a₁, pool₁⟩
    rcases hrest : ReadWriteBufferArray.writeAll bufferSize maxNrOfBuffers inputs a₁ pool₁ with ⟨results₁, a₂, pool₂⟩
    simp only [ReadWriteBufferArray.writeAll, hthis, hrest] at hwrites
    cases hwrites
    rw [hthis] at hfirst
    obtain ⟨hsound, hcapacity, hcontents, hall, hroom⟩ := ih hfirst.sound hrest
    have hcapacity₁ := hfirst.capacity
    have hcontents₁ := hfirst.contents
    have hok := hfirst.ok
    have hroom₁ := hfirst.notEnoughRoom
    dsimp only at hcapacity₁ hcontents₁ hok hroom₁ hcapacity hcontents hall hroom
    refine ⟨hsound, hcapacity.trans hcapacity₁, ?_, fun htrue => ?_, ?_⟩
    · rw [hcontents, hcapacity₁, hcontents₁, take_take_append, List.append_assoc, List.flatten_cons]
    · have hlast := hall fun ok' hok' => htrue ok' (List.mem_cons_of_mem _ hok')
      have hthis := htrue ok List.mem_cons_self
      rw [hok, decide_eq_true_eq] at hthis
      rw [hcapacity₁, hcontents₁, List.take_of_length_le (by rwa [List.length_append]), List.length_append] at hlast
      rw [List.flatten_cons, List.length_append]
      omega
    · rw [hroom, hroom₁, Bool.or_eq_true, Bool.not_eq_true', List.mem_cons, or_assoc]
      constructor
      · rintro (hbefore | hfalse | hmem)
        · exact Or.inl hbefore
        · exact Or.inr (Or.inl hfalse.symm)
        · exact Or.inr (Or.inr hmem)
      · rintro (hbefore | hfalse | hmem)
        · exact Or.inl hbefore
        · exact Or.inr (Or.inl hfalse.symm)
        · exact Or.inr (Or.inr hmem)

/-- The buffers of the array are in the pool again, and nothing else has changed there. -/
theorem Sound.reset (h : a.Sound bufferSize maxNrOfBuffers others pool) : (a.reset pool).2.Holds bufferSize others := by
  obtain ⟨buffers, used, room⟩ := a
  have hsizes := h.sizes
  have hholds := h.holds
  unfold ReadWriteBufferArray.reset
  dsimp only at hsizes hholds ⊢
  clear h
  induction buffers generalizing pool with
  | nil => exact hholds
  | cons buffer buffers ih =>
    have hreturned := hholds.returnBuffer (hsizes buffer List.mem_cons_self)
    exact ih (fun other hother => hsizes other (List.mem_cons_of_mem _ hother)) hreturned

theorem sound_empty (h : pool.Holds bufferSize others) :
    ({} : ReadWriteBufferArray).Sound bufferSize maxNrOfBuffers others pool where
  count := Nat.zero_le _
  sizes := fun _ hbuffer => (by cases hbuffer)
  used := Nat.zero_le _
  holds := h

/-- For every state of the pool and all writes: as long as they report that there was room, all that was written is
exposed; a write reports that there was none when the bytes do not fit the buffers that the array may have or those of the
pool, and then the beginning of what was written is exposed and the array has noted it; a reset leaves the pool to
others as it was. -/
theorem boundedQueue_of_holds {bufferSize maxNrOfBuffers : ℕ} {others : List ℕ} {pool pool' : FixedSizeBufferPool}
    {inputs : List (List UInt8)} {results : List Bool} {a : ReadWriteBufferArray} (hsize : 0 < bufferSize)
    (hpool : pool.Holds bufferSize others)
    (hwrites : writeAll bufferSize maxNrOfBuffers inputs {} pool = (results, a, pool')) :
    ((∀ ok ∈ results, ok = true) → a.size bufferSize = inputs.flatten.length ∧
      (a.constBufferWrapper bufferSize).flatten = inputs.flatten) ∧
    (∀ input, (a.write bufferSize maxNrOfBuffers input pool').1 = false ↔
      maxNrOfBuffers * bufferSize < a.size bufferSize + input.length ∨
      pool.available * bufferSize < a.size bufferSize + input.length) ∧
    (a.constBufferWrapper bufferSize).flatten <+: inputs.flatten ∧
    (a.notEnoughRoom = true ↔ false ∈ results) ∧
    (a.reset pool').1 = {} ∧ (a.reset pool').2.Holds bufferSize others := by
  obtain ⟨hsound, hcapacity, hcontents, hall, hroom⟩ := (sound_empty hpool).writeAll hsize hwrites
  rw [contents_nil (a := {}) rfl, List.nil_append] at hcontents
  rw [contents_nil (a := {}) rfl, List.length_nil, Nat.zero_add] at hall
  have hstart : ({} : ReadWriteBufferArray).capacity bufferSize maxNrOfBuffers pool =
      min maxNrOfBuffers pool.available * bufferSize := by
    unfold ReadWriteBufferArray.capacity
    rw [List.length_nil, Nat.zero_add]
  refine ⟨fun htrue => ?_, fun input => ?_, ?_, ?_, rfl, hsound.reset⟩
  · rw [List.take_of_length_le (hall htrue)] at hcontents
    rw [hsound.size_eq, hcontents]
    exact ⟨rfl, hcontents⟩
  · rw [(hsound.write hsize input).ok, decide_eq_false_iff_not, hcapacity, hstart, hsound.size_eq,
      ← Nat.mul_min_mul_right, Nat.le_min]
    omega
  · show a.contents bufferSize <+: _
    rw [hcontents]
    exact List.take_prefix _ _
  · rw [hroom]
    simp

/-- Three writes to buffers of three bytes, two of which are left in the pool. -/
theorem boundedQueue_threeWrites :
    ∃ a pool', writeAll 3 4 [[1, 2], [3, 4, 5, 6], [7]] {} ⟨fun _ => [0, 0, 0], [1, 0, 2], 1⟩ =
        ([true, true, false], a, pool') ∧
      (a.constBufferWrapper 3).flatten <+: [1, 2, 3, 4, 5, 6, 7] ∧ a.notEnoughRoom = true ∧
        (a.reset pool').2.Holds 3 [1] := by
  have hwrites : writeAll 3 4 [[1, 2], [3, 4, 5, 6], [7]] {} ⟨fun _ => [0, 0, 0], [1, 0, 2], 1⟩ =
    ([true, true, false], _, _) := rfl
  obtain ⟨-, -, hprefix, hroom, -, hpool⟩ :=
    boundedQueue_of_holds (by decide) ⟨fun _ => rfl, rfl, (by decide : [0, 2, 1].Perm [0, 1, 2])⟩ hwrites
  exact ⟨_, _, hwrites, hprefix, hroom.2 (by decide), hpool⟩

end ReadWriteBufferArray

end Forum.Http.Leased
