import Mathlib.Data.List.Nodup
import Forum.Http.LeasedBuffers
import Forum.Library.Runs

/-!
# Who has which buffer

The threads that lease buffers from one `FixedSizeBufferPool` and return them take turns at its lock. A run is the order in
which they got it. Whatever this order is, and whoever returns what somebody else leased, no buffer is leased twice, and
what can still be leased are the others (`Accounts.of_run`). That is so because the indexes behind the used ones and those
of the leased buffers are together all there are; the indexes in front are stale.
-/

namespace Forum.Http.Leased

open Library

namespace FixedSizeBufferPool

variable {pool pool' : FixedSizeBufferPool} {buffer : LeasedBuffer}

/-- A pool has as many buffers as before. -/
theorem maxBufferCount_leaseBuffer (h : pool.leaseBuffer = some (buffer, pool')) :
    pool'.maxBufferCount = pool.maxBufferCount := by
  unfold leaseBuffer at h
  split_ifs at h
  obtain ⟨index, -, heq⟩ := Option.map_eq_some_iff.1 h
  cases heq
  rfl

theorem maxBufferCount_returnBuffer (buffer : LeasedBuffer) (pool : FixedSizeBufferPool) :
    (pool.returnBuffer buffer).maxBufferCount = pool.maxBufferCount := by
  unfold returnBuffer
  split_ifs
  · rfl
  · exact List.length_set

end FixedSizeBufferPool

/-- The pool and the buffers that were leased from it, with what their holders wrote to them. -/
structure PoolUse where
  pool : FixedSizeBufferPool
  leased : List LeasedBuffer

/-- What happens to a pool. A pointer that is returned is null, one to a leased buffer, or one to something else. -/
inductive PoolCall
  | leaseBuffer
  | fill (index : ℕ) (data : List UInt8)
  | returnBuffer (value : Option ℕ)

namespace PoolUse

/-- Nothing was leased. -/
def start (bufferSize maxBufferCount : ℕ) : PoolUse := ⟨.new bufferSize maxBufferCount, []⟩

/-- A step: a locked section of the pool, or a write of a holder to all of its buffer. A buffer that is not leased is not
returned. -/
def step (bufferSize : ℕ) (s : PoolUse) : PoolCall → Option PoolUse
  | .leaseBuffer =>
    match s.pool.leaseBuffer with
    | none => some s
    | some (buffer, pool) => some ⟨pool, buffer :: s.leased⟩
  | .fill index data =>
    if data.length = bufferSize then
      some { s with leased := s.leased.map fun buffer => if buffer.index = index then { buffer with data := data } else buffer }
    else none
  | .returnBuffer none => some s
  | .returnBuffer (some index) =>
    if s.pool.maxBufferCount ≤ index then some s
    else (s.leased.find? (·.index == index)).map fun buffer => ⟨s.pool.returnBuffer buffer, s.leased.erase buffer⟩

/-- The pool lacks the leased buffers, which have the size of all. -/
structure Accounts (bufferSize maxBufferCount : ℕ) (s : PoolUse) : Prop where
  holds : s.pool.Holds bufferSize (s.leased.map LeasedBuffer.index)
  sizes : ∀ buffer ∈ s.leased, buffer.data.length = bufferSize
  count : s.pool.maxBufferCount = maxBufferCount

variable {bufferSize maxBufferCount : ℕ} {s s' : PoolUse}

theorem accounts_start (bufferSize maxBufferCount : ℕ) : (start bufferSize maxBufferCount).Accounts bufferSize maxBufferCount
    where
  holds := FixedSizeBufferPool.holds_new bufferSize maxBufferCount
  sizes := fun _ h => absurd h List.not_mem_nil
  count := List.length_range

namespace Accounts

/-- Every step keeps the accounts. -/
theorem step {call : PoolCall} (h : s.Accounts bufferSize maxBufferCount) (hstep : s.step bufferSize call = some s') :
    s'.Accounts bufferSize maxBufferCount := by
  cases call with
  | leaseBuffer =>
    unfold PoolUse.step at hstep
    cases hlease : s.pool.leaseBuffer with
    | none =>
      rw [hlease] at hstep
      cases hstep
      exact h
    | some leased =>
      obtain ⟨buffer, pool⟩ := leased
      rw [hlease] at hstep
      cases hstep
      obtain ⟨hholds, hsize, -⟩ := h.holds.leaseBuffer hlease
      refine ⟨hholds, List.forall_mem_cons.2 ⟨hsize, h.sizes⟩, ?_⟩
      exact (FixedSizeBufferPool.maxBufferCount_leaseBuffer hlease).trans h.count
  | fill index data =>
    unfold PoolUse.step at hstep
    dsimp only at hstep
    split_ifs at hstep with hsize
    cases hstep
    refine ⟨?_, ?_, h.count⟩
    · have hsame : (s.leased.map fun buffer => if buffer.index = index then { buffer with data := data } else buffer).map
          LeasedBuffer.index = s.leased.map LeasedBuffer.index := by
        rw [List.map_map]
        refine List.map_congr_left fun buffer _ => ?_
        show (if buffer.index = index then { buffer with data := data } else buffer : LeasedBuffer).index = buffer.index
        split_ifs <;> rfl
      rw [hsame]
      exact h.holds
    · intro buffer hbuffer
      obtain ⟨before, hbefore, rfl⟩ := List.mem_map.1 hbuffer
      split_ifs
      · exact hsize
      · exact h.sizes before hbefore
  | returnBuffer value =>
    cases value with
    | none =>
      cases hstep
      exact h
    | some index =>
      unfold PoolUse.step at hstep
      dsimp only at hstep
      split_ifs at hstep
      · cases hstep
        exact h
      · obtain ⟨buffer, hfind, heq⟩ := Option.map_eq_some_iff.1 hstep
        cases heq
        have hmem := List.mem_of_find?_eq_some hfind
        have hperm : (s.leased.map LeasedBuffer.index).Perm
            (buffer.index :: (s.leased.erase buffer).map LeasedBuffer.index) := (List.perm_cons_erase hmem).map _
        refine ⟨(h.holds.perm hperm).returnBuffer (h.sizes buffer hmem), fun other hother =>
          h.sizes other (List.mem_of_mem_erase hother), ?_⟩
        exact (FixedSizeBufferPool.maxBufferCount_returnBuffer buffer s.pool).trans h.count

/-- Every run keeps them. -/
theorem of_run {calls : List PoolCall} (h : runFrom (PoolUse.step bufferSize) (start bufferSize maxBufferCount) calls = some s) :
    s.Accounts bufferSize maxBufferCount :=
  runFrom_invariant (fun _ _ _ h hstep => h.step hstep) (accounts_start bufferSize maxBufferCount) h

/-- The leased indexes and those behind the used ones are all there are, each once. -/
theorem nodup (h : s.Accounts bufferSize maxBufferCount) :
    (s.pool.availableIndexes.drop s.pool.numberOfUsedBuffers ++ s.leased.map LeasedBuffer.index).Nodup :=
  h.holds.indexes.nodup_iff.2 List.nodup_range

theorem mem_iff (h : s.Accounts bufferSize maxBufferCount) (index : ℕ) :
    (index ∈ s.pool.availableIndexes.drop s.pool.numberOfUsedBuffers ∨ index ∈ s.leased.map LeasedBuffer.index) ↔
      index < maxBufferCount := by
  rw [← List.mem_append, h.holds.indexes.mem_iff, List.mem_range, h.count]

end Accounts

/-- In every run, the leased buffers are different ones, the indexes behind the used ones are those of all the others, each
once, and no buffer is leased only when all of them are. A buffer that is leased next is one that was not. -/
theorem leases_exact {calls : List PoolCall}
    (h : runFrom (step bufferSize) (start bufferSize maxBufferCount) calls = some s) :
    (s.leased.map LeasedBuffer.index).Nodup ∧
      (s.pool.availableIndexes.drop s.pool.numberOfUsedBuffers).Nodup ∧
      (∀ index, index ∈ s.pool.availableIndexes.drop s.pool.numberOfUsedBuffers ↔
        index < maxBufferCount ∧ index ∉ s.leased.map LeasedBuffer.index) ∧
      (s.pool.leaseBuffer = none ↔ s.leased.length = maxBufferCount) ∧
      ∀ buffer pool, s.pool.leaseBuffer = some (buffer, pool) →
        buffer.index < maxBufferCount ∧ buffer.index ∉ s.leased.map LeasedBuffer.index := by
  have hs := Accounts.of_run h
  obtain ⟨havailable, hleased, hdisjoint⟩ := List.nodup_append.1 hs.nodup
  refine ⟨hleased, havailable, fun index => ?_, ?_, fun buffer pool hlease => ?_⟩
  · rw [← hs.mem_iff index]
    exact ⟨fun hmem => ⟨Or.inl hmem, fun hother => hdisjoint index hmem index hother rfl⟩,
      fun ⟨hmem, hnot⟩ => hmem.resolve_right hnot⟩
  · have hused := hs.holds.used
    have hle := hs.holds.used_le
    have hcount := hs.count
    rw [List.length_map] at hused
    rw [FixedSizeBufferPool.leaseBuffer_eq_none]
    unfold FixedSizeBufferPool.available
    omega
  · obtain ⟨hholds, -⟩ := hs.holds.leaseBuffer hlease
    obtain ⟨-, hnext, -⟩ := List.nodup_append.1 (hholds.indexes.nodup_iff.2 List.nodup_range)
    refine ⟨?_, (List.nodup_cons.1 hnext).1⟩
    have hmem := hholds.indexes.subset (List.mem_append_right _ List.mem_cons_self)
    rw [FixedSizeBufferPool.maxBufferCount_leaseBuffer hlease, hs.count] at hmem
    exact List.mem_range.1 hmem

/-- Three of four buffers are leased, and returned in another order. -/
theorem leases_exact_mixed : ∃ s, runFrom (step 1) (start 1 4) [.leaseBuffer, .leaseBuffer, .leaseBuffer, .returnBuffer (some 0),
      .fill 2 [7], .returnBuffer (some 2), .returnBuffer none, .leaseBuffer] = some s ∧
    s.leased.map LeasedBuffer.index = [2, 1] ∧ s.pool.availableIndexes = [0, 2, 0, 3] ∧
      (s.leased.map LeasedBuffer.index).Nodup ∧ (s.pool.leaseBuffer = none ↔ s.leased.length = 4) := by
  have hrun : runFrom (step 1) (start 1 4) [.leaseBuffer, .leaseBuffer, .leaseBuffer, .returnBuffer (some 0), .fill 2 [7],
      .returnBuffer (some 2), .returnBuffer none, .leaseBuffer] = some _ := rfl
  obtain ⟨hnodup, -, -, hnone, -⟩ := leases_exact hrun
  exact ⟨_, hrun, rfl, rfl, hnodup, hnone⟩

end PoolUse

end Forum.Http.Leased
