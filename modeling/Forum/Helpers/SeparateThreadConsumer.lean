import Mathlib.Data.List.Range

/-!
# SeparateThreadConsumer

The bounded double buffer of `SeparateThreadConsumer.h`. Producers write to the slots of one buffer
under `queueMutex_`; the consumer's thread takes the whole buffer by swapping the two under the same
mutex, and works on what it took outside of it. Each section that holds the mutex is one function
here. The type keeps what the class keeps: the two pointers never meet, and no more slots are in use
than there are.
-/

namespace Forum.Helpers

/-- A block of bytes on the heap; `none` is the null pointer. -/
structure SeparateThreadConsumerBlob where
  buffer : Option (List UInt8)
  size : ℕ
  deriving DecidableEq, Inhabited

/-- `SeparateThreadConsumerBlob::free`. -/
def SeparateThreadConsumerBlob.free (blob : SeparateThreadConsumerBlob) : SeparateThreadConsumerBlob :=
  { blob with buffer := none }

/-- The two arrays of the consumer. -/
inductive Buffer
  | buffer1
  | buffer2
  deriving DecidableEq, Repr

/-- The members of the class that both sides share. -/
structure SeparateThreadConsumer (T : Type*) where
  /-- The slots of each array. -/
  capacity : ℕ
  /-- What the two arrays hold. -/
  slots : Buffer → ℕ → T
  /-- The array of the consumer's thread. -/
  readBuffer : Buffer
  /-- The array of the producers. -/
  writeBuffer : Buffer
  /-- The slots of the producers' array that are in use. -/
  bufferUsed : ℕ
  /-- Whether the thread was told to stop. -/
  stopWriteThread : Bool
  distinct : readBuffer ≠ writeBuffer
  bounded : bufferUsed ≤ capacity

namespace SeparateThreadConsumer

variable {T : Type*} (q : SeparateThreadConsumer T)

/-- The state the constructor leaves. -/
def construct [Inhabited T] (capacity : ℕ) : SeparateThreadConsumer T where
  capacity := capacity
  slots _ _ := default
  readBuffer := .buffer2
  writeBuffer := .buffer1
  bufferUsed := 0
  stopWriteThread := false
  distinct := by decide
  bounded := Nat.zero_le _

/-- `tryEnqueue`: refuse the value when the buffer is full, and write it to the next slot otherwise. -/
def tryEnqueue (value : T) : Bool × SeparateThreadConsumer T :=
  if h : q.bufferUsed ≥ q.capacity then (false, q)
  else
    (true, { q with
      slots := fun b i => if b = q.writeBuffer ∧ i = q.bufferUsed then value else q.slots b i
      bufferUsed := q.bufferUsed + 1
      bounded := by omega })

/-- `queueEmpty`. -/
def queueEmpty : Bool := q.bufferUsed == 0

/-- The locked section of `consumeValues`: the array to consume, how much of it, and the swap. -/
def takeValues : (Buffer × ℕ) × SeparateThreadConsumer T :=
  ((q.writeBuffer, q.bufferUsed), { q with
    readBuffer := q.writeBuffer
    writeBuffer := q.readBuffer
    bufferUsed := 0
    distinct := q.distinct.symm
    bounded := Nat.zero_le _ })

/-- Write to a slot of the array that is being consumed. -/
def setSlot (b : Buffer) (i : ℕ) (value : T) : SeparateThreadConsumer T :=
  { q with slots := fun b' i' => if b' = b ∧ i' = i then value else q.slots b' i' }

/-- The values from slot `i` to slot `n` of an array. -/
def segment (b : Buffer) (i n : ℕ) : List T := (List.range' i (n - i)).map (q.slots b)

/-- The values that are in the producers' array. -/
def queued : List T := q.segment q.writeBuffer 0 q.bufferUsed

theorem segment_self (b : Buffer) (n : ℕ) : q.segment b n n = [] := by simp [segment]

theorem segment_cons (b : Buffer) {i n : ℕ} (h : i < n) :
    q.segment b i n = q.slots b i :: q.segment b (i + 1) n := by
  have hlength : n - i = n - (i + 1) + 1 := by omega
  rw [segment, hlength, List.range'_succ, List.map_cons, segment]

theorem segment_succ (b : Buffer) (n : ℕ) : q.segment b 0 (n + 1) = q.segment b 0 n ++ [q.slots b n] := by
  simp [segment, List.range'_1_concat]

/-- A segment depends on its own slots only. -/
theorem segment_congr {q q' : SeparateThreadConsumer T} {b : Buffer} {i n : ℕ}
    (h : ∀ k, i ≤ k → k < n → q'.slots b k = q.slots b k) : q'.segment b i n = q.segment b i n := by
  refine List.map_congr_left fun k hk => ?_
  obtain ⟨hi, hn⟩ := List.mem_range'_1.1 hk
  exact h k hi (by omega)

theorem tryEnqueue_full {value : T} (h : (q.tryEnqueue value).1 = false) : (q.tryEnqueue value).2 = q := by
  unfold tryEnqueue at h ⊢
  split at h
  · rename_i hfull
    rw [dif_pos hfull]
  · cases h

/-- What `tryEnqueue` leaves alone: everything but the next slot of the producers' array. -/
theorem tryEnqueue_frame (value : T) :
    (q.tryEnqueue value).2.readBuffer = q.readBuffer ∧ (q.tryEnqueue value).2.writeBuffer = q.writeBuffer ∧
      (q.tryEnqueue value).2.stopWriteThread = q.stopWriteThread ∧
      ∀ b i, b ≠ q.writeBuffer ∨ i < q.bufferUsed → (q.tryEnqueue value).2.slots b i = q.slots b i := by
  unfold tryEnqueue
  split
  · exact ⟨rfl, rfl, rfl, fun _ _ _ => rfl⟩
  · refine ⟨rfl, rfl, rfl, fun b i h => if_neg ?_⟩
    rintro ⟨rfl, rfl⟩
    rcases h with h | h
    · exact h rfl
    · exact Nat.lt_irrefl _ h

/-- An accepted value is the last one queued. -/
theorem queued_tryEnqueue {value : T} (h : (q.tryEnqueue value).1 = true) :
    (q.tryEnqueue value).2.queued = q.queued ++ [value] := by
  have hused : (q.tryEnqueue value).2.bufferUsed = q.bufferUsed + 1 ∧
      (q.tryEnqueue value).2.slots q.writeBuffer q.bufferUsed = value := by
    unfold tryEnqueue at h ⊢
    split at h
    · cases h
    · rename_i hfull
      rw [dif_neg hfull]
      exact ⟨rfl, if_pos ⟨rfl, rfl⟩⟩
  obtain ⟨hused, hvalue⟩ := hused
  obtain ⟨-, hwrite, -, hslots⟩ := q.tryEnqueue_frame value
  rw [queued, hused, hwrite, segment_succ, hvalue, queued]
  congr 1
  exact segment_congr fun k _ hk => hslots _ _ (.inr hk)

theorem segment_tryEnqueue (value : T) {b : Buffer} (hb : b ≠ q.writeBuffer) (i n : ℕ) :
    (q.tryEnqueue value).2.segment b i n = q.segment b i n :=
  segment_congr fun k _ _ => (q.tryEnqueue_frame value).2.2.2 b k (.inl hb)

@[simp] theorem queued_takeValues : q.takeValues.2.queued = [] := by
  simp [queued, takeValues, segment]

theorem queued_setSlot {b : Buffer} (hb : b ≠ q.writeBuffer) (i : ℕ) (value : T) :
    (q.setSlot b i value).queued = q.queued := by
  refine segment_congr fun k _ _ => if_neg ?_
  rintro ⟨h, -⟩
  exact hb h.symm

end SeparateThreadConsumer

end Forum.Helpers
