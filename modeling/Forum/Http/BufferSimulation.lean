import Forum.Http.HttpConnection
import Forum.Http.LeasedBuffers

/-!
# Buffers with and without their pool

A connection does not look at the buffers of its arrays beyond the bytes that are used, nor at a pool beyond whether it has
another buffer. `used_of_holds` says that arrays with leased buffers behave like that: what a connection sees of them
behind any writes is what its own arrays come to.
-/

namespace Forum.Http

/-! ### Writes to the buffers that are used -/

namespace ReadWriteBufferArray

variable {bufferSize maxNrOfBuffers : ℕ} {a : ReadWriteBufferArray} {input rest : List UInt8}

/-- What is left in the latest buffer. -/
def room (bufferSize : ℕ) (a : ReadWriteBufferArray) : ℕ :=
  if a.buffers = [] then 0 else bufferSize - a.usedBytesInLatestBuffer

theorem room_concat {buffers : List (List UInt8)} {latest : List UInt8} (h : a.buffers = buffers ++ [latest]) :
    a.room bufferSize = bufferSize - latest.length := by
  unfold room usedBytesInLatestBuffer
  rw [h, List.getLast?_concat, if_neg (List.append_ne_nil_of_right_ne_nil _ (List.cons_ne_nil _ _))]
  rfl

theorem appendToLatest_concat {buffers : List (List UInt8)} {latest : List UInt8} (h : a.buffers = buffers ++ [latest])
    (bytes : List UInt8) : a.appendToLatest bytes = buffers ++ [latest ++ bytes] := by
  unfold appendToLatest
  rw [h, List.getLast?_concat, List.dropLast_concat]
  rfl

theorem appendToLatest_nil : a.appendToLatest [] = a.buffers := by
  rcases List.eq_nil_or_concat a.buffers with hnil | ⟨buffers, latest, hconcat⟩
  · unfold appendToLatest
    rw [hnil]
    rfl
  · rw [List.concat_eq_append] at hconcat
    rw [appendToLatest_concat hconcat, List.append_nil, hconcat]

theorem write_eq : a.write bufferSize maxNrOfBuffers input =
    writeToNewBuffers bufferSize (maxNrOfBuffers - a.buffers.length) (input.drop (a.room bufferSize))
      { a with buffers := a.appendToLatest (input.take (a.room bufferSize)) } :=
  rfl

theorem write_nil : a.write bufferSize maxNrOfBuffers [] = (true, a) := by
  rw [write_eq, List.take_nil, List.drop_nil, appendToLatest_nil, writeToNewBuffers]

/-- What fits the latest buffer goes there. -/
theorem write_of_le_room (h : input.length ≤ a.room bufferSize) :
    a.write bufferSize maxNrOfBuffers input = (true, { a with buffers := a.appendToLatest input }) := by
  rw [write_eq, List.drop_of_length_le h, List.take_of_length_le h, writeToNewBuffers]

/-- A write fills the latest buffer first. -/
theorem write_append (hne : a.buffers ≠ []) (h : input.length = a.room bufferSize) :
    a.write bufferSize maxNrOfBuffers (input ++ rest) =
      { a with buffers := a.appendToLatest input }.write bufferSize maxNrOfBuffers rest := by
  obtain ⟨buffers, latest, hconcat⟩ := (List.eq_nil_or_concat a.buffers).resolve_left hne
  rw [List.concat_eq_append] at hconcat
  have hroom : ({ a with buffers := a.appendToLatest input } : ReadWriteBufferArray).room bufferSize = 0 := by
    rw [room_concat (appendToLatest_concat hconcat input), List.length_append, h, room_concat hconcat]
    omega
  have hlength : (a.appendToLatest input).length = a.buffers.length := by
    rw [appendToLatest_concat hconcat, hconcat]
    simp
  rw [write_eq, write_eq, hroom, List.drop_left' h, List.take_left' h, List.take_zero, List.drop_zero, appendToLatest_nil,
    hlength]

/-- There is no other buffer to write to. -/
theorem write_of_full (hne : input ≠ []) (hroom : a.room bufferSize = 0)
    (hfull : maxNrOfBuffers ≤ a.buffers.length ∨ a.pool = []) :
    a.write bufferSize maxNrOfBuffers input = (false, { a with notEnoughRoom := true }) := by
  obtain ⟨c, input, rfl⟩ := List.exists_cons_of_ne_nil hne
  rw [write_eq, hroom, List.take_zero, List.drop_zero, appendToLatest_nil]
  rcases hfull with hcount | hpool
  · rw [Nat.sub_eq_zero_of_le hcount, writeToNewBuffers]
  · rcases Nat.eq_zero_or_pos (maxNrOfBuffers - a.buffers.length) with hzero | hpos
    · rw [hzero, writeToNewBuffers]
    · obtain ⟨more, hmore⟩ := Nat.exists_eq_add_of_le' hpos
      rw [hmore, writeToNewBuffers, if_neg (by rw [hpool]; exact nofun), hpool]
      rfl

/-- The bytes go to a new buffer. -/
theorem write_of_leased (hne : input ≠ []) (hroom : a.room bufferSize = 0) (hcount : a.buffers.length < maxNrOfBuffers)
    {pool : List Bool} (hpool : a.pool = true :: pool) :
    a.write bufferSize maxNrOfBuffers input =
      { a with buffers := a.buffers ++ [[]], pool := pool }.write bufferSize maxNrOfBuffers input := by
  obtain ⟨c, input, rfl⟩ := List.exists_cons_of_ne_nil hne
  have hnew : ({ a with buffers := a.buffers ++ [[]], pool := pool } : ReadWriteBufferArray).room bufferSize =
      bufferSize := by
    rw [room_concat rfl, List.length_nil, Nat.sub_zero]
  rw [write_eq, write_eq, hroom, hnew, List.take_zero, List.drop_zero, appendToLatest_nil, appendToLatest_concat rfl,
    List.length_append, List.length_singleton, List.nil_append]
  obtain ⟨more, hmore⟩ := Nat.exists_eq_add_of_lt hcount
  rw [show maxNrOfBuffers - a.buffers.length = more + 1 by omega,
    show maxNrOfBuffers - (a.buffers.length + 1) = more by omega, writeToNewBuffers, hpool, if_pos (List.head?_cons)]
  rfl

/-- Writes, one after the other. -/
def writeAll (bufferSize maxNrOfBuffers : ℕ) :
    List (List UInt8) → ReadWriteBufferArray → List Bool × ReadWriteBufferArray
  | [], a => ([], a)
  | input :: inputs, a =>
    let (ok, a) := a.write bufferSize maxNrOfBuffers input
    let (results, a) := writeAll bufferSize maxNrOfBuffers inputs a
    (ok :: results, a)

end ReadWriteBufferArray

/-! ### Leased buffers that are used -/

namespace Leased.ReadWriteBufferArray

/-- What a connection sees: the bytes of the buffers that are used, and what the pool answers when nobody else uses it. -/
def used (bufferSize : ℕ) (a : ReadWriteBufferArray) (pool : FixedSizeBufferPool) : Http.ReadWriteBufferArray where
  buffers := if a.buffers = [] then [] else a.constBufferWrapper bufferSize
  notEnoughRoom := a.notEnoughRoom
  pool := List.replicate pool.available true

variable {bufferSize maxNrOfBuffers : ℕ} {others : List ℕ} {a : ReadWriteBufferArray} {pool : FixedSizeBufferPool}

theorem used_eq {b : Http.ReadWriteBufferArray} (hbuffers : (a.used bufferSize pool).buffers = b.buffers)
    (hroom : a.notEnoughRoom = b.notEnoughRoom) (hpool : List.replicate pool.available true = b.pool) :
    a.used bufferSize pool = b := by
  obtain ⟨buffers, notEnoughRoom, answers⟩ := b
  dsimp only at hbuffers hroom hpool
  subst hbuffers hroom hpool
  rfl

theorem used_buffers_nil (h : a.buffers = []) : (a.used bufferSize pool).buffers = [] := if_pos h

theorem used_buffers_concat {full : List LeasedBuffer} {latest : LeasedBuffer} (h : a.buffers = full ++ [latest]) :
    (a.used bufferSize pool).buffers =
      full.map (fun buffer => buffer.data.take bufferSize) ++ [latest.data.take a.usedBytesInLatestBuffer] := by
  have hne : a.buffers ≠ [] := by
    rw [h]
    exact List.append_ne_nil_of_right_ne_nil _ (List.cons_ne_nil _ _)
  exact (if_neg hne).trans (constBufferWrapper_concat h)

theorem length_used_buffers : (a.used bufferSize pool).buffers.length = a.buffers.length := by
  rcases List.eq_nil_or_concat a.buffers with hnil | ⟨full, latest, hconcat⟩
  · rw [used_buffers_nil hnil, hnil]
    rfl
  · rw [List.concat_eq_append] at hconcat
    rw [used_buffers_concat hconcat, hconcat]
    simp

theorem Sound.room_used (h : a.Sound bufferSize maxNrOfBuffers others pool) (hne : a.buffers ≠ []) :
    (a.used bufferSize pool).room bufferSize = bufferSize - a.usedBytesInLatestBuffer := by
  obtain ⟨full, latest, hconcat⟩ := (List.eq_nil_or_concat a.buffers).resolve_left hne
  rw [List.concat_eq_append] at hconcat
  have hlatest := h.sizes latest (by rw [hconcat]; exact List.mem_append_right _ List.mem_cons_self)
  have hused := h.used
  rw [Http.ReadWriteBufferArray.room_concat (used_buffers_concat hconcat), List.length_take, hlatest, Nat.min_eq_left hused]

/-- What is copied is seen behind the bytes that were used. -/
theorem Sound.used_copyToLatest (h : a.Sound bufferSize maxNrOfBuffers others pool) (input : List UInt8)
    (hne : a.buffers ≠ []) :
    (a.copyToLatest input).used bufferSize pool =
      { a.used bufferSize pool with buffers := (a.used bufferSize pool).appendToLatest input } := by
  obtain ⟨full, latest, hconcat⟩ := (List.eq_nil_or_concat a.buffers).resolve_left hne
  rw [List.concat_eq_append] at hconcat
  have hlatest := h.sizes latest (by rw [hconcat]; exact List.mem_append_right _ List.mem_cons_self)
  have htake : (latest.data.take a.usedBytesInLatestBuffer).length = a.usedBytesInLatestBuffer := by
    rw [List.length_take, hlatest, Nat.min_eq_left h.used]
  rw [copyToLatest_concat hconcat]
  refine used_eq ?_ rfl rfl
  rw [Http.ReadWriteBufferArray.appendToLatest_concat (used_buffers_concat hconcat), used_buffers_concat rfl]
  dsimp only
  rw [List.take_left' (by rw [List.length_append, htake])]

/-- A buffer that is leased is seen as one more that is empty, when the others are used up. -/
theorem used_of_leased (hall : a.buffers = [] ∨ a.usedBytesInLatestBuffer = bufferSize) (buffer : LeasedBuffer)
    (pool' : FixedSizeBufferPool) :
    ({ a with buffers := a.buffers ++ [buffer], usedBytesInLatestBuffer := 0 } : ReadWriteBufferArray).used bufferSize pool' =
      { a.used bufferSize pool with
        buffers := (a.used bufferSize pool).buffers ++ [[]]
        pool := List.replicate pool'.available true } := by
  refine used_eq ?_ rfl rfl
  rw [used_buffers_concat rfl, List.take_zero]
  dsimp only
  congr 1
  rcases List.eq_nil_or_concat a.buffers with hnil | ⟨full, latest, hconcat⟩
  · rw [used_buffers_nil hnil, hnil]
    rfl
  · rw [List.concat_eq_append] at hconcat
    have hused : a.usedBytesInLatestBuffer = bufferSize := hall.resolve_left fun hnil => by
      rw [hnil] at hconcat
      exact absurd hconcat.symm (List.append_ne_nil_of_right_ne_nil _ (List.cons_ne_nil _ _))
    rw [used_buffers_concat hconcat, hconcat, hused, List.map_append, List.map_singleton]

/-- What the search for space is seen as: there is none, or a write goes on in the latest buffer. -/
theorem Sound.used_findSpace (h : a.Sound bufferSize maxNrOfBuffers others pool) (hsize : 0 < bufferSize)
    {input : List UInt8} (hne : input ≠ []) :
    (a.findSpace bufferSize maxNrOfBuffers pool = none ∧
      (a.used bufferSize pool).write bufferSize maxNrOfBuffers input =
        (false, { a.used bufferSize pool with notEnoughRoom := true })) ∨
    ∃ space a' pool', a.findSpace bufferSize maxNrOfBuffers pool = some (space, a', pool') ∧
      a'.Sound bufferSize maxNrOfBuffers others pool' ∧ a'.buffers ≠ [] ∧ 0 < space ∧
      a'.usedBytesInLatestBuffer + space = bufferSize ∧
      (a.used bufferSize pool).write bufferSize maxNrOfBuffers input =
        (a'.used bufferSize pool').write bufferSize maxNrOfBuffers input := by
  have hcount := h.count
  have hused := h.used
  have hlatest : a.latestBuffer = a.buffers.length - 1 := rfl
  unfold ReadWriteBufferArray.findSpace
  split_ifs with hfull
  · have hall : a.buffers = [] ∨ a.usedBytesInLatestBuffer = bufferSize := by
      rcases hfull with hnone | hspace
      · exact .inl (List.length_eq_zero_iff.1 (by omega))
      · exact .inr (by omega)
    have hroom : (a.used bufferSize pool).room bufferSize = 0 := by
      by_cases hnil : a.buffers = []
      · exact if_pos (used_buffers_nil hnil)
      · rw [h.room_used hnil, hall.resolve_left hnil, Nat.sub_self]
    unfold requestNewBuffer
    split_ifs with hmax
    · refine .inl ⟨rfl, Http.ReadWriteBufferArray.write_of_full hne hroom (.inl ?_)⟩
      rw [length_used_buffers]
      omega
    · cases hlease : pool.leaseBuffer with
      | none =>
        refine .inl ⟨rfl, Http.ReadWriteBufferArray.write_of_full hne hroom (.inr ?_)⟩
        exact congrArg (List.replicate · true) (FixedSizeBufferPool.leaseBuffer_eq_none.1 hlease)
      | some leased =>
        obtain ⟨buffer, pool'⟩ := leased
        obtain ⟨-, -, havailable⟩ := h.holds.leaseBuffer hlease
        refine .inr ⟨bufferSize, { a with buffers := a.buffers ++ [buffer], usedBytesInLatestBuffer := 0 }, pool', rfl,
          h.leased (by omega) hlease, by simp, hsize, Nat.zero_add _, ?_⟩
        rw [used_of_leased hall]
        refine Http.ReadWriteBufferArray.write_of_leased hne hroom ?_ (congrArg (List.replicate · true) havailable)
        rw [length_used_buffers]
        omega
  · refine .inr ⟨_, a, pool, rfl, h, ?_, by omega, by omega, rfl⟩
    rintro hnil
    rw [hnil] at hlatest
    exact hfull (.inl (hlatest.trans_lt (by decide)))

/-- By induction on the turns: a turn that goes on fills the latest buffer. -/
theorem Sound.used_writeLoop (hsize : 0 < bufferSize) {turns : ℕ} {input : List UInt8}
    (h : a.Sound bufferSize maxNrOfBuffers others pool) (hturns : input.length ≤ turns) :
    (a.used bufferSize pool).write bufferSize maxNrOfBuffers input =
      let result := ReadWriteBufferArray.writeLoop bufferSize maxNrOfBuffers turns input a pool
      (result.1, result.2.1.used bufferSize result.2.2) := by
  induction turns generalizing input a pool with
  | zero =>
    obtain rfl := List.length_eq_zero_iff.1 (Nat.le_zero.1 hturns)
    exact Http.ReadWriteBufferArray.write_nil
  | succ turns ih =>
    unfold ReadWriteBufferArray.writeLoop
    split_ifs with hnil hfits
    · rw [hnil]
      exact Http.ReadWriteBufferArray.write_nil
    · have hne : a.buffers ≠ [] := by
        rintro hempty
        have hlatest : a.latestBuffer = a.buffers.length - 1 := rfl
        rw [hempty] at hlatest
        exact absurd hfits.1 (hlatest ▸ by decide)
      have hroom : input.length ≤ (a.used bufferSize pool).room bufferSize := by
        rw [h.room_used hne]
        exact hfits.2
      rw [Http.ReadWriteBufferArray.write_of_le_room hroom, ← h.used_copyToLatest input hne]
    · rcases h.used_findSpace hsize hnil with ⟨hnone, hwrite⟩ | ⟨space, a', pool', hsome, hsound, hne, hpos, hspace, hwrite⟩
      · rw [hnone, hwrite]
        rfl
      · rw [hsome, hwrite]
        dsimp only
        have hlength := List.length_pos_iff.2 hnil
        have htake : (input.take (min space input.length)).length = min space input.length := by
          rw [List.length_take]
          omega
        have hfits : a'.usedBytesInLatestBuffer + (input.take (min space input.length)).length ≤ bufferSize := by omega
        have hcopied := (hsound.copyToLatest hne hfits).1
        have hroom := hsound.room_used hne
        rw [← ih hcopied (by rw [List.length_drop]; omega), hsound.used_copyToLatest _ hne]
        rcases Nat.le_total input.length space with hle | hle
        · rw [Nat.min_eq_right hle, List.take_length, List.drop_length, Http.ReadWriteBufferArray.write_nil,
            Http.ReadWriteBufferArray.write_of_le_room (by omega)]
        · rw [Nat.min_eq_left hle, ← Http.ReadWriteBufferArray.write_append, List.take_append_drop]
          · rw [← List.length_pos_iff, length_used_buffers, List.length_pos_iff]
            exact hne
          · rw [List.length_take, hroom]
            omega

/-- A write to leased buffers is seen as one to the bytes that are used. -/
theorem Sound.used_write (hsize : 0 < bufferSize) (h : a.Sound bufferSize maxNrOfBuffers others pool) (input : List UInt8) :
    (a.used bufferSize pool).write bufferSize maxNrOfBuffers input =
      let result := a.write bufferSize maxNrOfBuffers input pool
      (result.1, result.2.1.used bufferSize result.2.2) := by
  unfold ReadWriteBufferArray.write
  split_ifs with hnil
  · rw [List.length_eq_zero_iff.1 hnil]
    exact Http.ReadWriteBufferArray.write_nil
  · exact h.used_writeLoop hsize (Nat.le_refl _)

theorem Sound.used_writeAll (hsize : 0 < bufferSize) {inputs : List (List UInt8)} {results : List Bool}
    {a' : ReadWriteBufferArray} {pool' : FixedSizeBufferPool} (h : a.Sound bufferSize maxNrOfBuffers others pool)
    (hwrites : ReadWriteBufferArray.writeAll bufferSize maxNrOfBuffers inputs a pool = (results, a', pool')) :
    (a.used bufferSize pool).writeAll bufferSize maxNrOfBuffers inputs = (results, a'.used bufferSize pool') := by
  induction inputs generalizing results a pool with
  | nil =>
    cases hwrites
    rfl
  | cons input inputs ih =>
    have hwrite := h.used_write hsize input
    have hsound := (h.write hsize input).sound
    rcases hrest : ReadWriteBufferArray.writeAll bufferSize maxNrOfBuffers inputs
      (a.write bufferSize maxNrOfBuffers input pool).2.1 (a.write bufferSize maxNrOfBuffers input pool).2.2 with
      ⟨results₁, a₁, pool₁⟩
    simp only [ReadWriteBufferArray.writeAll, hrest] at hwrites
    cases hwrites
    simp only [Http.ReadWriteBufferArray.writeAll, hwrite, ih hsound hrest]

theorem used_constBufferWrapper : (a.used bufferSize pool).constBufferWrapper = a.constBufferWrapper bufferSize := by
  unfold Http.ReadWriteBufferArray.constBufferWrapper
  by_cases hnil : a.buffers = []
  · rw [if_pos (used_buffers_nil hnil)]
    unfold ReadWriteBufferArray.constBufferWrapper latestBuffer dereference
    rw [hnil]
    rfl
  · have hne : (a.used bufferSize pool).buffers ≠ [] := by
      rw [← List.length_pos_iff, length_used_buffers, List.length_pos_iff]
      exact hnil
    rw [if_neg hne]
    exact if_neg hnil

/-- Writes to leased buffers do what a connection takes them to do, and expose what it takes them to. -/
theorem used_of_holds {inputs : List (List UInt8)} {results : List Bool} {pool' : FixedSizeBufferPool}
    (hsize : 0 < bufferSize) (hpool : pool.Holds bufferSize others)
    (hwrites : ReadWriteBufferArray.writeAll bufferSize maxNrOfBuffers inputs {} pool = (results, a, pool')) :
    Http.ReadWriteBufferArray.writeAll bufferSize maxNrOfBuffers inputs { pool := List.replicate pool.available true } =
        (results, a.used bufferSize pool') ∧
      (a.used bufferSize pool').constBufferWrapper = a.constBufferWrapper bufferSize :=
  ⟨(sound_empty hpool).used_writeAll hsize hwrites, used_constBufferWrapper⟩

end Leased.ReadWriteBufferArray

end Forum.Http
