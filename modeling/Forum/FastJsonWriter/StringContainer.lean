import Mathlib.Data.List.Basic
import Mathlib.Tactic.SplitIfs
import Forum.Library.Memory
import Forum.Library.BlockOwnership

/-!
# String containers

`StringContainer`: a number of bytes that are in the object itself when they fit into `StackSize` and in memory of their own
otherwise. The object has a union of both, of whose bytes the first eight are the address of that memory when it is used, and
how many bytes there are is in a size that can say more. Objects are exchanged by parts of the union.

Objects have places: those that a client has names for, and those that are local to a function of the container. What an access
to memory that is not there would lead to, or a second `delete[]` of the same memory, is no result: `none`.
-/

namespace Forum.FastJsonWriter

open Library

/-! ### Bytes that are written over others -/

/-- The bytes, with data written over them from an offset on. -/
def overwrite (bytes : List UInt8) (offset : ℕ) (data : List UInt8) : List UInt8 :=
  bytes.take offset ++ data ++ bytes.drop (offset + data.length)

section Overwrite

variable {bytes data : List UInt8} {offset n : ℕ}

theorem length_overwrite (h : offset + data.length ≤ bytes.length) : (overwrite bytes offset data).length = bytes.length := by
  unfold overwrite
  rw [List.length_append, List.length_append, List.length_take, List.length_drop]
  omega

theorem overwrite_append {first old : List UInt8} (h : old.length = data.length) (last : List UInt8) :
    overwrite (first ++ (old ++ last)) first.length data = first ++ (data ++ last) := by
  unfold overwrite
  rw [List.take_left, List.drop_append, List.drop_eq_nil_of_le (Nat.le_add_right _ _), Nat.add_sub_cancel_left, ← h,
    List.drop_left, List.nil_append, List.append_assoc]

/-- All bytes are written over. -/
theorem overwrite_all (h : bytes.length = data.length) : overwrite bytes 0 data = data := by
  have happend := @overwrite_append data [] bytes h []
  rwa [List.append_nil, List.append_nil, List.nil_append, List.nil_append] at happend

theorem take_overwrite (h : offset + data.length ≤ n) (hn : n ≤ bytes.length) :
    (overwrite bytes offset data).take n = overwrite (bytes.take n) offset data := by
  have hoffset : min offset bytes.length = offset := min_eq_left (by omega)
  have htake : min n offset = offset := min_eq_right (by omega)
  have htake' : min offset n = offset := min_eq_left (by omega)
  unfold overwrite
  rw [List.append_assoc, List.take_append, List.take_append, List.take_take, List.length_take, hoffset, htake,
    List.take_of_length_le (by omega : data.length ≤ n - offset), List.take_take, htake', List.drop_take, List.append_assoc,
    Nat.sub_add_eq]

end Overwrite

/-! ### Sizes -/

/-- `SizeType`: 31 bits of a size and a flag, and what else a kind of strings needs. -/
class SizeType (σ : Type*) where
  /-- The constructor. That without arguments has a size of zero. -/
  ofSize : ℕ → σ
  /-- `operator size_t`. -/
  size : σ → ℕ
  /-- `operator bool`. -/
  boolean : σ → Bool
  /-- `operator=(bool)`. -/
  setBoolean : Bool → σ → σ
  size_ofSize : ∀ n, size (ofSize n) = n % 2 ^ 31
  boolean_setBoolean : ∀ value info, boolean (setBoolean value info) = value
  size_setBoolean : ∀ value info, size (setBoolean value info) = size info

/-- What a container stands for: its size, and that many bytes. -/
structure Stored (σ : Type*) where
  size : σ
  bytes : List UInt8

/-! ### Objects -/

/-- `StringContainer`, with what its union holds as bytes. -/
@[ext]
structure StringContainer (stackSize : ℕ) (σ : Type*) where
  /-- The bytes of the union. -/
  buffer_ : List UInt8
  size_ : σ
  length_buffer : buffer_.length = max stackSize 8

variable {stackSize : ℕ} {σ θ : Type*}

namespace StringContainer

variable (c : StringContainer stackSize σ)

/-- `buffer_.external`. -/
def external : ℕ := ofBytes (c.buffer_.take 8)

/-- Overwrites the size alone. -/
def setSize (size : σ) : StringContainer stackSize σ := { c with size_ := size }

/-- Overwrites the pointer in the union. -/
def setExternal (address : ℕ) : StringContainer stackSize σ where
  buffer_ := toBytes 8 address ++ c.buffer_.drop 8
  size_ := c.size_
  length_buffer := by
    have hlength := c.length_buffer
    rw [List.length_append, length_toBytes, List.length_drop]
    omega

/-- Data is written to `buffer_.stack`. -/
def writeStack (offset : ℕ) (data : List UInt8) (h : offset + data.length ≤ stackSize) : StringContainer stackSize σ where
  buffer_ := overwrite c.buffer_ offset data
  size_ := c.size_
  length_buffer := by
    have hlength := c.length_buffer
    rw [length_overwrite (by omega), hlength]

/-- So many bytes of the union, or all of a pointer, are those of the other one. -/
def exchangeParts (other : StringContainer stackSize σ) : StringContainer stackSize σ where
  buffer_ :=
    if 8 ≤ stackSize then other.buffer_.take stackSize ++ c.buffer_.drop stackSize
    else other.buffer_.take 8 ++ c.buffer_.drop 8
  size_ := other.size_
  length_buffer := by
    have hlength := c.length_buffer
    have hother := other.length_buffer
    split_ifs <;> rw [List.length_append, List.length_take, List.length_drop] <;> omega

/-- The parts are everything. -/
theorem exchangeParts_eq (other : StringContainer stackSize σ) : c.exchangeParts other = other := by
  have hlength := c.length_buffer
  have hother := other.length_buffer
  refine StringContainer.ext ?_ rfl
  unfold exchangeParts
  dsimp only
  split_ifs with hpointer
  · rw [List.take_of_length_le (by omega), List.drop_eq_nil_of_le (by omega), List.append_nil]
  · rw [List.take_of_length_le (by omega), List.drop_eq_nil_of_le (by omega), List.append_nil]

theorem external_setExternal {address : ℕ} (h : address < 2 ^ 64) : (c.setExternal address).external = address := by
  unfold external setExternal
  dsimp only
  rw [List.take_left' (length_toBytes 8 address)]
  exact ofBytes_toBytes_of_lt (h.trans_eq (by decide))

variable [SizeType σ]

/-- Is the text too long for the stack buffer? -/
def usingHeapBuffer : Bool := decide (stackSize < SizeType.size c.size_)

/-- The constructor without arguments. The bytes of the union behind the null pointer are those that happen to be there. -/
def construct (memory : Memory) : StringContainer stackSize σ where
  buffer_ := toBytes 8 0 ++ memory.bytes 8 (max stackSize 8 - 8)
  size_ := SizeType.ofSize 0
  length_buffer := by
    rw [List.length_append, length_toBytes, Memory.length_bytes]
    omega

variable {c}

/-- Which memory a container has of its own, and which bytes it stands for. -/
def ownership : BlockOwnership (StringContainer stackSize σ) (List UInt8) (Stored σ) where
  owns c := if c.usingHeapBuffer then some c.external else none
  holds c block stored :=
    c.size_ = stored.size ∧ SizeType.size stored.size = stored.bytes.length ∧
      block.elim (c.buffer_.take stored.bytes.length = stored.bytes) fun block => block = stored.bytes ∧ 0 < c.external

theorem owns_of_heap (h : c.usingHeapBuffer = true) : ownership.owns c = some c.external := if_pos h

theorem owns_of_stack (h : c.usingHeapBuffer = false) : ownership.owns c = none := if_neg (by rw [h]; exact Bool.false_ne_true)

end StringContainer

variable [SizeType σ]

/-! ### Places -/

/-- Where an object is: under a name of the client, or in a local variable of a function. -/
inductive Place
  | object (name : ℕ)
  /-- In `resize`. -/
  | other
  /-- In `operator=`. -/
  | copy
  /-- In `std::swap`. -/
  | tmp
  deriving DecidableEq

/-- The memory that is allocated and the objects that exist. -/
structure Containers (stackSize : ℕ) (σ θ : Type*) where
  heap : ℕ → Option (List UInt8)
  objects : Place → Option (StringContainer stackSize σ)
  /-- What else the thread has. -/
  thread : θ

/-- What `new` returns, and what happens to be in memory that has not been written. -/
structure Fresh where
  address : ℕ
  memory : Memory

/-- `new` returns memory that is not yet allocated, and never a null pointer. -/
structure Fresh.Usable (fresh : Fresh) (heap : ℕ → Option (List UInt8)) : Prop where
  free : heap fresh.address = none
  pos : 0 < fresh.address
  lt : fresh.address < 2 ^ 64

instance (fresh : Fresh) (heap : ℕ → Option (List UInt8)) : Decidable (fresh.Usable heap) :=
  decidable_of_iff (heap fresh.address = none ∧ 0 < fresh.address ∧ fresh.address < 2 ^ 64)
    ⟨fun ⟨hfree, hpos, hlt⟩ => ⟨hfree, hpos, hlt⟩, fun h => ⟨h.free, h.pos, h.lt⟩⟩

namespace Containers

variable (s : Containers stackSize σ θ)

/-- There is an object now at a place. -/
def put (p : Place) (c : StringContainer stackSize σ) : Containers stackSize σ θ :=
  { s with objects := Function.update s.objects p (some c) }

/-- There is a block now at an address. -/
def putBlock (address : ℕ) (block : List UInt8) : Containers stackSize σ θ :=
  { s with heap := Function.update s.heap address (some block) }

/-- The constructor without arguments. -/
def construct (p : Place) (fresh : Fresh) : Containers stackSize σ θ := s.put p (.construct fresh.memory)

/-- The constructor with a size. -/
def constructWithSize (p : Place) (size : ℕ) (fresh : Fresh) : Containers stackSize σ θ :=
  let c : StringContainer stackSize σ := (StringContainer.construct fresh.memory).setSize (SizeType.ofSize size)
  if c.usingHeapBuffer then
    (s.putBlock fresh.address (fresh.memory.bytes fresh.address size)).put p (c.setExternal fresh.address)
  else s.put p c

/-- The copy constructor. -/
def copyConstruct (p q : Place) (fresh : Fresh) : Option (Containers stackSize σ θ) :=
  (s.objects q).bind fun other =>
    let c : StringContainer stackSize σ := (StringContainer.construct fresh.memory).setSize other.size_
    let size := SizeType.size c.size_
    if c.usingHeapBuffer then
      (s.heap other.external).bind fun source =>
        if size ≤ source.length then
          some ((s.putBlock fresh.address (overwrite (fresh.memory.bytes fresh.address size) 0 (source.take size))).put p
            (c.setExternal fresh.address))
        else none
    else if h : 0 + (other.buffer_.take size).length ≤ stackSize then
      some (s.put p (c.writeStack 0 (other.buffer_.take size) h))
    else none

/-- `swap` of two containers. -/
def swap (p q : Place) : Option (Containers stackSize σ θ) :=
  match s.objects p, s.objects q with
  | some first, some second => some ((s.put p (first.exchangeParts second)).put q (second.exchangeParts first))
  | _, _ => none

/-- The destructor. -/
def destroy (p : Place) : Option (Containers stackSize σ θ) :=
  (s.objects p).bind fun c =>
    if c.usingHeapBuffer && c.external != 0 then
      (s.heap c.external).map fun _ =>
        { s with heap := Function.update s.heap c.external none, objects := Function.update s.objects p none }
    else some { s with objects := Function.update s.objects p none }

/-- Data is written to `operator*`. -/
def write (p : Place) (offset : ℕ) (data : List UInt8) : Option (Containers stackSize σ θ) :=
  (s.objects p).bind fun c =>
    if c.usingHeapBuffer then
      (s.heap c.external).bind fun block =>
        if offset + data.length ≤ block.length then some (s.putBlock c.external (overwrite block offset data)) else none
    else if h : offset + data.length ≤ stackSize then some (s.put p (c.writeStack offset data h)) else none

/-- What is read from `operator*`. -/
def read (p : Place) (offset size : ℕ) : Option (List UInt8) :=
  (s.objects p).bind fun c =>
    (if c.usingHeapBuffer then s.heap c.external else some (c.buffer_.take stackSize)).bind fun bytes =>
      if offset + size ≤ bytes.length then some ((bytes.drop offset).take size) else none

/-- A value is assigned to `size()`. -/
def setSize (p : Place) (f : σ → σ) : Option (Containers stackSize σ θ) :=
  (s.objects p).map fun c => s.put p (c.setSize (f c.size_))

/-- The move constructor. -/
def moveConstruct (p q : Place) (fresh : Fresh) : Option (Containers stackSize σ θ) := (s.construct p fresh).swap p q

/-- `operator=(const StringContainer&)`. -/
def assign (p q : Place) (fresh : Fresh) : Option (Containers stackSize σ θ) :=
  (s.copyConstruct .copy q fresh).bind fun s => (s.swap p .copy).bind fun s => s.destroy .copy

/-- `operator=(StringContainer&&)`. -/
def moveAssign (p q : Place) : Option (Containers stackSize σ θ) := s.swap p q

/-- `std::swap` of two objects. -/
def stdSwap (p q : Place) (fresh : Fresh) : Option (Containers stackSize σ θ) :=
  (s.moveConstruct .tmp p fresh).bind fun s =>
    (s.moveAssign p q).bind fun s => (s.moveAssign q .tmp).bind fun s => s.destroy .tmp

/-- `resize`: the container is swapped with a new one, which is then destroyed. -/
def resize (p : Place) (newSize : ℕ) (fresh : Fresh) : Option (Containers stackSize σ θ) :=
  ((s.constructWithSize .other newSize fresh).swap p .other).bind fun s => s.destroy .other

/-! ### What the objects stand for -/

/-- The objects stand for these sizes and bytes, each with its own memory. -/
def Represents (values : Place → Option (Stored σ)) : Prop :=
  StringContainer.ownership.Represents s.heap s.objects values

variable {s} {values : Place → Option (Stored σ)} {p q : Place} {stored : Stored σ} {fresh : Fresh}

theorem represents_construct (h : s.Represents values) (hp : values p = none) (fresh : Fresh) :
    (s.construct p fresh).Represents (Function.update values p (some ⟨SizeType.ofSize 0, []⟩)) := by
  have hzero : SizeType.size (SizeType.ofSize 0 : σ) = 0 := SizeType.size_ofSize 0
  refine h.place hp (StringContainer.owns_of_stack ?_) ⟨rfl, hzero, rfl⟩
  show decide (stackSize < SizeType.size (SizeType.ofSize 0 : σ)) = false
  rw [hzero]
  exact decide_eq_false (Nat.not_lt_zero _)

theorem represents_putBlock (h : s.Represents values) (hp : values p = none) (hfresh : fresh.Usable s.heap)
    {c : StringContainer stackSize σ} (hheap : c.usingHeapBuffer = true) {bytes : List UInt8}
    (hlength : SizeType.size c.size_ = bytes.length) :
    ((s.putBlock fresh.address bytes).put p (c.setExternal fresh.address)).Represents
      (Function.update values p (some ⟨c.size_, bytes⟩)) := by
  have hexternal := c.external_setExternal hfresh.lt
  refine h.allocate hp hfresh.free ?_ ⟨rfl, hlength, rfl, hexternal.symm ▸ hfresh.pos⟩
  rw [StringContainer.owns_of_heap (c := c.setExternal fresh.address) hheap, hexternal]

theorem represents_put (h : s.Represents values) (hp : values p = none) {c : StringContainer stackSize σ}
    (hstack : c.usingHeapBuffer = false) {bytes : List UInt8} (hlength : SizeType.size c.size_ = bytes.length)
    (hbytes : c.buffer_.take bytes.length = bytes) :
    (s.put p c).Represents (Function.update values p (some ⟨c.size_, bytes⟩)) :=
  h.place hp (StringContainer.owns_of_stack hstack) ⟨rfl, hlength, hbytes⟩

theorem exists_constructWithSize (h : s.Represents values) (hp : values p = none) (hfresh : fresh.Usable s.heap) {size : ℕ}
    (hsize : size < 2 ^ 31) : ∃ bytes : List UInt8, bytes.length = size ∧
      (s.constructWithSize p size fresh).Represents (Function.update values p (some ⟨SizeType.ofSize size, bytes⟩)) := by
  have hinfo : SizeType.size (SizeType.ofSize size : σ) = size := by rw [SizeType.size_ofSize, Nat.mod_eq_of_lt hsize]
  unfold constructWithSize
  dsimp only
  split_ifs with hheap
  · exact ⟨_, Memory.length_bytes _ _ _, represents_putBlock h hp hfresh hheap (hinfo.trans (Memory.length_bytes _ _ _).symm)⟩
  · rw [Bool.not_eq_true] at hheap
    set c : StringContainer stackSize σ := (StringContainer.construct fresh.memory).setSize (SizeType.ofSize size) with hc
    have hle : size ≤ stackSize := by
      have hstack : ¬ stackSize < SizeType.size (SizeType.ofSize size : σ) := of_decide_eq_false hheap
      omega
    have hlength : (c.buffer_.take size).length = size := by
      rw [List.length_take, c.length_buffer]
      omega
    exact ⟨c.buffer_.take size, hlength, represents_put h hp hheap (hinfo.trans hlength.symm) (by rw [hlength])⟩

/-- The bytes that an object stands for are in memory of its own, or in itself. -/
theorem exists_bytes (h : s.Represents values) (hp : values p = some stored) :
    ∃ c, s.objects p = some c ∧ c.size_ = stored.size ∧ SizeType.size c.size_ = stored.bytes.length ∧
      ((c.usingHeapBuffer = true ∧ s.heap c.external = some stored.bytes ∧ 0 < c.external) ∨
        (c.usingHeapBuffer = false ∧ stored.bytes.length ≤ stackSize ∧ c.buffer_.take stored.bytes.length = stored.bytes)) := by
  obtain ⟨c, hc, hsize, hlength, hbytes⟩ := h.exists_object hp
  rw [← hsize] at hlength
  refine ⟨c, hc, hsize, hlength, ?_⟩
  cases hheap : c.usingHeapBuffer with
  | true =>
    have howns := StringContainer.owns_of_heap hheap
    obtain ⟨block, hblock⟩ := h.allocated p c c.external hc howns
    rw [howns, Option.bind_some, hblock, Option.elim_some] at hbytes
    exact Or.inl ⟨rfl, by rw [hblock, hbytes.1], hbytes.2⟩
  | false =>
    rw [StringContainer.owns_of_stack hheap, Option.bind_none, Option.elim_none] at hbytes
    have hstack : ¬ stackSize < SizeType.size c.size_ := of_decide_eq_false hheap
    exact Or.inr ⟨rfl, by omega, hbytes⟩

/-- The copy stands for the same. -/
theorem exists_copyConstruct (h : s.Represents values) (hp : values p = none) (hq : values q = some stored)
    (hfresh : fresh.Usable s.heap) : ∃ s', s.copyConstruct p q fresh = some s' ∧ s'.thread = s.thread ∧
      s'.Represents (Function.update values p (some stored)) := by
  obtain ⟨other, hother, hsize, hlength, hbytes⟩ := exists_bytes h hq
  set c : StringContainer stackSize σ := (StringContainer.construct fresh.memory).setSize other.size_ with hc
  have hcsize : c.size_ = other.size_ := rfl
  unfold copyConstruct
  rw [hother, Option.bind_some]
  dsimp only
  rw [← hc, hcsize]
  rcases hbytes with ⟨hheap, hblock, -⟩ | ⟨hstack, hle, hbytes⟩
  · rw [if_pos (show c.usingHeapBuffer = true from hheap), hblock, Option.bind_some, if_pos hlength.le, hlength,
      List.take_length, overwrite_all (Memory.length_bytes _ _ _)]
    refine ⟨_, rfl, rfl, ?_⟩
    have hrepresents := represents_putBlock h hp hfresh (show c.usingHeapBuffer = true from hheap) hlength
    rwa [hcsize, hsize] at hrepresents
  · have hlength' : (other.buffer_.take (SizeType.size other.size_)).length = stored.bytes.length := by rw [hlength, hbytes]
    rw [if_neg (show ¬ c.usingHeapBuffer = true by rw [Bool.not_eq_true]; exact hstack), dif_pos (by omega)]
    refine ⟨_, rfl, rfl, ?_⟩
    have hcopied : (overwrite c.buffer_ 0 (other.buffer_.take (SizeType.size other.size_))).take stored.bytes.length =
        stored.bytes := by
      have hroom : stored.bytes.length ≤ c.buffer_.length := by
        rw [c.length_buffer]
        omega
      rw [hlength, hbytes, take_overwrite (by rw [Nat.zero_add]) hroom,
        overwrite_all (by rw [List.length_take, min_eq_left hroom])]
    have hrepresents := represents_put h hp (c := c.writeStack 0 (other.buffer_.take (SizeType.size other.size_)) (by omega))
      hstack hlength hcopied
    rwa [show (c.writeStack 0 (other.buffer_.take (SizeType.size other.size_)) (by omega)).size_ = stored.size from hsize]
      at hrepresents

/-- What the objects stand for is exchanged. -/
theorem exists_swap (h : s.Represents values) (hp : (values p).isSome) (hq : (values q).isSome) :
    ∃ s', s.swap p q = some s' ∧ s'.thread = s.thread ∧ s'.heap = s.heap ∧ s'.Represents (values ∘ Equiv.swap p q) := by
  obtain ⟨first, hfirst⟩ := Option.isSome_iff_exists.1 hp
  obtain ⟨second, hsecond⟩ := Option.isSome_iff_exists.1 hq
  obtain ⟨c, hc, -⟩ := h.exists_object hfirst
  obtain ⟨d, hd, -⟩ := h.exists_object hsecond
  unfold swap
  rw [hc, hd]
  dsimp only
  rw [StringContainer.exchangeParts_eq, StringContainer.exchangeParts_eq]
  refine ⟨_, rfl, rfl, rfl, ?_⟩
  have hobjects : ((s.put p d).put q c).objects = s.objects ∘ Equiv.swap p q := by
    funext r
    unfold put
    dsimp only [Function.comp_apply]
    by_cases hrq : r = q
    · rw [hrq, Function.update_self, Equiv.swap_apply_right, hc]
    · by_cases hrp : r = p
      · rw [hrp, Function.update_of_ne (by rwa [← hrp]), Function.update_self, Equiv.swap_apply_left, hd]
      · rw [Function.update_of_ne hrq, Function.update_of_ne hrp, Equiv.swap_apply_of_ne_of_ne hrp hrq]
  unfold Represents
  rw [hobjects]
  exact h.exchange (Equiv.swap p q)

/-- An object goes, with its memory. -/
theorem exists_destroy (h : s.Represents values) (hp : (values p).isSome) :
    ∃ s', s.destroy p = some s' ∧ s'.thread = s.thread ∧ s'.Represents (Function.update values p none) := by
  obtain ⟨stored, hstored⟩ := Option.isSome_iff_exists.1 hp
  obtain ⟨c, hc, -, -, hbytes⟩ := exists_bytes h hstored
  unfold destroy
  rw [hc, Option.bind_some]
  rcases hbytes with ⟨hheap, hblock, hpos⟩ | ⟨hstack, -, -⟩
  · rw [if_pos (by rw [hheap, Bool.true_and, bne_iff_ne]; omega), hblock, Option.map_some]
    exact ⟨_, rfl, rfl, h.release hc (StringContainer.owns_of_heap hheap)⟩
  · rw [if_neg (by rw [hstack]; exact Bool.false_ne_true)]
    exact ⟨_, rfl, rfl, h.drop hc (StringContainer.owns_of_stack hstack)⟩

/-- Data that fits is written over the bytes. -/
theorem exists_write (h : s.Represents values) (hp : values p = some stored) (offset : ℕ) (data : List UInt8)
    (hfits : offset + data.length ≤ stored.bytes.length) :
    ∃ s', s.write p offset data = some s' ∧ s'.thread = s.thread ∧
      s'.Represents (Function.update values p (some ⟨stored.size, overwrite stored.bytes offset data⟩)) := by
  obtain ⟨c, hc, hsize, hlength, hbytes⟩ := exists_bytes h hp
  have hsame := length_overwrite hfits
  unfold write
  rw [hc, Option.bind_some]
  rcases hbytes with ⟨hheap, hblock, hpos⟩ | ⟨hstack, hle, hbytes⟩
  · have howns := StringContainer.owns_of_heap hheap
    rw [if_pos hheap, hblock, Option.bind_some, if_pos hfits]
    refine ⟨_, rfl, rfl, ?_⟩
    have hrepresents : StringContainer.ownership.Represents
        (Function.update s.heap c.external (some (overwrite stored.bytes offset data))) (Function.update s.objects p (some c))
        (Function.update values p (some ⟨stored.size, overwrite stored.bytes offset data⟩)) :=
      h.modifyBlock hc howns howns ⟨hsize, by rw [hsame, ← hlength, hsize], rfl, hpos⟩
    have hobjects : Function.update s.objects p (some c) = s.objects := Function.update_eq_self_iff.2 hc.symm
    rwa [hobjects] at hrepresents
  · rw [if_neg (by rw [hstack]; exact Bool.false_ne_true), dif_pos (by omega)]
    refine ⟨_, rfl, rfl, ?_⟩
    have hroom : stored.bytes.length ≤ c.buffer_.length := by
      rw [c.length_buffer]
      omega
    refine h.modify hc (StringContainer.owns_of_stack hstack) (StringContainer.owns_of_stack hstack)
      ⟨hsize, by rw [hsame, ← hlength, hsize], ?_⟩
    show (overwrite c.buffer_ offset data).take (overwrite stored.bytes offset data).length = _
    rw [hsame, take_overwrite hfits hroom, hbytes]

/-- What is read are the bytes. -/
theorem read_eq (h : s.Represents values) (hp : values p = some stored) {offset size : ℕ}
    (hfits : offset + size ≤ stored.bytes.length) : s.read p offset size = some ((stored.bytes.drop offset).take size) := by
  obtain ⟨c, hc, -, -, hbytes⟩ := exists_bytes h hp
  unfold read
  rw [hc, Option.bind_some]
  rcases hbytes with ⟨hheap, hblock, -⟩ | ⟨hstack, hle, hbytes⟩
  · rw [if_pos hheap, hblock, Option.bind_some, if_pos hfits]
  · rw [if_neg (by rw [hstack]; exact Bool.false_ne_true), Option.bind_some,
      if_pos (by rw [List.length_take, c.length_buffer]; omega)]
    have hsame : ((c.buffer_.take stackSize).drop offset).take size = (stored.bytes.drop offset).take size := by
      rw [← hbytes, List.drop_take, List.drop_take, List.take_take, List.take_take, min_eq_left (by omega),
        min_eq_left (by omega)]
    rw [hsame]

/-- A size that says the same number of bytes. -/
theorem exists_setSize (h : s.Represents values) (hp : values p = some stored) {f : σ → σ}
    (hf : SizeType.size (f stored.size) = SizeType.size stored.size) :
    ∃ s', s.setSize p f = some s' ∧ s'.thread = s.thread ∧
      s'.Represents (Function.update values p (some ⟨f stored.size, stored.bytes⟩)) := by
  obtain ⟨c, hc, hsize, hlength, hbytes⟩ := exists_bytes h hp
  have hsame : (c.setSize (f c.size_)).usingHeapBuffer = c.usingHeapBuffer := by
    unfold StringContainer.usingHeapBuffer StringContainer.setSize
    dsimp only
    rw [hsize, hf]
  have hlength' : SizeType.size (f stored.size) = stored.bytes.length := by rw [hf, ← hlength, hsize]
  unfold setSize
  rw [hc, Option.map_some]
  refine ⟨_, rfl, rfl, ?_⟩
  rcases hbytes with ⟨hheap, hblock, hpos⟩ | ⟨hstack, hle, hbytes⟩
  · have howns := StringContainer.owns_of_heap hheap
    have hrepresents : StringContainer.ownership.Represents (Function.update s.heap c.external (some stored.bytes))
        (Function.update s.objects p (some (c.setSize (f c.size_))))
        (Function.update values p (some ⟨f stored.size, stored.bytes⟩)) :=
      h.modifyBlock hc howns (StringContainer.owns_of_heap (hsame.trans hheap)) ⟨congrArg f hsize, hlength', rfl, hpos⟩
    have hkept : Function.update s.heap c.external (some stored.bytes) = s.heap := Function.update_eq_self_iff.2 hblock.symm
    rwa [hkept] at hrepresents
  · exact h.modify hc (StringContainer.owns_of_stack hstack) (StringContainer.owns_of_stack (hsame.trans hstack))
      ⟨congrArg f hsize, hlength', hbytes⟩

/-! ### Functions with temporary objects -/

/-- A result that is a state in which the objects stand for this. -/
def Yields (result : Option (Containers stackSize σ θ)) (thread : θ) (values : Place → Option (Stored σ)) : Prop :=
  ∃ s, result = some s ∧ s.thread = thread ∧ s.Represents values

theorem Yields.bind {result : Option (Containers stackSize σ θ)} {f : Containers stackSize σ θ → Option (Containers stackSize σ θ)}
    {thread : θ} {values' : Place → Option (Stored σ)} (h : Yields result thread values)
    (hf : ∀ s, s.thread = thread → s.Represents values → Yields (f s) thread values') :
    Yields (result.bind f) thread values' := by
  obtain ⟨s, rfl, hthread, hs⟩ := h
  exact hf s hthread hs

theorem yields_moveConstruct (h : s.Represents values) (hp : values p = none) (hq : (values q).isSome) (fresh : Fresh) :
    Yields (s.moveConstruct p q fresh) s.thread
      (Function.update values p (some ⟨SizeType.ofSize 0, []⟩) ∘ Equiv.swap p q) := by
  have hne : q ≠ p := by
    rintro rfl
    rw [hp] at hq
    cases hq
  obtain ⟨s', hs', hthread, -, hrepresents⟩ := exists_swap (p := p) (q := q) (represents_construct h hp fresh)
    (by rw [Function.update_self]; rfl) (by rwa [Function.update_of_ne hne])
  exact ⟨s', hs', hthread, hrepresents⟩

theorem yields_moveAssign (h : s.Represents values) (hp : (values p).isSome) (hq : (values q).isSome) :
    Yields (s.moveAssign p q) s.thread (values ∘ Equiv.swap p q) := by
  obtain ⟨s', hs', hthread, -, hrepresents⟩ := exists_swap h hp hq
  exact ⟨s', hs', hthread, hrepresents⟩

/-- What was made in a temporary place is put in the place of an object, which goes. -/
theorem yields_replace {t : Place} {v : Stored σ} (h : s.Represents (Function.update values t (some v))) (hp : (values p).isSome)
    (ht : values t = none) :
    Yields ((s.swap p t).bind fun s => s.destroy t) s.thread (Function.update values p (some v)) := by
  have hne : p ≠ t := by
    rintro rfl
    rw [ht] at hp
    cases hp
  have hswap := yields_moveAssign (p := p) (q := t) h (by rwa [Function.update_of_ne hne]) (by rw [Function.update_self]; rfl)
  refine hswap.bind fun s' hthread hs' => ?_
  obtain ⟨s'', hs'', hthread', hrepresents⟩ := exists_destroy (p := t) hs'
    (by rw [Function.comp_apply, Equiv.swap_apply_right, Function.update_of_ne hne]; exact hp)
  rw [exchange_temporary hne ht] at hrepresents
  exact ⟨s'', hs'', hthread'.trans hthread, hrepresents⟩

theorem yields_assign (h : s.Represents values) (hp : (values p).isSome) (hq : values q = some stored)
    (hcopy : values .copy = none) (hfresh : fresh.Usable s.heap) :
    Yields (s.assign p q fresh) s.thread (Function.update values p (some stored)) := by
  obtain ⟨s', hs', hthread, hrepresents⟩ := exists_copyConstruct h hcopy hq hfresh
  unfold assign
  rw [hs', Option.bind_some, ← hthread]
  exact yields_replace hrepresents hp hcopy

theorem exists_resize (h : s.Represents values) (hp : (values p).isSome) (hother : values .other = none)
    (hfresh : fresh.Usable s.heap) {size : ℕ} (hsize : size < 2 ^ 31) : ∃ bytes : List UInt8, bytes.length = size ∧
      Yields (s.resize p size fresh) s.thread (Function.update values p (some ⟨SizeType.ofSize size, bytes⟩)) := by
  obtain ⟨bytes, hlength, hrepresents⟩ := exists_constructWithSize h hother hfresh hsize
  refine ⟨bytes, hlength, ?_⟩
  have hthread : (s.constructWithSize .other size fresh).thread = s.thread := by
    unfold constructWithSize
    dsimp only
    split_ifs <;> rfl
  rw [← hthread]
  exact yields_replace hrepresents hp hother

theorem yields_stdSwap (h : s.Represents values) (hp : (values p).isSome) (hq : (values q).isSome)
    (htmp : values .tmp = none) (fresh : Fresh) : Yields (s.stdSwap p q fresh) s.thread (values ∘ Equiv.swap p q) := by
  have hpne : p ≠ .tmp := by
    rintro rfl
    rw [htmp] at hp
    cases hp
  have hqne : q ≠ .tmp := by
    rintro rfl
    rw [htmp] at hq
    cases hq
  have htmp' : Equiv.swap p q .tmp = .tmp := Equiv.swap_apply_of_ne_of_ne hpne.symm hqne.symm
  refine (yields_moveConstruct h htmp hp fresh).bind fun s₁ hthread₁ hs₁ => ?_
  set values₁ := Function.update values .tmp (some ⟨SizeType.ofSize 0, []⟩) ∘ Equiv.swap .tmp p with hvalues₁
  have hp₁ : (values₁ p).isSome := by
    rw [hvalues₁, Function.comp_apply, Equiv.swap_apply_right, Function.update_self]
    rfl
  have hq₁ : (values₁ q).isSome := by
    by_cases hqp : q = p
    · rwa [hqp]
    · rwa [hvalues₁, Function.comp_apply, Equiv.swap_apply_of_ne_of_ne hqne hqp, Function.update_of_ne hqne]
  have htmp₁ : (values₁ .tmp).isSome := by
    rwa [hvalues₁, Function.comp_apply, Equiv.swap_apply_left, Function.update_of_ne hpne]
  rw [← hthread₁]
  refine (yields_moveAssign hs₁ hp₁ hq₁).bind fun s₂ hthread₂ hs₂ => ?_
  have hq₂ : ((values₁ ∘ Equiv.swap p q) q).isSome := by rwa [Function.comp_apply, Equiv.swap_apply_right]
  have htmp₂ : ((values₁ ∘ Equiv.swap p q) .tmp).isSome := by rwa [Function.comp_apply, htmp']
  rw [← hthread₂]
  refine (yields_moveAssign hs₂ hq₂ htmp₂).bind fun s₃ hthread₃ hs₃ => ?_
  obtain ⟨s₄, hs₄, hthread₄, hrepresents⟩ := exists_destroy (p := .tmp) hs₃
    (by rwa [Function.comp_apply, Equiv.swap_apply_right])
  rw [exchange_through hpne hqne htmp] at hrepresents
  exact ⟨s₄, hs₄, hthread₄.trans hthread₃, hrepresents⟩

end Containers

end Forum.FastJsonWriter
