import Mathlib.Algebra.Order.Ring.Int
import Mathlib.Data.List.Basic
import Mathlib.Tactic.Ring
import Forum.Entities.SortedVector
import Forum.Serialization.MessagePages

/-!
# Pages of a collection

How `writeEntitiesWithPagination` and `writeDiscussionThreadMessages` walk over the elements of a page, with the integers and
the iterators they use, and how the rank of a message in its thread is found. Both walk over the same elements, which are
those of `pageOf`; the pages of a collection list each of its elements once, in the order of the collection or in the reversed
order; and a message is found on the page that its rank says: `pages_spec`.

An `int_fast32_t` has as many bits as the platform likes, from 32 to 64. What does not fit is wrapped.
-/

namespace Forum.Serialization

open Forum.Library Forum.Entities Forum.Authorization Forum.Repository

universe u

variable {α : Type u}

/-! ### Pages -/

/-- The elements of a page, with integers of any size. `nth` of a number past the end is the end, and an empty range when
the page starts at `begin`. -/
def pageOf (collection : List α) (pageNumber : ℤ) (pageSize : ℕ) (ascending : Bool) : List α :=
  let totalCount : ℤ := collection.length
  let firstElementIndex := max 0 (pageNumber * pageSize)
  if ascending then (collection.take (firstElementIndex + pageSize).toNat).drop firstElementIndex.toNat
  else
    let itStart := max (totalCount - firstElementIndex) 0
    let itEnd := max (totalCount - firstElementIndex - pageSize) 0
    ((collection.take itStart.toNat).drop itEnd.toNat).reverse

section

variable {collection : List α} {pageNumber : ℤ} {pageSize : ℕ}

/-- An ascending page skips the pages before it. -/
theorem pageOf_ascending : pageOf collection pageNumber pageSize true =
    (collection.drop (pageNumber.toNat * pageSize)).take pageSize := by
  have hfirst : (max 0 (pageNumber * pageSize)).toNat = pageNumber.toNat * pageSize := by
    rcases Int.le_total 0 pageNumber with h | h
    · obtain ⟨n, rfl⟩ := Int.eq_ofNat_of_zero_le h
      rw [← Int.natCast_mul, max_eq_right (Int.natCast_nonneg _), Int.toNat_natCast, Int.toNat_natCast]
    · have hneg : pageNumber * pageSize ≤ 0 := Int.mul_nonpos_of_nonpos_of_nonneg h (Int.natCast_nonneg _)
      rw [max_eq_left hneg, Int.toNat_of_nonpos h, Nat.zero_mul]
      rfl
  have hlast : (max 0 (pageNumber * pageSize) + pageSize).toNat = pageNumber.toNat * pageSize + pageSize := by
    rw [Int.toNat_add (le_max_left _ _) (Int.natCast_nonneg _), hfirst, Int.toNat_natCast]
  unfold pageOf
  rw [if_pos rfl, hfirst, hlast, List.drop_take, Nat.add_sub_cancel_left]

/-- A descending page is an ascending one of what is listed in reverse. -/
theorem pageOf_descending : pageOf collection pageNumber pageSize false =
    pageOf collection.reverse pageNumber pageSize true := by
  unfold pageOf
  rw [if_neg (by decide), if_pos rfl]
  generalize hfirst : max 0 (pageNumber * (pageSize : ℤ)) = first
  have hnonneg : 0 ≤ first := hfirst ▸ le_max_left _ _
  dsimp only
  rw [List.take_reverse, List.drop_reverse, List.length_drop, List.drop_take]
  congr 2
  · omega
  · congr 1
    omega

end

/-! ### Pages that are written -/

/-- `writeEntitiesWithPagination`, with the `filter` and the `serialize` of the entities. -/
def writeEntitiesWithPagination (bits : ℕ) (collection : List α) (pageNumber pageSize : ℤ) (ascending : Bool)
    (propertyName : String) (filter : α → Bool) (serialize : α → Json) : Option Properties :=
  (selectPage bits collection pageNumber pageSize ascending).map fun elements =>
    [("totalCount", .number (intFast32 bits collection.length)), ("pageSize", .number pageSize), ("page", .number pageNumber),
      (propertyName, .array ((elements.filter filter).map serialize))]

/-- `findRankByCreated` of the messages of a thread. -/
def findRankByCreated (s : EntityCollection) (thread message : IdType) : Option ℕ :=
  let byCreated := s.index (.messages (.ofThread thread))
  let created := fun message => (s.message message).created
  if message ∈ s.threadMessages thread then
    let range := SortedVector.equal_range (messageKey created) (messageKey created message) byCreated
    (SortedVector.findItem message byCreated (range.2 - range.1) range.1).map SortedVector.index_of
  else none

/-! ### The integers -/

/-- A value whose remainder fits is that remainder. -/
theorem intFast32_eq {k : ℕ} {value result : ℤ} (h : -2 ^ k ≤ result) (hlt : result < 2 ^ k)
    (hdvd : (2 ^ (k + 1) : ℤ) ∣ result - value) : intFast32 (k + 1) value = result := by
  have hpow : ((2 ^ (k + 1) : ℕ) : ℤ) = 2 * 2 ^ k := by
    rw [Nat.cast_pow, Nat.cast_ofNat, pow_succ, mul_comm]
  refine (Int.bmod_eq_iff (Nat.two_pow_pos _)).2 ⟨?_, ?_, ?_⟩
  · rw [hpow]
    omega
  · rw [hpow]
    omega
  · rwa [Nat.cast_pow, Nat.cast_ofNat]

theorem intFast32_of_fits {k : ℕ} {value : ℤ} (h : -2 ^ k ≤ value) (hlt : value < 2 ^ k) :
    intFast32 (k + 1) value = value := intFast32_eq h hlt (by rw [sub_self]; exact dvd_zero _)

variable {k : ℕ} {collection : List α} {a b : ℤ}

theorem nth_of_nonneg (h : 0 ≤ a) (hlt : a < 2 ^ 64) : nth collection a = min a.toNat collection.length := by
  unfold nth
  rw [Int.emod_eq_of_lt h hlt]

/-- A sum that does not fit is wrapped to a value that is converted to one behind every end. -/
theorem nth_intFast32_add (hk : k ≤ 63) (hlength : (collection.length : ℤ) < 2 ^ k) (ha : 0 ≤ a) (hak : a < 2 ^ k) (hb : 0 ≤ b)
    (hbk : b < 2 ^ k) : nth collection (intFast32 (k + 1) (a + b)) = min (a + b).toNat collection.length := by
  have hpow : (2 : ℤ) ^ k ≤ 2 ^ 63 := pow_le_pow_right₀ (by decide) hk
  rcases lt_or_ge (a + b) (2 ^ k) with hfits | hwraps
  · rw [intFast32_of_fits (by omega) hfits, nth_of_nonneg (by omega) (by omega)]
  · have hwrapped : intFast32 (k + 1) (a + b) = a + b - 2 ^ (k + 1) := by
      refine intFast32_eq ?_ ?_ ⟨-1, by ring⟩ <;> rw [pow_succ] <;> omega
    rw [hwrapped]
    unfold nth
    rw [pow_succ]
    omega

/-! ### The elements of a page -/

theorem walkForwards_eq {rest : List α} {it last : ℕ} (h : it ≤ last) (hlast : last ≤ it + rest.length) :
    walkForwards last rest it = some (rest.take (last - it)) := by
  induction rest generalizing it with
  | nil =>
    have heq : it = last := Nat.le_antisymm h hlast
    unfold walkForwards
    rw [if_pos heq, List.take_nil]
  | cons element rest ih =>
    unfold walkForwards
    rw [List.length_cons] at hlast
    split_ifs with heq
    · rw [heq, Nat.sub_self, List.take_zero]
    · rw [ih (by omega) (by omega), Option.map_some]
      obtain ⟨steps, hsteps⟩ : ∃ steps, last - it = steps + 1 := ⟨last - it - 1, by omega⟩
      rw [hsteps, List.take_succ_cons, show last - (it + 1) = steps by omega]

theorem walkBackwards_eq {itEnd it : ℕ} (h : itEnd ≤ it) (hit : it ≤ collection.length) :
    walkBackwards collection itEnd it = some ((collection.take it).drop itEnd).reverse := by
  induction it with
  | zero =>
    obtain rfl : itEnd = 0 := Nat.le_zero.1 h
    rfl
  | succ it ih =>
    unfold walkBackwards
    split_ifs with heq
    · rw [← heq, List.drop_eq_nil_of_le (by rw [List.length_take]; omega)]
      rfl
    · have hget := List.getElem?_eq_getElem (show it < collection.length by omega)
      rw [ih (by omega) (by omega), hget, Option.bind_some, Option.map_some, List.take_add_one, hget, Option.toList_some,
        List.drop_append_of_le_length (by rw [List.length_take]; omega), List.reverse_append]
      rfl

/-- Positions behind the end make no difference. -/
theorem take_drop_min (i j : ℕ) : (collection.drop (min i collection.length)).take
    (min j collection.length - min i collection.length) = (collection.drop i).take (j - i) := by
  rcases Nat.le_total i collection.length with hi | hi
  · rw [min_eq_left hi, List.take_eq_take_iff, List.length_drop]
    omega
  · rw [min_eq_right hi, List.drop_length, List.take_nil, List.drop_eq_nil_of_le hi, List.take_nil]

/-- Both functions walk over the elements of the page, if the products and the sizes fit. -/
theorem selectPage_eq {pageNumber : ℤ} {pageSize : ℕ} (hk : k ≤ 63) (hlength : (collection.length : ℤ) < 2 ^ k)
    (hsize : (pageSize : ℤ) < 2 ^ k) (hfits : -2 ^ k ≤ pageNumber * pageSize) (hproduct : pageNumber * pageSize < 2 ^ k)
    (ascending : Bool) : selectPage (k + 1) collection pageNumber pageSize ascending =
      some (pageOf collection pageNumber pageSize ascending) := by
  have hpow : (2 : ℤ) ^ k ≤ 2 ^ 63 := pow_le_pow_right₀ (by decide) hk
  unfold selectPage pageOf
  rw [intFast32_of_fits hfits hproduct, intFast32_of_fits (by omega) hlength]
  have hnonneg : 0 ≤ max 0 (pageNumber * (pageSize : ℤ)) := le_max_left _ _
  have hlt : max 0 (pageNumber * (pageSize : ℤ)) < 2 ^ k := by omega
  generalize max 0 (pageNumber * (pageSize : ℤ)) = first at hnonneg hlt
  have hstart : intFast32 (k + 1) (collection.length - first) = collection.length - first :=
    intFast32_of_fits (by omega) (by omega)
  have hitStart : nth collection (max ((collection.length : ℤ) - first) 0) = (max ((collection.length : ℤ) - first) 0).toNat := by
    rw [nth_of_nonneg (by omega) (by omega), min_eq_left (by omega)]
  dsimp only
  rw [hstart, hitStart]
  split_ifs with hascending hbegin
  · rw [nth_intFast32_add hk hlength hnonneg hlt (by omega) hsize, nth_of_nonneg hnonneg (by omega),
      walkForwards_eq (by omega) (by rw [List.length_drop]; omega), take_drop_min, List.drop_take]
  · rw [intFast32_of_fits (by omega) (by omega), nth_of_nonneg (by omega) (by omega), min_eq_left (by omega),
      walkBackwards_eq (by omega) (by omega)]
  · rw [not_not.1 hbegin, List.take_zero, List.drop_nil, List.reverse_nil]

/-! ### All pages -/

/-- The pages from the first one on list the collection from its beginning on. -/
theorem flatten_pages (collection : List α) (pageSize pages : ℕ) :
    ((List.range pages).map fun (page : ℕ) => pageOf collection page pageSize true).flatten =
      collection.take (pages * pageSize) := by
  induction pages with
  | zero =>
    rw [Nat.zero_mul, List.take_zero]
    rfl
  | succ pages ih =>
    rw [List.range_succ, List.map_append, List.flatten_append, ih, List.map_singleton, List.flatten_singleton,
      pageOf_ascending, Int.toNat_natCast, Nat.succ_mul, List.take_add]

/-- The elements in the direction in which they are listed. -/
def inDirection (ascending : Bool) (collection : List α) : List α := if ascending then collection else collection.reverse

theorem pageOf_inDirection (collection : List α) (pageNumber : ℤ) (pageSize : ℕ) (ascending : Bool) :
    pageOf collection pageNumber pageSize ascending = pageOf (inDirection ascending collection) pageNumber pageSize true := by
  cases ascending with
  | true => rfl
  | false => exact pageOf_descending

theorem length_inDirection (ascending : Bool) (collection : List α) :
    (inDirection ascending collection).length = collection.length := by
  unfold inDirection
  split_ifs
  · rfl
  · exact List.length_reverse

/-- Pages partition a collection. -/
structure Partitions (bits pageSize : ℕ) (collection : List α) : Prop where
  /-- What is walked over for a page. -/
  selects : ∀ (page : ℕ) ascending, page * pageSize < 2 ^ (bits - 1) →
    selectPage bits collection page pageSize ascending = some (pageOf collection page pageSize ascending)
  /-- So many pages that they reach the end. -/
  concatenate : ∀ pages ascending, collection.length ≤ pages * pageSize →
    ((List.range pages).map fun (page : ℕ) => pageOf collection page pageSize ascending).flatten =
      inDirection ascending collection
  beyond : ∀ (page : ℕ) ascending, collection.length ≤ page * pageSize → pageOf collection page pageSize ascending = []

theorem partitions {bits pageSize : ℕ} (hbits : 1 ≤ bits) (hmost : bits ≤ 64) (hsize : pageSize < 2 ^ (bits - 1))
    (hlength : collection.length < 2 ^ (bits - 1)) : Partitions bits pageSize collection := by
  obtain ⟨k, rfl⟩ := Nat.exists_eq_add_of_le' hbits
  rw [Nat.add_sub_cancel] at hsize hlength
  refine ⟨fun page ascending hfits => ?_, fun pages ascending hpages => ?_, fun page ascending hpage => ?_⟩
  · rw [Nat.add_sub_cancel] at hfits
    refine selectPage_eq (by omega) (by exact_mod_cast hlength) (by exact_mod_cast hsize) ?_ (by exact_mod_cast hfits) ascending
    exact le_trans (Int.neg_nonpos_of_nonneg (Int.le_of_lt (Int.pow_pos (by decide))))
      (Int.mul_nonneg (Int.natCast_nonneg _) (Int.natCast_nonneg _))
  · simp only [pageOf_inDirection collection _ pageSize ascending]
    rw [flatten_pages, List.take_of_length_le (by rwa [length_inDirection])]
  · rw [pageOf_inDirection, pageOf_ascending, Int.toNat_natCast, List.drop_eq_nil_of_le (by rwa [length_inDirection]),
      List.take_nil]

/-! ### Ranks -/

/-- An element is on the page that its position says. -/
theorem getElem?_pageOf {position pageSize : ℕ} (hsize : 1 ≤ pageSize) :
    (pageOf collection (position / pageSize : ℕ) pageSize true)[position % pageSize]? = collection[position]? := by
  rw [pageOf_ascending, Int.toNat_natCast, List.getElem?_take_of_lt (Nat.mod_lt _ hsize), List.getElem?_drop,
    Nat.div_add_mod']

variable {s : EntityCollection}

/-- The rank is the position of the message. -/
theorem exists_findRankByCreated {admissible : Context → EntityCollection → Operation → Prop} (h : Reachable admissible s)
    (hbatch : s.batchInsertInProgress = false) {thread message : IdType} (ht : thread ∈ s.allThreads)
    (hm : message ∈ s.threadMessages thread) :
    ∃ rank, findRankByCreated s thread message = some rank ∧
      (s.index (.messages (.ofThread thread)))[rank]? = some message := by
  have hindexes := (h.messagesListed hbatch thread ht).2
  obtain ⟨rank, hrank⟩ := SortedVector.exists_findItem_equal_range hindexes.ordered ((hindexes.mem_iff message).2 hm)
  refine ⟨rank, ?_, SortedVector.findItem_eq_some hrank⟩
  unfold findRankByCreated
  rw [if_pos hm]
  exact (congrArg (Option.map _) hrank).trans rfl

/-- The pages of every collection partition it, both functions write about the same elements, and a message is found on the
page that its rank says. -/
theorem pages_spec {bits pageSize : ℕ} (hbits : 32 ≤ bits) (hmost : bits ≤ 64) (hpage : 1 ≤ pageSize)
    (hsize : pageSize < 2 ^ (bits - 1)) :
    (∀ (α : Type u) (collection : List α), collection.length < 2 ^ (bits - 1) → Partitions bits pageSize collection) ∧
    (∀ (x : SerializationContext) (settings : SerializationSettings) (collection : List IdType) (page : ℕ) (ascending : Bool)
      (propertyName : String) (filter : IdType → Bool) (serialize : IdType → Json),
      x.intFast32Bits = bits → collection.length < 2 ^ (bits - 1) → page * pageSize < 2 ^ (bits - 1) →
      ∃ elements, messagesToCheck bits collection page pageSize ascending = some elements ∧
        writeEntitiesWithPagination bits collection page pageSize ascending propertyName filter serialize =
          some [("totalCount", .number collection.length), ("pageSize", .number pageSize), ("page", .number page),
            (propertyName, .array ((elements.filter filter).map serialize))] ∧
        x.writeDiscussionThreadMessages settings collection page pageSize ascending propertyName =
          [("totalCount", .number collection.length), ("pageSize", .number pageSize), ("page", .number page),
            (propertyName, .array (((x.bulkChecks elements).filter fun item => item.allowedToShowMessage).map fun item =>
              x.serializeDiscussionThreadMessage (settings.forItem item) item.message))]) ∧
    (∀ (s : EntityCollection) (thread message : IdType), Reachable anyOperation s → s.batchInsertInProgress = false →
      thread ∈ s.allThreads → message ∈ s.threadMessages thread →
      (s.index (.messages (.ofThread thread))).length < 2 ^ (bits - 1) →
      ∃ rank elements, findRankByCreated s thread message = some rank ∧
        selectPage bits (s.index (.messages (.ofThread thread))) (rank / pageSize : ℕ) pageSize true = some elements ∧
        elements[rank % pageSize]? = some message) := by
  refine ⟨fun α collection hlength => partitions (by omega) hmost hsize hlength, ?_, ?_⟩
  · intro x settings collection page ascending propertyName filter serialize hx hlength hfits
    have hselects := (partitions (by omega) hmost hsize hlength).selects page ascending hfits
    have htotal : intFast32 bits collection.length = collection.length := by
      obtain ⟨k, rfl⟩ := Nat.exists_eq_add_of_le' (show 1 ≤ bits by omega)
      rw [Nat.add_sub_cancel] at hlength
      exact intFast32_of_fits
        (le_trans (Int.neg_nonpos_of_nonneg (Int.le_of_lt (Int.pow_pos (by decide)))) (Int.natCast_nonneg _))
        (by exact_mod_cast hlength)
    refine ⟨pageOf collection page pageSize ascending, hselects, ?_, ?_⟩
    · unfold writeEntitiesWithPagination
      rw [hselects, htotal]
      rfl
    · rw [SerializationContext.writeDiscussionThreadMessages, hx, htotal, messagesToCheck, hselects]
      rfl
  · intro s thread message hreached hbatch ht hm hlength
    obtain ⟨rank, hrank, hget⟩ := exists_findRankByCreated hreached hbatch ht hm
    have hlt := (List.getElem?_eq_some_iff.1 hget).1
    have hfits : rank / pageSize * pageSize < 2 ^ (bits - 1) := by
      have hle := Nat.div_mul_le_self rank pageSize
      omega
    exact ⟨rank, _, hrank, (partitions (by omega) hmost hsize hlength).selects _ true hfits,
      (getElem?_pageOf hpage).trans hget⟩

/-- One more message is added to the thread, at the time of its second message. -/
def messagesAtOnce : List (Context × Operation) :=
  threadOfUser ++
    [({ currentUserId := 1, currentTime := 4 }, .addNewDiscussionMessageInThread 5 2 true (.text "third"))]

theorem reachable_messagesAtOnce : Reachable anyOperation (run messagesAtOnce .empty) :=
  Reachable.empty.run messagesAtOnce (by decide +kernel)

theorem index_messagesAtOnce : (run messagesAtOnce .empty).index (.messages (.ofThread 2)) = [3, 4, 5] ∧
    ((run messagesAtOnce .empty).message 4).created = 4 ∧ ((run messagesAtOnce .empty).message 5).created = 4 := by
  decide +kernel

/-- What the visitor is shown of them. -/
def contextOfMessagesAtOnce : SerializationContext :=
  { contextOfVisitor with
    collection := { contextOfVisitor.collection with toEntityCollection := run messagesAtOnce .empty }
    intFast32Bits := 32 }

/-- With two messages on a page the last one of two that were created at once is alone on the second page. Listed from
the end, the first page has both. -/
theorem pages_spec_messagesAtOnce :
    Partitions 32 2 [3, 4, 5] ∧
    (∃ elements, messagesToCheck 32 [3, 4, 5] (0 : ℕ) (2 : ℕ) false = some elements ∧
      writeEntitiesWithPagination 32 [3, 4, 5] (0 : ℕ) (2 : ℕ) false "messages" (· ≠ 4) .uuid =
        some [("totalCount", .number ([3, 4, 5].length : ℕ)), ("pageSize", .number (2 : ℕ)), ("page", .number (0 : ℕ)),
          ("messages", .array ((elements.filter (· ≠ 4)).map .uuid))] ∧
      contextOfMessagesAtOnce.writeDiscussionThreadMessages {} [3, 4, 5] (0 : ℕ) 2 false "messages" =
        [("totalCount", .number ([3, 4, 5].length : ℕ)), ("pageSize", .number (2 : ℕ)), ("page", .number (0 : ℕ)),
          ("messages", .array (((contextOfMessagesAtOnce.bulkChecks elements).filter fun item =>
            item.allowedToShowMessage).map fun item =>
              contextOfMessagesAtOnce.serializeDiscussionThreadMessage (({} : SerializationSettings).forItem item)
                item.message))]) ∧
    (∃ rank elements, findRankByCreated (run messagesAtOnce .empty) 2 5 = some rank ∧
      selectPage 32 ((run messagesAtOnce .empty).index (.messages (.ofThread 2))) (rank / 2 : ℕ) (2 : ℕ) true = some elements ∧
      elements[rank % 2]? = some 5) ∧
    ((run messagesAtOnce .empty).message 4).created = ((run messagesAtOnce .empty).message 5).created ∧
    findRankByCreated (run messagesAtOnce .empty) 2 5 = some 2 ∧ messagesToCheck 32 [3, 4, 5] 0 2 false = some [5, 4] := by
  obtain ⟨hpartitions, hwritten, hranks⟩ := @pages_spec.{0} 32 2 (by decide) (by decide) (by decide) (by decide)
  refine ⟨hpartitions _ [3, 4, 5] (by decide), ?_, ?_, index_messagesAtOnce.2.1.trans index_messagesAtOnce.2.2.symm,
    by decide +kernel, by decide +kernel⟩
  · exact hwritten contextOfMessagesAtOnce {} [3, 4, 5] 0 false "messages" _ _ rfl (by decide) (by decide)
  · have hlength : ((run messagesAtOnce .empty).index (.messages (.ofThread 2))).length < 2 ^ (32 - 1) := by
      rw [index_messagesAtOnce.1]
      decide
    exact hranks _ 2 5 reachable_messagesAtOnce (by decide +kernel) (by decide +kernel) (by decide +kernel) hlength

end Forum.Serialization
