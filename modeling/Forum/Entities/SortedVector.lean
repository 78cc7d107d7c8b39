import Forum.Library.BinarySearch
import Forum.Library.OrderedIndex
import Forum.Library.Runs

/-!
# Sorted vectors

`SortedVectorMultiValue` and `SortedVectorUnique`: vectors of pointers in the order of a key of what they point to. Searches
halve, an insertion shifts, and a replacement swaps with the neighbours. The key of an element can be changed in place before
it is replaced, so it is a function that every operation reads anew. An order of pointers with equivalent ones is that of a
key, which `Compare` compares.

Multiple values stay sorted, with the elements that the operations imply. The same is true of unique values but for a
replacement, which removes the element when the search for the key of the new value ends at the replaced element itself, and
which can miss another element with that key while the vector is out of order: `runs_spec`.
-/

namespace Forum.Entities.SortedVector

open Library

variable {T κ : Type*} [LinearOrder κ]

/-! ### Searches -/

section Searches

variable (key : T → κ)

/-- The first position whose key is not less than `k`. -/
def lower_bound (k : κ) (v : List T) : ℕ := partitionPoint (fun y => decide (key y < k)) v v.length 0 v.length

/-- The first position whose key is greater than `k`. -/
def upper_bound (k : κ) (v : List T) : ℕ := partitionPoint (fun y => !decide (k < key y)) v v.length 0 v.length

/-- Where the items with the key `k` begin and end. -/
def equal_range (k : κ) (v : List T) : ℕ × ℕ :=
  rangeOf (fun y => decide (key y < k)) (fun y => decide (k < key y)) v v.length 0 v.length

/-- `SortedVectorUnique::find`. -/
def find (k : κ) (v : List T) : ℕ :=
  if (equal_range key k v).1 = (equal_range key k v).2 then v.length else (equal_range key k v).1

/-- From `begin`, which is position zero. -/
def index_of (position : ℕ) : ℕ := position - 0

/-- The loop of `eraseFromNonUniqueCollection` and of `findInNonUniqueCollection`. -/
def findItem [DecidableEq T] (toCompare : T) (v : List T) : ℕ → ℕ → Option ℕ
  | 0, _ => none
  | remaining + 1, it => if v[it]? = some toCompare then some it else findItem toCompare v remaining (it + 1)

/-- The position of one item among those with the same key, `end` if it is not there. -/
def findInNonUniqueCollection [DecidableEq T] (toCompare : T) (toSearch : κ) (v : List T) : ℕ :=
  (findItem toCompare v ((equal_range key toSearch v).2 - (equal_range key toSearch v).1)
    (equal_range key toSearch v).1).getD v.length

end Searches

/-! ### Changes -/

/-- `std::sort`, which may leave elements with the same key in any order. -/
structure Sorting (T κ : Type*) [LinearOrder κ] where
  sort : (T → κ) → List T → List T
  perm : ∀ key v, (sort key v).Perm v
  ordered : ∀ key v, KeyOrdered key (sort key v)

section Changes

variable (key : T → κ)

/-- The comparison of the elements at two positions. -/
def less (v : List T) (i j : ℕ) : Bool :=
  match v[i]?, v[j]? with
  | some a, some b => decide (key a < key b)
  | _, _ => false

/-- `std::iter_swap`. -/
def iterSwap (i j : ℕ) (v : List T) : List T :=
  match v[i]?, v[j]? with
  | some a, some b => (v.set i b).set j a
  | _, _ => v

/-- The loop that moves an item to the left for as long as it is less than the one before it. -/
def replaceToTheLeft : ℕ → List T → List T × ℕ
  | 0, v => (v, 0)
  | it + 1, v => if less key v (it + 1) it then replaceToTheLeft it (iterSwap (it + 1) it v) else (v, it + 1)

/-- With so many elements up to the last one. -/
def replaceToTheRight : ℕ → ℕ → List T → List T × ℕ
  | 0, it, v => (v, it)
  | remaining + 1, it, v =>
    if less key v (it + 1) it then replaceToTheRight remaining (it + 1) (iterSwap it (it + 1) v) else (v, it)

/-- Replaces an item and moves it to where it belongs, to the left or else to the right. The position it ends up at is returned. -/
def replaceInternal (position : ℕ) (value : T) (v : List T) : List T × ℕ :=
  if (replaceToTheLeft key position (v.set position value)).2 < position then
    replaceToTheLeft key position (v.set position value)
  else
    replaceToTheRight key (v.length - 1 - position) position (replaceToTheLeft key position (v.set position value)).1

namespace MultiValue

/-- A new item goes behind the ones with the same key. -/
def insert (value : T) (v : List T) : List T × ℕ :=
  (v.insertIdx (upper_bound key (key value) v) value, upper_bound key (key value) v)

/-- All values are appended and the vector is sorted again. -/
def insertRange (sorting : Sorting T κ) (values v : List T) : List T := sorting.sort key (v ++ values)

/-- `replace` of a vector that may have items with the same key. -/
def replace (position : ℕ) (value : T) (v : List T) : List T × ℕ := replaceInternal key position value v

end MultiValue

namespace Unique

/-- A new item is only inserted if none has its key. -/
def insert (value : T) (v : List T) : List T × ℕ × Bool :=
  if (equal_range key (key value) v).1 ≠ (equal_range key (key value) v).2 then
    (v, (equal_range key (key value) v).1, false)
  else (v.insertIdx (equal_range key (key value) v).1 value, (equal_range key (key value) v).1, true)

/-- `replace` of a vector that has one item for each key. -/
def replace (position : ℕ) (value : T) (v : List T) : List T × ℕ :=
  -- the item that cannot be replaced is removed
  if find key (key value) v ≠ v.length then (v.eraseIdx position, position) else replaceInternal key position value v

end Unique

/-- `eraseFromNonUniqueCollection`. It asserts that the item is found. -/
def eraseFromNonUniqueCollection [DecidableEq T] (toCompare : T) (toSearch : κ) (v : List T) : List T :=
  match findItem toCompare v ((equal_range key toSearch v).2 - (equal_range key toSearch v).1)
      (equal_range key toSearch v).1 with
  | some it => v.eraseIdx it
  | none => v

end Changes

/-! ### Searches of a sorted vector -/

variable {key : T → κ} {v : List T}

theorem holdsUpTo_lt (ho : KeyOrdered key v) (k : κ) :
    HoldsUpTo (fun y => decide (key y < k)) v (v.takeWhile fun y => decide (key y < k)).length 0 v.length :=
  holdsUpTo_takeWhile (ho.imp fun hab hb => decide_eq_true (hab.trans_lt (of_decide_eq_true hb)))

theorem holdsUpTo_le (ho : KeyOrdered key v) (k : κ) :
    HoldsUpTo (fun y => !decide (k < key y)) v (v.takeWhile fun y => !decide (k < key y)).length 0 v.length := by
  refine holdsUpTo_takeWhile (ho.imp fun hab hb => ?_)
  rw [Bool.not_eq_true', decide_eq_false_iff_not] at hb ⊢
  exact fun hk => hb (hk.trans_le hab)

theorem length_takeWhile_le (p : T → Bool) : (v.takeWhile p).length ≤ v.length := (List.takeWhile_sublist p).length_le

theorem lower_bound_eq (ho : KeyOrdered key v) (k : κ) : lower_bound key k v = lowerBound key k v :=
  partitionPoint_eq (holdsUpTo_lt ho k) le_rfl (Nat.zero_le _) (by rw [Nat.zero_add]; exact length_takeWhile_le _)

theorem upper_bound_eq (ho : KeyOrdered key v) (k : κ) :
    upper_bound key k v = (v.takeWhile fun y => !decide (k < key y)).length :=
  partitionPoint_eq (holdsUpTo_le ho k) le_rfl (Nat.zero_le _) (by rw [Nat.zero_add]; exact length_takeWhile_le _)

/-- Positions before the bounds are those of smaller keys, and of keys that are not greater. -/
structure Bounds (key : T → κ) (k : κ) (v : List T) : Prop where
  lower_le : lower_bound key k v ≤ upper_bound key k v
  upper_le : upper_bound key k v ≤ v.length
  lower : ∀ i y, v[i]? = some y → (i < lower_bound key k v ↔ key y < k)
  upper : ∀ i y, v[i]? = some y → (i < upper_bound key k v ↔ key y ≤ k)
  range : equal_range key k v = (lower_bound key k v, upper_bound key k v)

theorem bounds (ho : KeyOrdered key v) (k : κ) : Bounds key k v := by
  have hlt := holdsUpTo_lt ho k
  have hle := holdsUpTo_le ho k
  rw [← upper_bound_eq ho k] at hle
  have hlower : HoldsUpTo (fun y => decide (key y < k)) v (lower_bound key k v) 0 v.length := by
    rw [lower_bound_eq ho k]
    exact hlt
  have hupper_le : upper_bound key k v ≤ v.length := by
    rw [upper_bound_eq ho k]
    exact length_takeWhile_le _
  have hlower_le : lower_bound key k v ≤ v.length := by
    rw [lower_bound_eq ho k]
    exact length_takeWhile_le _
  have hlowerIff : ∀ i y, v[i]? = some y → (i < lower_bound key k v ↔ key y < k) := by
    intro i y hy
    have hi : i < v.length := (List.getElem?_eq_some_iff.1 hy).1
    rw [← hlower i (Nat.zero_le i) (by omega), hy, Option.any_some, decide_eq_true_iff]
  have hupperIff : ∀ i y, v[i]? = some y → (i < upper_bound key k v ↔ key y ≤ k) := by
    intro i y hy
    have hi : i < v.length := (List.getElem?_eq_some_iff.1 hy).1
    rw [← hle i (Nat.zero_le i) (by omega), hy, Option.any_some, Bool.not_eq_true', decide_eq_false_iff_not, not_lt]
  have hrange : lower_bound key k v ≤ upper_bound key k v := by
    by_contra hlt
    have hi : upper_bound key k v < v.length := by omega
    have hget := List.getElem?_eq_getElem hi
    have hless := (hlowerIff _ _ hget).1 (by omega)
    exact absurd ((hupperIff _ _ hget).2 hless.le) (Nat.lt_irrefl _)
  exact ⟨hrange, hupper_le, hlowerIff, hupperIff,
    rangeOf_eq hlower hle (by rw [Nat.zero_add]) le_rfl (Nat.zero_le _) hrange (by rw [Nat.zero_add]; exact hupper_le)⟩

/-! ### Items -/

theorem findItem_eq_some [DecidableEq T] {toCompare : T} {remaining it j : ℕ}
    (h : findItem toCompare v remaining it = some j) : v[j]? = some toCompare := by
  induction remaining generalizing it with
  | zero => cases h
  | succ remaining ih =>
    unfold findItem at h
    split_ifs at h with hit
    · cases h
      exact hit
    · exact ih h

theorem exists_findItem [DecidableEq T] {toCompare : T} {remaining it i : ℕ} (hi : v[i]? = some toCompare)
    (hfirst : it ≤ i) (hlast : i < it + remaining) : ∃ j, findItem toCompare v remaining it = some j := by
  induction remaining generalizing it with
  | zero => omega
  | succ remaining ih =>
    unfold findItem
    split_ifs with hit
    · exact ⟨it, rfl⟩
    · have hne : it ≠ i := by
        rintro rfl
        exact hit hi
      exact ih (by omega) (by omega)

/-- An item is found in the range of its key. -/
theorem exists_findItem_equal_range [DecidableEq T] (ho : KeyOrdered key v) {x : T} (hx : x ∈ v) :
    ∃ j, findItem x v ((equal_range key (key x) v).2 - (equal_range key (key x) v).1) (equal_range key (key x) v).1 =
      some j := by
  obtain ⟨i, hi⟩ := List.mem_iff_getElem?.1 hx
  have hb := bounds ho (key x)
  have hlower : ¬i < lower_bound key (key x) v := fun h => lt_irrefl _ ((hb.lower i x hi).1 h)
  have hupper : i < upper_bound key (key x) v := (hb.upper i x hi).2 le_rfl
  rw [hb.range]
  exact exists_findItem hi (by dsimp only; omega) (by dsimp only; omega)

theorem getElem?_findInNonUniqueCollection [DecidableEq T] (ho : KeyOrdered key v) {x : T} (hx : x ∈ v) :
    v[findInNonUniqueCollection key x (key x) v]? = some x := by
  obtain ⟨j, hj⟩ := exists_findItem_equal_range ho hx
  unfold findInNonUniqueCollection
  rw [hj]
  exact findItem_eq_some hj

/-- The item that is erased is the given one. -/
theorem exists_eraseFromNonUniqueCollection [DecidableEq T] (ho : KeyOrdered key v) {x : T} (hx : x ∈ v) :
    ∃ j, v[j]? = some x ∧ eraseFromNonUniqueCollection key x (key x) v = v.eraseIdx j := by
  obtain ⟨j, hj⟩ := exists_findItem_equal_range ho hx
  refine ⟨j, findItem_eq_some hj, ?_⟩
  unfold eraseFromNonUniqueCollection
  rw [hj]

/-! ### Insertions -/

theorem insertIdx_eq_append {i : ℕ} {x : T} (hi : i ≤ v.length) : v.insertIdx i x = v.take i ++ x :: v.drop i := by
  induction v generalizing i with
  | nil =>
    obtain rfl : i = 0 := Nat.le_zero.1 hi
    rfl
  | cons y v ih =>
    cases i with
    | zero => rfl
    | succ i =>
      rw [List.insertIdx_succ_cons, ih (Nat.le_of_succ_le_succ hi)]
      rfl

/-- An element may be inserted where those before it have to come before it and those after it after it. -/
theorem pairwise_insertIdx {r : T → T → Prop} {i : ℕ} {x : T} (ho : v.Pairwise r) (hi : i ≤ v.length)
    (hbefore : ∀ j y, j < i → v[j]? = some y → r y x) (hafter : ∀ j y, i ≤ j → v[j]? = some y → r x y) :
    (v.insertIdx i x).Pairwise r := by
  rw [insertIdx_eq_append hi]
  refine pairwise_middle_of (fun y hy => ?_) (fun y hy => ?_) (by rw [List.take_append_drop]; exact ho)
  · obtain ⟨j, hj⟩ := List.mem_iff_getElem?.1 hy
    rw [List.getElem?_take] at hj
    split_ifs at hj with hlt
    exact hbefore j y hlt hj
  · obtain ⟨j, hj⟩ := List.mem_iff_getElem?.1 hy
    rw [List.getElem?_drop] at hj
    exact hafter (i + j) y (Nat.le_add_right i j) hj

/-- Keys are in strictly ascending order. -/
def KeyIncreasing (key : T → κ) (v : List T) : Prop := v.Pairwise fun a b => key a < key b

theorem KeyIncreasing.keyOrdered (h : KeyIncreasing key v) : KeyOrdered key v := h.imp fun hab => hab.le

theorem keyOrdered_insert (ho : KeyOrdered key v) (value : T) : KeyOrdered key (MultiValue.insert key value v).1 := by
  have hb := bounds ho (key value)
  refine pairwise_insertIdx ho hb.upper_le (fun j y hj hy => (hb.upper j y hy).1 hj) fun j y hj hy => ?_
  exact le_of_not_ge fun hle => absurd ((hb.upper j y hy).2 hle) (Nat.not_lt.2 hj)

/-- A key is taken if the range of equal ones is not empty. -/
theorem equal_range_ne_iff (ho : KeyOrdered key v) (k : κ) :
    (equal_range key k v).1 ≠ (equal_range key k v).2 ↔ ∃ y ∈ v, key y = k := by
  have hb := bounds ho k
  have hle := hb.lower_le
  have hupper := hb.upper_le
  rw [hb.range]
  constructor
  · intro hne
    have hlt : lower_bound key k v < upper_bound key k v := lt_of_le_of_ne hle hne
    have hget := List.getElem?_eq_getElem (hlt.trans_le hupper)
    refine ⟨_, List.getElem_mem (hlt.trans_le hupper), le_antisymm ((hb.upper _ _ hget).1 hlt) (le_of_not_gt fun h => ?_)⟩
    exact absurd ((hb.lower _ _ hget).2 h) (Nat.lt_irrefl _)
  · rintro ⟨y, hy, rfl⟩ heq
    obtain ⟨i, hi⟩ := List.mem_iff_getElem?.1 hy
    have hlower : ¬i < lower_bound key (key y) v := fun h => lt_irrefl _ ((hb.lower i y hi).1 h)
    have hlast : i < upper_bound key (key y) v := (hb.upper i y hi).2 le_rfl
    dsimp only at heq
    omega

theorem keyIncreasing_insertIdx (ho : KeyIncreasing key v) {value : T} (hfree : ∀ y ∈ v, key y ≠ key value) :
    KeyIncreasing key (v.insertIdx (equal_range key (key value) v).1 value) := by
  have hb := bounds ho.keyOrdered (key value)
  rw [hb.range]
  refine pairwise_insertIdx ho (hb.lower_le.trans hb.upper_le) (fun j y hj hy => (hb.lower j y hy).1 hj) fun j y hj hy => ?_
  have hle : key value ≤ key y := le_of_not_gt fun hlt => absurd ((hb.lower j y hy).2 hlt) (Nat.not_lt.2 hj)
  exact lt_of_le_of_ne hle (hfree y (List.mem_of_getElem? hy)).symm

/-! ### Replacements -/

/-- Two neighbours. -/
theorem getElem?_neighbours (pre post : List T) (a b : T) :
    (pre ++ a :: b :: post)[pre.length]? = some a ∧ (pre ++ a :: b :: post)[pre.length + 1]? = some b := by
  constructor
  · rw [List.getElem?_append_right le_rfl, Nat.sub_self, List.getElem?_cons_zero]
  · rw [List.getElem?_append_right (Nat.le_add_right _ 1), Nat.add_sub_cancel_left]
    rfl

theorem less_neighbours (key : T → κ) (pre post : List T) (a b : T) :
    less key (pre ++ a :: b :: post) (pre.length + 1) pre.length = decide (key b < key a) := by
  obtain ⟨ha, hb⟩ := getElem?_neighbours pre post a b
  unfold less
  rw [ha, hb]

theorem iterSwap_neighbours (pre post : List T) (a b : T) :
    iterSwap (pre.length + 1) pre.length (pre ++ a :: b :: post) = pre ++ b :: a :: post ∧
      iterSwap pre.length (pre.length + 1) (pre ++ a :: b :: post) = pre ++ b :: a :: post := by
  obtain ⟨ha, hb⟩ := getElem?_neighbours pre post a b
  unfold iterSwap
  rw [ha, hb]
  simp

/-- An element moves to the left past all greater ones. -/
theorem replaceToTheLeft_eq (key : T → κ) (pre post : List T) (x : T) :
    replaceToTheLeft key pre.length (pre ++ x :: post) =
      ((pre.rdropWhile fun y => decide (key x < key y)) ++ x :: ((pre.rtakeWhile fun y => decide (key x < key y)) ++ post),
        (pre.rdropWhile fun y => decide (key x < key y)).length) := by
  induction pre using List.reverseRecOn generalizing post with
  | nil => rfl
  | append_singleton pre z ih =>
    rw [List.length_append, List.length_singleton, List.append_assoc, List.singleton_append]
    unfold replaceToTheLeft
    rw [less_neighbours, (iterSwap_neighbours pre post z x).1, ih]
    by_cases hlt : key x < key z
    · rw [if_pos (decide_eq_true hlt), List.rdropWhile_concat_pos _ _ _ (by simpa using hlt),
        List.rtakeWhile_concat_pos _ _ _ (by simpa using hlt), List.append_assoc, List.singleton_append]
    · rw [if_neg (by simpa using hlt), List.rdropWhile_concat_neg _ _ _ (by simpa using hlt),
        List.rtakeWhile_concat_neg _ _ _ (by simpa using hlt), List.length_append, List.append_assoc]
      rfl

/-- An element moves to the right past all smaller ones. -/
theorem replaceToTheRight_eq (key : T → κ) (pre post : List T) (x : T) :
    replaceToTheRight key post.length pre.length (pre ++ x :: post) =
      (pre ++ (post.takeWhile fun y => decide (key y < key x)) ++ x :: post.dropWhile fun y => decide (key y < key x),
        pre.length + (post.takeWhile fun y => decide (key y < key x)).length) := by
  induction post generalizing pre with
  | nil =>
    rw [List.takeWhile_nil, List.dropWhile_nil, List.append_nil]
    rfl
  | cons z post ih =>
    have hnext := ih (pre ++ [z])
    rw [List.length_append, List.length_singleton, List.append_assoc, List.singleton_append] at hnext
    rw [List.length_cons]
    unfold replaceToTheRight
    rw [less_neighbours, (iterSwap_neighbours pre post x z).2, hnext]
    by_cases hlt : key z < key x
    · rw [if_pos (decide_eq_true hlt), List.takeWhile_cons_of_pos (by simpa using hlt),
        List.dropWhile_cons_of_pos (by simpa using hlt), List.append_assoc pre [z], List.singleton_append,
        List.length_cons, Nat.add_assoc, Nat.add_comm 1]
    · rw [if_neg (by simpa using hlt), List.takeWhile_cons_of_neg (by simpa using hlt),
        List.dropWhile_cons_of_neg (by simpa using hlt), List.append_nil]
      rfl

/-- The loops put an element where a sorted vector has to have it. -/
theorem replaceInternal_eq (key : T → κ) {position : ℕ} (hposition : position < v.length) (x : T) :
    replaceInternal key position x v = (replaceSortedVector key position x v, replacedAt key position x v) := by
  have hpre : (v.take position).length = position := by
    rw [List.length_take]
    omega
  have hpost : (v.drop (position + 1)).length = v.length - 1 - position := by
    rw [List.length_drop]
    omega
  have hset : v.set position x = v.take position ++ x :: v.drop (position + 1) :=
    List.set_eq_take_append_cons_drop.trans (if_pos hposition)
  have hleft := replaceToTheLeft_eq key (v.take position) (v.drop (position + 1)) x
  have hright := replaceToTheRight_eq key (v.take position) (v.drop (position + 1)) x
  have hparts : (v.take position).rdropWhile (fun y => decide (key x < key y)) ++
      (v.take position).rtakeWhile (fun y => decide (key x < key y)) = v.take position :=
    List.rdropWhile_append_rtakeWhile
  have hlengths := congrArg List.length hparts
  rw [List.length_append, hpre] at hlengths
  rw [hpre, ← hset] at hleft
  rw [hpre, hpost] at hright
  unfold replaceInternal replaceSortedVector replacedAt
  rw [hleft]
  dsimp only
  by_cases hnone : (v.take position).rtakeWhile (fun y => decide (key x < key y)) = []
  · rw [hnone, List.append_nil] at hparts
    rw [hnone, hparts, List.nil_append, hpre, if_neg (Nat.lt_irrefl _), if_pos rfl, if_pos rfl, hright]
  · have hpos := List.length_pos_iff.2 hnone
    rw [if_pos (by omega), if_neg hnone, if_neg hnone]

/-- A replacement leaves the other elements as they were, and returns where the new one is. -/
structure Replaced (key : T → κ) (position : ℕ) (value : T) (v v' : List T) (place : ℕ) : Prop where
  others : v'.eraseIdx place = v.eraseIdx position
  found : v'[place]? = some value
  between : KeyOrdered key (v.eraseIdx position) → KeyOrdered key v'

theorem Replaced.length {position place : ℕ} {value : T} {v' : List T} (h : Replaced key position value v v' place) :
    v'.length = (v.eraseIdx position).length + 1 := by
  obtain ⟨hlt, -⟩ := List.getElem?_eq_some_iff.1 h.found
  have hlength := congrArg List.length h.others
  rw [List.length_eraseIdx_of_lt hlt] at hlength
  omega

theorem replaced (key : T → κ) {position : ℕ} (hposition : position < v.length) (value : T) :
    Replaced key position value v (replaceInternal key position value v).1 (replaceInternal key position value v).2 ∧
      (KeyIncreasing key (v.eraseIdx position) → (∀ y ∈ v.eraseIdx position, key y ≠ key value) →
        KeyIncreasing key (replaceInternal key position value v).1) := by
  obtain ⟨l₁, l₂, heq, hlength, hothers, hbetween⟩ := exists_replaceSortedVector key value hposition
  rw [replaceInternal_eq key hposition value, heq, ← hlength]
  refine ⟨⟨?_, ?_, fun ho => ?_⟩, fun ho hfree => ?_⟩
  · dsimp only
    rw [List.eraseIdx_append_of_length_le le_rfl, Nat.sub_self, List.eraseIdx_cons_zero]
    exact hothers
  · rw [List.getElem?_append_right le_rfl, Nat.sub_self, List.getElem?_cons_zero]
  · obtain ⟨hsmall, hgreat⟩ := hbetween ho
    rw [← hothers] at ho
    exact keyOrdered_middle hsmall hgreat ho
  · obtain ⟨hsmall, hgreat⟩ := hbetween ho.keyOrdered
    rw [← hothers] at ho hfree
    refine pairwise_middle_of (fun y hy => ?_) (fun y hy => ?_) ho
    · exact lt_of_le_of_ne (hsmall y hy) (hfree y (List.mem_append_left _ hy))
    · exact lt_of_le_of_ne (hgreat y hy) (hfree y (List.mem_append_right _ hy)).symm

/-! ### Keys that are taken -/

theorem find_ne_iff (ho : KeyOrdered key v) (k : κ) : find key k v ≠ v.length ↔ ∃ y ∈ v, key y = k := by
  have hb := bounds ho k
  rw [← equal_range_ne_iff ho k]
  unfold find
  split_ifs with heq
  · exact iff_of_false (fun h => h rfl) (fun h => h heq)
  · refine iff_of_true ?_ heq
    have hle := hb.lower_le
    have hupper := hb.upper_le
    rw [hb.range] at heq ⊢
    dsimp only at heq ⊢
    omega

/-- A key of unique values is found where it is. -/
theorem getElem?_find (ho : KeyIncreasing key v) {y : T} (hy : y ∈ v) : v[index_of (find key (key y) v)]? = some y := by
  have hb := bounds ho.keyOrdered (key y)
  have hne := (equal_range_ne_iff ho.keyOrdered (key y)).2 ⟨y, hy, rfl⟩
  obtain ⟨i, hi⟩ := List.mem_iff_getElem?.1 hy
  obtain ⟨hlt, hget⟩ := List.getElem?_eq_some_iff.1 hi
  have hlower : ¬i < lower_bound key (key y) v := fun h => lt_irrefl _ ((hb.lower i y hi).1 h)
  have heq : i = lower_bound key (key y) v := by
    by_contra hdiff
    have hless : lower_bound key (key y) v < i := by omega
    have hkeys := List.pairwise_iff_getElem.1 ho _ _ (hless.trans hlt) hlt hless
    have hsmaller := (hb.lower _ _ (List.getElem?_eq_getElem (hless.trans hlt))).2 (hget ▸ hkeys)
    exact Nat.lt_irrefl _ hsmaller
  unfold find index_of
  rw [if_neg hne, hb.range, ← heq]
  exact hi

/-- What the search before a replacement has to find: another element with the key of the value. -/
def FindsOthers (key : T → κ) (position : ℕ) (value : T) (v : List T) : Prop :=
  find key (key value) v ≠ v.length ↔ ∃ y ∈ v.eraseIdx position, key y = key value

/-- In order, that is so unless the replaced element has the key. -/
theorem findsOthers_iff (ho : KeyIncreasing key v) {position : ℕ} {value x : T} (hx : v[position]? = some x) :
    FindsOthers key position value v ↔ key x ≠ key value := by
  obtain ⟨hposition, hget⟩ := List.getElem?_eq_some_iff.1 hx
  have hperm : (x :: v.eraseIdx position).Perm v := hget ▸ List.getElem_cons_eraseIdx_perm hposition
  have hothers : ∀ y ∈ v.eraseIdx position, key y ≠ key x := by
    have hnodup : (v.map key).Nodup := (List.pairwise_map.2 ho).imp fun hab => hab.ne
    have hcons := (hperm.map key).nodup_iff.2 hnodup
    intro y hy heq
    exact (List.nodup_cons.1 hcons).1 (heq ▸ List.mem_map_of_mem hy)
  have hfind : find key (key value) v ≠ v.length ↔
      key x = key value ∨ ∃ y ∈ v.eraseIdx position, key y = key value := by
    rw [find_ne_iff ho.keyOrdered]
    simp only [← hperm.mem_iff, List.mem_cons, or_and_right, exists_or, exists_eq_left]
  unfold FindsOthers
  rw [hfind]
  constructor
  · intro h heq
    obtain ⟨y, hy, hkey⟩ := h.1 (Or.inl heq)
    exact hothers y hy (hkey.trans heq.symm)
  · exact fun hne => or_iff_right hne

/-! ### Runs -/

/-- What is done to a vector. -/
inductive Operation (T : Type*)
  | insert (value : T)
  | insertRange (values : List T)
  | erase (position : ℕ)
  | eraseRange (first last : ℕ)
  | eraseItem (toCompare : T)
  | replace (position : ℕ) (value : T)

/-- A vector, and the keys at the end of the last operation. -/
structure State (T κ : Type*) where
  vector : List T
  key : T → κ

/-- An operation, with the keys when it is done. -/
structure Action (T κ : Type*) where
  operation : Operation T
  key : T → κ

section Runs

variable [DecidableEq T]

/-- Positions exist and items are there. Keys of elements change in place only before these are replaced, while the other
elements are in order. -/
def Allowed (ordered : (T → κ) → List T → Prop) (s : State T κ) (a : Action T κ) : Prop :=
  match a.operation with
  | .insert _ | .insertRange _ => ∀ y ∈ s.vector, a.key y = s.key y
  | .erase position => position < s.vector.length ∧ ∀ y ∈ s.vector, a.key y = s.key y
  | .eraseRange first last => first ≤ last ∧ last ≤ s.vector.length ∧ ∀ y ∈ s.vector, a.key y = s.key y
  | .eraseItem toCompare => toCompare ∈ s.vector ∧ ∀ y ∈ s.vector, a.key y = s.key y
  | .replace position _ => position < s.vector.length ∧ ordered a.key (s.vector.eraseIdx position)

omit [DecidableEq T] in
theorem sublist_eraseRange {first last : ℕ} (h : first ≤ last) : (v.take first ++ v.drop last).Sublist v := by
  have hdrop : (v.drop last).Sublist (v.drop first) := by
    rw [← Nat.add_sub_cancel' h, ← List.drop_drop]
    exact List.drop_sublist _ _
  exact ((List.Sublist.refl _).append hdrop).trans (by rw [List.take_append_drop])

omit [DecidableEq T] [LinearOrder κ] in
/-- The order depends on the keys of the elements alone. -/
theorem pairwise_congr {r : κ → κ → Prop} {key' : T → κ} (h : v.Pairwise fun a b => r (key a) (key b))
    (hkeys : ∀ y ∈ v, key' y = key y) : v.Pairwise fun a b => r (key' a) (key' b) := by
  refine List.Pairwise.imp_of_mem (fun hy hz hyz => ?_) h
  rw [hkeys _ hy, hkeys _ hz]
  exact hyz

namespace MultiValue

/-- The vector after an operation, and the position that is returned. -/
def apply (sorting : Sorting T κ) (key : T → κ) (operation : Operation T) (v : List T) : List T × ℕ :=
  match operation with
  | .insert value => insert key value v
  | .insertRange values => (insertRange key sorting values v, 0)
  | .erase position => (v.eraseIdx position, position)
  | .eraseRange first last => (v.take first ++ v.drop last, first)
  | .eraseItem toCompare => (eraseFromNonUniqueCollection key toCompare (key toCompare) v, 0)
  | .replace position value => replace key position value v

/-- What an operation implies. -/
def Implied (key : T → κ) (operation : Operation T) (v v' : List T) (place : ℕ) : Prop :=
  match operation with
  | .insert value => v'.Perm (value :: v) ∧ v'[place]? = some value
  | .insertRange values => v'.Perm (v ++ values)
  | .erase position => v' = v.eraseIdx position ∧ place = position
  | .eraseRange first last => v' = v.take first ++ v.drop last ∧ place = first
  | .eraseItem toCompare => ∃ j, v[j]? = some toCompare ∧ v' = v.eraseIdx j
  | .replace position value => Replaced key position value v v' place

/-- The order is kept, and the elements are those that are implied. -/
def Promised (sorting : Sorting T κ) (s : State T κ) (a : Action T κ) : Prop :=
  KeyOrdered a.key (apply sorting a.key a.operation s.vector).1 ∧
    Implied a.key a.operation s.vector (apply sorting a.key a.operation s.vector).1
      (apply sorting a.key a.operation s.vector).2

/-- One operation on the vector, after the keys may have changed. -/
def step (sorting : Sorting T κ) (s : State T κ) (a : Action T κ) : Option (State T κ) :=
  some ⟨(apply sorting a.key a.operation s.vector).1, a.key⟩

theorem step_spec {sorting : Sorting T κ} {s : State T κ} {a : Action T κ} (ho : KeyOrdered s.key s.vector)
    (ha : Allowed KeyOrdered s a) : Promised sorting s a := by
  obtain ⟨operation, key⟩ := a
  have hsame : (∀ y ∈ s.vector, key y = s.key y) → KeyOrdered key s.vector := fun h => pairwise_congr ho h
  cases operation with
  | insert value =>
    have ho' := hsame ha
    have hle := (bounds ho' (key value)).upper_le
    refine ⟨keyOrdered_insert ho' value, List.perm_insertIdx _ _ hle, ?_⟩
    exact List.getElem?_insertIdx_self.trans (if_pos hle)
  | insertRange values => exact ⟨sorting.ordered _ _, sorting.perm _ _⟩
  | erase position => exact ⟨(hsame ha.2).sublist (List.eraseIdx_sublist _ _), rfl, rfl⟩
  | eraseRange first last => exact ⟨(hsame ha.2.2).sublist (sublist_eraseRange ha.1), rfl, rfl⟩
  | eraseItem toCompare =>
    obtain ⟨hmem, hkeys⟩ := ha
    obtain ⟨j, hj, herase⟩ := exists_eraseFromNonUniqueCollection (hsame hkeys) hmem
    refine ⟨?_, j, hj, herase⟩
    show KeyOrdered key (eraseFromNonUniqueCollection key toCompare (key toCompare) s.vector)
    rw [herase]
    exact (hsame hkeys).sublist (List.eraseIdx_sublist _ _)
  | replace position value =>
    obtain ⟨hposition, hothers⟩ := ha
    obtain ⟨hreplaced, -⟩ := replaced key hposition value
    exact ⟨hreplaced.between hothers, hreplaced⟩

end MultiValue

namespace Unique

/-- The vector after an operation, and the position and the flag that are returned. There is no insertion of a range. -/
def apply (key : T → κ) (operation : Operation T) (v : List T) : List T × ℕ × Bool :=
  match operation with
  | .insert value => insert key value v
  | .insertRange _ => (v, 0, false)
  | .erase position => (v.eraseIdx position, position, true)
  | .eraseRange first last => (v.take first ++ v.drop last, first, true)
  | .eraseItem toCompare => (eraseFromNonUniqueCollection key toCompare (key toCompare) v, 0, true)
  | .replace position value => ((replace key position value v).1, (replace key position value v).2, true)

/-- What an operation implies. An element that is replaced by one with the key of another is removed. -/
def Implied (key : T → κ) (operation : Operation T) (v v' : List T) (place : ℕ) (inserted : Bool) : Prop :=
  match operation with
  | .insert value =>
    ((∃ y ∈ v, key y = key value) → v' = v ∧ (v'[place]?).map key = some (key value) ∧ inserted = false) ∧
      ((∀ y ∈ v, key y ≠ key value) → v'.Perm (value :: v) ∧ v'[place]? = some value ∧ inserted = true)
  | .insertRange _ => False
  | .erase position => v' = v.eraseIdx position ∧ place = position
  | .eraseRange first last => v' = v.take first ++ v.drop last ∧ place = first
  | .eraseItem toCompare => ∃ j, v[j]? = some toCompare ∧ v' = v.eraseIdx j
  | .replace position value =>
    ((∃ y ∈ v.eraseIdx position, key y = key value) → v' = v.eraseIdx position ∧ place = position) ∧
      ((∀ y ∈ v.eraseIdx position, key y ≠ key value) → Replaced key position value v v' place)

/-- The order is kept, and the elements are those that are implied. -/
def Promised (s : State T κ) (a : Action T κ) : Prop :=
  KeyIncreasing a.key (apply a.key a.operation s.vector).1 ∧
    Implied a.key a.operation s.vector (apply a.key a.operation s.vector).1 (apply a.key a.operation s.vector).2.1
      (apply a.key a.operation s.vector).2.2

/-- One operation on the vector, after the keys may have changed. -/
def step (s : State T κ) (a : Action T κ) : Option (State T κ) := some ⟨(apply a.key a.operation s.vector).1, a.key⟩

/-- The operations that are permitted. Ranges are not inserted. -/
def Allowed (s : State T κ) (a : Action T κ) : Prop :=
  SortedVector.Allowed KeyIncreasing s a ∧ ∀ values, a.operation ≠ .insertRange values

/-- Replacements find other elements only, and find them all. -/
def Searched (s : State T κ) (a : Action T κ) : Prop :=
  ∀ position value, a.operation = .replace position value → FindsOthers a.key position value s.vector

/-- A replacement does what it implies if and only if the search before it finds what it has to. -/
theorem promised_replace_iff {s : State T κ} {key : T → κ} {position : ℕ} {value : T}
    (hallowed : Allowed s ⟨.replace position value, key⟩) :
    Promised s ⟨.replace position value, key⟩ ↔ FindsOthers key position value s.vector := by
  obtain ⟨⟨hposition, hothers⟩, -⟩ := hallowed
  dsimp only at hposition hothers
  obtain ⟨hreplaced, hincreasing⟩ := replaced key hposition value
  unfold Promised Implied apply Unique.replace FindsOthers
  dsimp only
  by_cases hfound : find key (key value) s.vector ≠ s.vector.length
  · rw [if_pos hfound, iff_true_left hfound]
    constructor
    · rintro ⟨-, -, himplied⟩
      by_contra hnone
      have hlength := (himplied fun y hy heq => hnone ⟨y, hy, heq⟩).length
      exact Nat.succ_ne_self _ hlength.symm
    · exact fun hother => ⟨hothers, fun _ => ⟨rfl, rfl⟩, fun hnone => by
        obtain ⟨y, hy, heq⟩ := hother
        exact absurd heq (hnone y hy)⟩
  · rw [if_neg hfound, iff_false_left hfound]
    constructor
    · rintro ⟨-, himplied, -⟩ hother
      have hlength := hreplaced.length
      rw [(himplied hother).1] at hlength
      exact Nat.succ_ne_self _ hlength.symm
    · intro hnone
      have hfree : ∀ y ∈ s.vector.eraseIdx position, key y ≠ key value := fun y hy heq => hnone ⟨y, hy, heq⟩
      exact ⟨hincreasing hothers hfree, fun hother => absurd hother hnone, fun _ => hreplaced⟩

theorem step_spec {s : State T κ} {a : Action T κ} (ho : KeyIncreasing s.key s.vector) (ha : Allowed s a)
    (hsearched : Searched s a) : Promised s a := by
  have hall := ha
  obtain ⟨operation, key⟩ := a
  obtain ⟨ha, hrange⟩ := ha
  have hsame : (∀ y ∈ s.vector, key y = s.key y) → KeyIncreasing key s.vector := fun h => pairwise_congr ho h
  cases operation with
  | insert value =>
    have ho' := hsame ha
    have hb := bounds ho'.keyOrdered (key value)
    have htaken := equal_range_ne_iff ho'.keyOrdered (key value)
    unfold Promised Implied apply Unique.insert
    dsimp only
    by_cases hne : (equal_range key (key value) s.vector).1 ≠ (equal_range key (key value) s.vector).2
    · obtain ⟨y, hy, heq⟩ := htaken.1 hne
      have hfirst := getElem?_find ho' hy
      unfold index_of find at hfirst
      rw [heq, if_neg hne] at hfirst
      rw [if_pos hne]
      refine ⟨ho', fun _ => ⟨rfl, ?_, rfl⟩, fun hfree => absurd heq (hfree y hy)⟩
      exact (congrArg (Option.map key) hfirst).trans (congrArg some heq)
    · have hfree : ∀ y ∈ s.vector, key y ≠ key value := fun y hy heq => hne (htaken.2 ⟨y, hy, heq⟩)
      have hle : (equal_range key (key value) s.vector).1 ≤ s.vector.length := by
        rw [hb.range]
        exact hb.lower_le.trans hb.upper_le
      rw [if_neg hne]
      refine ⟨keyIncreasing_insertIdx ho' hfree, fun ⟨y, hy, heq⟩ => absurd heq (hfree y hy), fun _ => ?_⟩
      exact ⟨List.perm_insertIdx _ _ hle, List.getElem?_insertIdx_self.trans (if_pos hle), rfl⟩
  | insertRange values => exact absurd rfl (hrange values)
  | erase position => exact ⟨(hsame ha.2).sublist (List.eraseIdx_sublist _ _), rfl, rfl⟩
  | eraseRange first last => exact ⟨(hsame ha.2.2).sublist (sublist_eraseRange ha.1), rfl, rfl⟩
  | eraseItem toCompare =>
    obtain ⟨hmem, hkeys⟩ := ha
    obtain ⟨j, hj, herase⟩ := exists_eraseFromNonUniqueCollection (hsame hkeys).keyOrdered hmem
    refine ⟨?_, j, hj, herase⟩
    show KeyIncreasing key (eraseFromNonUniqueCollection key toCompare (key toCompare) s.vector)
    rw [herase]
    exact (hsame hkeys).sublist (List.eraseIdx_sublist _ _)
  | replace position value => exact (promised_replace_iff hall).2 (hsearched position value rfl)

end Unique

/-- Searches find what is in the vector, in its order. -/
structure Searches (s : State T κ) : Prop where
  bounds : ∀ k, Bounds s.key k s.vector
  findInNonUnique : ∀ x ∈ s.vector, s.vector[findInNonUniqueCollection s.key x (s.key x) s.vector]? = some x
  notFound : ∀ k, find s.key k s.vector ≠ s.vector.length ↔ ∃ y ∈ s.vector, s.key y = k

theorem searches {s : State T κ} (ho : KeyOrdered s.key s.vector) : Searches s :=
  ⟨SortedVector.bounds ho, fun _ hx => getElem?_findInNonUniqueCollection ho hx, find_ne_iff ho⟩

/-- Multiple values keep every promise. Unique ones do if every replacement finds an element exactly if another one than the
replaced one has the key of the value; for a vector in order, that is if the replaced one has another key. -/
theorem runs_spec (sorting : Sorting T κ) (key : T → κ) :
    (∀ actions s, Admissible (MultiValue.step sorting) (Allowed KeyOrdered) ⟨[], key⟩ actions →
      runFrom (MultiValue.step sorting) ⟨[], key⟩ actions = some s →
        KeyOrdered s.key s.vector ∧ Searches s ∧
          ∀ a, Allowed KeyOrdered s a → MultiValue.Promised sorting s a) ∧
    (∀ actions s, Admissible Unique.step (fun s a => Unique.Allowed s a ∧ Unique.Searched s a) ⟨[], key⟩ actions →
      runFrom Unique.step ⟨[], key⟩ actions = some s →
        KeyIncreasing s.key s.vector ∧ Searches s ∧
          (∀ y ∈ s.vector, s.vector[index_of (find s.key (s.key y) s.vector)]? = some y) ∧
            ∀ a, Unique.Allowed s a → Unique.Searched s a → Unique.Promised s a) ∧
    ∀ (s : State T κ) key' position value, Unique.Allowed s ⟨.replace position value, key'⟩ →
      (Unique.Promised s ⟨.replace position value, key'⟩ ↔ FindsOthers key' position value s.vector) ∧
        (KeyIncreasing key' s.vector →
          (FindsOthers key' position value s.vector ↔ (s.vector[position]?).map key' ≠ some (key' value))) := by
  refine ⟨fun actions s hadmissible hrun => ?_, fun actions s hadmissible hrun => ?_, fun s key' position value ha => ?_⟩
  · have ho : KeyOrdered s.key s.vector := by
      refine runFrom_keeps (P := fun s : State T κ => KeyOrdered s.key s.vector) (s := ⟨[], key⟩)
        (fun s a s' ho ha hstep => ?_) List.Pairwise.nil hadmissible hrun
      cases hstep
      exact (MultiValue.step_spec ho ha).1
    exact ⟨ho, searches ho, fun a ha => MultiValue.step_spec ho ha⟩
  · have ho : KeyIncreasing s.key s.vector := by
      refine runFrom_keeps (P := fun s : State T κ => KeyIncreasing s.key s.vector) (s := ⟨[], key⟩)
        (fun s a s' ho ha hstep => ?_) List.Pairwise.nil hadmissible hrun
      cases hstep
      exact (Unique.step_spec ho ha.1 ha.2).1
    exact ⟨ho, searches ho.keyOrdered, fun y hy => getElem?_find ho hy,
      fun a ha hsearched => Unique.step_spec ho ha hsearched⟩
  · refine ⟨Unique.promised_replace_iff ha, fun ho => ?_⟩
    obtain ⟨⟨hposition, -⟩, -⟩ := ha
    have hget := List.getElem?_eq_getElem hposition
    rw [findsOthers_iff ho hget, hget, Option.map_some, ne_eq, ne_eq, Option.some_inj]

end Runs

/-! ### Runs on numbers -/

/-- Sorting by insertions. -/
def insertionSorting (T κ : Type*) [LinearOrder κ] : Sorting T κ where
  sort key v := v.insertionSort fun a b => key a ≤ key b
  perm key v := List.perm_insertionSort _ v
  ordered key v := by
    have hordered := keyOrdered_insertRange key v []
    exact hordered

/-- Two values, of which the second one is replaced by a smaller one. -/
def someActions : List (Action ℕ ℕ) := [⟨.insert 2, id⟩, ⟨.insert 4, id⟩, ⟨.replace 1 1, id⟩]

theorem runs_spec_someActions :
    KeyOrdered id [1, 2] ∧ KeyIncreasing id [1, 2] ∧
      MultiValue.Promised (insertionSorting ℕ ℕ) ⟨[1, 2], id⟩ ⟨.replace 0 1, id⟩ ∧
        Unique.Promised ⟨[1, 2], id⟩ ⟨.replace 0 3, id⟩ := by
  obtain ⟨hmulti, hunique, -⟩ := runs_spec (insertionSorting ℕ ℕ) id
  have hmultiAllowed : Admissible (MultiValue.step (insertionSorting ℕ ℕ)) (Allowed KeyOrdered) ⟨[], id⟩ someActions :=
    ⟨fun _ _ => rfl, fun _ _ => rfl, ⟨by decide, List.pairwise_singleton _ _⟩, trivial⟩
  have hmultiRun : runFrom (MultiValue.step (insertionSorting ℕ ℕ)) ⟨[], id⟩ someActions = some ⟨[1, 2], id⟩ := rfl
  have hincreasing : KeyIncreasing id [2, 4] := by
    unfold KeyIncreasing
    decide
  have hsearched : FindsOthers id 1 1 [2, 4] := (findsOthers_iff (x := 4) hincreasing rfl).2 (by decide)
  have huniqueAllowed : Admissible Unique.step (fun s a => Unique.Allowed s a ∧ Unique.Searched s a)
      (⟨[], id⟩ : State ℕ ℕ) someActions := by
    refine ⟨⟨⟨fun _ _ => rfl, fun _ h => by cases h⟩, fun _ _ h => by cases h⟩,
      ⟨⟨fun _ _ => rfl, fun _ h => by cases h⟩, fun _ _ h => by cases h⟩,
      ⟨⟨⟨by decide, List.pairwise_singleton _ _⟩, fun _ h => by cases h⟩, fun _ _ h => ?_⟩, trivial⟩
    cases h
    exact hsearched
  have huniqueRun : runFrom Unique.step (⟨[], id⟩ : State ℕ ℕ) someActions = some ⟨[1, 2], id⟩ := rfl
  obtain ⟨ho, -, hpromised⟩ := hmulti _ _ hmultiAllowed hmultiRun
  obtain ⟨ho', -, -, hpromised'⟩ := hunique _ _ huniqueAllowed huniqueRun
  refine ⟨ho, ho', hpromised _ ⟨by decide, List.pairwise_singleton _ _⟩,
    hpromised' _ ⟨⟨by decide, List.pairwise_singleton _ _⟩, fun _ h => by cases h⟩ fun _ _ h => ?_⟩
  cases h
  exact (findsOthers_iff (x := 1) ho' rfl).2 (by decide)

/-- An element that is replaced by itself is gone. -/
theorem replace_itself_removes :
    ¬∀ (actions : List (Action ℕ ℕ)) s a, Admissible Unique.step Unique.Allowed ⟨[], id⟩ actions →
      runFrom Unique.step ⟨[], id⟩ actions = some s → Unique.Allowed s a → Unique.Promised s a := by
  intro h
  have hrun : runFrom Unique.step ⟨[], id⟩ [⟨.insert 1, id⟩] = some (⟨[1], id⟩ : State ℕ ℕ) := rfl
  have hallowed : Unique.Allowed (⟨[1], id⟩ : State ℕ ℕ) ⟨.replace 0 1, id⟩ :=
    ⟨⟨Nat.one_pos, List.Pairwise.nil⟩, fun _ h => by cases h⟩
  have hadmissible : Admissible Unique.step Unique.Allowed (⟨[], id⟩ : State ℕ ℕ) [⟨.insert 1, id⟩] :=
    ⟨⟨fun _ h => absurd h List.not_mem_nil, fun _ h => by cases h⟩, trivial⟩
  have hpromised := h _ _ _ hadmissible hrun hallowed
  have hreplaced := hpromised.2.2 fun y hy => absurd hy List.not_mem_nil
  have hfound := hreplaced.found
  cases hfound

end Forum.Entities.SortedVector
