import Mathlib.Data.Finset.Basic
import Mathlib.Data.Finset.Lattice.Lemmas
import Mathlib.Data.List.DropRight
import Mathlib.Data.List.Sort

/-!
# Ordered non-unique indexes over a mutable key

A container that lists elements in the order of a key, where the key of an element may change
while the element is listed. The container is a list `l`; the key is a function that every
operation takes as an argument, since it is read afresh at each call.

An element is listed with `insertItem`, found again by its current key with
`findInNonUnique`, dropped with `eraseItem`, and put back in order after its key has changed with
one of the two `replace` operations: a tree relinks the element at its upper bound unless it is
already in place, a sorted vector swaps it with its neighbours.

`Indexes key l s` says what such a container is for: `l` lists the set `s`, each element once, in
key order. `Prepared key l it x s` is the same with the element `x` at position `it` left out of
the ordering, which is what holds between finding `x` and replacing it.
-/

namespace Forum.Library

variable {ι κ : Type*} [LinearOrder κ]

/-! ### Searching -/

/-- The position of the first element whose key is at least `k`. -/
def lowerBound (key : ι → κ) (k : κ) (l : List ι) : ℕ :=
  (l.takeWhile fun y => decide (key y < k)).length

/-- The elements with key `k`, as a list sorted by `key` keeps them together. -/
def equalRange (key : ι → κ) (k : κ) (l : List ι) : List ι :=
  (l.drop (lowerBound key k l)).takeWhile fun y => decide (key y ≤ k)

/-- The position of `x` among the elements with key `k`; the end of the list if it is not there. -/
def findInNonUnique [DecidableEq ι] (key : ι → κ) (x : ι) (k : κ) (l : List ι) : ℕ :=
  if x ∈ equalRange key k l then lowerBound key k l + (equalRange key k l).idxOf x else l.length

/-! ### Changing the container -/

/-- Insert at the upper bound of the element's key. -/
def insertItem (key : ι → κ) (x : ι) (l : List ι) : List ι :=
  l.takeWhile (fun y => decide (key y ≤ key x)) ++ x :: l.dropWhile (fun y => decide (key y ≤ key x))

/-- Insert a range: append it and sort. -/
def insertRange (key : ι → κ) (xs l : List ι) : List ι :=
  (l ++ xs).insertionSort fun a b => key a ≤ key b

/-- Does the element at `it` respect the order with its two neighbours? -/
def inPlace (key : ι → κ) (it : ℕ) (x : ι) (l : List ι) : Bool :=
  ((l.take it).getLast?.all fun y => decide (key y ≤ key x)) &&
    ((l.drop (it + 1)).head?.all fun y => decide (key x ≤ key y))

/-- Replace the element at `it` in a tree: keep it if it is in place, else relink it at its upper
bound. -/
def replaceRanked (key : ι → κ) (it : ℕ) (x : ι) (l : List ι) : List ι :=
  if inPlace key it x l then l.set it x else insertItem key x (l.eraseIdx it)

/-- Replace the element at `it` in a sorted vector: swap it to the left past every greater element,
or, if there was none, to the right past every smaller one. -/
def replaceSortedVector (key : ι → κ) (it : ℕ) (x : ι) (l : List ι) : List ι :=
  let left := l.take it
  let right := l.drop (it + 1)
  let greater := left.rtakeWhile fun y => decide (key x < key y)
  if greater = [] then
    left ++ (right.takeWhile fun y => decide (key y < key x)) ++
      x :: right.dropWhile fun y => decide (key y < key x)
  else
    (left.rdropWhile fun y => decide (key x < key y)) ++ x :: (greater ++ right)

/-- Where the element is that has been replaced in a sorted vector. -/
def replacedAt (key : ι → κ) (it : ℕ) (x : ι) (l : List ι) : ℕ :=
  if (l.take it).rtakeWhile (fun y => decide (key x < key y)) = [] then
    it + ((l.drop (it + 1)).takeWhile fun y => decide (key y < key x)).length
  else ((l.take it).rdropWhile fun y => decide (key x < key y)).length

/-! ### What an index is for -/

/-- The list is in key order. -/
def KeyOrdered (key : ι → κ) (l : List ι) : Prop := l.Pairwise fun a b => key a ≤ key b

instance (key : ι → κ) (l : List ι) : Decidable (KeyOrdered key l) :=
  inferInstanceAs (Decidable (l.Pairwise _))

/-- `l` lists exactly the elements of `s`, each once, in key order. -/
structure Indexes (key : ι → κ) (l : List ι) (s : Finset ι) : Prop where
  /-- No element is listed twice. -/
  nodup : l.Nodup
  /-- The listed elements are those of the set. -/
  mem_iff : ∀ y, y ∈ l ↔ y ∈ s
  /-- They are listed in the order of their current keys. -/
  ordered : KeyOrdered key l

/-- `x` sits at position `it`, and without it the list is an index of the rest of `s`: the state
between finding `x` by its old key and replacing it under its new one. -/
structure Prepared (key : ι → κ) (l : List ι) (it : ℕ) (x : ι) (s : Finset ι) : Prop where
  /-- The iterator points at `x`. -/
  at_it : l[it]? = some x
  /-- No element is listed twice. -/
  nodup : l.Nodup
  /-- The listed elements are those of the set. -/
  mem_iff : ∀ y, y ∈ l ↔ y ∈ s
  /-- The other elements are in key order. -/
  ordered : KeyOrdered key (l.eraseIdx it)

variable {key : ι → κ} {l : List ι} {s : Finset ι} {x : ι} {k : κ} {it : ℕ}

@[simp] theorem indexes_nil : Indexes key [] (∅ : Finset ι) :=
  ⟨List.nodup_nil, by simp, List.Pairwise.nil⟩

/-- An index only reads the keys of the elements it lists. -/
theorem Indexes.congr {key' : ι → κ} (h : Indexes key l s) (hk : ∀ y ∈ s, key' y = key y) :
    Indexes key' l s where
  nodup := h.nodup
  mem_iff := h.mem_iff
  ordered := by
    refine List.Pairwise.imp_of_mem ?_ h.ordered
    intro a b ha hb hab
    rw [hk a ((h.mem_iff a).1 ha), hk b ((h.mem_iff b).1 hb)]
    exact hab

/-! ### Key order of the operations -/

theorem perm_insertItem (key : ι → κ) (x : ι) (l : List ι) : (insertItem key x l).Perm (x :: l) := by
  unfold insertItem
  refine List.perm_middle.trans (List.Perm.cons x ?_)
  rw [List.takeWhile_append_dropWhile]

theorem keyOrdered_insertItem (ho : KeyOrdered key l) : KeyOrdered key (insertItem key x l) := by
  unfold insertItem
  induction l with
  | nil => simp [KeyOrdered]
  | cons y l ih =>
    obtain ⟨hy, ho'⟩ := List.pairwise_cons.1 ho
    by_cases hle : key y ≤ key x
    · rw [List.takeWhile_cons_of_pos (by simpa using hle), List.dropWhile_cons_of_pos (by simpa using hle),
        List.cons_append]
      refine List.pairwise_cons.2 ⟨fun z hz => ?_, ih ho'⟩
      rcases List.mem_cons.1 ((perm_insertItem key x l).mem_iff.1 hz) with rfl | hz
      · exact hle
      · exact hy z hz
    · rw [List.takeWhile_cons_of_neg (by simpa using hle), List.dropWhile_cons_of_neg (by simpa using hle),
        List.nil_append]
      have hlt : key x ≤ key y := le_of_lt (not_le.1 hle)
      refine List.pairwise_cons.2 ⟨fun z hz => ?_, ho⟩
      rcases List.mem_cons.1 hz with rfl | hz
      · exact hlt
      · exact hlt.trans (hy z hz)

theorem perm_insertRange (key : ι → κ) (xs l : List ι) : (insertRange key xs l).Perm (l ++ xs) :=
  List.perm_insertionSort _ _

theorem keyOrdered_insertRange (key : ι → κ) (xs l : List ι) : KeyOrdered key (insertRange key xs l) := by
  have : Std.Total fun a b : ι => key a ≤ key b := ⟨fun a b => le_total _ _⟩
  have : IsTrans ι fun a b : ι => key a ≤ key b := ⟨fun _ _ _ => le_trans⟩
  exact List.pairwise_insertionSort _ _

theorem split_at (hit : l[it]? = some x) : l = l.take it ++ x :: l.drop (it + 1) := by
  obtain ⟨hlt, hget⟩ := List.getElem?_eq_some_iff.1 hit
  conv_lhs => rw [← List.take_append_drop it l, List.drop_eq_getElem_cons hlt, hget]

/-- An element may be put between those that have to come before it and those that have to come after it. -/
theorem pairwise_middle_of {r : ι → ι → Prop} {l₁ l₂ : List ι} (h₁ : ∀ y ∈ l₁, r y x) (h₂ : ∀ y ∈ l₂, r x y)
    (ho : (l₁ ++ l₂).Pairwise r) : (l₁ ++ x :: l₂).Pairwise r := by
  obtain ⟨ho₁, ho₂, hcross⟩ := List.pairwise_append.1 ho
  refine List.pairwise_append.2 ⟨ho₁, List.pairwise_cons.2 ⟨h₂, ho₂⟩, fun a ha b hb => ?_⟩
  rcases List.mem_cons.1 hb with rfl | hb
  · exact h₁ a ha
  · exact hcross a ha b hb

theorem keyOrdered_middle {l₁ l₂ : List ι} (h₁ : ∀ y ∈ l₁, key y ≤ key x) (h₂ : ∀ y ∈ l₂, key x ≤ key y)
    (ho : KeyOrdered key (l₁ ++ l₂)) : KeyOrdered key (l₁ ++ x :: l₂) :=
  pairwise_middle_of h₁ h₂ ho

theorem forall_of_getLast?_all {p : κ → Prop} [DecidablePred p] (hp : ∀ a b, a ≤ b → p b → p a)
    (ho : KeyOrdered key l) (h : l.getLast?.all fun y => decide (p (key y))) : ∀ y ∈ l, p (key y) := by
  induction l using List.reverseRecOn with
  | nil => simp
  | append_singleton l z ih =>
    rw [List.getLast?_append_of_ne_nil _ (by simp)] at h
    have hz : p (key z) := by simpa using h
    intro y hy
    rcases List.mem_append.1 hy with hy | hy
    · exact hp _ _ ((List.pairwise_append.1 ho).2.2 y hy z (by simp)) hz
    · rwa [List.mem_singleton.1 hy]

theorem forall_of_head?_all (ho : KeyOrdered key l) (h : l.head?.all fun y => decide (k ≤ key y)) :
    ∀ y ∈ l, k ≤ key y := by
  cases l with
  | nil => simp
  | cons z l =>
    have hz : k ≤ key z := by simpa using h
    intro y hy
    rcases List.mem_cons.1 hy with rfl | hy
    · exact hz
    · exact hz.trans ((List.pairwise_cons.1 ho).1 y hy)

theorem le_of_mem_rdropWhile (ho : KeyOrdered key l) :
    ∀ y ∈ l.rdropWhile fun y => decide (k < key y), key y ≤ k := by
  induction l using List.reverseRecOn with
  | nil => simp
  | append_singleton l z ih =>
    by_cases hz : k < key z
    · rw [List.rdropWhile_concat_pos _ _ _ (by simpa using hz)]
      exact ih (List.pairwise_append.1 ho).1
    · rw [List.rdropWhile_concat_neg _ _ _ (by simpa using hz)]
      intro y hy
      rcases List.mem_append.1 hy with hy | hy
      · exact ((List.pairwise_append.1 ho).2.2 y hy z (by simp)).trans (not_lt.1 hz)
      · rw [List.mem_singleton.1 hy]
        exact not_lt.1 hz

theorem le_of_mem_dropWhile (ho : KeyOrdered key l) :
    ∀ y ∈ l.dropWhile fun y => decide (key y < k), k ≤ key y := by
  induction l with
  | nil => simp
  | cons z l ih =>
    by_cases hz : key z < k
    · rw [List.dropWhile_cons_of_pos (by simpa using hz)]
      exact ih (List.pairwise_cons.1 ho).2
    · rw [List.dropWhile_cons_of_neg (by simpa using hz)]
      intro y hy
      rcases List.mem_cons.1 hy with rfl | hy
      · exact not_lt.1 hz
      · exact (not_lt.1 hz).trans ((List.pairwise_cons.1 ho).1 y hy)

/-! ### Finding an element by its current key -/

theorem dropWhile_lowerBound (key : ι → κ) (k : κ) (l : List ι) :
    l.drop (lowerBound key k l) = l.dropWhile fun y => decide (key y < k) := by
  induction l with
  | nil => rfl
  | cons y l ih =>
    by_cases hy : key y < k
    · simp only [lowerBound, List.takeWhile_cons, hy, decide_true, if_true, List.length_cons,
        List.drop_succ_cons, List.dropWhile_cons] at ih ⊢
      exact ih
    · simp [lowerBound, hy]

/-- In key order, an element is found in the range of its own key. -/
theorem mem_equalRange (ho : KeyOrdered key l) (hx : x ∈ l) : x ∈ equalRange key (key x) l := by
  unfold equalRange
  rw [dropWhile_lowerBound]
  induction l with
  | nil => simp at hx
  | cons y l ih =>
    obtain ⟨hy, ho'⟩ := List.pairwise_cons.1 ho
    by_cases hlt : key y < key x
    · have hne : x ≠ y := fun h => lt_irrefl _ (h ▸ hlt)
      rw [List.dropWhile_cons_of_pos (by simpa using hlt)]
      exact ih ho' ((List.mem_cons.1 hx).resolve_left hne)
    · rw [List.dropWhile_cons_of_neg (by simpa using hlt)]
      have hle : key y ≤ key x := by
        rcases List.mem_cons.1 hx with rfl | hx
        · exact le_rfl
        · exact hy x hx
      have heq : key y = key x := le_antisymm hle (not_lt.1 hlt)
      clear ih
      -- from here on the keys are at least `key x`, so the range ends after the last equal one
      rw [List.takeWhile_cons_of_pos (by simpa using hle)]
      rcases List.mem_cons.1 hx with rfl | hx
      · exact List.mem_cons_self
      · refine List.mem_cons_of_mem _ ?_
        clear hlt hle
        induction l with
        | nil => simp at hx
        | cons z l ih =>
          obtain ⟨hz, ho''⟩ := List.pairwise_cons.1 ho'
          have hzx : key z ≤ key x := by
            rcases List.mem_cons.1 hx with rfl | hx
            · exact le_rfl
            · exact hz x hx
          rw [List.takeWhile_cons_of_pos (by simpa using hzx)]
          rcases List.mem_cons.1 hx with rfl | hx
          · exact List.mem_cons_self
          · exact List.mem_cons_of_mem _ (ih
              (List.pairwise_cons.2 ⟨fun w hw => hy w (List.mem_cons_of_mem _ hw), ho''⟩)
              (List.mem_cons_of_mem _ hx) (fun w hw => hy w (List.mem_cons_of_mem _ hw)) ho'' hx)

theorem mem_of_mem_equalRange (h : x ∈ equalRange key k l) : x ∈ l :=
  List.mem_of_mem_drop ((List.takeWhile_sublist _).subset h)

variable [DecidableEq ι]

/-- What is found sits at the position returned. -/
theorem getElem?_findInNonUnique (hx : x ∈ equalRange key k l) :
    l[findInNonUnique key x k l]? = some x := by
  unfold findInNonUnique
  rw [if_pos hx]
  have hi : (equalRange key k l).idxOf x < (equalRange key k l).length := List.idxOf_lt_length_of_mem hx
  have hget : (equalRange key k l)[(equalRange key k l).idxOf x]? = some x := by
    rw [List.getElem?_eq_getElem hi, List.getElem_idxOf hi]
  have hpre : equalRange key k l <+: l.drop (lowerBound key k l) := List.takeWhile_prefix _
  obtain ⟨t, ht⟩ := hpre
  rw [← List.getElem?_drop, ← ht, List.getElem?_append_left hi, hget]

/-- Looking up a listed element by its current key prepares it for replacement. -/
theorem Indexes.prepared (h : Indexes key l s) (hx : x ∈ s) :
    Prepared key l (findInNonUnique key x (key x) l) x s where
  at_it := getElem?_findInNonUnique (mem_equalRange h.ordered ((h.mem_iff x).2 hx))
  nodup := h.nodup
  mem_iff := h.mem_iff
  ordered := h.ordered.sublist (List.eraseIdx_sublist _ _)

/-- An element that is not listed is not found. -/
theorem Indexes.find_of_not_mem (h : Indexes key l s) (hx : x ∉ s) :
    findInNonUnique key x k l = l.length := by
  unfold findInNonUnique
  rw [if_neg]
  exact fun hm => hx ((h.mem_iff x).1 (mem_of_mem_equalRange hm))

/-! ### Inserting and erasing -/

/-- Inserting an element that is not listed yet. -/
theorem Indexes.insertItem (h : Indexes key l s) (hx : x ∉ s) :
    Indexes key (insertItem key x l) (insert x s) where
  nodup := (perm_insertItem key x l).nodup_iff.2
    (List.nodup_cons.2 ⟨fun hm => hx ((h.mem_iff x).1 hm), h.nodup⟩)
  mem_iff y := by rw [(perm_insertItem key x l).mem_iff, List.mem_cons, h.mem_iff, Finset.mem_insert]
  ordered := keyOrdered_insertItem h.ordered

/-- Inserting a range of distinct elements that are not listed yet. -/
theorem Indexes.insertRange {xs : List ι} (h : Indexes key l s) (hn : xs.Nodup) (hx : ∀ x ∈ xs, x ∉ s) :
    Indexes key (insertRange key xs l) (s ∪ xs.toFinset) where
  nodup := by
    rw [(perm_insertRange key xs l).nodup_iff, List.nodup_append]
    refine ⟨h.nodup, hn, ?_⟩
    rintro a ha b hb rfl
    exact hx a hb ((h.mem_iff a).1 ha)
  mem_iff y := by
    rw [(perm_insertRange key xs l).mem_iff, List.mem_append, h.mem_iff, Finset.mem_union,
      List.mem_toFinset]
  ordered := keyOrdered_insertRange key xs l

/-- Filling an empty container with a listing of a set. -/
theorem indexes_insertRange_nil (key : ι → κ) {xs : List ι} (hn : xs.Nodup) :
    Indexes key (Library.insertRange key xs []) xs.toFinset := by
  have hnil : Indexes key [] (∅ : Finset ι) := indexes_nil
  simpa using hnil.insertRange hn (by simp)

theorem eraseIdx_eq_erase (hn : l.Nodup) (hit : l[it]? = some x) : l.eraseIdx it = l.erase x := by
  obtain ⟨hlt, hget⟩ := List.getElem?_eq_some_iff.1 hit
  rw [List.erase_eq_eraseIdx_of_idxOf]
  rw [← hget]
  exact hn.idxOf_getElem it hlt

/-- Erasing the element an iterator points at. -/
theorem Prepared.eraseIdx (h : Prepared key l it x s) : Indexes key (l.eraseIdx it) (s.erase x) where
  nodup := h.nodup.sublist (List.eraseIdx_sublist _ _)
  mem_iff y := by
    rw [eraseIdx_eq_erase h.nodup h.at_it, h.nodup.mem_erase_iff, h.mem_iff, Finset.mem_erase]
  ordered := h.ordered

/-! ### Replacing an element whose key has changed -/

/-- Keys other than the prepared element's own may not change. -/
theorem Prepared.congr {key' : ι → κ} (h : Prepared key l it x s) (hk : ∀ y ∈ s, y ≠ x → key' y = key y) :
    Prepared key' l it x s where
  at_it := h.at_it
  nodup := h.nodup
  mem_iff := h.mem_iff
  ordered := by
    have hmem : ∀ y ∈ l.eraseIdx it, y ∈ s ∧ y ≠ x := fun y hy => by
      have := (h.eraseIdx.mem_iff y).1 hy
      exact ⟨Finset.mem_of_mem_erase this, Finset.ne_of_mem_erase this⟩
    refine List.Pairwise.imp_of_mem ?_ h.ordered
    intro a b ha hb hab
    rw [hk a (hmem a ha).1 (hmem a ha).2, hk b (hmem b hb).1 (hmem b hb).2]
    exact hab

theorem Prepared.indexes {l' : List ι} (h : Prepared key l it x s)
    (hp : l'.Perm (x :: l.eraseIdx it)) (ho : KeyOrdered key l') : Indexes key l' s := by
  have hx : x ∈ s := (h.mem_iff x).1 (List.mem_of_getElem? h.at_it)
  have hc : Indexes key (l.eraseIdx it) (s.erase x) := h.eraseIdx
  refine ⟨hp.nodup_iff.2 (List.nodup_cons.2 ⟨fun hm => ?_, hc.nodup⟩), fun y => ?_, ho⟩
  · exact Finset.notMem_erase x s ((hc.mem_iff x).1 hm)
  · rw [hp.mem_iff, List.mem_cons, hc.mem_iff, ← Finset.mem_insert, Finset.insert_erase hx]

/-- A tree index is one again after the replacement. -/
theorem Prepared.replaceRanked (h : Prepared key l it x s) : Indexes key (replaceRanked key it x l) s := by
  unfold Library.replaceRanked
  have hsplit := split_at h.at_it
  have herase : l.eraseIdx it = l.take it ++ l.drop (it + 1) := List.eraseIdx_eq_take_drop_succ l it
  split_ifs with hin
  · have hset : l.set it x = l.take it ++ x :: l.drop (it + 1) := by
      obtain ⟨hlt, hget⟩ := List.getElem?_eq_some_iff.1 h.at_it
      rw [← hsplit, ← hget, List.set_getElem_self]
    rw [hset]
    obtain ⟨hl, hr⟩ := Bool.and_eq_true_iff.1 hin
    have ho := h.ordered
    rw [herase] at ho
    refine h.indexes ?_ (keyOrdered_middle ?_ ?_ ho)
    · rw [herase]
      exact List.perm_middle
    · exact forall_of_getLast?_all (p := (· ≤ key x)) (fun _ _ => le_trans) (List.pairwise_append.1 ho).1 hl
    · exact forall_of_head?_all (List.pairwise_append.1 ho).2.1 hr
  · exact h.indexes (perm_insertItem _ _ _) (keyOrdered_insertItem h.ordered)

omit [DecidableEq ι] in
/-- The other elements stay as they are, and the one that is replaced stands between the smaller and the greater ones. -/
theorem exists_replaceSortedVector (key : ι → κ) (x : ι) (hit : it < l.length) :
    ∃ l₁ l₂, replaceSortedVector key it x l = l₁ ++ x :: l₂ ∧ l₁.length = replacedAt key it x l ∧
      l₁ ++ l₂ = l.eraseIdx it ∧
        (KeyOrdered key (l.eraseIdx it) → (∀ y ∈ l₁, key y ≤ key x) ∧ ∀ y ∈ l₂, key x ≤ key y) := by
  have herase : l.eraseIdx it = l.take it ++ l.drop (it + 1) := List.eraseIdx_eq_take_drop_succ l it
  have hleft : (l.take it).rdropWhile (fun y => decide (key x < key y)) ++
      (l.take it).rtakeWhile (fun y => decide (key x < key y)) = l.take it :=
    List.rdropWhile_append_rtakeWhile
  have hsmall : KeyOrdered key (l.take it) →
      ∀ y ∈ (l.take it).rdropWhile fun y => decide (key x < key y), key y ≤ key x := le_of_mem_rdropWhile
  unfold Library.replaceSortedVector replacedAt
  rw [herase]
  dsimp only
  split_ifs with hg
  · -- nothing on the left is greater, so the element moves right past every smaller one
    rw [hg, List.append_nil] at hleft
    rw [hleft] at hsmall
    refine ⟨_, _, rfl, ?_, ?_, fun ho => ⟨fun y hy => ?_, le_of_mem_dropWhile (List.pairwise_append.1 ho).2.1⟩⟩
    · rw [List.length_append, List.length_take, Nat.min_eq_left hit.le]
    · rw [List.append_assoc, List.takeWhile_append_dropWhile]
    · rcases List.mem_append.1 hy with hy | hy
      · exact hsmall (List.pairwise_append.1 ho).1 y hy
      · exact le_of_lt (by simpa using List.mem_takeWhile_imp hy)
  · -- it moves left past the greater elements, which with everything right of them stay greater
    refine ⟨_, _, rfl, rfl, ?_, fun ho => ⟨hsmall (List.pairwise_append.1 ho).1, fun y hy => ?_⟩⟩
    · rw [← List.append_assoc, hleft]
    · obtain ⟨-, -, hcross⟩ := List.pairwise_append.1 ho
      obtain ⟨z, hz⟩ := List.exists_mem_of_ne_nil _ hg
      have hgt : ∀ y ∈ (l.take it).rtakeWhile (fun y => decide (key x < key y)), key x < key y :=
        fun y hy => by simpa using List.mem_rtakeWhile_imp hy
      rcases List.mem_append.1 hy with hy | hy
      · exact le_of_lt (hgt y hy)
      · have hzl : z ∈ l.take it := (List.rtakeWhile_suffix _ _).subset hz
        exact (le_of_lt (hgt z hz)).trans (hcross z hzl y hy)

/-- A sorted vector is an index again after the replacement. -/
theorem Prepared.replaceSortedVector (h : Prepared key l it x s) :
    Indexes key (replaceSortedVector key it x l) s := by
  obtain ⟨l₁, l₂, heq, -, hothers, hbetween⟩ :=
    exists_replaceSortedVector key x (List.getElem?_eq_some_iff.1 h.at_it).1
  obtain ⟨hsmall, hgreat⟩ := hbetween h.ordered
  rw [heq]
  refine h.indexes ?_ (keyOrdered_middle hsmall hgreat (hothers ▸ h.ordered))
  rw [← hothers]
  exact List.perm_middle

end Forum.Library
