import Mathlib.Algebra.Group.Int.Defs
import Mathlib.Data.Int.ConditionallyCompleteOrder
import Mathlib.Order.Bounds.Basic
import Mathlib.Data.Int.Order.Basic

/-!
# Extrema of values that may be missing

The greatest, or least, of a collection of values is itself missing when there are none. Both are
found by merging values one after the other, and depend only on which values there are.
-/

namespace Forum.Library

section

variable {α β : Type*} [LinearOrder α] {o o' : Option α} {s s' : Set α}

/-- The greatest element of a set, nothing when it is empty. -/
inductive GreatestOf : Option α → Set α → Prop
  | missing : GreatestOf none ∅
  | found {a : α} {s : Set α} (h : IsGreatest s a) : GreatestOf (some a) s

/-- The least element of a set, nothing when it is empty. -/
inductive LeastOf : Option α → Set α → Prop
  | missing : LeastOf none ∅
  | found {a : α} {s : Set α} (h : IsLeast s a) : LeastOf (some a) s

namespace GreatestOf

theorem singleton (a : α) : GreatestOf (some a) {a} := .found isGreatest_singleton

/-- What is at most one value is its own greatest. -/
theorem toSet (o : Option α) : GreatestOf o {a | o = some a} := by
  cases o with
  | none => simpa using missing
  | some a => simpa [Set.ext_iff, eq_comm] using singleton a

theorem merge (h : GreatestOf o s) (h' : GreatestOf o' s') : GreatestOf (o.merge max o') (s ∪ s') := by
  cases h with
  | missing => rwa [Option.merge_none_left, Set.empty_union]
  | found h =>
    cases h' with
    | missing =>
      rw [Option.merge_none_right, Set.union_empty]
      exact .found h
    | found h' => exact .found (h.union h')

theorem insert (h : GreatestOf o s) (a : α) : GreatestOf (o.merge max (some a)) (Insert.insert a s) := by
  rw [Set.insert_eq, Set.union_comm]
  exact h.merge (singleton a)

/-- The greatest of the values a list of elements has. -/
theorem foldl (f : β → Option α) (h : GreatestOf o s) (l : List β) :
    GreatestOf (l.foldl (fun o b => o.merge max (f b)) o) (s ∪ {a | ∃ b ∈ l, f b = some a}) := by
  induction l generalizing o s with
  | nil => simpa using h
  | cons b l ih =>
    have hs : s ∪ {a | ∃ b' ∈ b :: l, f b' = some a} = (s ∪ {a | f b = some a}) ∪ {a | ∃ b' ∈ l, f b' = some a} := by
      ext a
      simp [or_assoc]
    rw [List.foldl_cons, hs]
    exact ih (h.merge (toSet _))

theorem isGreatest (h : GreatestOf o s) (hs : s.Nonempty) (a : α) : IsGreatest s (o.getD a) := by
  cases h with
  | missing => exact absurd hs Set.not_nonempty_empty
  | found h => exact h

theorem unique (h : GreatestOf o s) (h' : GreatestOf o' s) : o = o' := by
  cases h with
  | missing =>
    cases h' with
    | missing => rfl
    | found h' => exact absurd h'.1 (Set.notMem_empty _)
  | found h =>
    cases h' with
    | missing => exact absurd h.1 (Set.notMem_empty _)
    | found h' => rw [h.unique h']

end GreatestOf

namespace LeastOf

theorem singleton (a : α) : LeastOf (some a) {a} := .found isLeast_singleton

theorem insert (h : LeastOf o s) (a : α) : LeastOf (o.merge min (some a)) (Insert.insert a s) := by
  cases h with
  | missing =>
    rw [Option.merge_none_left, insert_empty_eq]
    exact singleton a
  | found h =>
    rw [Option.merge_some_some, min_comm]
    exact .found (h.insert a)

/-- With a value above all others in place of what is missing. -/
theorem isLeast_insert (h : LeastOf o s) {a : α} (ha : ∀ b ∈ s, b ≤ a) : IsLeast (Insert.insert a s) (o.getD a) := by
  cases h with
  | missing =>
    rw [insert_empty_eq]
    exact isLeast_singleton
  | @found b _ h => simpa [min_eq_right (ha b h.1)] using h.insert a

end LeastOf

end

/-! ### Numbers of sixteen bits -/

instance instLinearOrderInt16 : LinearOrder Int16 where
  le_refl _ := Int16.le_iff_toInt_le.2 le_rfl
  le_trans _ _ _ h h' := Int16.le_iff_toInt_le.2 ((Int16.le_iff_toInt_le.1 h).trans (Int16.le_iff_toInt_le.1 h'))
  le_antisymm _ _ h h' := Int16.toInt_inj.1 (le_antisymm (Int16.le_iff_toInt_le.1 h) (Int16.le_iff_toInt_le.1 h'))
  le_total _ _ := (le_total _ _).imp Int16.le_iff_toInt_le.2 Int16.le_iff_toInt_le.2
  lt_iff_le_not_ge a b := by
    rw [Int16.lt_iff_toInt_lt, Int16.le_iff_toInt_le, Int16.le_iff_toInt_le]
    exact lt_iff_le_not_ge
  toDecidableLE := inferInstance
  toDecidableEq := inferInstance
  toDecidableLT := inferInstance

theorem Int16.toInt_le_toInt_of_le {a b : Int16} (h : a ≤ b) : a.toInt ≤ b.toInt := Int16.le_iff_toInt_le.1 h

/-- A sum that falls below the range comes out as much above it. -/
theorem Int16.toInt_add_of_nonpos {a b : Int16} (hb : b.toInt ≤ 0) :
    (a + b).toInt = if -2 ^ 15 ≤ a.toInt + b.toInt then a.toInt + b.toInt else a.toInt + b.toInt + 2 ^ 16 := by
  have ha := a.toInt_lt
  have ha' := a.le_toInt
  have hb' := b.le_toInt
  rw [Int16.toInt_add, Int.bmod_def]
  split_ifs <;> omega

end Forum.Library
