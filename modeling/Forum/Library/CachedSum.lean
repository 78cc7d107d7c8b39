import Mathlib.Algebra.BigOperators.Group.Finset.Piecewise
import Mathlib.Tactic.Abel

/-!
# Cached sums

A sum over a set that is kept next to the set, and adjusted by whatever changes the set or the summands. How far it
is off, its `surplus`, tells each adjustment apart from what it makes up for: the two may happen one after the
other, with the cache wrong in between.
-/

namespace Forum.Library

variable {α G : Type*} [AddCommGroup G] {cached : G} {S T : Finset α} {f : α → G} {x : α}

/-- How far a cached sum is off. -/
def surplus (cached : G) (S : Finset α) (f : α → G) : G := cached - ∑ x ∈ S, f x

theorem surplus_eq_zero : surplus cached S f = 0 ↔ cached = ∑ x ∈ S, f x := sub_eq_zero

@[simp] theorem surplus_empty (f : α → G) : surplus 0 ∅ f = 0 := by simp [surplus]

/-- An adjustment of the cache alone. -/
theorem surplus_add (cached d : G) (S : Finset α) (f : α → G) : surplus (cached + d) S f = surplus cached S f + d := by
  unfold surplus
  abel

theorem surplus_congr {f' : α → G} (h : ∀ x ∈ S, f' x = f x) : surplus cached S f' = surplus cached S f := by
  unfold surplus
  rw [Finset.sum_congr rfl h]

variable [DecidableEq α]

/-- New elements that are added to the cache, too. -/
theorem surplus_union (h : Disjoint S T) : surplus (cached + ∑ x ∈ T, f x) (S ∪ T) f = surplus cached S f := by
  unfold surplus
  rw [Finset.sum_union h]
  abel

/-- An element goes, and the cache is not told. -/
theorem surplus_erase (h : x ∈ S) : surplus cached (S.erase x) f = surplus cached S f + f x := by
  unfold surplus
  rw [← Finset.add_sum_erase S f h]
  abel

/-- A summand grows, and the cache is not told. -/
theorem surplus_update (d : G) :
    surplus cached S (Function.update f x (f x + d)) = surplus cached S f - if x ∈ S then d else 0 := by
  unfold surplus
  by_cases hx : x ∈ S
  · rw [if_pos hx, Finset.sum_update_of_mem hx, ← Finset.add_sum_erase S f hx, ← Finset.sdiff_singleton_eq_erase]
    abel
  · rw [if_neg hx, Finset.sum_update_of_notMem hx, sub_zero]

end Forum.Library
