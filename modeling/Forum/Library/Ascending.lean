import Mathlib.Data.Finset.Basic
import Mathlib.Data.Finset.Card
import Mathlib.Data.List.Sort

/-!
# Ascending listings of finite sets

A flat set keeps its elements in a sorted vector, so iterating it visits them in ascending
order. `ascending` is that iteration order for a `Finset`. Unlike `Finset.sort` it is built
from insertion sort, so it evaluates in the kernel.
-/

namespace Forum.Library

variable {α : Type*} [LinearOrder α]

/-- The elements of a finite set in ascending order, each once. -/
def ascending (s : Finset α) : List α :=
  Quot.liftOn s.val (fun l => l.insertionSort (· ≤ ·)) fun l₁ l₂ h => by
    have hp : (l₁.insertionSort (· ≤ ·)).Perm (l₂.insertionSort (· ≤ ·)) :=
      (List.perm_insertionSort _ _).trans (h.trans (List.perm_insertionSort _ _).symm)
    exact hp.eq_of_pairwise' (List.pairwise_insertionSort _ _) (List.pairwise_insertionSort _ _)

theorem coe_ascending (s : Finset α) : (ascending s : Multiset α) = s.val := by
  obtain ⟨l, hl⟩ := s
  induction l using Quot.inductionOn with
  | h l => exact Quot.sound (List.perm_insertionSort _ _)

@[simp] theorem mem_ascending {s : Finset α} {a : α} : a ∈ ascending s ↔ a ∈ s := by
  rw [← Multiset.mem_coe, coe_ascending, Finset.mem_val]

theorem nodup_ascending (s : Finset α) : (ascending s).Nodup := by
  rw [← Multiset.coe_nodup, coe_ascending]
  exact s.nodup

@[simp] theorem toFinset_ascending (s : Finset α) : (ascending s).toFinset = s := by
  ext a; simp

end Forum.Library
