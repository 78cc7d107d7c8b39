import Mathlib.Data.List.Basic
import Mathlib.Data.List.TakeWhile

/-!
# Searching by halving

Where a predicate stops to hold in a list, found by looking at the element in the middle of what is left, and the range of
elements that are neither below nor above something. `partitionPoint_eq` and `rangeOf_eq` say what is found when the list is
partitioned; on any other list the result is what the halving happens to lead to.
-/

namespace Forum.Library

variable {α : Type*}

/-- From a position on, among so many elements. -/
def partitionPoint (p : α → Bool) (l : List α) : ℕ → ℕ → ℕ → ℕ
  | 0, first, _ => first
  | fuel + 1, first, len =>
    if len = 0 then first
    else if (l[first + len / 2]?).any p then partitionPoint p l fuel (first + len / 2 + 1) (len - len / 2 - 1)
    else partitionPoint p l fuel first (len / 2)

/-- The range between what is below and what is above. -/
def rangeOf (below above : α → Bool) (l : List α) : ℕ → ℕ → ℕ → ℕ × ℕ
  | 0, first, _ => (first, first)
  | fuel + 1, first, len =>
    if len = 0 then (first, first)
    else if (l[first + len / 2]?).any below then rangeOf below above l fuel (first + len / 2 + 1) (len - len / 2 - 1)
    else if (l[first + len / 2]?).any above then rangeOf below above l fuel first (len / 2)
    else
      (partitionPoint below l fuel first (len / 2),
        partitionPoint (fun y => !above y) l fuel (first + len / 2 + 1) (len - len / 2 - 1))

/-- The predicate holds up to a position, among the elements that are looked at. -/
def HoldsUpTo (p : α → Bool) (l : List α) (m first len : ℕ) : Prop :=
  ∀ i, first ≤ i → i < first + len → ((l[i]?).any p = true ↔ i < m)

variable {p below above : α → Bool} {l : List α} {fuel first len m lo hi : ℕ}

theorem HoldsUpTo.mono {first' len' : ℕ} (h : HoldsUpTo p l m first len) (hfirst : first ≤ first')
    (hend : first' + len' ≤ first + len) : HoldsUpTo p l m first' len' :=
  fun i hi hlt => h i (hfirst.trans hi) (hlt.trans_le hend)

theorem partitionPoint_eq (h : HoldsUpTo p l m first len) (hfuel : len ≤ fuel) (hfirst : first ≤ m)
    (hend : m ≤ first + len) : partitionPoint p l fuel first len = m := by
  induction fuel generalizing first len with
  | zero =>
    unfold partitionPoint
    omega
  | succ fuel ih =>
    unfold partitionPoint
    by_cases hlen : len = 0
    · rw [if_pos hlen]
      omega
    · have hmiddle := h (first + len / 2) (by omega) (by omega)
      rw [if_neg hlen]
      by_cases hp : (l[first + len / 2]?).any p = true
      · rw [if_pos hp]
        have hlt := hmiddle.1 hp
        exact ih (h.mono (by omega) (by omega)) (by omega) (by omega) (by omega)
      · rw [if_neg hp]
        have hle : ¬first + len / 2 < m := fun hlt => hp (hmiddle.2 hlt)
        exact ih (h.mono le_rfl (by omega)) (by omega) hfirst (by omega)

theorem rangeOf_eq (hbelow : HoldsUpTo below l lo first len) (habove : HoldsUpTo (fun y => !above y) l hi first len)
    (hlength : first + len ≤ l.length) (hfuel : len ≤ fuel) (hfirst : first ≤ lo) (hrange : lo ≤ hi)
    (hend : hi ≤ first + len) : rangeOf below above l fuel first len = (lo, hi) := by
  induction fuel generalizing first len with
  | zero =>
    unfold rangeOf
    rw [Prod.mk.injEq]
    omega
  | succ fuel ih =>
    unfold rangeOf
    by_cases hlen : len = 0
    · rw [if_pos hlen, Prod.mk.injEq]
      omega
    · have hmiddle := hbelow (first + len / 2) (by omega) (by omega)
      have hmiddle' := habove (first + len / 2) (by omega) (by omega)
      rw [if_neg hlen]
      by_cases hp : (l[first + len / 2]?).any below = true
      · rw [if_pos hp]
        have hlt := hmiddle.1 hp
        exact ih (hbelow.mono (by omega) (by omega)) (habove.mono (by omega) (by omega)) (by omega) (by omega) (by omega)
          (by omega)
      · rw [if_neg hp]
        have hle : ¬first + len / 2 < lo := fun hlt => hp (hmiddle.2 hlt)
        rw [List.getElem?_eq_getElem (by omega), Option.any_some] at hmiddle' ⊢
        by_cases hq : above l[first + len / 2] = true
        · rw [if_pos hq]
          rw [hq] at hmiddle'
          have hle' : ¬first + len / 2 < hi := fun hlt => absurd (hmiddle'.2 hlt) Bool.false_ne_true
          exact ih (hbelow.mono le_rfl (by omega)) (habove.mono le_rfl (by omega)) (by omega) (by omega) hfirst (by omega)
        · rw [if_neg hq]
          have hlt : first + len / 2 < hi := hmiddle'.1 (by rw [Bool.not_eq_true] at hq; rw [hq]; rfl)
          rw [partitionPoint_eq (hbelow.mono le_rfl (by omega)) (by omega) hfirst (by omega),
            partitionPoint_eq (habove.mono (by omega) (by omega)) (by omega) (by omega) (by omega)]

/-- What holds of all before an element of which it holds, holds of the first ones. -/
theorem holdsUpTo_takeWhile (h : l.Pairwise fun a b => p b = true → p a = true) :
    HoldsUpTo p l (l.takeWhile p).length 0 l.length := by
  intro i _ hi
  rw [Nat.zero_add] at hi
  induction l generalizing i with
  | nil => exact absurd hi (Nat.not_lt_zero i)
  | cons y l ih =>
    obtain ⟨hy, hl⟩ := List.pairwise_cons.1 h
    by_cases hp : p y = true
    · rw [List.takeWhile_cons_of_pos hp, List.length_cons]
      cases i with
      | zero => exact iff_of_true hp (Nat.succ_pos _)
      | succ i =>
        rw [List.getElem?_cons_succ, Nat.add_lt_add_iff_right]
        exact ih hl i (Nat.zero_le i) (Nat.lt_of_succ_lt_succ hi)
    · rw [List.takeWhile_cons_of_neg hp, List.getElem?_eq_getElem hi, Option.any_some]
      refine iff_of_false (fun hany => hp ?_) (Nat.not_lt_zero i)
      rcases List.mem_cons.1 (List.getElem_mem hi) with heq | hmem
      · rw [← heq]
        exact hany
      · exact hy _ hmem hany

end Forum.Library
