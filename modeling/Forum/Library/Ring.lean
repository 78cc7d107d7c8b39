import Mathlib.Data.List.Rotate
import Mathlib.Data.List.Count

/-!
# Rings

A fixed number of entries of which the oldest is overwritten by the newest. A ring that is pushed to
again and again holds the last entries of all there were. If a property, once it holds of an entry,
holds of all the later ones, the oldest entry tells how many have it.
-/

namespace Forum.Library

variable {α : Type*}

/-- Entries in a circle, with the index of the oldest. -/
structure Ring (α : Type*) where
  /-- The entries, in the order of their places. -/
  entries : List α
  /-- Where the oldest entry is. -/
  currentIndex : ℕ
  /-- The index is one of a place. -/
  currentIndex_lt : currentIndex < entries.length

namespace Ring

/-- The oldest entry. -/
def oldest (r : Ring α) : α := r.entries.get ⟨r.currentIndex, r.currentIndex_lt⟩

/-- The entries, oldest first. -/
def toList (r : Ring α) : List α := r.entries.rotate r.currentIndex

/-- Overwrite the oldest entry. -/
def push (r : Ring α) (a : α) : Ring α where
  entries := r.entries.set r.currentIndex a
  currentIndex := (r.currentIndex + 1) % r.entries.length
  currentIndex_lt := by
    rw [List.length_set]
    exact Nat.mod_lt _ (Nat.zero_lt_of_lt r.currentIndex_lt)

variable (r : Ring α)

theorem toList_eq : r.toList = r.oldest :: (r.entries.drop (r.currentIndex + 1) ++ r.entries.take r.currentIndex) := by
  unfold toList oldest
  rw [List.rotate_eq_drop_append_take r.currentIndex_lt.le, List.drop_eq_getElem_cons r.currentIndex_lt]
  rfl

/-- The newest entry takes the place of the oldest. -/
theorem toList_push (a : α) : (r.push a).toList = r.toList.tail ++ [a] := by
  have hlt := r.currentIndex_lt
  have hset : (r.entries.set r.currentIndex a).length = r.entries.length := List.length_set
  have hrotate : (r.push a).toList = (r.entries.set r.currentIndex a).rotate (r.currentIndex + 1) := by
    rw [← List.rotate_mod, hset]
    rfl
  rw [hrotate, r.toList_eq, List.tail_cons, List.rotate_eq_drop_append_take (hset.symm ▸ hlt),
    List.drop_set_of_lt (Nat.lt_succ_self _), List.take_add_one, List.take_set_of_le le_rfl]
  simp [hlt]

/-- A ring holds the last of all the entries there were. -/
theorem toList_foldl_push (as : List α) : (as.foldl push r).toList = (r.toList ++ as).drop as.length := by
  induction as generalizing r with
  | nil => simp
  | cons a as ih =>
    rw [List.foldl_cons, ih, toList_push, toList_eq]
    simp

/-- The oldest entry, counted among all there were. -/
theorem getElem?_oldest (as : List α) : (r.toList ++ as)[as.length]? = some (as.foldl push r).oldest := by
  have hdrop := r.toList_foldl_push as
  rw [toList_eq] at hdrop
  rw [← List.head?_drop, ← hdrop]
  rfl

end Ring

/-! ### Counting the last entries -/

/-- With a property that passes on to all the later elements of a list, an element has it exactly if
there are as many that have it as there are from this element on. -/
theorem iff_le_countP_of_pairwise {p : α → Bool} {l : List α} (hp : l.Pairwise fun a b => p a → p b) {i : ℕ} {a : α}
    (ha : l[i]? = some a) : p a ↔ l.length ≤ i + l.countP p := by
  induction l generalizing i with
  | nil => simp at ha
  | cons b l ih =>
    obtain ⟨hb, hl⟩ := List.pairwise_cons.1 hp
    cases i with
    | zero =>
      obtain rfl : b = a := by simpa using ha
      by_cases hpb : p b
      · have hall : l.countP p = l.length := List.countP_eq_length.2 fun c hc => hb c hc hpb
        simp [hpb, hall]
      · have hle : l.countP p ≤ l.length := List.countP_le_length
        simp only [List.countP_cons, hpb, List.length_cons]
        simp
        omega
    | succ i =>
      have ha : l[i]? = some a := by simpa using ha
      rw [ih hl ha, List.countP_cons, List.length_cons]
      by_cases hpb : p b
      · have hpa : p a := hb a (List.mem_of_getElem? ha) hpb
        have hle := (ih hl ha).1 hpa
        simp [hpb]
        omega
      · simp [hpb]
        omega

end Forum.Library
