import Mathlib.Algebra.BigOperators.Group.List.Lemmas
import Mathlib.Algebra.GroupWithZero.Nat
import Mathlib.Data.List.Dedup
import Mathlib.Data.List.Lex
import Mathlib.Data.List.Sort

/-!
# Grouping by keys

What an ordered map from keys to lists has when entries are appended one after the other to the lists of their keys: each key
once, in ascending order, with the values of its entries in their order.
-/

namespace Forum.Library

variable {κ α β : Type*} [LinearOrder κ]

/-- The values of the entries with a key. -/
def valuesOf (key : κ) (entries : List (κ × α)) : List α :=
  entries.filterMap fun entry => if entry.1 = key then some entry.2 else none

/-- The groups of entries with the same key. -/
def grouped (entries : List (κ × α)) : List (κ × List α) :=
  ((entries.map Prod.fst).dedup.insertionSort (· ≤ ·)).map fun key => (key, valuesOf key entries)

variable {entries : List (κ × α)}

theorem mem_valuesOf {key : κ} {value : α} : value ∈ valuesOf key entries ↔ (key, value) ∈ entries := by
  unfold valuesOf
  rw [List.mem_filterMap]
  constructor
  · rintro ⟨entry, hentry, heq⟩
    split_ifs at heq with hkey
    cases heq
    rw [← hkey]
    exact hentry
  · exact fun h => ⟨_, h, if_pos rfl⟩

theorem mem_grouped {group : κ × List α} :
    group ∈ grouped entries ↔ (∃ value, (group.1, value) ∈ entries) ∧ group.2 = valuesOf group.1 entries := by
  unfold grouped
  rw [List.mem_map]
  constructor
  · rintro ⟨key, hkey, rfl⟩
    rw [List.mem_insertionSort, List.mem_dedup, List.mem_map] at hkey
    obtain ⟨entry, hentry, rfl⟩ := hkey
    exact ⟨⟨entry.2, hentry⟩, rfl⟩
  · rintro ⟨⟨value, hvalue⟩, hgroup⟩
    refine ⟨group.1, ?_, Prod.ext rfl hgroup.symm⟩
    rw [List.mem_insertionSort, List.mem_dedup]
    exact List.mem_map_of_mem hvalue

/-- Values may be changed before or after they are grouped. -/
theorem grouped_map (f : α → β) (entries : List (κ × α)) :
    grouped (entries.map fun entry => (entry.1, f entry.2)) =
      (grouped entries).map fun group => (group.1, group.2.map f) := by
  have hkeys : (entries.map fun entry => (entry.1, f entry.2)).map Prod.fst = entries.map Prod.fst := by
    rw [List.map_map]
    rfl
  have hvalues : ∀ key, valuesOf key (entries.map fun entry => (entry.1, f entry.2)) =
      (valuesOf key entries).map f := by
    intro key
    unfold valuesOf
    rw [List.filterMap_map, List.map_filterMap]
    refine List.filterMap_congr fun entry _ => ?_
    show (if entry.1 = key then some (f entry.2) else none) = (if entry.1 = key then some entry.2 else none).map f
    split_ifs <;> rfl
  unfold grouped
  rw [hkeys, List.map_map]
  exact List.map_congr_left fun key _ => Prod.ext rfl (hvalues key)

/-- The groups have as many values as there are entries. -/
theorem sum_length_grouped (entries : List (κ × α)) :
    ((grouped entries).map fun group => group.2.length).sum = entries.length := by
  have hlength : ∀ key, (valuesOf key entries).length = (entries.map Prod.fst).count key := by
    intro key
    induction entries with
    | nil => rfl
    | cons entry entries ih =>
      unfold valuesOf at ih ⊢
      rw [List.filterMap_cons, List.map_cons, List.count_cons, ← ih]
      by_cases hkey : entry.1 = key
      · simp [hkey]
      · simp [hkey]
  have hsum := List.sum_map_count_dedup_eq_length (entries.map Prod.fst)
  rw [List.length_map] at hsum
  unfold grouped
  rw [List.map_map, ← hsum]
  refine ((List.perm_insertionSort _ _).map _).sum_eq.trans ?_
  exact congrArg List.sum (List.map_congr_left fun key _ => hlength key)

end Forum.Library
