import Mathlib.Data.Finset.Union
import Mathlib.Data.Set.Pairwise.Basic

/-!
# Partitions by an owner

Elements that name one owner each, and owners that list what names them: the lists partition the elements.
-/

namespace Forum.Library

variable {α β : Type*} [DecidableEq α] {A : Finset α} {B : Finset β} {fibre : β → Finset α}

/-- Each element of `A` is in the fibre of exactly one owner in `B`, and nothing else is in a fibre. -/
structure Partitions (A : Finset α) (B : Finset β) (fibre : β → Finset α) : Prop where
  covers : A = B.biUnion fibre
  disjoint : (B : Set β).PairwiseDisjoint fibre

/-- What owners list is what names them. -/
theorem partitions_of_owner {owner : α → β} (howner : ∀ a ∈ A, owner a ∈ B)
    (hfibre : ∀ b ∈ B, ∀ a, a ∈ fibre b ↔ a ∈ A ∧ owner a = b) : Partitions A B fibre where
  covers := by
    ext a
    rw [Finset.mem_biUnion]
    constructor
    · intro ha
      exact ⟨owner a, howner a ha, (hfibre _ (howner a ha) a).2 ⟨ha, rfl⟩⟩
    · rintro ⟨b, hb, hab⟩
      exact ((hfibre b hb a).1 hab).1
  disjoint := by
    intro b hb c hc hne
    refine Finset.disjoint_left.2 fun a hab hac => hne ?_
    rw [← ((hfibre b hb a).1 hab).2, ((hfibre c hc a).1 hac).2]

end Forum.Library
