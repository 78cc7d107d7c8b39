import Mathlib.Data.Finset.Card
import Mathlib.Logic.Function.Basic
import Mathlib.Logic.Relation

/-!
# Following parent pointers

A parent pointer is a function to `Option`; a root has none. `parentChain` collects the ancestors of
a node as far as its fuel goes. `Ancestors parent a l` says that following the pointers from `a`
passes through `l` and then stops at a root: a node has at most one such list, it repeats no node,
and with enough fuel the walk collects it.
-/

namespace Forum.Library

variable {α : Type*}

/-- The proper ancestors of `a`, nearest first, at most `fuel` of them. -/
def parentChain (parent : α → Option α) : ℕ → α → List α
  | 0, _ => []
  | fuel + 1, a =>
    match parent a with
    | none => []
    | some p => p :: parentChain parent fuel p

/-- The loop `while (parent) { visit(parent); parent = parent->parent(); }`: the nodes it visits, and
nothing when it has not ended within the fuel. -/
def whileParent (parent : α → Option α) : ℕ → Option α → Option (List α)
  | _, none => some []
  | 0, some _ => none
  | fuel + 1, some p => (whileParent parent fuel (parent p)).map (p :: ·)

/-- The proper ancestors of `a` are `l`, nearest first, and the last is a root. -/
inductive Ancestors (parent : α → Option α) : α → List α → Prop
  | root {a : α} (h : parent a = none) : Ancestors parent a []
  | step {a p : α} {l : List α} (h : parent a = some p) (hp : Ancestors parent p l) : Ancestors parent a (p :: l)

namespace Ancestors

variable {parent parent' : α → Option α} {a b : α} {l l' : List α}

theorem unique (h : Ancestors parent a l) (h' : Ancestors parent a l') : l' = l := by
  induction h generalizing l' with
  | root h =>
    cases h' with
    | root => rfl
    | step hp => rw [h] at hp; cases hp
  | step h _ ih =>
    cases h' with
    | root hp => rw [h] at hp; cases hp
    | step hp hrest =>
      rw [h] at hp
      cases hp
      rw [ih hrest]

/-- The ancestors of an ancestor come after it. -/
theorem suffix (h : Ancestors parent a l) (hb : b ∈ l) : ∃ l₁ l₂, l = l₁ ++ b :: l₂ ∧ Ancestors parent b l₂ := by
  induction h with
  | root => cases hb
  | @step a p l h hp ih =>
    by_cases hbp : b = p
    · subst hbp
      exact ⟨[], l, rfl, hp⟩
    · obtain ⟨l₁, l₂, rfl, hb'⟩ := ih ((List.mem_cons.1 hb).resolve_left hbp)
      exact ⟨p :: l₁, l₂, rfl, hb'⟩

/-- Nothing is its own ancestor. -/
theorem not_mem_self (h : Ancestors parent a l) : a ∉ l := by
  intro ha
  obtain ⟨l₁, l₂, rfl, h'⟩ := h.suffix ha
  have hlength := congrArg List.length (h.unique h')
  rw [List.length_append, List.length_cons] at hlength
  omega

theorem nodup (h : Ancestors parent a l) : l.Nodup := by
  induction h with
  | root => exact List.nodup_nil
  | step _ hp ih => exact List.nodup_cons.2 ⟨hp.not_mem_self, ih⟩

/-- The ancestors are what following the pointers once or more may lead to. -/
theorem mem_iff_transGen (h : Ancestors parent a l) : b ∈ l ↔ Relation.TransGen (fun x y => parent x = some y) a b := by
  induction h with
  | root h =>
    refine iff_of_false List.not_mem_nil fun hb => ?_
    obtain ⟨p, hp, -⟩ := (Relation.TransGen.head'_iff).1 hb
    rw [h] at hp
    cases hp
  | @step a p l h _ ih =>
    rw [List.mem_cons, ih, Relation.TransGen.head'_iff (a := a)]
    constructor
    · rintro (rfl | hb)
      · exact ⟨_, h, .refl⟩
      · exact ⟨p, h, hb.to_reflTransGen⟩
    · rintro ⟨q, hq, hb⟩
      rw [h] at hq
      cases hq
      exact Relation.reflTransGen_iff_eq_or_transGen.1 hb

/-- Pointers that agree at a node and its ancestors lead through the same nodes. -/
theorem congr (h : Ancestors parent a l) (ha : parent' a = parent a) (hl : ∀ b ∈ l, parent' b = parent b) :
    Ancestors parent' a l := by
  induction h with
  | root h => exact .root (ha.trans h)
  | step h hp ih =>
    exact .step (ha.trans h) (ih (hl _ List.mem_cons_self) fun b hb => hl b (List.mem_cons_of_mem _ hb))

/-- Ancestors stay where parents lead. -/
theorem mem_of_closed {S : Finset α} (h : Ancestors parent a l) (closed : ∀ b ∈ S, ∀ p, parent b = some p → p ∈ S)
    (ha : a ∈ S) : ∀ b ∈ l, b ∈ S := by
  induction h with
  | root => simp
  | @step a p l h hp ih =>
    have hpS := closed a ha p h
    intro b hb
    rcases List.mem_cons.1 hb with rfl | hb
    · exact hpS
    · exact ih hpS b hb

/-- There are fewer ancestors than there are nodes they may be among. -/
theorem length_lt [DecidableEq α] {S : Finset α} (h : Ancestors parent a l) (ha : a ∈ S) (hl : ∀ b ∈ l, b ∈ S) :
    l.length < S.card := by
  have hn : (a :: l).Nodup := List.nodup_cons.2 ⟨h.not_mem_self, h.nodup⟩
  have hsub : (a :: l).toFinset ⊆ S := by
    intro b hb
    rcases List.mem_cons.1 (List.mem_toFinset.1 hb) with rfl | hb
    · exact ha
    · exact hl b hb
  have hcard := Finset.card_le_card hsub
  rw [List.toFinset_card_of_nodup hn, List.length_cons] at hcard
  omega

/-- With enough fuel the walk collects all ancestors. -/
theorem parentChain_eq (h : Ancestors parent a l) {fuel : ℕ} (hfuel : l.length ≤ fuel) :
    parentChain parent fuel a = l := by
  induction h generalizing fuel with
  | root h =>
    cases fuel with
    | zero => rfl
    | succ fuel => rw [parentChain, h]
  | step h _ ih =>
    cases fuel with
    | zero => simp at hfuel
    | succ fuel =>
      rw [List.length_cons] at hfuel
      rw [parentChain, h]
      simp only
      rw [ih (by omega)]

/-- The loop over the parents ends. -/
theorem whileParent_eq (h : Ancestors parent a l) : whileParent parent l.length (parent a) = some l := by
  induction h with
  | root h => rw [h]; rfl
  | step h _ ih => rw [h, List.length_cons, whileParent, ih]; rfl

/-- Following the pointers reaches a root in as many steps as there are ancestors. -/
theorem exists_root (h : Ancestors parent a l) :
    ∃ root ∈ a :: l, (fun b : Option α => b.bind parent)^[l.length] (some a) = some root ∧ parent root = none := by
  induction h with
  | root h => exact ⟨_, List.mem_cons_self, rfl, h⟩
  | step h _ ih =>
    obtain ⟨root, hmem, hsteps, hroot⟩ := ih
    refine ⟨root, List.mem_cons_of_mem _ hmem, ?_, hroot⟩
    rw [List.length_cons, Function.iterate_succ_apply, Option.bind_some, h, hsteps]

variable [DecidableEq α] {c : α} {newParent : Option α}

/-- A new parent for `c` is no change for those that do not reach `c`. -/
theorem update_of_not_mem (h : Ancestors parent a l) (hc : c ∉ a :: l) :
    Ancestors (Function.update parent c newParent) a l := by
  rw [List.mem_cons, not_or] at hc
  refine h.congr (Function.update_of_ne (Ne.symm hc.1) _ _) fun b hb => Function.update_of_ne ?_ _ _
  rintro rfl
  exact hc.2 hb

/-- What led to `c` still does when `c` gets a new parent. -/
theorem mem_of_update (h : Ancestors parent a l) (hc : c ∈ l) (h' : Ancestors (Function.update parent c newParent) a l') :
    c ∈ a :: l' := by
  induction h generalizing l' with
  | root => cases hc
  | @step a p l hp _ ih =>
    by_cases hac : a = c
    · exact hac ▸ List.mem_cons_self
    · refine List.mem_cons_of_mem _ ?_
      cases h' with
      | root hroot => rw [Function.update_of_ne hac, hp] at hroot; cases hroot
      | @step _ q l' hq hrest =>
        rw [Function.update_of_ne hac, hp] at hq
        cases hq
        rcases List.mem_cons.1 hc with rfl | hc
        · exact List.mem_cons_self
        · exact ih hc hrest

/-- When the new parent of `c` leads to a root without passing `c`, whatever led to a root still does. -/
theorem exists_update (hnew : ∀ p ∈ newParent, ∃ l, Ancestors parent p l ∧ c ∉ p :: l) (h : Ancestors parent a l) :
    ∃ l, Ancestors (Function.update parent c newParent) a l := by
  -- `c` itself goes to its new parent and on
  have hc : ∃ l, Ancestors (Function.update parent c newParent) c l := by
    cases newParent with
    | none => exact ⟨[], .root (Function.update_self _ _ _)⟩
    | some p =>
      obtain ⟨l, hp, hmem⟩ := hnew p rfl
      exact ⟨p :: l, .step (Function.update_self _ _ _) (hp.update_of_not_mem hmem)⟩
  induction h with
  | @root a h =>
    by_cases hac : a = c
    · exact hac ▸ hc
    · exact ⟨[], .root (by rw [Function.update_of_ne hac, h])⟩
  | @step a p l h _ ih =>
    by_cases hac : a = c
    · exact hac ▸ hc
    · obtain ⟨l', hl'⟩ := ih
      exact ⟨p :: l', .step (by rw [Function.update_of_ne hac, h]) hl'⟩

end Ancestors

end Forum.Library
