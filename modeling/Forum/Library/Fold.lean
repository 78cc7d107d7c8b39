import Mathlib.Data.List.Basic
import Mathlib.Data.Finset.Basic
import Mathlib.Logic.Function.Basic

/-!
# What a loop leaves alone

A loop over a list is a left fold of a state. These are the rules for carrying a fact through one:
a view that no step changes is not changed by the loop, a property that every step keeps is kept,
and a view on which every step acts in its own right turns the loop into a loop over the view.
-/

namespace Forum.Library

variable {σ τ α : Type*} {f : σ → α → σ} {l : List α} {s : σ}

/-- A view that no step changes. -/
theorem foldl_view (view : σ → τ) (h : ∀ s, ∀ x ∈ l, view (f s x) = view s) :
    view (l.foldl f s) = view s := by
  induction l generalizing s with
  | nil => rfl
  | cons x l ih =>
    rw [List.foldl_cons, ih fun s y hy => h s y (List.mem_cons_of_mem _ hy), h s x List.mem_cons_self]

/-- A property that every step keeps. -/
theorem foldl_keeps {P : σ → Prop} (hs : P s) (h : ∀ s, ∀ x ∈ l, P s → P (f s x)) : P (l.foldl f s) :=
  List.foldlRecOn l f hs fun s hs x hx => h s x hx hs

/-- A view on which every step acts. -/
theorem foldl_view_eq (view : σ → τ) {g : τ → α → τ} (h : ∀ s, ∀ x ∈ l, view (f s x) = g (view s) x) :
    view (l.foldl f s) = l.foldl g (view s) := by
  induction l generalizing s with
  | nil => rfl
  | cons x l ih =>
    rw [List.foldl_cons, ih fun s y hy => h s y (List.mem_cons_of_mem _ hy), h s x List.mem_cons_self,
      List.foldl_cons]

/-- A property that only the step at `a` establishes, and every other step keeps. -/
theorem foldl_at {P Q : σ → Prop} {a : α} (hn : l.Nodup) (ha : a ∈ l) (hs : P s)
    (before : ∀ s, ∀ x ∈ l, x ≠ a → P s → P (f s x)) (at' : ∀ s, P s → Q (f s a))
    (after : ∀ s, ∀ x ∈ l, x ≠ a → Q s → Q (f s x)) : Q (l.foldl f s) := by
  obtain ⟨l₁, l₂, rfl⟩ := List.append_of_mem ha
  obtain ⟨-, hn₂, hdisjoint⟩ := List.nodup_append.1 hn
  rw [List.foldl_append, List.foldl_cons]
  refine foldl_keeps (at' _ (foldl_keeps hs fun s x hx => before s x (by simp [hx]) ?_)) fun s x hx =>
    after s x (by simp [hx]) ?_
  · exact hdisjoint x hx a (by simp)
  · rintro rfl
    exact (List.nodup_cons.1 hn₂).1 hx

/-! ### Updating a map in several places -/

variable {β : Type*} [DecidableEq α]

/-- Change the values of a map at the keys of a list, one after the other. -/
def updateEach (keys : List α) (f : β → β) (m : α → β) : α → β :=
  keys.foldl (fun m a => Function.update m a (f (m a))) m

theorem updateEach_apply_of_not_mem {keys : List α} {f : β → β} {m : α → β} {a : α} (h : a ∉ keys) :
    updateEach keys f m a = m a := by
  unfold updateEach
  refine foldl_view (fun m : α → β => m a) fun m b hb => Function.update_of_ne ?_ _ _
  exact fun hab => h (hab ▸ hb)

/-- A change that can be made again without effect. -/
theorem updateEach_apply_of_idempotent {f : β → β} (hf : ∀ b, f (f b) = f b) (keys : List α) (m : α → β) (a : α) :
    updateEach keys f m a = if a ∈ keys then f (m a) else m a := by
  induction keys generalizing m with
  | nil => rfl
  | cons k keys ih =>
    change updateEach keys f (Function.update m k (f (m k))) a = _
    rw [ih]
    by_cases hak : a = k
    · subst hak
      simp [hf]
    · simp [hak]

/-- A view that the change leaves alone. -/
theorem updateEach_view {γ : Type*} (view : β → γ) {f : β → β} (hf : ∀ b, view (f b) = view b) (keys : List α)
    (m : α → β) (a : α) : view (updateEach keys f m a) = view (m a) := by
  refine foldl_view (fun m : α → β => view (m a)) fun m k _ => ?_
  by_cases hak : a = k
  · subst hak
    simp [hf]
  · simp [hak]

/-- Changing the values at the keys of one list after another. -/
theorem foldl_updateEach {γ : Type*} (keys : γ → List α) (f : β → β) (l : List γ) (m : α → β) :
    l.foldl (fun m c => updateEach (keys c) f m) m = updateEach (l.flatMap keys) f m :=
  List.foldl_flatMap.symm

/-- Dropping an element from one of a family of sets. -/
theorem mem_update_erase {ι : Type*} [DecidableEq ι] {f : ι → Finset α} {i j : ι} {a b : α} :
    b ∈ Function.update f i ((f i).erase a) j ↔ b ∈ f j ∧ ¬(b = a ∧ j = i) := by
  by_cases hj : j = i
  · subst hj
    simp [and_comm]
  · simp [hj]

/-- Adding an element to one of a family of sets. -/
theorem mem_update_insert {ι : Type*} [DecidableEq ι] {f : ι → Finset α} {i j : ι} {a b : α} :
    b ∈ Function.update f i (insert a (f i)) j ↔ b ∈ f j ∨ b = a ∧ j = i := by
  by_cases hj : j = i
  · subst hj
    simp [or_comm]
  · simp [hj]

end Forum.Library
