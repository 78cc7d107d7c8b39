import Mathlib.Data.Option.Basic
import Mathlib.Logic.Equiv.Basic
import Mathlib.Logic.Function.Basic

/-!
# Objects that own memory

Objects at places, each of which may own a block of a heap. What an object means depends on the object and on its own block
only, no two of them own the same block, and no block is without an owner. So an object can be put in the place of another, or
given a block, or be taken away with its block, without a change to what the others mean: `Represents.replace`. What is
exchanged between places goes on to mean the same: `Represents.exchange`.
-/

namespace Forum.Library

variable {π ο β ν : Type*}

/-- Which block an object owns, and what it means with this block. -/
structure BlockOwnership (ο β ν : Type*) where
  owns : ο → Option ℕ
  holds : ο → Option β → ν → Prop

section Temporary

variable [DecidableEq π] {values : π → Option ν} {p q t : π}

/-- What a temporary place had is in the other one in the end. -/
theorem exchange_temporary (hp : p ≠ t) (ht : values t = none) (v : ν) :
    Function.update (Function.update values t (some v) ∘ Equiv.swap p t) t none = Function.update values p (some v) := by
  funext r
  by_cases hrt : r = t
  · rw [hrt, Function.update_self, Function.update_of_ne hp.symm, ht]
  · rw [Function.update_of_ne hrt, Function.comp_apply]
    by_cases hrp : r = p
    · rw [hrp, Equiv.swap_apply_left, Function.update_self, Function.update_self]
    · rw [Equiv.swap_apply_of_ne_of_ne hrp hrt, Function.update_of_ne hrt, Function.update_of_ne hrp]

/-- An exchange through a temporary place is one of the two others. -/
theorem exchange_through (hp : p ≠ t) (hq : q ≠ t) (ht : values t = none) (v : ν) :
    Function.update (((Function.update values t (some v) ∘ Equiv.swap t p) ∘ Equiv.swap p q) ∘ Equiv.swap q t) t none =
      values ∘ Equiv.swap p q := by
  have hthrough : ∀ r, Equiv.swap t p (Equiv.swap p q (Equiv.swap q t r)) = Equiv.swap p q r := by
    intro r
    simp only [Equiv.swap_apply_def]
    split_ifs <;> simp_all
  funext r
  by_cases hrt : r = t
  · rw [hrt, Function.update_self, Function.comp_apply, Equiv.swap_apply_of_ne_of_ne hp.symm hq.symm, ht]
  · have hne : Equiv.swap p q r ≠ t := by
      rw [Ne, Equiv.swap_apply_eq_iff, Equiv.swap_apply_of_ne_of_ne hp.symm hq.symm]
      exact hrt
    rw [Function.update_of_ne hrt, Function.comp_apply, Function.comp_apply, Function.comp_apply, hthrough,
      Function.update_of_ne hne, Function.comp_apply]

end Temporary

namespace BlockOwnership

variable (w : BlockOwnership ο β ν)

/-- The objects own the blocks of the heap, and mean the values. -/
structure Represents (heap : ℕ → Option β) (objects : π → Option ο) (values : π → Option ν) : Prop where
  means : ∀ p, Option.Rel (fun o v => w.holds o ((w.owns o).bind heap) v) (objects p) (values p)
  allocated : ∀ p o a, objects p = some o → w.owns o = some a → ∃ b, heap a = some b
  separated : ∀ p q o o' a, objects p = some o → objects q = some o' → w.owns o = some a → w.owns o' = some a → p = q
  noLeaks : ∀ a b, heap a = some b → ∃ p o, objects p = some o ∧ w.owns o = some a

variable {w} {heap heap' : ℕ → Option β} {objects : π → Option ο} {values : π → Option ν}

namespace Represents

/-- What means a value is an object. -/
theorem exists_object (h : w.Represents heap objects values) {p : π} {v : ν} (hv : values p = some v) :
    ∃ o, objects p = some o ∧ w.holds o ((w.owns o).bind heap) v := by
  have hmeans := h.means p
  rw [hv] at hmeans
  cases hobject : objects p with
  | none =>
    rw [hobject] at hmeans
    cases hmeans
  | some o =>
    rw [hobject] at hmeans
    cases hmeans with
    | some hholds => exact ⟨o, rfl, hholds⟩

theorem object_eq_none (h : w.Represents heap objects values) {p : π} (hv : values p = none) : objects p = none := by
  have hmeans := h.means p
  rw [hv] at hmeans
  cases hobject : objects p with
  | none => rfl
  | some o =>
    rw [hobject] at hmeans
    cases hmeans

theorem isSome_iff (h : w.Represents heap objects values) (p : π) : (objects p).isSome ↔ (values p).isSome := by
  cases hv : values p with
  | none =>
    rw [h.object_eq_none hv]
    exact iff_of_false Bool.false_ne_true Bool.false_ne_true
  | some v =>
    obtain ⟨o, ho, -⟩ := h.exists_object hv
    rw [ho]
    exact iff_of_true rfl rfl

theorem exchange (h : w.Represents heap objects values) (e : π ≃ π) : w.Represents heap (objects ∘ e) (values ∘ e) where
  means p := h.means (e p)
  allocated p := h.allocated (e p)
  separated p q o o' a ho ho' ha ha' := e.injective (h.separated (e p) (e q) o o' a ho ho' ha ha')
  noLeaks a b hb := by
    obtain ⟨p, o, ho, ha⟩ := h.noLeaks a b hb
    exact ⟨e.symm p, o, by rwa [Function.comp_apply, Equiv.apply_symm_apply], ha⟩

variable [DecidableEq π]

/-- At one place an object can come, go or change, if the heap changes only in the blocks that are owned there: a block that is
no longer owned is gone, and one that is newly owned was free. -/
theorem replace (h : w.Represents heap objects values) (p : π) (o : Option ο) (v : Option ν)
    (hkeep : ∀ a, (objects p).bind w.owns ≠ some a → o.bind w.owns ≠ some a → heap' a = heap a)
    (hnew : ∀ a, o.bind w.owns = some a → (∃ b, heap' a = some b) ∧ ((objects p).bind w.owns = some a ∨ heap a = none))
    (hfree : ∀ a, (objects p).bind w.owns = some a → o.bind w.owns ≠ some a → heap' a = none)
    (hmeans : Option.Rel (fun o v => w.holds o ((w.owns o).bind heap') v) o v) :
    w.Represents heap' (Function.update objects p o) (Function.update values p v) := by
  -- what is owned elsewhere is not touched
  have hother : ∀ q x a, q ≠ p → objects q = some x → w.owns x = some a →
      (objects p).bind w.owns ≠ some a ∧ o.bind w.owns ≠ some a := by
    intro q x a hq hx ha
    have hold : (objects p).bind w.owns ≠ some a := by
      intro howns
      obtain ⟨y, hy, hya⟩ := Option.bind_eq_some_iff.1 howns
      exact hq (h.separated q p x y a hx hy ha hya)
    refine ⟨hold, fun howns => ?_⟩
    obtain ⟨b, hb⟩ := h.allocated q x a hx ha
    rcases (hnew a howns).2 with hsame | hnone
    · exact hold hsame
    · rw [hb] at hnone
      cases hnone
  refine ⟨fun q => ?_, fun q x a hx ha => ?_, fun q r x y a hx hy hxa hya => ?_, fun a b hb => ?_⟩
  · by_cases hq : q = p
    · rw [hq, Function.update_self, Function.update_self]
      exact hmeans
    · rw [Function.update_of_ne hq, Function.update_of_ne hq]
      have hq' := h.means q
      cases hobject : objects q with
      | none =>
        rw [hobject] at hq'
        cases hvalue : values q with
        | none => exact .none
        | some value =>
          rw [hvalue] at hq'
          cases hq'
      | some x =>
        rw [hobject] at hq'
        have hblock : (w.owns x).bind heap' = (w.owns x).bind heap := by
          cases howns : w.owns x with
          | none => rfl
          | some a =>
            obtain ⟨hold, hno⟩ := hother q x a hq hobject howns
            exact hkeep a hold hno
        cases hvalue : values q with
        | none =>
          rw [hvalue] at hq'
          cases hq'
        | some value =>
          rw [hvalue] at hq'
          cases hq' with
          | some hholds => exact .some (by rwa [hblock])
  · by_cases hq : q = p
    · rw [hq, Function.update_self] at hx
      exact (hnew a (by rw [hx]; exact ha)).1
    · rw [Function.update_of_ne hq] at hx
      obtain ⟨hold, hno⟩ := hother q x a hq hx ha
      rw [hkeep a hold hno]
      exact h.allocated q x a hx ha
  · by_cases hq : q = p
    · by_cases hr : r = p
      · rw [hq, hr]
      · rw [hq, Function.update_self] at hx
        rw [Function.update_of_ne hr] at hy
        exact absurd (by rw [hx]; exact hxa) (hother r y a hr hy hya).2
    · rw [Function.update_of_ne hq] at hx
      by_cases hr : r = p
      · rw [hr, Function.update_self] at hy
        exact absurd (by rw [hy]; exact hya) (hother q x a hq hx hxa).2
      · rw [Function.update_of_ne hr] at hy
        exact h.separated q r x y a hx hy hxa hya
  · by_cases hno : o.bind w.owns = some a
    · obtain ⟨x, hx, ha⟩ := Option.bind_eq_some_iff.1 hno
      exact ⟨p, x, by rw [Function.update_self, hx], ha⟩
    · by_cases hold : (objects p).bind w.owns = some a
      · rw [hfree a hold hno] at hb
        cases hb
      · rw [hkeep a hold hno] at hb
        obtain ⟨q, x, hx, ha⟩ := h.noLeaks a b hb
        have hq : q ≠ p := by
          rintro rfl
          exact hold (by rw [hx]; exact ha)
        exact ⟨q, x, by rwa [Function.update_of_ne hq], ha⟩

/-- An object without a block comes to a place that is free. -/
theorem place (h : w.Represents heap objects values) {p : π} {o : ο} {v : ν} (hfree : values p = none)
    (howns : w.owns o = none) (hholds : w.holds o none v) :
    w.Represents heap (Function.update objects p (some o)) (Function.update values p (some v)) := by
  refine h.replace p (some o) (some v) (fun a _ _ => rfl) (fun a ha => ?_) (fun a ha _ => ?_)
    (.some (by rwa [howns]))
  · rw [Option.bind_some, howns] at ha
    cases ha
  · rw [h.object_eq_none hfree] at ha
    cases ha

/-- An object comes to a place that is free with a block that was. -/
theorem allocate (h : w.Represents heap objects values) {p : π} {o : ο} {v : ν} {a : ℕ} {b : β} (hfree : values p = none)
    (ha : heap a = none) (howns : w.owns o = some a) (hholds : w.holds o (some b) v) :
    w.Represents (Function.update heap a (some b)) (Function.update objects p (some o)) (Function.update values p (some v)) := by
  have hblock : (some o).bind w.owns = some a := howns
  refine h.replace p (some o) (some v) (fun a' _ hne => Function.update_of_ne (fun heq => ?_) _ _) (fun a' ha' => ?_)
    (fun a' ha' _ => ?_) (.some ?_)
  · exact hne (heq ▸ hblock)
  · rw [hblock] at ha'
    cases ha'
    exact ⟨⟨b, Function.update_self ..⟩, Or.inr ha⟩
  · rw [h.object_eq_none hfree] at ha'
    cases ha'
  · rw [howns, Option.bind_some, Function.update_self]
    exact hholds

/-- An object changes that owns nothing. -/
theorem modify (h : w.Represents heap objects values) {p : π} {o o' : ο} {v : ν} (ho : objects p = some o)
    (howns : w.owns o = none) (howns' : w.owns o' = none) (hholds : w.holds o' none v) :
    w.Represents heap (Function.update objects p (some o')) (Function.update values p (some v)) := by
  refine h.replace p (some o') (some v) (fun a _ _ => rfl) (fun a ha => ?_) (fun a ha _ => ?_) (.some (by rwa [howns']))
  · rw [Option.bind_some, howns'] at ha
    cases ha
  · rw [ho, Option.bind_some, howns] at ha
    cases ha

/-- An object changes, and its block. -/
theorem modifyBlock (h : w.Represents heap objects values) {p : π} {o o' : ο} {v : ν} {a : ℕ} {b : β} (ho : objects p = some o)
    (howns : w.owns o = some a) (howns' : w.owns o' = some a) (hholds : w.holds o' (some b) v) :
    w.Represents (Function.update heap a (some b)) (Function.update objects p (some o')) (Function.update values p (some v)) := by
  have hblock : (objects p).bind w.owns = some a := by
    rw [ho]
    exact howns
  refine h.replace p (some o') (some v) (fun a' hne _ => Function.update_of_ne (fun heq => ?_) _ _) (fun a' ha' => ?_)
    (fun a' ha' hne => ?_) (.some ?_)
  · exact hne (heq ▸ hblock)
  · rw [Option.bind_some, howns'] at ha'
    cases ha'
    exact ⟨⟨b, Function.update_self ..⟩, Or.inl hblock⟩
  · rw [hblock] at ha'
    cases ha'
    exact absurd howns' hne
  · rw [howns', Option.bind_some, Function.update_self]
    exact hholds

/-- An object goes that owns nothing. -/
theorem drop (h : w.Represents heap objects values) {p : π} {o : ο} (ho : objects p = some o) (howns : w.owns o = none) :
    w.Represents heap (Function.update objects p none) (Function.update values p none) := by
  refine h.replace p none none (fun a _ _ => rfl) (fun a ha => ?_) (fun a ha _ => ?_) .none
  · cases ha
  · rw [ho, Option.bind_some, howns] at ha
    cases ha

/-- An object goes with its block. -/
theorem release (h : w.Represents heap objects values) {p : π} {o : ο} {a : ℕ} (ho : objects p = some o)
    (howns : w.owns o = some a) :
    w.Represents (Function.update heap a none) (Function.update objects p none) (Function.update values p none) := by
  have hblock : (objects p).bind w.owns = some a := by
    rw [ho]
    exact howns
  refine h.replace p none none (fun a' hne _ => Function.update_of_ne (fun heq => ?_) _ _) (fun a' ha' => ?_)
    (fun a' ha' _ => ?_) .none
  · exact hne (heq ▸ hblock)
  · cases ha'
  · rw [hblock] at ha'
    cases ha'
    exact Function.update_self ..

end Represents

end BlockOwnership

end Forum.Library
