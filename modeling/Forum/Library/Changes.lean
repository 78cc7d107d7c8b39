import Mathlib.Logic.Function.Basic
import Mathlib.Data.List.Basic

/-!
# Following a partial map by its changes

A copy of a partial map can be kept by being told, for one key after the other, which value it has got or that
it is gone.
-/

namespace Forum.Library

variable {K V : Type*} [DecidableEq K]

/-- A key gets a value, or loses the one it has. -/
abbrev Change (K V : Type*) := K × Option V

/-- Follow one change. -/
def Change.apply (m : K → Option V) (change : Change K V) : K → Option V := Function.update m change.1 change.2

/-- Follow changes in order. -/
def follow (m : K → Option V) (changes : List (Change K V)) : K → Option V := changes.foldl Change.apply m

@[simp] theorem follow_nil (m : K → Option V) : follow m [] = m := rfl

@[simp] theorem follow_cons (m : K → Option V) (change : Change K V) (changes : List (Change K V)) :
    follow m (change :: changes) = follow (change.apply m) changes := rfl

theorem follow_append (m : K → Option V) (changes changes' : List (Change K V)) :
    follow m (changes ++ changes') = follow (follow m changes) changes' :=
  List.foldl_append

/-- When keys are dropped one after the other, the others keep their values. -/
theorem follow_drop (m : K → Option V) (keys : List K) (k : K) :
    follow m (keys.map fun key => (key, none)) k = if k ∈ keys then none else m k := by
  induction keys generalizing m with
  | nil => simp
  | cons key keys ih =>
    rw [List.map_cons, follow_cons, ih]
    by_cases hk : k = key
    · subst hk
      simp [Change.apply]
    · simp [Change.apply, hk]

end Forum.Library
