import Mathlib.Data.List.Basic

/-!
# Runs of a step function

A system that takes one action at a time: `step s a` is the state after action `a`, or nothing when
`a` cannot happen in `s`. A run performs a list of actions, so a list of actions is one interleaving
of everything the parties of the system do. What one step keeps, a run keeps.
-/

namespace Forum.Library

variable {σ α : Type*} {step : σ → α → Option σ}

/-- The state after the actions, if each of them can happen when its turn comes. -/
def runFrom (step : σ → α → Option σ) : σ → List α → Option σ
  | s, [] => some s
  | s, a :: actions => (step s a).bind fun s' => runFrom step s' actions

theorem runFrom_cons {s t : σ} {a : α} {actions : List α} :
    runFrom step s (a :: actions) = some t ↔ ∃ s', step s a = some s' ∧ runFrom step s' actions = some t := by
  rw [runFrom, Option.bind_eq_some_iff]

/-- A run whose every action is admissible in the state it happens in. -/
def Admissible (step : σ → α → Option σ) (ok : σ → α → Prop) : σ → List α → Prop
  | _, [] => True
  | s, a :: actions => ok s a ∧ match step s a with
    | some s' => Admissible step ok s' actions
    | none => True

instance Admissible.decidable (step : σ → α → Option σ) (ok : σ → α → Prop) [∀ s a, Decidable (ok s a)] :
    ∀ (s : σ) (actions : List α), Decidable (Admissible step ok s actions)
  | _, [] => .isTrue trivial
  | s, a :: actions =>
    letI : Decidable (match step s a with
        | some s' => Admissible step ok s' actions
        | none => True) :=
      match step s a with
      | some s' => Admissible.decidable step ok s' actions
      | none => .isTrue trivial
    inferInstanceAs (Decidable (ok s a ∧ _))

/-- The parts of an admissible run are admissible. -/
theorem Admissible.of_append {ok : σ → α → Prop} {s u : σ} {first second : List α}
    (h : Admissible step ok s (first ++ second)) (hrun : runFrom step s first = some u) :
    Admissible step ok s first ∧ Admissible step ok u second := by
  induction first generalizing s with
  | nil =>
    obtain rfl : s = u := Option.some.inj hrun
    exact ⟨trivial, h⟩
  | cons a first ih =>
    obtain ⟨s', hstep, hrest⟩ := runFrom_cons.1 hrun
    obtain ⟨hok, hlater⟩ := h
    rw [hstep] at hlater
    obtain ⟨hfirst, hsecond⟩ := ih hlater hrest
    refine ⟨⟨hok, ?_⟩, hsecond⟩
    rw [hstep]
    exact hfirst

/-- What an admissible step keeps, an admissible run keeps. -/
theorem runFrom_keeps {P : σ → Prop} {ok : σ → α → Prop}
    (h : ∀ s a s', P s → ok s a → step s a = some s' → P s') {s t : σ} {actions : List α} (hs : P s)
    (hok : Admissible step ok s actions) (ht : runFrom step s actions = some t) : P t := by
  induction actions generalizing s with
  | nil =>
    obtain rfl : s = t := Option.some.inj ht
    exact hs
  | cons a actions ih =>
    obtain ⟨s', hstep, hrest⟩ := runFrom_cons.1 ht
    obtain ⟨hfirst, hlater⟩ := hok
    rw [hstep] at hlater
    exact ih (h s a s' hs hfirst hstep) hlater hrest

/-- What every step keeps, every run keeps. -/
theorem runFrom_invariant {P : σ → Prop} (h : ∀ s a s', P s → step s a = some s' → P s') {s t : σ}
    {actions : List α} (hs : P s) (ht : runFrom step s actions = some t) : P t := by
  induction actions generalizing s with
  | nil =>
    obtain rfl : s = t := Option.some.inj ht
    exact hs
  | cons a actions ih =>
    obtain ⟨s', hstep, hrest⟩ := runFrom_cons.1 ht
    exact ih (h s a s' hs hstep) hrest

/-- When every admissible step can be taken and does what an abstract one does, so does every admissible run. -/
theorem exists_runFrom_simulates {τ : Type*} {R : σ → τ → Prop} {ok : σ → α → Prop} {apply : τ → α → τ}
    (h : ∀ s t a, R s t → ok s a → ∃ s', step s a = some s' ∧ R s' (apply t a)) {s : σ} {t : τ} {actions : List α}
    (hs : R s t) (hok : Admissible step ok s actions) :
    ∃ s', runFrom step s actions = some s' ∧ R s' (actions.foldl apply t) := by
  induction actions generalizing s t with
  | nil => exact ⟨s, rfl, hs⟩
  | cons a actions ih =>
    obtain ⟨hfirst, hlater⟩ := hok
    obtain ⟨s', hstep, hs'⟩ := h s t a hs hfirst
    rw [hstep] at hlater
    obtain ⟨s'', hrun, hs''⟩ := ih hs' hlater
    exact ⟨s'', runFrom_cons.2 ⟨s', hstep, hrun⟩, hs''⟩

/-- An action that a measure decreases and that can always happen can be repeated to the end. -/
theorem exists_runFrom_replicate {P Q : σ → Prop} {a : α} (rank : σ → ℕ)
    (h : ∀ s, P s → Q s ∨ ∃ s', step s a = some s' ∧ P s' ∧ rank s' < rank s) {s : σ} (hs : P s) :
    ∃ n t, runFrom step s (List.replicate n a) = some t ∧ P t ∧ Q t := by
  induction hrank : rank s using Nat.strongRecOn generalizing s with
  | _ r ih =>
    rcases h s hs with hq | ⟨s', hstep, hs', hlt⟩
    · exact ⟨0, s, rfl, hs, hq⟩
    · obtain ⟨n, t, ht, hp, hq⟩ := ih (rank s') (hrank ▸ hlt) hs' rfl
      exact ⟨n + 1, t, by rw [List.replicate_succ, runFrom_cons]; exact ⟨s', hstep, ht⟩, hp, hq⟩

end Forum.Library
