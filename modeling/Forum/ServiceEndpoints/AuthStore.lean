import Mathlib.Algebra.Order.Ring.Int
import Mathlib.Logic.Function.Basic
import Mathlib.Tactic.SplitIfs
import Forum.Library.Runs

/-!
# Authentication tokens

`AuthStore`: which authentication id a token stands for, and until when. Several threads add tokens and find them. A
call of `add` reads the clock, takes the lock to erase what has expired, if that was not done in the last half minute,
reads the clock again, and takes the lock to insert; each of these is a step of its own. `find` reads the clock under the
lock.

`insert` of a map does nothing when there is an entry for the token, and the time at which one expires is a sum of 64-bit
integers. So a token is found as it was added last when each `add` meets no other entry for it and its sum does not
overflow (`resolvesTokens_of_admissible`).
-/

namespace Forum.ServiceEndpoints

open Library

/-! ### The store -/

/-- `AuthStore`: the authentication of a token and when it expires. -/
structure AuthStore where
  collection : String → Option (String × ℤ)
  lastCleanup : ℤ

namespace AuthStore

/-- A store as it is constructed. -/
def empty : AuthStore := ⟨fun _ => none, 0⟩

/-- `cleanupEverySeconds`. -/
def cleanupEverySeconds : ℤ := 30

/-- What `cleanup` does with the collection. -/
def eraseExpired (now : ℤ) (store : AuthStore) : AuthStore :=
  { store with collection := fun authToken => (store.collection authToken).filter fun entry => now ≤ entry.2 }

/-- `getCurrentTime() + expiresIn`, of a time and a duration that is not negative: 64 bits, signed. -/
def expiresAt (addedAt expiresIn : ℤ) : ℤ :=
  if addedAt + expiresIn < 2 ^ 63 then addedAt + expiresIn else addedAt + expiresIn - 2 ^ 64

theorem expiresAt_of_lt {addedAt expiresIn : ℤ} (h : addedAt + expiresIn < 2 ^ 63) :
    expiresAt addedAt expiresIn = addedAt + expiresIn :=
  if_pos h

/-- An overflow makes it earlier. -/
theorem expiresAt_le (addedAt expiresIn : ℤ) : expiresAt addedAt expiresIn ≤ addedAt + expiresIn := by
  unfold expiresAt
  split_ifs <;> omega

/-- `std::unordered_map::insert`. -/
def insert (authToken authId : String) (expiresAt : ℤ) (store : AuthStore) : AuthStore :=
  { store with collection :=
      Function.update store.collection authToken (some ((store.collection authToken).getD (authId, expiresAt))) }

/-- `find`, at the time that it reads. -/
def find (store : AuthStore) (authToken : String) (now : ℤ) : String :=
  match store.collection authToken with
  | none => ""
  | some (authId, expiresAt) => if expiresAt < now then "" else authId

end AuthStore

/-! ### Threads -/

/-- The arguments of `add`. -/
structure AddRequest where
  authToken : String
  authId : String
  expiresIn : ℤ
  deriving DecidableEq

/-- What a call of `add` does next: take the lock to erase what expired before a time, note that it did so, read the
clock, or take the lock to insert what it added at a time. -/
inductive AddStage
  | erase (now : ℤ)
  | storeCleanup (now : ℤ)
  | readClock
  | insert (addedAt : ℤ)

/-- A store with the clock, the calls of `add` that are not finished, and what was added last for each token. -/
structure AuthSystem where
  store : AuthStore
  clock : ℤ
  adds : ℕ → Option (AddRequest × AddStage)
  latestAdd : String → Option (AddRequest × ℤ)

/-- The clock goes on, a thread calls `add`, or it takes its next step. -/
inductive AuthAction
  | tick (now : ℤ)
  | callAdd (thread : ℕ) (request : AddRequest)
  | advance (thread : ℕ)

namespace AuthSystem

/-- A new store at a time. -/
def start (now : ℤ) : AuthSystem := ⟨.empty, now, fun _ => none, fun _ => none⟩

/-- Overwrites how far a thread has got. -/
def setStage (thread : ℕ) (stage : Option (AddRequest × AddStage)) (s : AuthSystem) : AuthSystem :=
  { s with adds := Function.update s.adds thread stage }

/-- The end of `add`. -/
def insert (request : AddRequest) (addedAt : ℤ) (s : AuthSystem) : AuthSystem :=
  { s with
    store := s.store.insert request.authToken request.authId (AuthStore.expiresAt addedAt request.expiresIn)
    latestAdd := Function.update s.latestAdd request.authToken (some (request, addedAt)) }

/-- One step: time passes, or a thread takes its next step. -/
def step (s : AuthSystem) : AuthAction → Option AuthSystem
  | .tick now => if s.clock ≤ now then some { s with clock := now } else none
  | .callAdd thread request =>
    match s.adds thread with
    | some _ => none
    | none =>
      if s.clock - s.store.lastCleanup < AuthStore.cleanupEverySeconds then
        some (s.setStage thread (some (request, .readClock)))
      else some (s.setStage thread (some (request, .erase s.clock)))
  | .advance thread =>
    match s.adds thread with
    | none => none
    | some (request, .erase now) =>
      some ({ s with store := s.store.eraseExpired now }.setStage thread (some (request, .storeCleanup now)))
    | some (request, .storeCleanup now) =>
      some ({ s with store := { s.store with lastCleanup := now } }.setStage thread (some (request, .readClock)))
    | some (request, .readClock) => some (s.setStage thread (some (request, .insert s.clock)))
    | some (request, .insert addedAt) => some ((s.insert request addedAt).setStage thread none)

/-- A token is found as it was added last, unless that has expired. -/
def ResolvesTokens (s : AuthSystem) : Prop :=
  ∀ authToken, s.store.find authToken s.clock =
    match s.latestAdd authToken with
    | none => ""
    | some (request, addedAt) => if s.clock ≤ addedAt + request.expiresIn then request.authId else ""

/-- What an action inserts, if it does. -/
def insertion (s : AuthSystem) : AuthAction → Option (AddRequest × ℤ)
  | .advance thread =>
    match s.adds thread with
    | some (request, .insert addedAt) => some (request, addedAt)
    | _ => none
  | _ => none

/-- The sum of an entry that is inserted does not overflow, and no other entry is in its way. -/
def InsertsLatest (s : AuthSystem) (action : AuthAction) : Prop :=
  (s.insertion action).all (fun add => decide (add.2 + add.1.expiresIn < 2 ^ 63) &&
    (s.store.collection add.1.authToken).all fun entry => entry == (add.1.authId, add.2 + add.1.expiresIn)) = true

instance (s : AuthSystem) (action : AuthAction) : Decidable (s.InsertsLatest action) :=
  inferInstanceAs (Decidable (_ = true))

/-! ### What the steps keep -/

/-- An entry is what was added last; what was added last has an entry, unless it has expired; and what expired before a
time is erased when that time has come. -/
structure Sound (s : AuthSystem) : Prop where
  latest : ∀ authToken entry, s.store.collection authToken = some entry → ∃ request addedAt,
    s.latestAdd authToken = some (request, addedAt) ∧ entry = (request.authId, addedAt + request.expiresIn)
  kept : ∀ authToken request addedAt, s.latestAdd authToken = some (request, addedAt) →
    s.clock ≤ addedAt + request.expiresIn →
    s.store.collection authToken = some (request.authId, addedAt + request.expiresIn)
  past : ∀ thread request now, s.adds thread = some (request, .erase now) → now ≤ s.clock

theorem sound_start (now : ℤ) : (start now).Sound where
  latest := fun _ _ h => by cases h
  kept := fun _ _ _ h => by cases h
  past := fun _ _ _ h => by cases h

theorem Sound.resolvesTokens {s : AuthSystem} (h : s.Sound) : s.ResolvesTokens := by
  intro authToken
  unfold AuthStore.find
  cases hentry : s.store.collection authToken with
  | none =>
    cases hlatest : s.latestAdd authToken with
    | none => rfl
    | some add =>
      obtain ⟨request, addedAt⟩ := add
      dsimp only
      split_ifs with hvalid
      · have hkept := h.kept authToken request addedAt hlatest hvalid
        rw [hentry] at hkept
        cases hkept
      · rfl
  | some entry =>
    obtain ⟨request, addedAt, hlatest, rfl⟩ := h.latest authToken entry hentry
    rw [hlatest]
    dsimp only
    split_ifs with hexpired hvalid hvalid
    · omega
    · rfl
    · rfl
    · omega

/-- Another stage of a call changes nothing else, unless it is to erase. -/
theorem Sound.setStage {s : AuthSystem} (h : s.Sound) (thread : ℕ) {stage : Option (AddRequest × AddStage)}
    (hstage : ∀ request now, stage = some (request, .erase now) → now ≤ s.clock) : (s.setStage thread stage).Sound where
  latest := h.latest
  kept := h.kept
  past := by
    intro other request now hother
    have hother : Function.update s.adds thread stage other = some (request, .erase now) := hother
    by_cases heq : other = thread
    · rw [heq, Function.update_self] at hother
      exact hstage request now hother
    · rw [Function.update_of_ne heq] at hother
      exact h.past other request now hother

theorem Sound.eraseExpired {s : AuthSystem} (h : s.Sound) {now : ℤ} (hnow : now ≤ s.clock) :
    ({ s with store := s.store.eraseExpired now } : AuthSystem).Sound where
  latest := by
    intro authToken entry hentry
    apply h.latest authToken entry
    exact (Option.filter_eq_some_iff.1 hentry).1
  kept := by
    intro authToken request addedAt hlatest hvalid
    apply Option.filter_eq_some_iff.2
    refine ⟨h.kept authToken request addedAt hlatest hvalid, ?_⟩
    have hvalid : s.clock ≤ addedAt + request.expiresIn := hvalid
    exact decide_eq_true (by omega)
  past := h.past

/-- What is inserted where no other entry is becomes the entry. -/
theorem Sound.insert {s : AuthSystem} (h : s.Sound) {request : AddRequest} {addedAt : ℤ}
    (hfits : addedAt + request.expiresIn < 2 ^ 63)
    (hother : ∀ entry, s.store.collection request.authToken = some entry →
      entry = (request.authId, addedAt + request.expiresIn)) : (s.insert request addedAt).Sound := by
  have hnew : (s.store.collection request.authToken).getD (request.authId, addedAt + request.expiresIn) =
      (request.authId, addedAt + request.expiresIn) := by
    cases hentry : s.store.collection request.authToken with
    | none => rfl
    | some entry => exact hother entry hentry
  have hcollection : (s.insert request addedAt).store.collection = Function.update s.store.collection request.authToken
      (some (request.authId, addedAt + request.expiresIn)) := by
    rw [← hnew, ← AuthStore.expiresAt_of_lt hfits]
    rfl
  refine ⟨fun authToken entry hentry => ?_, fun authToken other at' hlatest hvalid => ?_, h.past⟩
  · rw [hcollection] at hentry
    show ∃ request' addedAt', Function.update s.latestAdd request.authToken (some (request, addedAt)) authToken = _ ∧ _
    by_cases heq : authToken = request.authToken
    · rw [heq, Function.update_self] at hentry
      rw [heq, Function.update_self]
      exact ⟨request, addedAt, rfl, (Option.some.inj hentry).symm⟩
    · rw [Function.update_of_ne heq] at hentry
      rw [Function.update_of_ne heq]
      exact h.latest authToken entry hentry
  · have hlatest : Function.update s.latestAdd request.authToken (some (request, addedAt)) authToken = some (other, at') :=
      hlatest
    rw [hcollection]
    by_cases heq : authToken = request.authToken
    · rw [heq, Function.update_self] at hlatest
      cases hlatest
      rw [heq, Function.update_self]
    · rw [Function.update_of_ne heq] at hlatest
      rw [Function.update_of_ne heq]
      exact h.kept authToken other at' hlatest hvalid

theorem Sound.step {s s' : AuthSystem} {action : AuthAction} (h : s.Sound) (hinserts : s.InsertsLatest action)
    (hstep : s.step action = some s') : s'.Sound := by
  cases action with
  | tick now =>
    unfold AuthSystem.step at hstep
    dsimp only at hstep
    split_ifs at hstep with hlater
    cases hstep
    refine ⟨h.latest, fun authToken request addedAt hlatest hvalid => ?_, fun thread request erased hthread => ?_⟩
    · have hvalid : now ≤ addedAt + request.expiresIn := hvalid
      exact h.kept authToken request addedAt hlatest (by omega)
    · have hpast := h.past thread request erased hthread
      show erased ≤ now
      omega
  | callAdd thread request =>
    unfold AuthSystem.step at hstep
    dsimp only at hstep
    split at hstep
    · cases hstep
    · split_ifs at hstep
      · cases hstep
        apply h.setStage
        intro _ _ heq
        cases heq
      · cases hstep
        apply h.setStage
        intro _ _ heq
        cases heq
        exact Int.le_refl _
  | advance thread =>
    unfold AuthSystem.step at hstep
    unfold InsertsLatest insertion at hinserts
    dsimp only at hstep hinserts
    cases hthread : s.adds thread with
    | none =>
      rw [hthread] at hstep
      cases hstep
    | some call =>
      obtain ⟨request, stage⟩ := call
      rw [hthread] at hstep hinserts
      cases stage with
      | erase now =>
        cases hstep
        apply (h.eraseExpired (h.past thread request now hthread)).setStage
        intro _ _ heq
        cases heq
      | storeCleanup now =>
        cases hstep
        have hsame : ({ s with store := { s.store with lastCleanup := now } } : AuthSystem).Sound := ⟨h.latest, h.kept, h.past⟩
        apply hsame.setStage
        intro _ _ heq
        cases heq
      | readClock =>
        cases hstep
        apply h.setStage
        intro _ _ heq
        cases heq
      | insert addedAt =>
        cases hstep
        obtain ⟨hfits, hmeets⟩ := (Bool.and_eq_true _ _).mp hinserts
        have hother : ∀ entry, s.store.collection request.authToken = some entry →
            entry = (request.authId, addedAt + request.expiresIn) := by
          intro entry hentry
          rw [hentry] at hmeets
          exact eq_of_beq hmeets
        apply (h.insert (of_decide_eq_true hfits) hother).setStage
        intro _ _ heq
        cases heq

/-- In every interleaving in which an insertion overflows no time and meets no other entry for its token, tokens are found
as they were added last. -/
theorem resolvesTokens_of_admissible {now : ℤ} {actions : List AuthAction} {s : AuthSystem}
    (hrun : runFrom step (start now) actions = some s) (hinserts : Admissible step InsertsLatest (start now) actions) :
    s.ResolvesTokens :=
  (runFrom_keeps (fun _ _ _ h hok hstep => h.step hok hstep) (sound_start now) hinserts hrun).resolvesTokens

/-- A thread adds a token for some seconds. The first call at a time so late erases before it. -/
def addToken (authId : String) (erases : Bool) : List AuthAction :=
  .callAdd 0 ⟨"token", authId, 10⟩ :: List.replicate (if erases then 4 else 2) (.advance 0)

/-- A token is added again when its first entry has been erased. -/
theorem resolvesTokens_addedLater :
    ∃ s, runFrom step (start 1000) (addToken "first" true ++ .tick 1100 :: addToken "second" true) = some s ∧
      s.ResolvesTokens ∧ s.store.find "token" 1100 = "second" := by
  have hrun : runFrom step (start 1000) (addToken "first" true ++ .tick 1100 :: addToken "second" true) = some _ := rfl
  exact ⟨_, hrun, resolvesTokens_of_admissible hrun (by decide), by decide⟩

/-- A token that is added again while it has an entry is found as it was added first. -/
theorem not_resolvesTokens_addedAgain :
    ∃ s, runFrom step (start 1000) (addToken "first" true ++ .tick 1005 :: addToken "second" false) = some s ∧
      ¬ s.ResolvesTokens := by
  have hrun : runFrom step (start 1000) (addToken "first" true ++ .tick 1005 :: addToken "second" false) = some _ := rfl
  refine ⟨_, hrun, fun hresolves => ?_⟩
  have hfind := hresolves "token"
  revert hfind
  decide

end AuthSystem

end Forum.ServiceEndpoints
