import Mathlib.Data.Int.Notation
import Mathlib.Logic.Function.Basic
import Mathlib.Tactic.SplitIfs
import Forum.Library.Runs

/-!
# Who visited a thread since it changed

`getDiscussionThreadById` decides under the read lock whether its user is to be added to the visitors of the thread since
its last change, and adds them under a write lock that it takes later. What changes the messages of the thread clears the
visitors; a merge of another thread into it does not.

A section under a lock is a step. When no user is added who has not read the thread since it changed, and no thread is
merged into one with visitors, the visitors are right (`visitsCurrent_of_admissible`). That a user who fetched the thread is
among them needs no condition.
-/

namespace Forum.Repository

open Library

/-! ### The steps -/

/-- What is done to the messages of the thread. A message is moved into it or out of it. -/
inductive ThreadChange
  | addNewDiscussionMessageInThread
  | changeDiscussionThreadMessageContent
  | changeDiscussionThreadMessageApproval
  | deleteDiscussionThreadMessage
  | moveDiscussionThreadMessage
  | mergeDiscussionThreads
  deriving DecidableEq

/-- A call that still has to add its user, and how often the thread had changed when it read it. -/
structure ThreadFetch where
  userId : ℕ
  changes : ℕ
  deriving DecidableEq

/-- The visitors of a thread. Of each user, whether the last read section and a complete fetch came behind the last
change, and whether there has been the maximum of visitors since the last fetch was complete. -/
structure ThreadVisits where
  visitorsSinceLastEdit : List ℕ
  fetches : ℕ → Option ThreadFetch
  changes : ℕ
  readSinceChange : ℕ → Bool
  fetchedSinceChange : ℕ → Bool
  maximumSinceFetch : ℕ → Bool

/-- The sections of a call for a registered user who may read the thread, and those that change it. -/
inductive ThreadAction
  | read (fetch userId : ℕ)
  | addVisitor (fetch : ℕ)
  | changeThread (change : ThreadChange)

namespace ThreadVisits

/-- A new thread, for a `maxUsersInVisitedSinceLastChange`. -/
def start (maxUsers : ℤ) : ThreadVisits :=
  ⟨[], fun _ => none, 0, fun _ => false, fun _ => false, fun _ => decide (maxUsers ≤ 0)⟩

/-- Did the user visit the thread since it last changed? -/
def hasVisitedSinceLastEdit (s : ThreadVisits) (userId : ℕ) : Prop := userId ∈ s.visitorsSinceLastEdit

instance (s : ThreadVisits) (userId : ℕ) : Decidable (s.hasVisitedSinceLastEdit userId) :=
  inferInstanceAs (Decidable (userId ∈ s.visitorsSinceLastEdit))

/-- Forgets all visitors. -/
def resetVisitorsSinceLastEdit (s : ThreadVisits) : ThreadVisits := { s with visitorsSinceLastEdit := [] }

/-- Remembers a visitor. All are forgotten first when there are too many. -/
def addVisitorSinceLastEdit (maxUsers : ℤ) (userId : ℕ) (s : ThreadVisits) : ThreadVisits :=
  let visitors := if maxUsers ≤ s.visitorsSinceLastEdit.length then [] else s.visitorsSinceLastEdit
  { s with visitorsSinceLastEdit := visitors.insert userId }

/-- All the sections of a fetch have run. -/
def complete (fetch : ThreadFetch) (s : ThreadVisits) : ThreadVisits :=
  { s with
    fetchedSinceChange :=
      if fetch.changes = s.changes then Function.update s.fetchedSinceChange fetch.userId true else s.fetchedSinceChange
    maximumSinceFetch := Function.update s.maximumSinceFetch fetch.userId false }

/-- The messages of the thread change. -/
def noteChange (s : ThreadVisits) : ThreadVisits :=
  { s with changes := s.changes + 1, readSinceChange := fun _ => false, fetchedSinceChange := fun _ => false }

/-- There may be as many visitors as there can be. -/
def noteMaximum (maxUsers : ℤ) (s : ThreadVisits) : ThreadVisits :=
  { s with maximumSinceFetch := fun userId =>
      s.maximumSinceFetch userId || decide (maxUsers ≤ s.visitorsSinceLastEdit.length) }

/-- The read section. -/
def read (fetch userId : ℕ) (s : ThreadVisits) : ThreadVisits :=
  let seen := { s with readSinceChange := Function.update s.readSinceChange userId true }
  if s.hasVisitedSinceLastEdit userId then seen.complete ⟨userId, s.changes⟩
  else { seen with fetches := Function.update s.fetches fetch (some ⟨userId, s.changes⟩) }

/-- What a change of the thread does to its visitors. -/
def changeThread (s : ThreadVisits) : ThreadChange → ThreadVisits
  | .mergeDiscussionThreads => s.noteChange
  | .addNewDiscussionMessageInThread | .changeDiscussionThreadMessageContent | .changeDiscussionThreadMessageApproval
  | .deleteDiscussionThreadMessage | .moveDiscussionThreadMessage => s.noteChange.resetVisitorsSinceLastEdit

/-- One step of a request that reads or changes the thread. -/
def step (maxUsers : ℤ) (s : ThreadVisits) : ThreadAction → Option ThreadVisits
  | .read fetch userId => if s.fetches fetch = none then some ((s.read fetch userId).noteMaximum maxUsers) else none
  | .addVisitor fetch =>
    (s.fetches fetch).map fun pending =>
      (({ s with fetches := Function.update s.fetches fetch none }.addVisitorSinceLastEdit maxUsers
        pending.userId).complete pending).noteMaximum maxUsers
  | .changeThread change => some ((s.changeThread change).noteMaximum maxUsers)

/-- The visitors have read the thread since it changed last, and those who fetched it since are visitors, unless there
were as many as there can be. -/
structure VisitsCurrent (s : ThreadVisits) : Prop where
  recorded : ∀ userId, s.hasVisitedSinceLastEdit userId → s.readSinceChange userId = true
  fetched : ∀ userId, s.fetchedSinceChange userId = true → s.maximumSinceFetch userId = false →
    s.hasVisitedSinceLastEdit userId

/-- A user who is added has read the thread since it changed, and a thread that another is merged into has no visitors. -/
def KeepsVisits (s : ThreadVisits) : ThreadAction → Prop
  | .addVisitor fetch => ∀ pending, s.fetches fetch = some pending → s.readSinceChange pending.userId = true
  | .changeThread .mergeDiscussionThreads => s.visitorsSinceLastEdit = []
  | _ => True

/-! ### What the steps keep -/

/-- A set that is full has been full since every fetch. -/
structure Sound (maxUsers : ℤ) (s : ThreadVisits) : Prop extends s.VisitsCurrent where
  full : maxUsers ≤ s.visitorsSinceLastEdit.length → ∀ userId, s.maximumSinceFetch userId = true

theorem sound_start (maxUsers : ℤ) : (start maxUsers).Sound maxUsers where
  recorded := fun _ h => (by cases h)
  fetched := fun _ h => (by cases h)
  full := fun h _ => decide_eq_true h

variable {maxUsers : ℤ} {s s' : ThreadVisits}

/-- Behind a step the maximum is noted. -/
theorem VisitsCurrent.noteMaximum (h : s.VisitsCurrent) (maxUsers : ℤ) : (s.noteMaximum maxUsers).Sound maxUsers where
  recorded := h.recorded
  fetched := by
    intro userId hfetched hmaximum
    exact h.fetched userId hfetched (Bool.or_eq_false_iff.1 hmaximum).1
  full := by
    intro hfull userId
    show (s.maximumSinceFetch userId || decide (maxUsers ≤ s.visitorsSinceLastEdit.length)) = true
    have hfull : maxUsers ≤ s.visitorsSinceLastEdit.length := hfull
    rw [decide_eq_true hfull, Bool.or_true]

/-- A fetch is complete with its user among the visitors. -/
theorem VisitsCurrent.complete {fetch : ThreadFetch}
    (hrecorded : ∀ userId, s.hasVisitedSinceLastEdit userId → s.readSinceChange userId = true)
    (hfetched : ∀ userId, userId ≠ fetch.userId → s.fetchedSinceChange userId = true →
      s.maximumSinceFetch userId = false → s.hasVisitedSinceLastEdit userId)
    (hvisited : s.hasVisitedSinceLastEdit fetch.userId) : (s.complete fetch).VisitsCurrent where
  recorded := hrecorded
  fetched := by
    intro userId hsince hmaximum
    by_cases heq : userId = fetch.userId
    · rw [heq]
      exact hvisited
    · refine hfetched userId heq ?_ ?_
      · unfold ThreadVisits.complete at hsince
        dsimp only at hsince
        split_ifs at hsince
        · rwa [Function.update_of_ne heq] at hsince
        · exact hsince
      · unfold ThreadVisits.complete at hmaximum
        dsimp only at hmaximum
        rwa [Function.update_of_ne heq] at hmaximum

theorem VisitsCurrent.read (h : s.VisitsCurrent) (fetch userId : ℕ) : (s.read fetch userId).VisitsCurrent := by
  have hrecorded : ∀ other, s.hasVisitedSinceLastEdit other → Function.update s.readSinceChange userId true other = true := by
    intro other hother
    by_cases heq : other = userId
    · rw [heq]
      exact Function.update_self _ _ _
    · rw [Function.update_of_ne heq]
      exact h.recorded other hother
  unfold ThreadVisits.read
  dsimp only
  split_ifs with hvisited
  · exact VisitsCurrent.complete hrecorded (fun other _ => h.fetched other) hvisited
  · exact ⟨hrecorded, h.fetched⟩

/-- A user is added who has read the thread. The others stay unless the set is full. -/
theorem Sound.addVisitor (h : s.Sound maxUsers) {pending : ThreadFetch} (fetches : ℕ → Option ThreadFetch)
    (hread : s.readSinceChange pending.userId = true) :
    (({ s with fetches := fetches }.addVisitorSinceLastEdit maxUsers pending.userId).complete pending).VisitsCurrent := by
  refine VisitsCurrent.complete (fun userId hvisited => ?_) (fun userId hne hfetched hmaximum => ?_)
    List.mem_insert_self
  · rcases List.mem_insert_iff.1 hvisited with rfl | hkept
    · exact hread
    · split_ifs at hkept
      · cases hkept
      · exact h.recorded userId hkept
  · refine List.mem_insert_of_mem ?_
    have hroom : ¬ maxUsers ≤ s.visitorsSinceLastEdit.length := by
      intro hfull
      have hmaximum' := h.full hfull userId
      rw [show s.maximumSinceFetch userId = false from hmaximum] at hmaximum'
      cases hmaximum'
    rw [if_neg hroom]
    exact h.fetched userId hfetched hmaximum

/-- A change leaves no visitors, when there were none or it clears them. -/
theorem changeThread_visitsCurrent {change : ThreadChange}
    (hmerge : change = .mergeDiscussionThreads → s.visitorsSinceLastEdit = []) :
    (s.changeThread change).VisitsCurrent := by
  have hnone : (s.changeThread change).visitorsSinceLastEdit = [] := by
    cases change with
    | mergeDiscussionThreads => exact hmerge rfl
    | _ => rfl
  have hfetched : ∀ userId, (s.changeThread change).fetchedSinceChange userId = false := by
    intro userId
    cases change <;> rfl
  constructor
  · intro userId hvisited
    unfold hasVisitedSinceLastEdit at hvisited
    rw [hnone] at hvisited
    cases hvisited
  · intro userId hsince
    rw [hfetched] at hsince
    cases hsince

/-! ### Every interleaving -/

theorem Sound.step {action : ThreadAction} (h : s.Sound maxUsers) (hkeeps : s.KeepsVisits action)
    (hstep : s.step maxUsers action = some s') : s'.Sound maxUsers := by
  cases action with
  | read fetch userId =>
    unfold ThreadVisits.step at hstep
    dsimp only at hstep
    split_ifs at hstep
    cases hstep
    exact (h.toVisitsCurrent.read fetch userId).noteMaximum maxUsers
  | addVisitor fetch =>
    obtain ⟨pending, hpending, rfl⟩ := Option.map_eq_some_iff.1 hstep
    exact (h.addVisitor _ (hkeeps pending hpending)).noteMaximum maxUsers
  | changeThread change =>
    cases hstep
    refine (changeThread_visitsCurrent fun hmerge => ?_).noteMaximum maxUsers
    rw [hmerge] at hkeeps
    exact hkeeps

instance (s : ThreadVisits) (action : ThreadAction) : Decidable (s.KeepsVisits action) :=
  match action with
  | .addVisitor fetch =>
    match h : s.fetches fetch with
    | none => .isTrue fun pending hpending => by
        rw [h] at hpending
        cases hpending
    | some pending => decidable_of_iff (s.readSinceChange pending.userId = true) ⟨fun hread other hother => by
        rw [h] at hother
        cases hother
        exact hread, fun hall => hall pending h⟩
  | .changeThread .mergeDiscussionThreads => inferInstanceAs (Decidable (s.visitorsSinceLastEdit = []))
  | .read _ _ | .changeThread .addNewDiscussionMessageInThread | .changeThread .changeDiscussionThreadMessageContent
  | .changeThread .changeDiscussionThreadMessageApproval | .changeThread .deleteDiscussionThreadMessage
  | .changeThread .moveDiscussionThreadMessage => .isTrue trivial

/-- In every interleaving in which the steps keep the visits, the visitors are right. -/
theorem visitsCurrent_of_admissible {maxUsers : ℤ} {actions : List ThreadAction} {s : ThreadVisits}
    (hrun : runFrom (step maxUsers) (start maxUsers) actions = some s)
    (hkeeps : Admissible (step maxUsers) KeepsVisits (start maxUsers) actions) : s.VisitsCurrent :=
  (runFrom_keeps (fun _ _ _ h hok hstep => h.step hok hstep) (sound_start maxUsers) hkeeps hrun).toVisitsCurrent

/-- Two users fetch a thread, and one of them again behind a new message. -/
theorem visitsCurrent_fetchedAgain :
    ∃ s, runFrom (step 1024) (start 1024) [.read 0 1, .read 1 2, .addVisitor 1, .addVisitor 0,
        .changeThread .addNewDiscussionMessageInThread, .read 0 1, .addVisitor 0] = some s ∧
      s.VisitsCurrent ∧ s.visitorsSinceLastEdit = [1] := by
  have hrun : runFrom (step 1024) (start 1024) [.read 0 1, .read 1 2, .addVisitor 1, .addVisitor 0,
    .changeThread .addNewDiscussionMessageInThread, .read 0 1, .addVisitor 0] = some _ := rfl
  exact ⟨_, hrun, visitsCurrent_of_admissible hrun (by decide), by decide⟩

/-- A message is added between the two sections of a fetch, or a thread is merged into the one that was fetched. -/
theorem not_visitsCurrent_changed :
    (∃ s, runFrom (step 1024) (start 1024) [.read 0 1, .changeThread .addNewDiscussionMessageInThread, .addVisitor 0] =
      some s ∧ ¬ s.VisitsCurrent) ∧
    ∃ s, runFrom (step 1024) (start 1024) [.read 0 1, .addVisitor 0, .changeThread .mergeDiscussionThreads] = some s ∧
      ¬ s.VisitsCurrent := by
  refine ⟨⟨_, rfl, fun hcurrent => ?_⟩, ⟨_, rfl, fun hcurrent => ?_⟩⟩
  · have hread := hcurrent.recorded 1 (by decide)
    revert hread
    decide
  · have hread := hcurrent.recorded 1 (by decide)
    revert hread
    decide

end ThreadVisits

end Forum.Repository
