import Mathlib.Data.Int.Notation
import Mathlib.Logic.Function.Basic
import Mathlib.Tactic.SplitIfs
import Forum.Library.Runs

/-!
# When users were last seen

`PerformedByWithLastSeenUpdateGuard`: a request notes that its user was seen when it started, if that is more than
`lastSeenUpdatePrecision` after the user was last seen. A request that holds the write lock does so on the spot. One that
holds the read lock decides it there, and updates the user under a write lock that it takes later, by a reference to the
user's id; in between others have their turn.

Each start of a request, locked section and deferred update is a step. When each deferred update finds its user in the
store, last seen no later than the time it notes, what the users show is right (`lastSeen_of_admissible`).
-/

namespace Forum.Repository

open Library

/-! ### The steps -/

/-- A user, also one that is not in the store any more. -/
structure SeenUser where
  lastSeen : ℤ
  inStore : Bool
  deriving DecidableEq

/-- What a request has to do: its locked section, the update that the section has left to do, or nothing. -/
inductive RequestStage
  | started
  | lastSeenUpdate (now : ℤ)
  | completed
  deriving DecidableEq

/-- A request of a user, and how far it has got. -/
structure SeenRequest where
  userId : ℕ
  startedAt : ℤ
  stage : RequestStage
  deriving DecidableEq

/-- The users there were, the requests that they made, and which of these have used the id of a user that was not in the
store any more. -/
structure LastSeenSystem where
  clock : ℤ
  users : ℕ → Option SeenUser
  requests : ℕ → Option SeenRequest
  staleUses : List ℕ

/-- What a section under the write lock does to the users. -/
inductive UsersChange
  | nothing
  | addUser (id : ℕ)
  | deleteUser (id : ℕ)

/-- A request is made by a user that was in the store when its token was resolved; those of anybody else only count for
what they do to the users. -/
inductive LastSeenAction
  | tick (now : ℤ)
  | startRequest (request userId : ℕ)
  | read (request : ℕ)
  | write (request : ℕ) (change : UsersChange)
  | deferredUpdate (request : ℕ)
  | writeAnonymous (change : UsersChange)

namespace LastSeenSystem

/-- Before any user. -/
def start (now : ℤ) : LastSeenSystem := ⟨now, fun _ => none, fun _ => none, []⟩

/-- Overwrites the state of a user. -/
def setUser (id : ℕ) (user : SeenUser) (s : LastSeenSystem) : LastSeenSystem :=
  { s with users := Function.update s.users id (some user) }

/-- Overwrites the state of a request. -/
def setRequest (id : ℕ) (request : SeenRequest) (s : LastSeenSystem) : LastSeenSystem :=
  { s with requests := Function.update s.requests id (some request) }

/-- The user with an id in the index of the store. -/
def find (s : LastSeenSystem) (userId : ℕ) : Option SeenUser := (s.users userId).filter (·.inStore)

/-- What `get` leaves to do. -/
def get (precision : ℤ) (request : SeenRequest) (s : LastSeenSystem) : RequestStage :=
  match s.find request.userId with
  | none => .completed
  | some user =>
    if user.lastSeen + precision < request.startedAt then .lastSeenUpdate request.startedAt else .completed

/-- The update that a request asks for, when it is made. -/
def getAndUpdate (precision : ℤ) (request : SeenRequest) (s : LastSeenSystem) : LastSeenSystem :=
  match s.find request.userId with
  | none => s
  | some user =>
    if user.lastSeen + precision < request.startedAt then
      s.setUser request.userId { user with lastSeen := request.startedAt }
    else s

/-- What the destructor runs. The id that it looks for is read from the user that was found before. -/
def runLastSeenUpdate (id : ℕ) (request : SeenRequest) (now : ℤ) (s : LastSeenSystem) : LastSeenSystem :=
  match s.find request.userId with
  | none => { s with staleUses := s.staleUses ++ [id] }
  | some user => s.setUser request.userId { user with lastSeen := now }

/-- New users get an id that none has had. -/
def change (s : LastSeenSystem) : UsersChange → Option LastSeenSystem
  | .nothing => some s
  | .addUser id =>
    match s.users id with
    | none => some (s.setUser id ⟨0, true⟩)
    | some _ => none
  | .deleteUser id =>
    match s.find id with
    | none => none
    | some user => some (s.setUser id { user with inStore := false })

/-- A step, for a `lastSeenUpdatePrecision`. -/
def step (precision : ℤ) (s : LastSeenSystem) : LastSeenAction → Option LastSeenSystem
  | .tick now => if s.clock ≤ now then some { s with clock := now } else none
  | .startRequest id userId =>
    if s.requests id = none ∧ (s.users userId).isSome then some (s.setRequest id ⟨userId, s.clock, .started⟩) else none
  | .read id =>
    (s.requests id).bind fun request =>
      if request.stage = .started then some (s.setRequest id { request with stage := s.get precision request }) else none
  | .write id change =>
    (s.requests id).bind fun request =>
      if request.stage = .started then
        ((s.getAndUpdate precision request).setRequest id { request with stage := .completed }).change change
      else none
  | .deferredUpdate id =>
    (s.requests id).bind fun request =>
      match request.stage with
      | .lastSeenUpdate now =>
        some ((s.runLastSeenUpdate id request now).setRequest id { request with stage := .completed })
      | .started | .completed => none
  | .writeAnonymous change => s.change change

/-- A user was last seen at the start of one of their requests, if at all. When the requests of a user in the store have
completed, the user was seen no longer than the precision before the start of the latest of them. No update used a user
that was not in the store. -/
structure SeenInTime (precision : ℤ) (s : LastSeenSystem) : Prop where
  seenAt : ∀ id user, s.users id = some user → user.lastSeen = 0 ∨
    ∃ r request, s.requests r = some request ∧ request.userId = id ∧ request.startedAt = user.lastSeen
  recent : ∀ id user, s.users id = some user → user.inStore →
    (∀ r request, s.requests r = some request → request.userId = id → request.stage = .completed) →
    ∀ r request, s.requests r = some request → request.userId = id → request.startedAt - precision ≤ user.lastSeen
  usesStored : s.staleUses = []

/-- No user was seen later before than now. -/
def SeenBefore (s s' : LastSeenSystem) : Prop :=
  ∀ id user, s.users id = some user → ∃ user', s'.users id = some user' ∧ user.lastSeen ≤ user'.lastSeen

/-- A deferred update finds its user in the store, not seen later than the time that it notes. -/
def UpdatesInOrder (s : LastSeenSystem) : LastSeenAction → Prop
  | .deferredUpdate id => ∀ request, s.requests id = some request → ∀ now, request.stage = .lastSeenUpdate now →
      ∃ user, s.find request.userId = some user ∧ user.lastSeen ≤ now
  | _ => True

/-! ### What the steps keep -/

/-- The users with a request have been registered, a request that has completed was late enough for its user, and a
deferred update notes the start of its request. -/
structure Sound (precision : ℤ) (s : LastSeenSystem) : Prop where
  seenAt : ∀ id user, s.users id = some user → user.lastSeen = 0 ∨
    ∃ r request, s.requests r = some request ∧ request.userId = id ∧ request.startedAt = user.lastSeen
  known : ∀ r request, s.requests r = some request → (s.users request.userId).isSome
  recent : ∀ r request, s.requests r = some request → request.stage = .completed →
    ∀ user, s.find request.userId = some user → request.startedAt - precision ≤ user.lastSeen
  noted : ∀ r request, s.requests r = some request → ∀ now, request.stage = .lastSeenUpdate now →
    now = request.startedAt
  usesStored : s.staleUses = []

theorem find_eq_some {s : LastSeenSystem} {id : ℕ} {user : SeenUser} :
    s.find id = some user ↔ s.users id = some user ∧ user.inStore = true := by
  unfold find
  rw [Option.filter_eq_some_iff]

theorem Sound.seenInTime {precision : ℤ} {s : LastSeenSystem} (h : s.Sound precision) : s.SeenInTime precision where
  seenAt := h.seenAt
  recent := by
    intro id user hid hstored hcompleted r request hr huser
    refine h.recent r request hr (hcompleted r request hr huser) user ?_
    rw [huser]
    exact find_eq_some.2 ⟨hid, hstored⟩
  usesStored := h.usesStored

theorem sound_start (precision now : ℤ) : (start now).Sound precision where
  seenAt := fun _ _ h => (by cases h)
  known := fun _ _ h => (by cases h)
  recent := fun _ _ h => (by cases h)
  noted := fun _ _ h => (by cases h)
  usesStored := rfl

theorem seenBefore_refl (s : LastSeenSystem) : s.SeenBefore s := fun _ user hid => ⟨user, hid, Int.le_refl _⟩

theorem SeenBefore.trans {s t u : LastSeenSystem} (h : s.SeenBefore t) (h' : t.SeenBefore u) : s.SeenBefore u := by
  intro id user hid
  obtain ⟨middle, hmiddle, hle⟩ := h id user hid
  obtain ⟨last, hlast, hle'⟩ := h' id middle hmiddle
  exact ⟨last, hlast, Int.le_trans hle hle'⟩

variable {precision : ℤ} {s s' : LastSeenSystem} {id : ℕ}

theorem users_setUser (user : SeenUser) (other : ℕ) :
    (s.setUser id user).users other = if other = id then some user else s.users other := by
  unfold setUser
  split_ifs with heq
  · rw [heq]
    exact Function.update_self _ _ _
  · exact Function.update_of_ne heq _ _

theorem requests_setRequest (request : SeenRequest) (other : ℕ) :
    (s.setRequest id request).requests other = if other = id then some request else s.requests other := by
  unfold setRequest
  split_ifs with heq
  · rw [heq]
    exact Function.update_self _ _ _
  · exact Function.update_of_ne heq _ _

/-- A request goes on: what it notes is its start, and it completes when that is not too late for its user. -/
theorem Sound.setStage (h : s.Sound precision) {request : SeenRequest} (hid : s.requests id = some request)
    (stage : RequestStage)
    (hrecent : stage = .completed → ∀ user, s.find request.userId = some user →
      request.startedAt - precision ≤ user.lastSeen)
    (hnoted : ∀ now, stage = .lastSeenUpdate now → now = request.startedAt) :
    (s.setRequest id { request with stage := stage }).Sound precision := by
  refine ⟨fun userId user huser => ?_, fun r other hr => ?_, fun r other hr => ?_, fun r other hr => ?_, h.usesStored⟩
  · rcases h.seenAt userId user huser with hzero | ⟨r, other, hr, hsame, hseen⟩
    · exact Or.inl hzero
    · right
      by_cases heq : r = id
      · rw [heq, hid] at hr
        cases hr
        exact ⟨id, { request with stage := stage }, by rw [requests_setRequest, if_pos rfl], hsame, hseen⟩
      · exact ⟨r, other, by rw [requests_setRequest, if_neg heq]; exact hr, hsame, hseen⟩
  all_goals
    rw [requests_setRequest] at hr
    split_ifs at hr
  · cases hr
    exact h.known id request hid
  · exact h.known r other hr
  · cases hr
    exact hrecent
  · exact h.recent r other hr
  · cases hr
    exact hnoted
  · exact h.noted r other hr

/-- A user is seen later, at the start of one of their requests, or leaves the store. -/
theorem Sound.setUser (h : s.Sound precision) {old : SeenUser} (user : SeenUser) (hold : s.find id = some old)
    (hle : old.lastSeen ≤ user.lastSeen)
    (hseen : user.lastSeen = old.lastSeen ∨
      ∃ r request, s.requests r = some request ∧ request.userId = id ∧ request.startedAt = user.lastSeen) :
    (s.setUser id user).Sound precision ∧ s.SeenBefore (s.setUser id user) := by
  have hid := (find_eq_some.1 hold).1
  refine ⟨⟨fun other found hfound => ?_, fun r request hr => ?_, fun r request hr hstage found hfound => ?_, h.noted,
    h.usesStored⟩, fun other found hfound => ?_⟩
  · rw [users_setUser] at hfound
    split_ifs at hfound with heq
    · cases hfound
      rw [heq]
      rcases hseen with hsame | hstart
      · rw [hsame]
        exact h.seenAt id old hid
      · exact Or.inr hstart
    · exact h.seenAt other found hfound
  · rw [users_setUser]
    split_ifs
    · rfl
    · exact h.known r request hr
  · obtain ⟨hfound, hstored⟩ := find_eq_some.1 hfound
    rw [users_setUser] at hfound
    split_ifs at hfound with heq
    · cases hfound
      have hbefore := h.recent r request hr hstage old (by rw [heq]; exact hold)
      omega
    · exact h.recent r request hr hstage found (find_eq_some.2 ⟨hfound, hstored⟩)
  · by_cases heq : other = id
    · rw [heq, hid] at hfound
      cases hfound
      exact ⟨user, by rw [heq, users_setUser, if_pos rfl], hle⟩
    · exact ⟨found, by rw [users_setUser, if_neg heq]; exact hfound, Int.le_refl _⟩

/-- What a change of the users keeps. -/
theorem Sound.change {change : UsersChange} (h : s.Sound precision) (hchange : s.change change = some s') :
    s'.Sound precision ∧ s.SeenBefore s' := by
  cases change with
  | nothing =>
    cases hchange
    exact ⟨h, seenBefore_refl s⟩
  | addUser id =>
    unfold LastSeenSystem.change at hchange
    cases hid : s.users id with
    | some user =>
      simp only [hid] at hchange
      cases hchange
    | none =>
      simp only [hid] at hchange
      cases hchange
      have hother : ∀ other user, s.users other = some user → (s.setUser id ⟨0, true⟩).users other = some user := by
        intro other user huser
        rw [users_setUser, if_neg]
        · exact huser
        · rintro rfl
          rw [hid] at huser
          cases huser
      refine ⟨⟨fun other user huser => ?_, fun r request hr => ?_, fun r request hr hstage user huser => ?_, h.noted,
        h.usesStored⟩, fun other user huser => ⟨user, hother other user huser, Int.le_refl _⟩⟩
      · rw [users_setUser] at huser
        split_ifs at huser
        · cases huser
          exact Or.inl rfl
        · exact h.seenAt other user huser
      · obtain ⟨user, huser⟩ := Option.isSome_iff_exists.1 (h.known r request hr)
        rw [hother _ user huser]
        rfl
      · obtain ⟨known, hknown⟩ := Option.isSome_iff_exists.1 (h.known r request hr)
        obtain ⟨hfound, hstored⟩ := find_eq_some.1 huser
        rw [hother _ known hknown] at hfound
        cases hfound
        exact h.recent r request hr hstage _ (find_eq_some.2 ⟨hknown, hstored⟩)
  | deleteUser id =>
    unfold LastSeenSystem.change at hchange
    cases hid : s.find id with
    | none =>
      simp only [hid] at hchange
      cases hchange
    | some user =>
      simp only [hid] at hchange
      cases hchange
      exact h.setUser _ hid (Int.le_refl _) (Or.inl rfl)

/-- Behind `getAndUpdate`, a user was seen no longer than the precision before the start of the request. -/
theorem Sound.getAndUpdate (h : s.Sound precision) (hprecision : 0 ≤ precision) {request : SeenRequest}
    (hid : s.requests id = some request) :
    (s.getAndUpdate precision request).Sound precision ∧ s.SeenBefore (s.getAndUpdate precision request) ∧
      (s.getAndUpdate precision request).requests = s.requests ∧
      ∀ user, (s.getAndUpdate precision request).find request.userId = some user →
        request.startedAt - precision ≤ user.lastSeen := by
  unfold LastSeenSystem.getAndUpdate
  cases hfind : s.find request.userId with
  | none =>
    refine ⟨h, seenBefore_refl s, rfl, fun user huser => ?_⟩
    rw [hfind] at huser
    cases huser
  | some user =>
    dsimp only
    split_ifs with hlate
    · have hle : user.lastSeen ≤ request.startedAt := by omega
      obtain ⟨hsound, hbefore⟩ :=
        h.setUser { user with lastSeen := request.startedAt } hfind hle (Or.inr ⟨id, request, hid, rfl, rfl⟩)
      refine ⟨hsound, hbefore, rfl, fun found hfound => ?_⟩
      obtain ⟨hfound, -⟩ := find_eq_some.1 hfound
      rw [users_setUser, if_pos rfl] at hfound
      cases hfound
      show request.startedAt - precision ≤ request.startedAt
      omega
    · refine ⟨h, seenBefore_refl s, rfl, fun found hfound => ?_⟩
      rw [hfind] at hfound
      cases hfound
      omega

theorem Sound.read (h : s.Sound precision) {request : SeenRequest} (hid : s.requests id = some request) :
    (s.setRequest id { request with stage := s.get precision request }).Sound precision := by
  refine h.setStage hid _ (fun hstage user huser => ?_) fun now hstage => ?_
  · unfold get at hstage
    rw [huser] at hstage
    dsimp only at hstage
    split_ifs at hstage
    omega
  · unfold get at hstage
    cases hfind : s.find request.userId with
    | none =>
      rw [hfind] at hstage
      cases hstage
    | some user =>
      rw [hfind] at hstage
      dsimp only at hstage
      split_ifs at hstage
      cases hstage
      rfl

theorem Sound.write (h : s.Sound precision) (hprecision : 0 ≤ precision) {request : SeenRequest}
    (hid : s.requests id = some request) {change : UsersChange}
    (hchange : ((s.getAndUpdate precision request).setRequest id { request with stage := .completed }).change change =
      some s') : s'.Sound precision ∧ s.SeenBefore s' := by
  obtain ⟨hsound, hbefore, hrequests, hrecent⟩ := h.getAndUpdate hprecision hid
  have hset := hsound.setStage (by rw [hrequests]; exact hid) .completed (fun _ => hrecent)
    fun _ hstage => by cases hstage
  obtain ⟨hsound', hbefore'⟩ := hset.change hchange
  exact ⟨hsound', hbefore.trans hbefore'⟩

theorem Sound.deferredUpdate (h : s.Sound precision) (hprecision : 0 ≤ precision) {request : SeenRequest}
    (hid : s.requests id = some request) {now : ℤ} (hstage : request.stage = .lastSeenUpdate now)
    {user : SeenUser} (hfind : s.find request.userId = some user) (hle : user.lastSeen ≤ now) :
    ((s.runLastSeenUpdate id request now).setRequest id { request with stage := .completed }).Sound precision ∧
      s.SeenBefore ((s.runLastSeenUpdate id request now).setRequest id { request with stage := .completed }) := by
  obtain rfl := h.noted id request hid now hstage
  unfold runLastSeenUpdate
  rw [hfind]
  dsimp only
  obtain ⟨hsound, hbefore⟩ :=
    h.setUser { user with lastSeen := request.startedAt } hfind hle (Or.inr ⟨id, request, hid, rfl, rfl⟩)
  refine ⟨hsound.setStage hid .completed (fun _ found hfound => ?_) (fun _ hnone => by cases hnone), hbefore⟩
  obtain ⟨hfound, -⟩ := find_eq_some.1 hfound
  rw [users_setUser, if_pos rfl] at hfound
  cases hfound
  show request.startedAt - precision ≤ request.startedAt
  omega

theorem Sound.startRequest (h : s.Sound precision) {userId : ℕ} (hid : s.requests id = none)
    (huser : (s.users userId).isSome) : (s.setRequest id ⟨userId, s.clock, .started⟩).Sound precision := by
  refine ⟨fun other user hother => ?_, fun r request hr => ?_, fun r request hr => ?_, fun r request hr => ?_, h.usesStored⟩
  · rcases h.seenAt other user hother with hzero | ⟨r, request, hr, hsame⟩
    · exact Or.inl hzero
    · refine Or.inr ⟨r, request, ?_, hsame⟩
      rw [requests_setRequest, if_neg]
      · exact hr
      · rintro rfl
        rw [hid] at hr
        cases hr
  all_goals
    rw [requests_setRequest] at hr
    split_ifs at hr
  · cases hr
    exact huser
  · exact h.known r request hr
  · cases hr
    exact fun hstage => by cases hstage
  · exact h.recent r request hr
  · cases hr
    exact fun _ hstage => by cases hstage
  · exact h.noted r request hr

/-! ### Every interleaving -/

theorem Sound.step {action : LastSeenAction} (h : s.Sound precision) (hprecision : 0 ≤ precision)
    (horder : s.UpdatesInOrder action) (hstep : s.step precision action = some s') :
    s'.Sound precision ∧ s.SeenBefore s' := by
  cases action with
  | tick now =>
    unfold LastSeenSystem.step at hstep
    dsimp only at hstep
    split_ifs at hstep
    cases hstep
    exact ⟨⟨h.seenAt, h.known, h.recent, h.noted, h.usesStored⟩, seenBefore_refl s⟩
  | startRequest id userId =>
    unfold LastSeenSystem.step at hstep
    dsimp only at hstep
    split_ifs at hstep with hnew
    cases hstep
    exact ⟨h.startRequest hnew.1 hnew.2, seenBefore_refl s⟩
  | read id =>
    obtain ⟨request, hid, hstep⟩ := Option.bind_eq_some_iff.1 hstep
    split_ifs at hstep
    cases hstep
    exact ⟨h.read hid, seenBefore_refl s⟩
  | write id change =>
    obtain ⟨request, hid, hstep⟩ := Option.bind_eq_some_iff.1 hstep
    split_ifs at hstep
    exact h.write hprecision hid hstep
  | deferredUpdate id =>
    obtain ⟨request, hid, hstep⟩ := Option.bind_eq_some_iff.1 hstep
    cases hstage : request.stage with
    | started =>
      simp only [hstage] at hstep
      cases hstep
    | completed =>
      simp only [hstage] at hstep
      cases hstep
    | lastSeenUpdate now =>
      simp only [hstage] at hstep
      cases hstep
      obtain ⟨user, hfind, hle⟩ := horder request hid now hstage
      exact h.deferredUpdate hprecision hid hstage hfind hle
  | writeAnonymous change => exact h.change hstep

instance (s : LastSeenSystem) (action : LastSeenAction) : Decidable (s.UpdatesInOrder action) :=
  match action with
  | .deferredUpdate id =>
    match h : s.requests id with
    | none => .isTrue fun request hid => by
        rw [h] at hid
        cases hid
    | some request =>
      match hstage : request.stage with
      | .started | .completed => .isTrue fun other hid now hother => by
          rw [h] at hid
          cases hid
          rw [hstage] at hother
          cases hother
      | .lastSeenUpdate now =>
        decidable_of_iff (∃ user, s.find request.userId = some user ∧ user.lastSeen ≤ now)
          ⟨fun hfound other hid time hother => by
            rw [h] at hid
            cases hid
            rw [hstage] at hother
            cases hother
            exact hfound, fun hall => hall request h now hstage⟩
  | .tick _ | .startRequest _ _ | .read _ | .write _ _ | .writeAnonymous _ => .isTrue trivial

/-- In every interleaving whose deferred updates are made in order, the users show when they were last seen, and that
never goes back. -/
theorem lastSeen_of_admissible {precision now : ℤ} {actions later : List LastSeenAction} {s s' : LastSeenSystem}
    (hprecision : 0 ≤ precision) (hrun : runFrom (step precision) (start now) actions = some s)
    (hlater : runFrom (step precision) s later = some s')
    (horder : Admissible (step precision) UpdatesInOrder (start now) (actions ++ later)) :
    s'.SeenInTime precision ∧ s.SeenBefore s' := by
  obtain ⟨hfirst, hsecond⟩ := horder.of_append hrun
  have hsound := runFrom_keeps (P := Sound precision)
    (fun _ _ _ h hok hstep => (h.step hprecision hok hstep).1) (sound_start precision now) hfirst hrun
  obtain ⟨hsound', hbefore⟩ := runFrom_keeps (P := fun u => u.Sound precision ∧ s.SeenBefore u)
    (fun _ _ _ h hok hstep => by
      obtain ⟨hnext, hbefore⟩ := h.1.step hprecision hok hstep
      exact ⟨hnext, h.2.trans hbefore⟩) ⟨hsound, seenBefore_refl s⟩ hsecond hlater
  exact ⟨hsound'.seenInTime, hbefore⟩

/-- Two reads of a user whose updates run in the order of their starts, the second after a write. -/
theorem lastSeen_inOrder :
    ∃ s s', runFrom (step 300) (start 0) [.writeAnonymous (.addUser 1), .tick 1000, .startRequest 0 1, .read 0,
        .deferredUpdate 0] = some s ∧
      runFrom (step 300) s [.tick 2000, .startRequest 1 1, .read 1, .tick 2100, .deferredUpdate 1, .startRequest 2 1,
        .write 2 .nothing] = some s' ∧
      s'.SeenInTime 300 ∧ s.SeenBefore s' ∧ s'.users 1 = some ⟨2000, true⟩ := by
  have hrun : runFrom (step 300) (start 0) [.writeAnonymous (.addUser 1), .tick 1000, .startRequest 0 1, .read 0,
    .deferredUpdate 0] = some _ := rfl
  obtain ⟨hseen, hbefore⟩ := @lastSeen_of_admissible 300 0 _ [.tick 2000, .startRequest 1 1, .read 1, .tick 2100,
    .deferredUpdate 1, .startRequest 2 1, .write 2 .nothing] _ _ (by decide) hrun rfl (by decide)
  exact ⟨_, _, hrun, rfl, hseen, hbefore, by decide⟩

/-- Two reads of a user whose updates run in the other order: the user was seen later before. And a read of a user that is
deleted before the update. -/
theorem not_lastSeen_reversed :
    (∃ s s', runFrom (step 300) (start 0) [.writeAnonymous (.addUser 1), .tick 1000, .startRequest 0 1, .read 0,
        .tick 2000, .startRequest 1 1, .read 1, .deferredUpdate 1] = some s ∧
      runFrom (step 300) s [.deferredUpdate 0] = some s' ∧ ¬ s.SeenBefore s') ∧
    ∃ s, runFrom (step 300) (start 0) [.writeAnonymous (.addUser 1), .tick 1000, .startRequest 0 1, .read 0,
        .writeAnonymous (.deleteUser 1), .deferredUpdate 0] = some s ∧ ¬ s.SeenInTime 300 := by
  have hrun : runFrom (step 300) (start 0) [.writeAnonymous (.addUser 1), .tick 1000, .startRequest 0 1, .read 0,
    .tick 2000, .startRequest 1 1, .read 1, .deferredUpdate 1] = some _ := rfl
  refine ⟨⟨_, _, hrun, rfl, fun hbefore => ?_⟩, ⟨_, rfl, fun hseen => ?_⟩⟩
  · obtain ⟨user, huser, hle⟩ := hbefore 1 _ rfl
    cases huser
    revert hle
    decide
  · have hnil := hseen.usesStored
    revert hnil
    decide

end LastSeenSystem

end Forum.Repository
