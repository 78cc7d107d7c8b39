import Forum.Repository.PrivilegeRange

/-!
# No privilege escalation

Whoever adjusts privileges on an entity is allowed to do so with a certain level, and stays within it:
neither the new value nor the one it replaces may be beyond that level, and what is assigned to another
user, or replaced there, must be below it. So no user hands out more than it has.

The default levels are the exception. Whoever may adjust privileges forum wide may configure any value
there, which every user then is granted for its next thread or message. Runs in which default levels are
configured within the level of those who do so have no escalation at all; `noEscalation_iff` says that
this is what it takes.
-/

namespace Forum.Repository

open Forum.Library Forum.Entities Forum.Authorization

/-! ### What authorization lets through -/

@[simp]
theorem RequestStatus.ofAuthorization_eq_ok (status : AuthorizationStatus) :
    RequestStatus.ofAuthorization status = .ok ↔ status = .ok := by
  cases status <;> simp [RequestStatus.ofAuthorization, RequestStatus.ok]

@[simp]
theorem AuthorizationStatus.ofBool_eq_ok (allowed : Bool) : AuthorizationStatus.ofBool allowed = .ok ↔ allowed := by
  cases allowed <;> simp [AuthorizationStatus.ofBool]

section

variable {a : DefaultAuthorization} {s : PrivilegedCollection} {ctx : Context} {user : IdType}

theorem eq_ok_of_unlessThrottled {action : UserActionThrottling} {answer : AuthorizationStatus}
    (h : (a.unlessThrottled s ctx user action answer).1 = .ok) : answer = .ok := by
  unfold DefaultAuthorization.unlessThrottled at h
  dsimp only at h
  split_ifs at h
  exact h

/-- A required value is changed within the level of who changes it. -/
theorem allowPrivilegeUpdate_of_authorize {query : PrivilegeQuery} {oldValue : PrivilegeValueType}
    {newValue : PrivilegeValueIntType}
    (h : (a.authorize s ctx user (.updatePrivilege query oldValue newValue)).1 = .ok) :
    ∃ L, s.isAllowed user query.adjustPrivilege ctx.currentTime = some L ∧
      |newValue.toInt| ≤ L.toInt ∧ ∀ old, oldValue = some old → |old.toInt| ≤ L.toInt := by
  have hanswer := eq_ok_of_unlessThrottled h
  simp only [AuthorizationStatus.ofBool_eq_ok, Bool.and_eq_true, Option.isSome_iff_exists] at hanswer
  obtain ⟨⟨L, hL⟩, hallow⟩ := hanswer
  rw [hL] at hallow
  simp only [allowPrivilegeUpdate, optionalOrZero, Option.getD_some, decide_eq_true_eq, Option.all_eq_true] at hallow
  exact ⟨L, hL, hallow.2, fun old heq => of_decide_eq_true (hallow.1 old heq)⟩

/-- In range, no negative value is lost to its missing positive counterpart. -/
theorem toInt_absValue {value : PrivilegeValueIntType} (hvalid : isValidPrivilegeValue value) (hneg : value < 0) :
    (absValue value).toInt = -value.toInt := by
  have hrange : MinPrivilegeValue ≤ value := (of_decide_eq_true hvalid).1
  rw [Int16.le_iff_toInt_le] at hrange
  have hmin : MinPrivilegeValue.toInt = -32000 := by decide
  have hlt : value.toInt < 0 := Int16.lt_iff_toInt_lt.1 hneg
  rw [absValue, if_pos hneg, Int16.toInt_neg]
  exact Int.bmod_eq_of_le (by omega) (by omega)

/-- What an assignment replaces is as far from zero as anything found at the level. -/
theorem abs_le_computeOldValue {old : PrivilegeValues} {positives negatives : Set PrivilegeValueIntType}
    (h : Found old positives negatives) (hnegatives : ∀ value ∈ negatives, isValidPrivilegeValue value ∧ value < 0)
    {value : PrivilegeValueIntType} (hvalue : value ∈ positives ∧ 0 < value ∨ value ∈ negatives) :
    ∃ o, computeOldValueForAssigningPrivileges old = some o ∧ |value.toInt| ≤ |o.toInt| := by
  have hmax (a b : PrivilegeValueIntType) : (max a b).toInt = max a.toInt b.toInt :=
    Monotone.map_max fun _ _ => Int16.toInt_le_toInt_of_le
  obtain ⟨positiveValue, negativeValue⟩ := old
  obtain ⟨hpositive, hnegative⟩ := h
  rcases hvalue with ⟨hmem, hlt⟩ | hmem
  · obtain ⟨p, rfl, hle⟩ : ∃ p, positiveValue = some p ∧ value ≤ p := by
      cases hpositive with
      | missing => exact absurd hmem (Set.notMem_empty _)
      | found hgreatest => exact ⟨_, rfl, hgreatest.2 hmem⟩
    rw [Int16.le_iff_toInt_le] at hle
    have hpos : 0 < value.toInt := Int16.lt_iff_toInt_lt.1 hlt
    cases negativeValue with
    | none => exact ⟨p, rfl, abs_le_abs_of_nonneg hpos.le hle⟩
    | some n =>
      refine ⟨_, rfl, abs_le_abs_of_nonneg hpos.le ?_⟩
      rw [hmax]
      exact hle.trans (le_max_left _ _)
  · obtain ⟨n, rfl, hle, hn⟩ : ∃ n, negativeValue = some n ∧ n ≤ value ∧ n ∈ negatives := by
      cases hnegative with
      | missing => exact absurd hmem (Set.notMem_empty _)
      | found hleast => exact ⟨_, rfl, hleast.2 hmem, hleast.1⟩
    rw [Int16.le_iff_toInt_le] at hle
    have hneg : value.toInt < 0 := Int16.lt_iff_toInt_lt.1 (hnegatives value hmem).2
    refine ⟨_, rfl, ?_⟩
    rw [abs_of_neg hneg, hmax, toInt_absValue (hnegatives n hn).1 (hnegatives n hn).2]
    exact (Int.neg_le_neg hle).trans ((le_max_right _ _).trans (le_abs_self _))

/-- Every grant an assignment replaces is below the level of who assigns, and so is the new value. -/
theorem grants_lt_of_allowAssignment (hgrants : GrantsInRange s.granted) {adjust : PrivilegeQuery} {target : IdType}
    {level : PrivilegeLevel} {newValue : PrivilegeValueIntType} {now : Timestamp}
    (h : DefaultAuthorization.allowAssignment s now user adjust
      (s.granted.calculateLevel s.toStore target now {} level) newValue) :
    ∃ L, s.isAllowed user adjust now = some L ∧ |newValue.toInt| < L.toInt ∧
      ∀ old ∈ grantsAt s.granted target now level, |old.toInt| < L.toInt := by
  simp only [DefaultAuthorization.allowAssignment, Bool.and_eq_true, Option.isSome_iff_exists] at h
  obtain ⟨⟨L, hL⟩, hallow⟩ := h
  rw [hL] at hallow
  simp only [allowPrivilegeAssignment, optionalOrZero, Option.getD_some, decide_eq_true_eq, Option.all_eq_true] at hallow
  refine ⟨L, hL, hallow.2, fun old hold => ?_⟩
  have hfound := Found.nothing.calculateLevel s.granted s.toStore target now level
  have hnegatives : ∀ value ∈ ∅ ∪ grantsAt s.granted target now level ∩ Set.Iio 0,
      isValidPrivilegeValue value ∧ value < 0 := by
    rintro value (hvalue | ⟨⟨-, entry, hentry, -, -, -, rfl⟩, hneg⟩)
    · exact absurd hvalue (Set.notMem_empty _)
    · exact ⟨hgrants _ _ hentry, hneg⟩
  obtain ⟨o, ho, hle⟩ := abs_le_computeOldValue hfound hnegatives <| by
    rcases lt_trichotomy old 0 with hneg | rfl | hpos
    · exact .inr (.inr ⟨hold, hneg⟩)
    · obtain ⟨-, entry, -, -, -, -, hzero⟩ := hold
      exact absurd hzero entry.privilegeValue_ne
    · exact .inl ⟨.inr ⟨hold, hpos⟩, hpos⟩
  exact hle.trans_lt (of_decide_eq_true (hallow.1 o ho))

theorem allowed_of_assign {target : IdType} {allowed : Bool}
    (h : (if user = target then (.notAllowed, a)
      else a.unlessThrottled s ctx user .editPrivileges (.ofBool allowed)).1 = .ok) : allowed := by
  split_ifs at h
  exact (AuthorizationStatus.ofBool_eq_ok allowed).1 (eq_ok_of_unlessThrottled h)

/-- An accepted assignment at a level was allowed by the grants of that level. -/
theorem allowAssignment_of_authorize {level : PrivilegeLevel} (hlevel : level.collection = .forumWide → level.entityId = 0)
    {target : IdType} {value : PrivilegeValueIntType} {duration : PrivilegeDurationIntType}
    (h : (a.authorize s ctx user ((AuthorizationOperation.assignPrivilege level target value duration).question s)).1 =
      .ok) :
    DefaultAuthorization.allowAssignment s ctx.currentTime user (adjustPrivilegeAt level)
      (s.granted.calculateLevel s.toStore target ctx.currentTime {} level) value := by
  obtain ⟨collection, id⟩ := level
  cases collection with
  | forumWide =>
    obtain rfl : id = 0 := hlevel rfl
    exact allowed_of_assign h
  | discussionThreadMessage => exact allowed_of_assign h
  | discussionThread => exact allowed_of_assign h
  | discussionTag => exact allowed_of_assign h
  | discussionCategory => exact allowed_of_assign h

end

/-! ### Escalation -/

section

variable (env : ContentEnvironment) (ctx : Context) (state : ForumState)

/-- A request stores no value beyond the level of who makes it, replaces none, and grants nobody more than the user
had who configured the default level. -/
structure NoEscalation (configuredWith : ConfiguredWith) (request : ForumRequest) : Prop where
  /-- A required value, and the one it replaces, are within the level of who changes it. -/
  update : ∀ r query value, request = .authorization r → r.operation = .changeRequiredPrivilege query value →
    r.operation.Accepted env ctx state →
      ∃ L, adjustLevel env ctx state query.adjustPrivilege = some L ∧ |value.toInt| ≤ L.toInt ∧
        ∀ old, ownValue state.collection.required query = some old → |old.toInt| ≤ L.toInt
  /-- What is assigned to a user, and the grants it is added to, are below the level of who assigns it. -/
  assignment : ∀ r level target value duration, request = .authorization r →
    r.operation = .assignPrivilege level target value duration → r.operation.Accepted env ctx state →
      ∃ L, adjustLevel env ctx state (adjustPrivilegeAt level) = some L ∧ |value.toInt| < L.toInt ∧
        ∀ old ∈ grantsAt state.collection.granted target ctx.currentTime level, |old.toInt| < L.toInt
  /-- A default level, and the one it replaces, are within the level of who configures it. -/
  default : ∀ r privilege value duration, request = .authorization r →
    r.operation = .changeForumWideDefaultPrivilegeLevel privilege value duration → r.operation.Accepted env ctx state →
      ∃ L, adjustLevel env ctx state (.forumWide .adjustForumWidePrivilege) = some L ∧ |value.toInt| ≤ L.toInt ∧
        ∀ old, state.collection.required.forumWide.forumWideDefaultPrivilegeDuration privilege = some old →
          |old.value.toInt| ≤ L.toInt
  /-- What is granted for something new is within the level of who configured it. -/
  granted : ∀ privilege L, request.defaultPrivilege = some privilege → configuredWith privilege = some L →
    ∀ collection, ∀ entry ∈ (request.perform env ctx state).state.collection.granted.entries collection,
      entry ∉ state.collection.granted.entries collection → entry.privilegeValue.toInt ≤ L.toInt

/-- An accepted request for a default level stays within the level of who makes it, and so does what it replaces. -/
def DefaultLevelWithin (request : ForumRequest) : Prop :=
  ∀ privilege value duration,
    request = .authorization (.changeForumWideDefaultPrivilegeLevel privilege value duration) →
      (AuthorizationOperation.changeForumWideDefaultPrivilegeLevel privilege value duration).Accepted env ctx state →
        ∀ L, adjustLevel env ctx state (.forumWide .adjustForumWidePrivilege) = some L → |value.toInt| ≤ L.toInt ∧
          ∀ old, state.collection.required.forumWide.forumWideDefaultPrivilegeDuration privilege = some old →
            |old.value.toInt| ≤ L.toInt

end

/-- The default levels that users configured are within the levels of these users. -/
def ConfiguredWithin (s : PrivilegedCollection) (configuredWith : ConfiguredWith) : Prop :=
  ∀ privilege L level, configuredWith privilege = some L →
    s.required.forumWide.forumWideDefaultPrivilegeDuration privilege = some level → |level.value.toInt| ≤ L.toInt

variable {env : ContentEnvironment} {ctx : Context} {state : ForumState}

/-- Whoever configures a default level may adjust privileges forum wide. -/
theorem exists_adjustLevel_of_accepted {privilege : ForumWideDefaultPrivilegeDuration} {value : PrivilegeValueIntType}
    {duration : PrivilegeDurationIntType}
    (h : (AuthorizationOperation.changeForumWideDefaultPrivilegeLevel privilege value duration).Accepted env ctx state) :
    ∃ L, adjustLevel env ctx state (.forumWide .adjustForumWidePrivilege) = some L := by
  have hanswer := eq_ok_of_unlessThrottled ((RequestStatus.ofAuthorization_eq_ok _).1 h.2.2)
  rw [AuthorizationStatus.ofBool_eq_ok] at hanswer
  exact Option.isSome_iff_exists.1 hanswer

/-- The bounds that hold of every accepted request for a required value. -/
theorem update_within {r : AuthorizationRequest} {query : PrivilegeQuery} {value : PrivilegeValueIntType}
    (hop : r.operation = .changeRequiredPrivilege query value) (haccepted : r.operation.Accepted env ctx state) :
    ∃ L, adjustLevel env ctx state query.adjustPrivilege = some L ∧ |value.toInt| ≤ L.toInt ∧
      ∀ old, ownValue state.collection.required query = some old → |old.toInt| ≤ L.toInt := by
  rw [hop] at haccepted
  exact allowPrivilegeUpdate_of_authorize ((RequestStatus.ofAuthorization_eq_ok _).1 haccepted.2.2)

/-- The bounds that hold of every accepted assignment. -/
theorem assignment_within (hgrants : GrantsInRange state.collection.granted) {r : AuthorizationRequest}
    {level : PrivilegeLevel} {target : IdType} {value : PrivilegeValueIntType} {duration : PrivilegeDurationIntType}
    (hop : r.operation = .assignPrivilege level target value duration) (haccepted : r.operation.Accepted env ctx state) :
    ∃ L, adjustLevel env ctx state (adjustPrivilegeAt level) = some L ∧ |value.toInt| < L.toInt ∧
      ∀ old ∈ grantsAt state.collection.granted target ctx.currentTime level, |old.toInt| < L.toInt := by
  have hlevel : level.collection = .forumWide → level.entityId = 0 := by
    cases r <;> cases hop <;> first | exact fun _ => rfl | exact fun heq => nomatch heq
  rw [hop] at haccepted
  exact grants_lt_of_allowAssignment (s := (state.seen env ctx).collection) hgrants
    (allowAssignment_of_authorize hlevel ((RequestStatus.ofAuthorization_eq_ok _).1 haccepted.2.2))

/-- A request has no escalation exactly if it configures no default level beyond the level of who makes it. -/
theorem noEscalation_perform_iff (hgrants : GrantsInRange state.collection.granted) {configuredWith : ConfiguredWith}
    (hwithin : ConfiguredWithin state.collection configuredWith) {request : ForumRequest}
    (hcallable : request.Callable state.collection.toEntityCollection) :
    NoEscalation env ctx state configuredWith request ↔ DefaultLevelWithin env ctx state request := by
  constructor
  · rintro h privilege value duration rfl haccepted L hL
    obtain ⟨L', hL', hbounds⟩ := h.default (.changeForumWideDefaultPrivilegeLevel privilege value duration) privilege
      value duration rfl rfl haccepted
    obtain rfl : L = L' := Option.some.inj (hL.symm.trans hL')
    exact hbounds
  · refine fun h => ⟨fun r query value _ hop haccepted => update_within hop haccepted,
      fun r level target value duration _ hop haccepted => assignment_within hgrants hop haccepted,
      fun r privilege value duration hrequest hop haccepted => ?_,
      fun privilege L hprivilege hL collection entry hentry hnew => ?_⟩
    · have hr : r = .changeForumWideDefaultPrivilegeLevel privilege value duration := by
        cases r <;> cases hop
        rfl
      subst hr
      obtain ⟨L, hL⟩ := exists_adjustLevel_of_accepted haccepted
      exact ⟨L, hL, h privilege value duration hrequest haccepted L hL⟩
    · cases ForumRequest.privilegeStep env ctx state hcallable with
      | kept _ granted => exact absurd (granted ▸ hentry) hnew
      | written request_eq =>
        rw [request_eq] at hprivilege
        cases hprivilege
      | firstUser request_eq => exact absurd (hprivilege.symm.trans request_eq) (Option.some_ne_none _)
      | accepted request_eq configured _ _ granted =>
        obtain rfl := Option.some.inj (hprivilege.symm.trans request_eq)
        rw [granted] at hentry
        rcases mem_entries_grant hentry with hentry | heq
        · exact absurd hentry hnew
        · rw [heq]
          exact (le_abs_self _).trans (hwithin _ _ _ hL configured)
      | refused _ _ _ _ granted => exact absurd (granted ▸ hentry) hnew

/-- Default levels stay within the levels of those who configured them. -/
theorem ConfiguredWithin.perform {configuredWith : ConfiguredWith} (h : ConfiguredWithin state.collection configuredWith)
    {request : ForumRequest} (hcallable : request.Callable state.collection.toEntityCollection)
    (hrequest : DefaultLevelWithin env ctx state request) :
    ConfiguredWithin (request.perform env ctx state).state.collection (configuredWith.after env ctx state request) := by
  by_cases hnothing : ConfiguresNothing env ctx state request
  · have hafter : configuredWith.after env ctx state request = configuredWith := by
      unfold ConfiguredWith.after
      split
      · exact if_neg (hnothing _ _ _ rfl)
      · rfl
    unfold ConfiguredWithin
    rw [hafter, (ForumRequest.privilegeStep env ctx state hcallable).defaultLevels_eq hnothing]
    exact h
  · unfold ConfiguresNothing at hnothing
    push Not at hnothing
    obtain ⟨privilege, value, duration, rfl, haccepted⟩ := hnothing
    obtain ⟨-, -, hcollection⟩ := AuthorizationRequest.perform_of_accepted env ctx state
      (.changeForumWideDefaultPrivilegeLevel privilege value duration) haccepted
    have hafter : configuredWith.after env ctx state
        (.authorization (.changeForumWideDefaultPrivilegeLevel privilege value duration)) =
          Function.update configuredWith privilege (adjustLevel env ctx state (.forumWide .adjustForumWidePrivilege)) :=
      if_pos haccepted
    intro privilege' L level hL hlevel
    rw [ForumRequest.perform, hcollection, AuthorizationRequest.operation, AuthorizationOperation.apply,
      forumWideDefaultPrivilegeDuration_setForumWideDefaultPrivilegeLevel] at hlevel
    rw [hafter, Function.update_apply] at hL
    split_ifs at hL hlevel
    · obtain rfl := Option.some.inj hlevel
      exact (hrequest privilege value duration rfl haccepted L hL).1
    · exact h privilege' L level hL hlevel

/-- What every run keeps in which default levels are configured within the level of who does so. -/
theorem ForumReachable.within {config : Configuration} {configuredWith : ConfiguredWith}
    (h : ForumReachable env config (DefaultLevelWithin env) state configuredWith) :
    GrantsInRange state.collection.granted ∧ ConfiguredWithin state.collection configuredWith := by
  induction h with
  | start =>
    refine ⟨fun collection entry hentry => ?_, fun _ _ _ heq => nomatch heq⟩
    cases collection <;> exact absurd hentry List.not_mem_nil
  | step ctx request _ callable admitted ih =>
    exact ⟨(request.privilegeStep env ctx _ callable).grantsInRange ih.1, ih.2.perform callable admitted⟩

/-- In every run in which default levels are configured within the level of who does so, the next request has no
escalation exactly if it keeps to that as well. -/
theorem noEscalation_iff {config : Configuration} {configuredWith : ConfiguredWith}
    (h : ForumReachable env config (DefaultLevelWithin env) state configuredWith) {request : ForumRequest}
    (hcallable : request.Callable state.collection.toEntityCollection) :
    NoEscalation env ctx state configuredWith request ↔ DefaultLevelWithin env ctx state request :=
  noEscalation_perform_iff h.within.1 h.within.2 hcallable

/-- With the level `1` of every registered user, a user configures a default level of `1` again. -/
theorem noEscalation_of_sameLevel :
    NoEscalation plainEnvironment ⟨1, 2, ""⟩ forumWithUser (fun _ => none)
      (.authorization (.changeForumWideDefaultPrivilegeLevel .createDiscussionThread 1 60)) := by
  have hreachable := forumWithUser_reachable (DefaultLevelWithin plainEnvironment) (by rintro _ _ _ ⟨⟩)
  refine (noEscalation_iff hreachable (by decide)).2 ?_
  rintro _ _ _ ⟨⟩ - L hL
  have hlevel : adjustLevel plainEnvironment ⟨1, 2, ""⟩ forumWithUser (.forumWide .adjustForumWidePrivilege) = some 1 := by
    decide +kernel
  have hold : forumWithUser.collection.required.forumWide.forumWideDefaultPrivilegeDuration .createDiscussionThread =
      some ⟨1, 0⟩ := by
    decide +kernel
  obtain rfl := Option.some.inj (hlevel.symm.trans hL)
  refine ⟨by decide, fun old heq => ?_⟩
  obtain rfl := Option.some.inj (hold.symm.trans heq)
  decide

/-- A user with level `1` configures a default level of `30000`, which is granted to it for its next thread. -/
theorem not_noEscalation_of_defaultLevel :
    ∃ state configuredWith,
      ForumReachable plainEnvironment plainConfiguration (fun _ _ _ => True) state configuredWith ∧
        configuredWith .createDiscussionThread = some 1 ∧
        ¬NoEscalation plainEnvironment ⟨1, 3, ""⟩ state configuredWith (.addNewDiscussionThread 2 ⟨"thread", []⟩) := by
  refine ⟨_, _, .step ⟨1, 2, ""⟩
    (.authorization (.changeForumWideDefaultPrivilegeLevel .createDiscussionThread 30000 0))
    (forumWithUser_reachable _ trivial) trivial trivial, by decide +kernel, ?_⟩
  set state := ((ForumRequest.authorization
    (.changeForumWideDefaultPrivilegeLevel .createDiscussionThread 30000 0)).perform plainEnvironment ⟨1, 2, ""⟩
      forumWithUser).state with hstate
  have hempty : (state.collection.granted.entries .discussionThread).isEmpty := by decide +kernel
  obtain ⟨entry, hentry, hvalue⟩ : ∃ entry ∈ (((ForumRequest.addNewDiscussionThread 2 ⟨"thread", []⟩).perform
      plainEnvironment ⟨1, 3, ""⟩ state).state.collection.granted.entries .discussionThread),
        entry.privilegeValue = 30000 := by
    decide +kernel
  intro h
  have hle := h.granted .createDiscussionThread 1 rfl (by decide +kernel) .discussionThread entry hentry
    (List.isEmpty_iff.1 hempty ▸ List.not_mem_nil)
  rw [hvalue] at hle
  exact absurd hle (by decide)

end Forum.Repository
