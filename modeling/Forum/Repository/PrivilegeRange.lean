import Forum.Repository.AuthorizationSteps

/-!
# The range of privileges

Values of privileges lie between `MinPrivilegeValue` and `MaxPrivilegeValue`. Every request that stores
one checks so, except the one that configures a default level: it checks that the value is not negative,
which is the test meant for the duration, and leaves the duration alone. A level out of range is noticed
only when it is to be granted, and then the grant is dropped.
-/

namespace Forum.Repository

open Forum.Library Forum.Entities Forum.Authorization

/-- The granted values are in range. -/
def GrantsInRange (g : GrantedPrivilegeStore) : Prop :=
  ∀ collection, ∀ entry ∈ g.entries collection, isValidPrivilegeValue entry.privilegeValue

/-- The required and granted values are in range. -/
structure ValuesInRange (s : PrivilegedCollection) : Prop where
  required : ∀ query value, ownValue s.required query = some value → isValidPrivilegeValue value
  granted : GrantsInRange s.granted

/-- A default level whose value is in range and whose duration is not negative. -/
def LevelInRange (level : PrivilegeDefaultLevel) : Prop :=
  isValidPrivilegeValue level.value ∧ isValidPrivilegeDuration level.duration

/-- All privileges of a store are in range. -/
structure PrivilegesInRange (s : PrivilegedCollection) : Prop extends ValuesInRange s where
  default : ∀ privilege level, s.required.forumWide.forumWideDefaultPrivilegeDuration privilege = some level →
    LevelInRange level

/-- What the configuration requires and grants is in range. -/
def Configuration.InRange (config : Configuration) : Prop := PrivilegesInRange config.initial.collection

/-- A request for a default level, if it is accepted, names a level in range. -/
def DefaultLevelInRange (env : ContentEnvironment) (ctx : Context) (state : ForumState) (request : ForumRequest) : Prop :=
  ∀ privilege value duration,
    request = .authorization (.changeForumWideDefaultPrivilegeLevel privilege value duration) →
      (AuthorizationOperation.changeForumWideDefaultPrivilegeLevel privilege value duration).Accepted env ctx state →
        value.toInt ≤ MaxPrivilegeValue.toInt ∧ 0 ≤ duration

variable {env : ContentEnvironment} {ctx : Context} {state : ForumState} {s s' : PrivilegedCollection}

theorem ValuesInRange.congr (h : ValuesInRange s) (hrequired : s'.required = s.required)
    (hgranted : s'.granted = s.granted) : ValuesInRange s' := by
  obtain ⟨required, granted⟩ := h
  exact ⟨hrequired ▸ required, hgranted ▸ granted⟩

/-- A grant adds entries with its own value only. -/
theorem mem_entries_grant {g : GrantedPrivilegeStore} {userId : IdType} {value : PrivilegeValueIntType}
    {now expiresAt : Timestamp} {level : PrivilegeLevel} {collection : PrivilegeCollection} {entry : PrivilegeEntry}
    (h : entry ∈ (g.grant userId value now expiresAt level).entries collection) :
    entry ∈ g.entries collection ∨ entry.privilegeValue = value := by
  rw [GrantedPrivilegeStore.entries_grant] at h
  split_ifs at h
  · unfold grantPrivilege at h
    split_ifs at h
    · exact .inl (List.mem_filter.1 h).1
    · rcases List.mem_cons.1 h with rfl | h
      · exact .inr rfl
      · exact .inl h
  · exact .inl h

/-- A grant in range keeps the grants in range. -/
theorem GrantsInRange.grant {g : GrantedPrivilegeStore} (h : GrantsInRange g) {value : PrivilegeValueIntType}
    (hvalue : isValidPrivilegeValue value) (userId : IdType) (now expiresAt : Timestamp) (level : PrivilegeLevel) :
    GrantsInRange (g.grant userId value now expiresAt level) := by
  intro collection entry hentry
  rcases mem_entries_grant hentry with hentry | heq
  · exact h _ _ hentry
  · exact heq ▸ hvalue

/-- A direct write of the authorization repository keeps the grants in range. -/
theorem GrantsInRange.apply (h : GrantsInRange s.granted) {op : AuthorizationOperation} (hvalid : op.isValid) :
    GrantsInRange (op.apply ctx s).granted := by
  cases op with
  | changeRequiredPrivilege query value => exact h
  | changeForumWideDefaultPrivilegeLevel privilege value duration => exact h
  | assignPrivilege level userId value duration =>
    simp only [AuthorizationOperation.isValid, decide_eq_true_eq] at hvalid
    exact h.grant hvalid.2.2.1 _ _ _ _

/-- Granted values stay in range in every request. -/
theorem PrivilegeStep.grantsInRange {request : ForumRequest} {response : ForumResponse}
    (hstep : PrivilegeStep env ctx state request response) (h : GrantsInRange state.collection.granted) :
    GrantsInRange response.state.collection.granted := by
  cases hstep with
  | kept _ granted => exact granted ▸ h
  | written _ accepted collection =>
    rw [collection]
    exact GrantsInRange.apply (s := (state.seen env ctx).collection) h accepted.1
  | firstUser _ _ granted =>
    rw [granted]
    exact h.grant (by decide) _ _ _ _
  | accepted _ _ valid _ granted =>
    rw [granted]
    exact h.grant valid.1 _ _ _ _
  | refused _ _ _ _ granted => exact granted ▸ h

/-- A direct write of the authorization repository keeps the required values in range. -/
theorem ValuesInRange.apply (h : ValuesInRange s) {op : AuthorizationOperation} (hvalid : op.isValid) :
    ValuesInRange (op.apply ctx s) := by
  refine ⟨fun query value heq => ?_, h.granted.apply hvalid⟩
  cases op with
  | changeRequiredPrivilege query' value' =>
    simp only [AuthorizationOperation.isValid, decide_eq_true_eq] at hvalid
    rcases ownValue_setValue heq with rfl | heq
    · exact hvalid.2
    · exact h.required _ _ heq
  | changeForumWideDefaultPrivilegeLevel privilege value duration =>
    rw [AuthorizationOperation.apply, ownValue_setForumWideDefaultPrivilegeLevel] at heq
    exact h.required query _ heq
  | assignPrivilege level userId value duration => exact h.required _ _ heq

/-- Required and granted values stay in range in every request. -/
theorem PrivilegeStep.valuesInRange {request : ForumRequest} {response : ForumResponse}
    (hstep : PrivilegeStep env ctx state request response) (h : ValuesInRange state.collection) :
    ValuesInRange response.state.collection := by
  refine ⟨?_, hstep.grantsInRange h.granted⟩
  cases hstep with
  | kept required granted => exact required ▸ h.required
  | written _ accepted collection =>
    rw [collection]
    have hseen : ValuesInRange (state.seen env ctx).collection := h.congr rfl rfl
    exact (hseen.apply accepted.1).required
  | firstUser _ required => exact required ▸ h.required
  | accepted _ _ _ required => exact required ▸ h.required
  | refused _ _ _ required => exact required ▸ h.required

/-! ### Default levels -/

/-- A value that is not negative is in range when it is not above the greatest value. -/
theorem isValidPrivilegeValue_iff_of_nonneg {value : PrivilegeValueIntType} (h : isValidPrivilegeDuration value.toInt) :
    isValidPrivilegeValue value ↔ value.toInt ≤ MaxPrivilegeValue.toInt := by
  simp only [isValidPrivilegeDuration, decide_eq_true_eq] at h
  simp only [isValidPrivilegeValue, decide_eq_true_eq, Int16.le_iff_toInt_le]
  refine and_iff_right (le_trans ?_ h)
  decide

/-- An accepted request for a default level is one for a level in range or breaks the range. -/
theorem privilegesInRange_of_accepted (h : PrivilegesInRange state.collection)
    {privilege : ForumWideDefaultPrivilegeDuration} {value : PrivilegeValueIntType} {duration : PrivilegeDurationIntType}
    (haccepted : (AuthorizationOperation.changeForumWideDefaultPrivilegeLevel privilege value duration).Accepted env ctx
      state) :
    PrivilegesInRange ((AuthorizationOperation.changeForumWideDefaultPrivilegeLevel privilege value duration).apply ctx
        (state.seen env ctx).collection) ↔
      value.toInt ≤ MaxPrivilegeValue.toInt ∧ 0 ≤ duration := by
  have hseen : ValuesInRange (state.seen env ctx).collection := h.toValuesInRange.congr rfl rfl
  have hlevel : LevelInRange ⟨value, duration⟩ ↔ value.toInt ≤ MaxPrivilegeValue.toInt ∧ 0 ≤ duration := by
    unfold LevelInRange
    rw [isValidPrivilegeValue_iff_of_nonneg haccepted.1]
    simp [isValidPrivilegeDuration]
  rw [← hlevel]
  constructor
  · intro h'
    exact h'.default privilege _ (Function.update_self _ _ _)
  · refine fun hrange => ⟨hseen.apply haccepted.1, fun privilege' level heq => ?_⟩
    rw [AuthorizationOperation.apply, forumWideDefaultPrivilegeDuration_setForumWideDefaultPrivilegeLevel] at heq
    split_ifs at heq
    · exact Option.some.inj heq ▸ hrange
    · exact h.default privilege' level heq

/-- In range before, in range after, unless a default level is configured. -/
theorem PrivilegeStep.privilegesInRange {request : ForumRequest} {response : ForumResponse}
    (hstep : PrivilegeStep env ctx state request response) (h : PrivilegesInRange state.collection)
    (hrequest : ConfiguresNothing env ctx state request) : PrivilegesInRange response.state.collection := by
  refine ⟨hstep.valuesInRange h.toValuesInRange, ?_⟩
  rw [hstep.defaultLevels_eq hrequest]
  exact h.default

/-- The grant that comes with a new thread or message, or with the first user, is never refused while the privileges are in range. -/
theorem PrivilegeStep.grantStatus_eq_ok {request : ForumRequest} {response : ForumResponse}
    (hstep : PrivilegeStep env ctx state request response) (h : PrivilegesInRange state.collection) :
    ∀ code ∈ response.grantStatus, code = .ok := by
  cases hstep with
  | kept _ _ grantStatus => simp [grantStatus]
  | written _ _ _ grantStatus => simp [grantStatus]
  | firstUser _ _ _ grantStatus => simp [grantStatus]
  | accepted _ _ _ _ _ grantStatus => simp [grantStatus]
  | refused _ configured invalid => exact absurd (h.default _ _ configured) invalid

/-! ### Runs -/

/-- While the privileges are in range, a request keeps them there exactly if it does not configure a default level
out of range. -/
theorem privilegesInRange_perform_iff (h : PrivilegesInRange state.collection) {request : ForumRequest}
    (hcallable : request.Callable state.collection.toEntityCollection) :
    PrivilegesInRange (request.perform env ctx state).state.collection ↔ DefaultLevelInRange env ctx state request := by
  have hstep := ForumRequest.privilegeStep env ctx state hcallable
  by_cases hrequest : ConfiguresNothing env ctx state request
  · exact iff_of_true (hstep.privilegesInRange h hrequest) fun _ _ _ heq haccepted =>
      absurd haccepted (hrequest _ _ _ heq)
  · unfold ConfiguresNothing at hrequest
    push Not at hrequest
    obtain ⟨privilege, value, duration, rfl, haccepted⟩ := hrequest
    obtain ⟨-, -, hcollection⟩ := AuthorizationRequest.perform_of_accepted env ctx state
      (.changeForumWideDefaultPrivilegeLevel privilege value duration) haccepted
    rw [ForumRequest.perform, hcollection, AuthorizationRequest.operation, privilegesInRange_of_accepted h haccepted]
    constructor
    · rintro hrange _ _ _ heq -
      cases heq
      exact hrange
    · exact fun hrange => hrange _ _ _ rfl haccepted

/-- Runs whose default levels are in range keep all privileges in range. -/
theorem ForumReachable.privilegesInRange {config : Configuration} {configuredWith : ConfiguredWith}
    (h : ForumReachable env config (DefaultLevelInRange env) state configuredWith) (hconfig : config.InRange) :
    PrivilegesInRange state.collection := by
  induction h with
  | start => exact hconfig
  | step ctx request _ callable admitted ih => exact (privilegesInRange_perform_iff ih callable).2 admitted

/-- In every run that starts in range and configures no default level out of range, all privileges are in range,
and the next request keeps them there, with any grant it makes accepted, exactly if it does so too. -/
theorem privilegesInRange_iff {config : Configuration} {configuredWith : ConfiguredWith}
    (h : ForumReachable env config (DefaultLevelInRange env) state configuredWith) (hconfig : config.InRange) :
    PrivilegesInRange state.collection ∧
      ∀ ctx request, request.Callable state.collection.toEntityCollection →
        (PrivilegesInRange (request.perform env ctx state).state.collection ∧
            (∀ code ∈ (request.perform env ctx state).grantStatus, code = .ok) ↔
          DefaultLevelInRange env ctx state request) := by
  have hrange := h.privilegesInRange hconfig
  refine ⟨hrange, fun ctx request hcallable => ?_⟩
  rw [← privilegesInRange_perform_iff hrange hcallable]
  exact and_iff_left ((request.privilegeStep env ctx state hcallable).grantStatus_eq_ok hrange)

/-- An environment for examples: no limits, no references, and a configuration that requires nothing. -/
def plainEnvironment : ContentEnvironment where
  authorize _ _ _ := .ok
  lastSeenUpdatePrecision := 0
  countUTF8Characters := String.length
  doesNotContainLeadingOrTrailingWhitespace _ := true
  discussionCategory := ⟨0, 100, 100⟩
  minUserNameLength := 1
  maxUserNameLength := 100
  isValidUserName _ := true
  minNameLength := 1
  maxNameLength := 100
  minContentLength := 1
  maxContentLength := 100
  extractUuidReferences _ := []

/-- The defaults of the configuration file, with a level for new threads. -/
def plainConfiguration : Configuration where
  forumWide :=
    { forumWideDefaultPrivilegeDuration := fun
        | .createDiscussionThread => some ⟨1, 0⟩
        | .createDiscussionThreadMessage => none }
  defaultPrivilegeValueForLoggedInUser := 1
  messageCountPrivilegeBonus _ := 0
  maxMessageCountPrivilegeBonus := 0
  authorization := { throttling := { hashRange := fun _ => 0 } }

theorem plainConfiguration_inRange : plainConfiguration.InRange := by
  refine ⟨⟨fun query value heq => ?_, fun collection entry hentry => ?_⟩, fun privilege level heq => ?_⟩
  · cases query <;> simp [ownValue, Configuration.initial, plainConfiguration] at heq
  · cases collection <;> simp [GrantedPrivilegeStore.entries, Configuration.initial] at hentry
  · cases privilege <;> simp [Configuration.initial, plainConfiguration] at heq
    subst heq
    unfold LevelInRange
    decide

/-- A forum with a registered user. -/
def forumWithUser : ForumState :=
  ((ForumRequest.content (.addNewUser 1 ⟨"user", []⟩ "auth")).perform plainEnvironment ⟨0, 1, ""⟩
    plainConfiguration.initial).state

theorem forumWithUser_reachable (admissible : Context → ForumState → ForumRequest → Prop)
    (h : admissible ⟨0, 1, ""⟩ plainConfiguration.initial (.content (.addNewUser 1 ⟨"user", []⟩ "auth"))) :
    ForumReachable plainEnvironment plainConfiguration admissible forumWithUser fun _ => none :=
  .step _ (.content (.addNewUser 1 ⟨"user", []⟩ "auth")) .start (by decide) h

/-- A thread of that user, with the grant that comes with it, keeps everything in range. -/
theorem privilegesInRange_of_newThread :
    PrivilegesInRange ((ForumRequest.addNewDiscussionThread 2 ⟨"thread", []⟩).perform plainEnvironment ⟨1, 2, ""⟩
      forumWithUser).state.collection := by
  have hreachable := forumWithUser_reachable (DefaultLevelInRange plainEnvironment) (by rintro _ _ _ ⟨⟩)
  have h := (privilegesInRange_iff hreachable plainConfiguration_inRange).2 ⟨1, 2, ""⟩
    (.addNewDiscussionThread 2 ⟨"thread", []⟩) (by decide +kernel)
  exact (h.2 (by rintro _ _ _ ⟨⟩)).1

/-- A value above the range and a negative duration are accepted for a default level, and the grant of that level is
refused when the user adds a thread. -/
theorem not_privilegesInRange_of_defaultLevel :
    ∃ state configuredWith,
      ForumReachable plainEnvironment plainConfiguration (fun _ _ _ => True) state configuredWith ∧
        ¬PrivilegesInRange state.collection ∧
        ((ForumRequest.addNewDiscussionThread 2 ⟨"thread", []⟩).perform plainEnvironment ⟨1, 3, ""⟩ state).grantStatus =
          some .invalidParameters := by
  refine ⟨_, _, .step ⟨1, 2, ""⟩
    (.authorization (.changeForumWideDefaultPrivilegeLevel .createDiscussionThread 32001 (-1)))
    (forumWithUser_reachable _ trivial) trivial trivial, fun h => ?_, by decide +kernel⟩
  have hlevel := h.default .createDiscussionThread ⟨32001, -1⟩ (by decide +kernel)
  exact absurd hlevel (by unfold LevelInRange; decide)

end Forum.Repository
