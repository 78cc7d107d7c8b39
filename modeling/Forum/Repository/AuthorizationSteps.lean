import Forum.Repository.AuthorizationRequests
import Forum.Repository.OwnershipSteps

/-!
# What requests do to privileges

A request may do three things to the privileges: nothing, one write of the authorization repository,
or the grant that comes with the first user or a new thread or message. `PrivilegeStep` says so once for all
requests, and with what was true when it happened; `Accepted` says what authorization has let through.
-/

namespace Forum.Repository

open Forum.Library Forum.Entities Forum.Authorization

variable (env : ContentEnvironment) (ctx : Context) (state : ForumState)

/-- The default level that goes with a request. -/
def ForumRequest.defaultPrivilege : ForumRequest → Option ForumWideDefaultPrivilegeDuration
  | .addNewDiscussionThread _ _ => some .createDiscussionThread
  | .addNewDiscussionMessageInThread _ _ _ => some .createDiscussionThreadMessage
  | .authorization _ | .addNewUser _ _ _ | .content _ => none

/-- What a request may do to the privileges. -/
inductive PrivilegeStep (request : ForumRequest) (response : ForumResponse) : Prop
  /-- Nothing. -/
  | kept (required : response.state.collection.required = state.collection.required)
      (granted : response.state.collection.granted = state.collection.granted) (grantStatus : response.grantStatus = none)
  /-- An accepted request of the authorization repository writes what it asked for. -/
  | written {r : AuthorizationRequest} (request_eq : request = .authorization r)
      (accepted : r.operation.Accepted env ctx state)
      (collection : response.state.collection = r.operation.apply ctx (state.seen env ctx).collection)
      (grantStatus : response.grantStatus = none)
  /-- The first user is granted all privileges. -/
  | firstUser {id : IdType} (request_eq : request.defaultPrivilege = none)
      (required : response.state.collection.required = state.collection.required)
      (granted : response.state.collection.granted = state.collection.granted.grant id MaxPrivilegeValue ctx.currentTime
        (calculatePrivilegeExpires ctx.currentTime UnlimitedDuration) .forumWide)
      (grantStatus : response.grantStatus = some .ok)
  /-- A registered user is granted the configured level for what it has created. -/
  | accepted {privilege : ForumWideDefaultPrivilegeDuration} {level : PrivilegeLevel} {user : IdType}
      {levelToGrant : PrivilegeDefaultLevel} (request_eq : request.defaultPrivilege = some privilege)
      (configured : state.collection.required.forumWide.forumWideDefaultPrivilegeDuration privilege = some levelToGrant)
      (valid : isValidPrivilegeValue levelToGrant.value ∧ isValidPrivilegeDuration levelToGrant.duration)
      (required : response.state.collection.required = state.collection.required)
      (granted : response.state.collection.granted = state.collection.granted.grant user levelToGrant.value ctx.currentTime
        (calculatePrivilegeExpires ctx.currentTime levelToGrant.duration) level)
      (grantStatus : response.grantStatus = some .ok)
  /-- The configured level is not one that may be granted. -/
  | refused {privilege : ForumWideDefaultPrivilegeDuration} {levelToGrant : PrivilegeDefaultLevel}
      (request_eq : request.defaultPrivilege = some privilege)
      (configured : state.collection.required.forumWide.forumWideDefaultPrivilegeDuration privilege = some levelToGrant)
      (invalid : ¬(isValidPrivilegeValue levelToGrant.value ∧ isValidPrivilegeDuration levelToGrant.duration))
      (required : response.state.collection.required = state.collection.required)
      (granted : response.state.collection.granted = state.collection.granted)
      (grantStatus : response.grantStatus = some .invalidParameters)

/-! ### The grant that comes with something new -/

section

variable {env ctx state}

/-- An assignment to a user of the store, at an entity of the store, is refused only for its value or duration. -/
theorem AuthorizationOperation.perform_assignPrivilege (ctx : Context) (s : PrivilegedCollection) {level : PrivilegeLevel}
    {user : IdType} (hanonymous : ¬isAnonymousUserId user) (hid : privilegeEntityId (adjustPrivilegeAt level) ≠ some 0)
    (hfound : (adjustPrivilegeAt level).Exists s.toStore) (huser : user ∈ s.users) (value : PrivilegeValueIntType)
    (duration : PrivilegeDurationIntType) :
    (assignPrivilege level user value duration).perform ctx s =
      if isValidPrivilegeValue value ∧ isValidPrivilegeDuration duration then
        (.ok, (assignPrivilege level user value duration).apply ctx s)
      else (.invalidParameters, s) := by
  have hvalid : (assignPrivilege level user value duration).isValid ↔
      isValidPrivilegeValue value ∧ isValidPrivilegeDuration duration := by
    simp [isValid, hanonymous, hid]
  have hisFound : (assignPrivilege level user value duration).isFound s := by
    simp [isFound, hfound, huser]
  by_cases h : isValidPrivilegeValue value ∧ isValidPrivilegeDuration duration
  · rw [if_pos h, perform, if_neg (not_not.2 (hvalid.2 h)), if_pos hisFound]
  · rw [if_neg h, perform, if_pos fun hv => h (hvalid.1 hv)]

/-- The grant for an entity of the store is refused only for the configured value or duration. -/
theorem PrivilegeStep.of_grantDefaultLevel {request : ForumRequest} {response : ForumResponse} (made : ForumState)
    {privilege : ForumWideDefaultPrivilegeDuration} {level : PrivilegeLevel}
    (request_eq : request.defaultPrivilege = some privilege)
    (hrequired : made.collection.required = state.collection.required)
    (hgranted : made.collection.granted = state.collection.granted)
    (hid : privilegeEntityId (adjustPrivilegeAt level) ≠ some 0)
    (hfound : (adjustPrivilegeAt level).Exists made.collection.toStore)
    (required : response.state.collection.required = (made.grantDefaultLevel ctx privilege level).1.collection.required)
    (granted : response.state.collection.granted = (made.grantDefaultLevel ctx privilege level).1.collection.granted)
    (grantStatus : response.grantStatus = (made.grantDefaultLevel ctx privilege level).2.2) :
    PrivilegeStep env ctx state request response := by
  unfold ForumState.grantDefaultLevel at required granted grantStatus
  by_cases hanonymous : isAnonymousUserId (made.currentUser ctx)
  · simp only [hanonymous, if_true] at required granted grantStatus
    exact .kept (required.trans hrequired) (granted.trans hgranted) grantStatus
  · have huser : made.currentUser ctx ∈ made.collection.users := by
      unfold ForumState.currentUser getCurrentUser at hanonymous ⊢
      split_ifs at hanonymous ⊢ with h
      · exact h
      · exact absurd rfl hanonymous
    cases hconfigured : made.collection.required.forumWide.forumWideDefaultPrivilegeDuration privilege with
    | none =>
      simp only [hanonymous, hconfigured, if_false, Bool.false_eq_true] at required granted grantStatus
      exact .kept (required.trans hrequired) (granted.trans hgranted) grantStatus
    | some levelToGrant =>
      have hop := AuthorizationOperation.perform_assignPrivilege ctx made.collection hanonymous hid hfound huser
        levelToGrant.value levelToGrant.duration
      simp only [hanonymous, hconfigured, if_false, Bool.false_eq_true, hop] at required granted grantStatus
      rw [hrequired] at hconfigured
      split_ifs at required granted grantStatus with hvalid
      · have hgrant : response.state.collection.granted = state.collection.granted.grant (made.currentUser ctx)
            levelToGrant.value ctx.currentTime (calculatePrivilegeExpires ctx.currentTime levelToGrant.duration) level := by
          rw [granted, ← hgranted]
          rfl
        exact .accepted request_eq hconfigured hvalid (required.trans hrequired) hgrant grantStatus
      · exact .refused request_eq hconfigured hvalid (required.trans hrequired) (granted.trans hgranted) grantStatus

end

/-! ### Requests -/

@[simp]
theorem ForumState.collection_authorize (question : AuthorizationQuestion) :
    (state.authorize ctx question).2.collection = state.collection := rfl

/-- An accepted request of the authorization repository writes what it asked for. -/
theorem AuthorizationRequest.perform_of_accepted (request : AuthorizationRequest)
    (h : request.operation.Accepted env ctx state) :
    (request.perform env ctx state).status = .ok ∧ (request.perform env ctx state).grantStatus = none ∧
      (request.perform env ctx state).state.collection = request.operation.apply ctx (state.seen env ctx).collection := by
  obtain ⟨hvalid, hfound, hok⟩ := h
  unfold AuthorizationRequest.perform
  refine ⟨?_, ?_, ?_⟩ <;> simp [hvalid, hfound, hok, AuthorizationOperation.perform]

/-- A request of the authorization repository. -/
theorem AuthorizationRequest.privilegeStep (request : AuthorizationRequest) :
    PrivilegeStep env ctx state (.authorization request) (request.perform env ctx state) := by
  by_cases haccepted : request.operation.Accepted env ctx state
  · obtain ⟨-, hgrant, hcollection⟩ := request.perform_of_accepted env ctx state haccepted
    exact .written rfl haccepted hcollection hgrant
  unfold AuthorizationRequest.perform
  extract_lets op seen
  split_ifs with hvalid hfound
  · have hdenied : (seen.authorize ctx (op.question seen.collection)).1 ≠ .ok := fun hok => haccepted ⟨hvalid, hfound, hok⟩
    simp only [hdenied, ne_eq, not_false_eq_true, if_true]
    exact .kept rfl rfl rfl
  · exact .kept rfl rfl rfl
  · exact .kept rfl rfl rfl

@[simp]
theorem ForumState.toEntityCollection_perform (op : Operation) :
    (state.perform ctx op).2.collection.toEntityCollection = (op.perform ctx state.collection.toEntityCollection).2 :=
  rfl

theorem mem_allThreads_addNewDiscussionThread (s : EntityCollection) (id : IdType) (name : NameType) (approved : Bool) :
    id ∈ ((Operation.addNewDiscussionThread id name approved).perform ctx s).2.allThreads := by
  rw [Operation.perform, toOwnership_addNewDiscussionThread]
  exact Finset.mem_insert_self _ _

theorem mem_allMessages_addNewDiscussionMessageInThread (s : EntityCollection) (id : IdType) {thread : IdType}
    (hthread : thread ∈ s.allThreads) (approved : Bool) (content : String) :
    id ∈ ((Operation.addNewDiscussionMessageInThread id thread approved (.text content)).perform ctx s).2.allMessages := by
  rw [Operation.perform, (toOwnership_addNewDiscussionMessageInThread ctx s id hthread approved content).1]
  exact Finset.mem_insert_self _ _

theorem mem_users_addNewUser {s : EntityCollection} {id : IdType} {name : NameType} {auth : String}
    (h : ((Operation.addNewUser id name auth).perform ctx s).1 = .ok) :
    id ∈ ((Operation.addNewUser id name auth).perform ctx s).2.users := by
  rw [Operation.perform, addNewUser] at h ⊢
  split_ifs at h ⊢
  rw [EntityCollection.toStore_usersAdd]
  exact Finset.mem_insert_self _ _

/-- A new user. -/
theorem MemoryRepositoryUser.privilegeStep {id : IdType} (hid : id ≠ 0) (name : NameType) (auth : String) :
    PrivilegeStep env ctx state (.addNewUser id name auth) (addNewUser env ctx state id name auth) := by
  unfold addNewUser
  extract_lets validationCode seen
  split_ifs with hauth hvalid hanonymous
  · exact .kept rfl rfl rfl
  · exact .kept rfl rfl rfl
  · rcases hask : seen.authorize ctx .addNewUser with ⟨status, asked⟩
    have hasked : asked.collection = seen.collection := (congrArg (·.2.collection) hask).symm
    have hrequired : asked.collection.required = state.collection.required := congrArg (·.required) hasked
    have hgranted : asked.collection.granted = state.collection.granted := congrArg (·.granted) hasked
    dsimp only
    split_ifs with hok hname hcode hfirst
    · exact .kept hrequired hgranted rfl
    · exact .kept hrequired hgranted rfl
    · exact .kept hrequired hgranted rfl
    · rename_i op grant
      have huser := mem_users_addNewUser ctx (not_not.1 hcode)
      rw [← ForumState.toEntityCollection_perform] at huser
      have hanonymous' : ¬isAnonymousUserId id := by simpa [isAnonymousUserId] using hid
      have hforumWide : privilegeEntityId (adjustPrivilegeAt .forumWide) ≠ some 0 := by decide
      have hfound : (adjustPrivilegeAt .forumWide).Exists (asked.perform ctx op).2.collection.toStore := trivial
      have hgrant : grant.perform ctx (asked.perform ctx op).2.collection =
          (.ok, grant.apply ctx (asked.perform ctx op).2.collection) :=
        AuthorizationOperation.perform_assignPrivilege ctx _ hanonymous' hforumWide hfound huser _ _
      rw [hgrant]
      have hafter : (grant.apply ctx (asked.perform ctx op).2.collection).granted =
          state.collection.granted.grant id MaxPrivilegeValue ctx.currentTime
            (calculatePrivilegeExpires ctx.currentTime UnlimitedDuration) .forumWide := by
        rw [← hgranted]
        rfl
      exact .firstUser rfl hrequired hafter rfl
    · exact .kept hrequired hgranted rfl
  · exact .kept rfl rfl rfl

/-- A new thread. -/
theorem MemoryRepositoryDiscussionThread.privilegeStep {id : IdType} (hid : id ≠ 0) (name : NameType) :
    PrivilegeStep env ctx state (.addNewDiscussionThread id name) (addNewDiscussionThread env ctx state id name) := by
  unfold addNewDiscussionThread
  extract_lets validationCode
  split_ifs with hvalid
  · exact .kept rfl rfl rfl
  rcases hask : (state.seen env ctx).authorize ctx .addNewDiscussionThread with ⟨status, asked⟩
  have hasked : asked.collection = (state.seen env ctx).collection := (congrArg (·.2.collection) hask).symm
  have hrequired : asked.collection.required = state.collection.required := congrArg (·.required) hasked
  have hgranted : asked.collection.granted = state.collection.granted := congrArg (·.granted) hasked
  dsimp only
  generalize decide ((asked.authorize ctx .autoApproveDiscussionThread).1 = .ok) = approved
  split_ifs with hok hcode
  · exact .kept hrequired hgranted rfl
  · exact .kept hrequired hgranted rfl
  have hfound := mem_allThreads_addNewDiscussionThread ctx asked.collection.toEntityCollection id name approved
  rw [← ForumState.toEntityCollection_perform] at hfound
  have hid' : privilegeEntityId (adjustPrivilegeAt ⟨.discussionThread, id⟩) ≠ some 0 := by
    simpa [adjustPrivilegeAt, privilegeEntityId] using hid
  have hmade : (asked.perform ctx (.addNewDiscussionThread id name approved)).2.collection.required =
        state.collection.required ∧
      (asked.perform ctx (.addNewDiscussionThread id name approved)).2.collection.granted = state.collection.granted :=
    ⟨hrequired, hgranted⟩
  generalize (asked.perform ctx (.addNewDiscussionThread id name approved)).2 = made at *
  exact .of_grantDefaultLevel made rfl hmade.1 hmade.2 hid' hfound rfl rfl rfl

/-- Quoting users leaves the privileges alone. -/
theorem MemoryRepositoryDiscussionThreadMessage.privileges_quoteUsers (message : IdType) (users : List IdType)
    (result : ForumState × List ForumEvent) :
    (users.foldl (quoteUser ctx message) result).1.collection.required = result.1.collection.required ∧
      (users.foldl (quoteUser ctx message) result).1.collection.granted = result.1.collection.granted := by
  induction users generalizing result with
  | nil => exact ⟨rfl, rfl⟩
  | cons user users ih => exact ih (quoteUser ctx message result user)

/-- A new message. -/
theorem MemoryRepositoryDiscussionThreadMessage.privilegeStep {id : IdType} (hid : id ≠ 0) (threadId : IdType)
    (content : String) :
    PrivilegeStep env ctx state (.addNewDiscussionMessageInThread id threadId content)
      (addNewDiscussionMessageInThread env ctx state id threadId content) := by
  unfold addNewDiscussionMessageInThread
  extract_lets validationCode seen
  split_ifs with hthread hvalid hknown
  · exact .kept rfl rfl rfl
  · exact .kept rfl rfl rfl
  · rcases hask : seen.authorize ctx (.addNewDiscussionMessageInThread threadId) with ⟨status, asked⟩
    have hasked : asked.collection = seen.collection := (congrArg (·.2.collection) hask).symm
    have hrequired : asked.collection.required = state.collection.required := congrArg (·.required) hasked
    have hgranted : asked.collection.granted = state.collection.granted := congrArg (·.granted) hasked
    dsimp only
    generalize decide ((asked.authorize ctx (.autoApproveDiscussionMessageInThread threadId)).1 = .ok) = approved
    split_ifs with hok hcode
    · exact .kept hrequired hgranted rfl
    · exact .kept hrequired hgranted rfl
    all_goals
      have hfound := mem_allMessages_addNewDiscussionMessageInThread ctx asked.collection.toEntityCollection id
        (hasked ▸ hknown) approved content
      rw [← ForumState.toEntityCollection_perform] at hfound
      have hid' : privilegeEntityId (adjustPrivilegeAt ⟨.discussionThreadMessage, id⟩) ≠ some 0 := by
        simpa [adjustPrivilegeAt, privilegeEntityId] using hid
      refine .of_grantDefaultLevel
        (asked.perform ctx (.addNewDiscussionMessageInThread id threadId approved (.text content))).2 rfl hrequired hgranted
        hid' hfound ?_ ?_ rfl
      · exact (privileges_quoteUsers ctx id _ _).1
      · exact (privileges_quoteUsers ctx id _ _).2
  · exact .kept rfl rfl rfl

/-- Every request does one of these things. -/
theorem ForumRequest.privilegeStep {request : ForumRequest}
    (hcallable : request.Callable state.collection.toEntityCollection) :
    PrivilegeStep env ctx state request (request.perform env ctx state) := by
  cases request with
  | authorization request => exact request.privilegeStep env ctx state
  | addNewUser id name auth => exact MemoryRepositoryUser.privilegeStep env ctx state hcallable.1 name auth
  | addNewDiscussionThread id name =>
    exact MemoryRepositoryDiscussionThread.privilegeStep env ctx state hcallable.1 name
  | addNewDiscussionMessageInThread id threadId text =>
    exact MemoryRepositoryDiscussionThreadMessage.privilegeStep env ctx state hcallable.1 threadId text
  | content op => exact .kept rfl rfl rfl

/-- A request configures no default level when it is none that was accepted. -/
def ConfiguresNothing (request : ForumRequest) : Prop :=
  ∀ privilege value duration,
    request = .authorization (.changeForumWideDefaultPrivilegeLevel privilege value duration) →
      ¬(AuthorizationOperation.changeForumWideDefaultPrivilegeLevel privilege value duration).Accepted env ctx state

variable {env ctx state}

/-- The default levels change only when they are configured. -/
theorem PrivilegeStep.defaultLevels_eq {request : ForumRequest} {response : ForumResponse}
    (hstep : PrivilegeStep env ctx state request response) (h : ConfiguresNothing env ctx state request) :
    response.state.collection.required.forumWide.forumWideDefaultPrivilegeDuration =
      state.collection.required.forumWide.forumWideDefaultPrivilegeDuration := by
  cases hstep with
  | kept required => rw [required]
  | @written r request_eq accepted collection =>
    rw [collection]
    cases hop : r.operation with
    | changeRequiredPrivilege query value => exact forumWideDefaultPrivilegeDuration_setValue _ value query
    | changeForumWideDefaultPrivilegeLevel privilege value duration =>
      have hr : r = .changeForumWideDefaultPrivilegeLevel privilege value duration := by
        cases r <;> cases hop
        rfl
      exact absurd (hop ▸ accepted) (h privilege value duration (request_eq.trans (congrArg _ hr)))
    | assignPrivilege level userId value duration => rfl
  | firstUser _ required => rw [required]
  | accepted _ _ _ required => rw [required]
  | refused _ _ _ required => rw [required]

end Forum.Repository
