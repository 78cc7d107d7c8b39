import Forum.Authorization.DefaultAuthorization
import Forum.Authorization.PrivilegeResolution
import Forum.Repository.Requests

/-!
# The requests of the authorization repository

`MemoryRepositoryAuthorization`: users set the values required for privileges, at every level, assign
privileges to each other, and configure what is granted to whoever creates a thread or a message.
Those grants are made by the requests that create threads and messages, which are here too, and so is the
one that registers users, as the first of them is granted all privileges.

Every request checks its arguments, takes the write lock, looks up what it is about and asks for
authorization; it then emits its event and performs the direct write, which checks the arguments once
more. Kinds of privileges are enumerations, so that they are never out of range.
-/

namespace Forum.Repository

open Forum.Library Forum.Entities Forum.Authorization

/-- `isValidPrivilegeDuration`. -/
def isValidPrivilegeDuration (value : PrivilegeDurationIntType) : Bool := 0 ≤ value

/-! ### Where privileges are kept -/

/-- The value a level requires by itself, whatever the levels above it do: the `get` functions of its store. -/
def ownValue (r : RequiredPrivileges) : PrivilegeQuery → PrivilegeValueType
  | .message id privilege => (r.message id).discussionThreadMessagePrivileges privilege
  | .threadMessages id privilege => (r.thread id).discussionThreadMessagePrivileges privilege
  | .tagMessages id privilege => (r.tag id).discussionThreadMessagePrivileges privilege
  | .thread id privilege => (r.thread id).discussionThreadPrivileges privilege
  | .tagThreads id privilege => (r.tag id).discussionThreadPrivileges privilege
  | .tag id privilege => (r.tag id).discussionTagPrivileges privilege
  | .category id privilege => (r.category id).discussionCategoryPrivileges privilege
  | .forumWideMessages privilege => r.forumWide.discussionThreadMessagePrivileges privilege
  | .forumWideThreads privilege => r.forumWide.discussionThreadPrivileges privilege
  | .forumWideTags privilege => r.forumWide.discussionTagPrivileges privilege
  | .forumWideCategories privilege => r.forumWide.discussionCategoryPrivileges privilege
  | .forumWide privilege => r.forumWide.forumWidePrivileges privilege

/-- The `set` functions of the stores. -/
def setValue (r : RequiredPrivileges) (value : PrivilegeValueIntType) : PrivilegeQuery → RequiredPrivileges
  | .message id privilege =>
    { r with message := Function.update r.message id { r.message id with
        discussionThreadMessagePrivileges :=
          Function.update (r.message id).discussionThreadMessagePrivileges privilege (some value) } }
  | .threadMessages id privilege =>
    { r with thread := Function.update r.thread id { r.thread id with
        discussionThreadMessagePrivileges :=
          Function.update (r.thread id).discussionThreadMessagePrivileges privilege (some value) } }
  | .tagMessages id privilege =>
    { r with tag := Function.update r.tag id { r.tag id with
        discussionThreadMessagePrivileges :=
          Function.update (r.tag id).discussionThreadMessagePrivileges privilege (some value) } }
  | .thread id privilege =>
    { r with thread := Function.update r.thread id { r.thread id with
        discussionThreadPrivileges :=
          Function.update (r.thread id).discussionThreadPrivileges privilege (some value) } }
  | .tagThreads id privilege =>
    { r with tag := Function.update r.tag id { r.tag id with
        discussionThreadPrivileges :=
          Function.update (r.tag id).discussionThreadPrivileges privilege (some value) } }
  | .tag id privilege =>
    { r with tag := Function.update r.tag id { r.tag id with
        discussionTagPrivileges := Function.update (r.tag id).discussionTagPrivileges privilege (some value) } }
  | .category id privilege =>
    { r with category := Function.update r.category id { r.category id with
        discussionCategoryPrivileges :=
          Function.update (r.category id).discussionCategoryPrivileges privilege (some value) } }
  | .forumWideMessages privilege =>
    { r with forumWide := { r.forumWide with
        discussionThreadMessagePrivileges :=
          Function.update r.forumWide.discussionThreadMessagePrivileges privilege (some value) } }
  | .forumWideThreads privilege =>
    { r with forumWide := { r.forumWide with
        discussionThreadPrivileges :=
          Function.update r.forumWide.discussionThreadPrivileges privilege (some value) } }
  | .forumWideTags privilege =>
    { r with forumWide := { r.forumWide with
        discussionTagPrivileges := Function.update r.forumWide.discussionTagPrivileges privilege (some value) } }
  | .forumWideCategories privilege =>
    { r with forumWide := { r.forumWide with
        discussionCategoryPrivileges :=
          Function.update r.forumWide.discussionCategoryPrivileges privilege (some value) } }
  | .forumWide privilege =>
    { r with forumWide := { r.forumWide with
        forumWidePrivileges := Function.update r.forumWide.forumWidePrivileges privilege (some value) } }

/-- What is set at one place is read there; other places keep what they had. -/
theorem ownValue_setValue {r : RequiredPrivileges} {value value' : PrivilegeValueIntType} {query query' : PrivilegeQuery}
    (h : ownValue (setValue r value query) query' = some value') :
    value' = value ∨ ownValue r query' = some value' := by
  cases query <;> cases query' <;> simp only [ownValue, setValue, Function.update_apply] at h ⊢ <;>
    first
    | exact .inr h
    | split_ifs at h <;> grind

@[simp]
theorem forumWideDefaultPrivilegeDuration_setValue (r : RequiredPrivileges) (value : PrivilegeValueIntType)
    (query : PrivilegeQuery) :
    (setValue r value query).forumWide.forumWideDefaultPrivilegeDuration =
      r.forumWide.forumWideDefaultPrivilegeDuration := by
  cases query <;> rfl

/-- `setForumWideDefaultPrivilegeLevel`. -/
def setForumWideDefaultPrivilegeLevel (r : RequiredPrivileges) (privilege : ForumWideDefaultPrivilegeDuration)
    (level : PrivilegeDefaultLevel) : RequiredPrivileges :=
  { r with forumWide := { r.forumWide with
      forumWideDefaultPrivilegeDuration :=
        Function.update r.forumWide.forumWideDefaultPrivilegeDuration privilege (some level) } }

@[simp]
theorem ownValue_setForumWideDefaultPrivilegeLevel (r : RequiredPrivileges)
    (privilege : ForumWideDefaultPrivilegeDuration) (level : PrivilegeDefaultLevel) (query : PrivilegeQuery) :
    ownValue (setForumWideDefaultPrivilegeLevel r privilege level) query = ownValue r query := by
  cases query <;> rfl

theorem forumWideDefaultPrivilegeDuration_setForumWideDefaultPrivilegeLevel (r : RequiredPrivileges)
    (privilege privilege' : ForumWideDefaultPrivilegeDuration) (level : PrivilegeDefaultLevel) :
    (setForumWideDefaultPrivilegeLevel r privilege level).forumWide.forumWideDefaultPrivilegeDuration privilege' =
      if privilege' = privilege then some level
      else r.forumWide.forumWideDefaultPrivilegeDuration privilege' :=
  Function.update_apply _ _ _ _

/-- The id a question names; forum wide ones name none. -/
def privilegeEntityId : PrivilegeQuery → Option IdType
  | .message id _ | .threadMessages id _ | .thread id _ | .tagMessages id _ | .tagThreads id _ | .tag id _
  | .category id _ => some id
  | .forumWideMessages _ | .forumWideThreads _ | .forumWideTags _ | .forumWideCategories _ | .forumWide _ => none

instance decidablePrivilegeQueryExists (s : Store) : (query : PrivilegeQuery) → Decidable (query.Exists s)
  | .message id _ => inferInstanceAs (Decidable (id ∈ s.allMessages))
  | .threadMessages id _ | .thread id _ => inferInstanceAs (Decidable (id ∈ s.allThreads))
  | .tagMessages id _ | .tagThreads id _ | .tag id _ => inferInstanceAs (Decidable (id ∈ s.tags))
  | .category id _ => inferInstanceAs (Decidable (id ∈ s.categories))
  | .forumWideMessages _ | .forumWideThreads _ | .forumWideTags _ | .forumWideCategories _ | .forumWide _ =>
    inferInstanceAs (Decidable True)

/-- The privilege to adjust privileges that an assignment at a level takes; its entity is the one the grant is
for. -/
def adjustPrivilegeAt : PrivilegeLevel → PrivilegeQuery
  | ⟨.discussionThreadMessage, id⟩ => .message id .adjustPrivilege
  | ⟨.discussionThread, id⟩ => .thread id .adjustPrivilege
  | ⟨.discussionTag, id⟩ => .tag id .adjustPrivilege
  | ⟨.discussionCategory, id⟩ => .category id .adjustPrivilege
  | ⟨.forumWide, _⟩ => .forumWide .adjustForumWidePrivilege

/-! ### Direct writes -/

/-- What the requests of the repository write. -/
inductive AuthorizationOperation
  | changeRequiredPrivilege (query : PrivilegeQuery) (value : PrivilegeValueIntType)
  | changeForumWideDefaultPrivilegeLevel (privilege : ForumWideDefaultPrivilegeDuration)
      (value : PrivilegeValueIntType) (duration : PrivilegeDurationIntType)
  | assignPrivilege (level : PrivilegeLevel) (userId : IdType) (value : PrivilegeValueIntType)
      (duration : PrivilegeDurationIntType)

namespace AuthorizationOperation

/-- The check of the arguments. That of a default level applies the test for durations to the value, and no
test to the duration. -/
def isValid : AuthorizationOperation → Bool
  | .changeRequiredPrivilege query value => privilegeEntityId query ≠ some 0 ∧ isValidPrivilegeValue value
  | .changeForumWideDefaultPrivilegeLevel _ value _ => isValidPrivilegeDuration value.toInt
  | .assignPrivilege level userId value duration =>
    ¬isAnonymousUserId userId ∧ privilegeEntityId (adjustPrivilegeAt level) ≠ some 0 ∧ isValidPrivilegeValue value ∧
      isValidPrivilegeDuration duration

/-- Are the entity and the user there? -/
def isFound (s : PrivilegedCollection) : AuthorizationOperation → Bool
  | .changeRequiredPrivilege query _ => query.Exists s.toStore
  | .changeForumWideDefaultPrivilegeLevel _ _ _ => true
  | .assignPrivilege level userId _ _ => (adjustPrivilegeAt level).Exists s.toStore ∧ userId ∈ s.users

/-- What an operation changes once its arguments were checked and found. -/
def apply (ctx : Context) (s : PrivilegedCollection) : AuthorizationOperation → PrivilegedCollection
  | .changeRequiredPrivilege query value => { s with required := setValue s.required value query }
  | .changeForumWideDefaultPrivilegeLevel privilege value duration =>
    { s with required := setForumWideDefaultPrivilegeLevel s.required privilege ⟨value, duration⟩ }
  | .assignPrivilege level userId value duration =>
    let expiresAt := calculatePrivilegeExpires ctx.currentTime duration
    { s with granted := s.granted.grant userId value ctx.currentTime expiresAt level }

/-- Perform a direct write. -/
def perform (ctx : Context) (s : PrivilegedCollection) (op : AuthorizationOperation) :
    StatusCode × PrivilegedCollection :=
  if ¬op.isValid then (.invalidParameters, s)
  else if op.isFound s then (.ok, op.apply ctx s)
  else (.notFound, s)

/-- The question that is put to authorization. -/
def question (s : PrivilegedCollection) : AuthorizationOperation → AuthorizationQuestion
  | .changeRequiredPrivilege query value => .updatePrivilege query (ownValue s.required query) value
  | .changeForumWideDefaultPrivilegeLevel privilege value duration =>
    .updateForumWideDefaultPrivilegeLevel privilege value duration
  | .assignPrivilege ⟨.discussionThreadMessage, id⟩ userId value _ =>
    .assignDiscussionThreadMessagePrivilege id userId value
  | .assignPrivilege ⟨.discussionThread, id⟩ userId value _ => .assignDiscussionThreadPrivilege id userId value
  | .assignPrivilege ⟨.discussionTag, id⟩ userId value _ => .assignDiscussionTagPrivilege id userId value
  | .assignPrivilege ⟨.discussionCategory, id⟩ userId value _ => .assignDiscussionCategoryPrivilege id userId value
  | .assignPrivilege ⟨.forumWide, _⟩ userId value _ => .assignForumWidePrivilege userId value

end AuthorizationOperation

/-- The requests of `MemoryRepositoryAuthorization`. -/
inductive AuthorizationRequest
  | changeDiscussionThreadMessageRequiredPrivilegeForThreadMessage (messageId : IdType)
      (privilege : DiscussionThreadMessagePrivilege) (value : PrivilegeValueIntType)
  | assignDiscussionThreadMessagePrivilege (messageId userId : IdType) (value : PrivilegeValueIntType)
      (duration : PrivilegeDurationIntType)
  | changeDiscussionThreadMessageRequiredPrivilegeForThread (threadId : IdType)
      (privilege : DiscussionThreadMessagePrivilege) (value : PrivilegeValueIntType)
  | changeDiscussionThreadRequiredPrivilegeForThread (threadId : IdType) (privilege : DiscussionThreadPrivilege)
      (value : PrivilegeValueIntType)
  | assignDiscussionThreadPrivilege (threadId userId : IdType) (value : PrivilegeValueIntType)
      (duration : PrivilegeDurationIntType)
  | changeDiscussionThreadMessageRequiredPrivilegeForTag (tagId : IdType)
      (privilege : DiscussionThreadMessagePrivilege) (value : PrivilegeValueIntType)
  | changeDiscussionThreadRequiredPrivilegeForTag (tagId : IdType) (privilege : DiscussionThreadPrivilege)
      (value : PrivilegeValueIntType)
  | changeDiscussionTagRequiredPrivilegeForTag (tagId : IdType) (privilege : DiscussionTagPrivilege)
      (value : PrivilegeValueIntType)
  | assignDiscussionTagPrivilege (tagId userId : IdType) (value : PrivilegeValueIntType)
      (duration : PrivilegeDurationIntType)
  | changeDiscussionCategoryRequiredPrivilegeForCategory (categoryId : IdType)
      (privilege : DiscussionCategoryPrivilege) (value : PrivilegeValueIntType)
  | assignDiscussionCategoryPrivilege (categoryId userId : IdType) (value : PrivilegeValueIntType)
      (duration : PrivilegeDurationIntType)
  | changeDiscussionThreadMessageRequiredPrivilege (privilege : DiscussionThreadMessagePrivilege)
      (value : PrivilegeValueIntType)
  | changeDiscussionThreadRequiredPrivilege (privilege : DiscussionThreadPrivilege) (value : PrivilegeValueIntType)
  | changeDiscussionTagRequiredPrivilege (privilege : DiscussionTagPrivilege) (value : PrivilegeValueIntType)
  | changeDiscussionCategoryRequiredPrivilege (privilege : DiscussionCategoryPrivilege)
      (value : PrivilegeValueIntType)
  | changeForumWideRequiredPrivilege (privilege : ForumWidePrivilege) (value : PrivilegeValueIntType)
  | changeForumWideDefaultPrivilegeLevel (privilege : ForumWideDefaultPrivilegeDuration)
      (value : PrivilegeValueIntType) (duration : PrivilegeDurationIntType)
  | assignForumWidePrivilege (userId : IdType) (value : PrivilegeValueIntType) (duration : PrivilegeDurationIntType)

/-- What a request writes. -/
def AuthorizationRequest.operation : AuthorizationRequest → AuthorizationOperation
  | changeDiscussionThreadMessageRequiredPrivilegeForThreadMessage id privilege value =>
    .changeRequiredPrivilege (.message id privilege) value
  | assignDiscussionThreadMessagePrivilege id userId value duration =>
    .assignPrivilege ⟨.discussionThreadMessage, id⟩ userId value duration
  | changeDiscussionThreadMessageRequiredPrivilegeForThread id privilege value =>
    .changeRequiredPrivilege (.threadMessages id privilege) value
  | changeDiscussionThreadRequiredPrivilegeForThread id privilege value =>
    .changeRequiredPrivilege (.thread id privilege) value
  | assignDiscussionThreadPrivilege id userId value duration =>
    .assignPrivilege ⟨.discussionThread, id⟩ userId value duration
  | changeDiscussionThreadMessageRequiredPrivilegeForTag id privilege value =>
    .changeRequiredPrivilege (.tagMessages id privilege) value
  | changeDiscussionThreadRequiredPrivilegeForTag id privilege value =>
    .changeRequiredPrivilege (.tagThreads id privilege) value
  | changeDiscussionTagRequiredPrivilegeForTag id privilege value => .changeRequiredPrivilege (.tag id privilege) value
  | assignDiscussionTagPrivilege id userId value duration => .assignPrivilege ⟨.discussionTag, id⟩ userId value duration
  | changeDiscussionCategoryRequiredPrivilegeForCategory id privilege value =>
    .changeRequiredPrivilege (.category id privilege) value
  | assignDiscussionCategoryPrivilege id userId value duration =>
    .assignPrivilege ⟨.discussionCategory, id⟩ userId value duration
  | changeDiscussionThreadMessageRequiredPrivilege privilege value =>
    .changeRequiredPrivilege (.forumWideMessages privilege) value
  | changeDiscussionThreadRequiredPrivilege privilege value =>
    .changeRequiredPrivilege (.forumWideThreads privilege) value
  | changeDiscussionTagRequiredPrivilege privilege value => .changeRequiredPrivilege (.forumWideTags privilege) value
  | changeDiscussionCategoryRequiredPrivilege privilege value =>
    .changeRequiredPrivilege (.forumWideCategories privilege) value
  | changeForumWideRequiredPrivilege privilege value => .changeRequiredPrivilege (.forumWide privilege) value
  | changeForumWideDefaultPrivilegeLevel privilege value duration =>
    .changeForumWideDefaultPrivilegeLevel privilege value duration
  | assignForumWidePrivilege userId value duration => .assignPrivilege .forumWide userId value duration

/-! ### Requests -/

/-- The collection and its authorization. -/
structure ForumState where
  collection : PrivilegedCollection
  authorization : DefaultAuthorization

/-- The events of the authorization repository, and those that stand for direct writes of the others. -/
inductive ForumEvent
  | content (op : Operation)
  | authorization (op : AuthorizationOperation)

/-- What a request answers with. -/
structure ForumResponse where
  status : RequestStatus
  state : ForumState
  events : List ForumEvent := []
  /-- What the direct write answered that makes the grant for a new thread or message, or for the first user. -/
  grantStatus : Option StatusCode := none

/-- The configured limits of user names, threads and messages, and the users a content refers to, each once. -/
structure ContentEnvironment extends Environment where
  minUserNameLength : ℕ
  maxUserNameLength : ℕ
  isValidUserName : String → Bool
  minNameLength : ℕ
  maxNameLength : ℕ
  minContentLength : ℕ
  maxContentLength : ℕ
  extractUuidReferences : String → List IdType

/-- `StatusWriter::operator=` for the answer of authorization. -/
def RequestStatus.ofAuthorization : AuthorizationStatus → RequestStatus
  | .ok => .ok
  | .notAllowed => .unauthorized
  | .throttled => .throttled

namespace ForumState

variable (env : ContentEnvironment) (ctx : Context) (state : ForumState)

/-- The state once the performer's last seen time is up to date: the one authorization is asked about. -/
def seen : ForumState :=
  { state with collection := { state.collection with
      toEntityCollection := getAndUpdate env.toEnvironment ctx state.collection.toEntityCollection } }

/-- The user the request is performed by. -/
def currentUser : IdType := getCurrentUser ctx state.collection.toEntityCollection

/-- Ask authorization. -/
def authorize (question : AuthorizationQuestion) : RequestStatus × ForumState :=
  let (status, authorization) := state.authorization.authorize state.collection ctx (state.currentUser ctx) question
  (.ofAuthorization status, { state with authorization := authorization })

/-- Perform a direct write of another repository. -/
def perform (op : Operation) : StatusCode × ForumState :=
  let (code, s) := op.perform ctx state.collection.toEntityCollection
  (code, { state with collection := { state.collection with toEntityCollection := s } })

/-- What a registered user is granted for something it has created: the configured level, if there is one. What
the direct write answers is not looked at, and its event is emitted in any case. -/
def grantDefaultLevel (privilege : ForumWideDefaultPrivilegeDuration) (level : PrivilegeLevel) :
    ForumState × List ForumEvent × Option StatusCode :=
  let user := state.currentUser ctx
  if isAnonymousUserId user then (state, [], none)
  else match state.collection.required.forumWide.forumWideDefaultPrivilegeDuration privilege with
    | none => (state, [], none)
    | some levelToGrant =>
      let op := .assignPrivilege level user levelToGrant.value levelToGrant.duration
      let (code, collection) := AuthorizationOperation.perform ctx state.collection op
      ({ state with collection := collection }, [.authorization op], some code)

end ForumState

/-- The requests that concern privileges, and what any other request does to the store. The ids are those that
`generateUniqueId` gives out. -/
inductive ForumRequest
  | authorization (request : AuthorizationRequest)
  | addNewUser (id : IdType) (name : NameType) (auth : String)
  | addNewDiscussionThread (id : IdType) (name : NameType)
  | addNewDiscussionMessageInThread (id threadId : IdType) (content : String)
  | content (op : Operation)

section

variable (env : ContentEnvironment) (ctx : Context) (state : ForumState)

/-- A request of the authorization repository. -/
def AuthorizationRequest.perform (request : AuthorizationRequest) : ForumResponse :=
  let op := request.operation
  if ¬op.isValid then ⟨.invalidParameters, state, [], none⟩
  else
    let state := state.seen env ctx
    if ¬op.isFound state.collection then ⟨.notFound, state, [], none⟩
    else
      let (status, state) := state.authorize ctx (op.question state.collection)
      if status ≠ .ok then ⟨status, state, [], none⟩
      else
        let (code, collection) := op.perform ctx state.collection
        ⟨.directWrite code, { state with collection := collection }, [.authorization op], none⟩

namespace MemoryRepositoryUser

/-- The request `addNewUser`, which only visitors may make. -/
def addNewUser (id : IdType) (name : NameType) (auth : String) : ForumResponse :=
  let validationCode := validateString env.toEnvironment name.string false (some env.minUserNameLength)
    (some env.maxUserNameLength) env.isValidUserName
  if auth.isEmpty then ⟨.invalidParameters, state, [], none⟩
  else if validationCode ≠ .ok then ⟨validationCode, state, [], none⟩
  else
    let state := state.seen env ctx
    if ¬isAnonymousUserId (state.currentUser ctx) then ⟨.unauthorized, state, [], none⟩
    else
      let (status, state) := state.authorize ctx .addNewUser
      if status ≠ .ok then ⟨status, state, [], none⟩
      else if state.collection.uniqueContains .usersByName (.text name) then ⟨.alreadyExists, state, [], none⟩
      else
        let op := .addNewUser id name auth
        let (code, state) := state.perform ctx op
        if code ≠ .ok then ⟨.directWrite code, state, [], none⟩
        else if state.collection.users.card = 1 then
          -- the first user is granted all privileges
          let grant := .assignPrivilege .forumWide id MaxPrivilegeValue UnlimitedDuration
          let (code, collection) := AuthorizationOperation.perform ctx state.collection grant
          ⟨.ok, { state with collection := collection }, [.content op, .authorization grant], some code⟩
        else ⟨.ok, state, [.content op], none⟩

end MemoryRepositoryUser

namespace MemoryRepositoryDiscussionThread

/-- The request `addNewDiscussionThread`. -/
def addNewDiscussionThread (id : IdType) (name : NameType) : ForumResponse :=
  let validationCode := validateString env.toEnvironment name.string false (some env.minNameLength)
    (some env.maxNameLength) env.doesNotContainLeadingOrTrailingWhitespace
  if validationCode ≠ .ok then ⟨validationCode, state, [], none⟩
  else
    let (status, state) := (state.seen env ctx).authorize ctx .addNewDiscussionThread
    if status ≠ .ok then ⟨status, state, [], none⟩
    else
      let approved := (state.authorize ctx .autoApproveDiscussionThread).1 = .ok
      let op := .addNewDiscussionThread id name approved
      let (code, state) := state.perform ctx op
      if code ≠ .ok then ⟨.directWrite code, state, [], none⟩
      else
        let (state, events, grantStatus) := state.grantDefaultLevel ctx .createDiscussionThread ⟨.discussionThread, id⟩
        ⟨.ok, state, .content op :: events, grantStatus⟩

end MemoryRepositoryDiscussionThread

namespace MemoryRepositoryDiscussionThreadMessage

/-- One of the users a new message quotes. -/
def quoteUser (message : IdType) (result : ForumState × List ForumEvent) (user : IdType) :
    ForumState × List ForumEvent :=
  let op := .quoteUserInMessage message user
  let (code, state) := result.1.perform ctx op
  (state, if code = .ok then result.2 ++ [.content op] else result.2)

/-- The request `addNewDiscussionMessageInThread`. -/
def addNewDiscussionMessageInThread (id threadId : IdType) (content : String) : ForumResponse :=
  let validationCode := validateString env.toEnvironment content false (some env.minContentLength)
    (some env.maxContentLength) env.doesNotContainLeadingOrTrailingWhitespace
  if threadId = 0 then ⟨.invalidParameters, state, [], none⟩
  else if validationCode ≠ .ok then ⟨validationCode, state, [], none⟩
  else
    let state := state.seen env ctx
    if threadId ∉ state.collection.allThreads then ⟨.notFound, state, [], none⟩
    else
      let (status, state) := state.authorize ctx (.addNewDiscussionMessageInThread threadId)
      if status ≠ .ok then ⟨status, state, [], none⟩
      else
        let alreadySubscribed := threadId ∈ state.collection.userSubscribedThreads (state.currentUser ctx)
        let approved := (state.authorize ctx (.autoApproveDiscussionMessageInThread threadId)).1 = .ok
        let op := .addNewDiscussionMessageInThread id threadId approved (.text content)
        let (code, state) := state.perform ctx op
        if code ≠ .ok then ⟨.directWrite code, state, [], none⟩
        else
          let subscribed := if alreadySubscribed then [] else [.content (.subscribeToDiscussionThread threadId)]
          let (state, events, grantStatus) :=
            state.grantDefaultLevel ctx .createDiscussionThreadMessage ⟨.discussionThreadMessage, id⟩
          let (state, events) := (env.extractUuidReferences content).foldl (quoteUser ctx id)
            (state, .content op :: subscribed ++ events)
          ⟨.ok, state, events, grantStatus⟩

end MemoryRepositoryDiscussionThreadMessage

/-- Answer a request. -/
def ForumRequest.perform : ForumRequest → ForumResponse
  | .authorization request => request.perform env ctx state
  | .addNewUser id name auth => MemoryRepositoryUser.addNewUser env ctx state id name auth
  | .addNewDiscussionThread id name => MemoryRepositoryDiscussionThread.addNewDiscussionThread env ctx state id name
  | .addNewDiscussionMessageInThread id threadId text =>
    MemoryRepositoryDiscussionThreadMessage.addNewDiscussionMessageInThread env ctx state id threadId text
  | .content op =>
    let (code, state) := state.perform ctx op
    ⟨.directWrite code, state, [], none⟩

end

/-! ### Runs -/

/-- What a forum starts with: what the configuration requires and grants, and how it authorizes. -/
structure Configuration where
  forumWide : ForumWidePrivilegeStore
  defaultPrivilegeValueForLoggedInUser : PrivilegeValueIntType
  messageCountPrivilegeBonus : ℕ → PrivilegeValueIntType
  maxMessageCountPrivilegeBonus : PrivilegeValueIntType
  authorization : DefaultAuthorization

/-- The empty store under a configuration. -/
def Configuration.initial (config : Configuration) : ForumState where
  collection :=
    { EntityCollection.empty with
      required := { forumWide := config.forumWide }
      granted :=
        { defaultPrivilegeValueForLoggedInUser := config.defaultPrivilegeValueForLoggedInUser
          messageCountPrivilegeBonus := config.messageCountPrivilegeBonus
          maxMessageCountPrivilegeBonus := config.maxMessageCountPrivilegeBonus } }
  authorization := config.authorization

/-- What the callers of a request promise: new ids were never given out. -/
def ForumRequest.Callable (s : EntityCollection) : ForumRequest → Prop
  | .authorization _ => True
  | .addNewUser id _ _ | .addNewDiscussionThread id _ | .addNewDiscussionMessageInThread id _ _ =>
    id ≠ 0 ∧ id ∉ s.issuedIds
  | .content op => Repository.Callable s op

instance ForumRequest.decidableCallable (s : EntityCollection) : (request : ForumRequest) → Decidable (request.Callable s)
  | .authorization _ => inferInstanceAs (Decidable True)
  | .addNewUser id _ _ | .addNewDiscussionThread id _ | .addNewDiscussionMessageInThread id _ _ =>
    inferInstanceAs (Decidable (id ≠ 0 ∧ id ∉ s.issuedIds))
  | .content op => inferInstanceAs (Decidable (Repository.Callable s op))

/-- Is a request of the authorization repository accepted? -/
def AuthorizationOperation.Accepted (env : ContentEnvironment) (ctx : Context) (state : ForumState)
    (op : AuthorizationOperation) : Prop :=
  op.isValid ∧ op.isFound (state.seen env ctx).collection ∧
    ((state.seen env ctx).authorize ctx (op.question (state.seen env ctx).collection)).1 = .ok

instance AuthorizationOperation.decidableAccepted (env : ContentEnvironment) (ctx : Context) (state : ForumState)
    (op : AuthorizationOperation) : Decidable (op.Accepted env ctx state) :=
  inferInstanceAs (Decidable (_ ∧ _ ∧ _))

/-- The level with which the performer of a request may adjust privileges, if it may. -/
def adjustLevel (env : ContentEnvironment) (ctx : Context) (state : ForumState) (query : PrivilegeQuery) :
    PrivilegeValueType :=
  (state.seen env ctx).collection.isAllowed ((state.seen env ctx).currentUser ctx) query ctx.currentTime

/-- With which level each default level was configured; nothing for those of the configuration. -/
abbrev ConfiguredWith := ForumWideDefaultPrivilegeDuration → PrivilegeValueType

/-- An accepted request for a default level configures it with the level of its performer. -/
def ConfiguredWith.after (env : ContentEnvironment) (ctx : Context) (state : ForumState)
    (configuredWith : ConfiguredWith) : ForumRequest → ConfiguredWith
  | .authorization (.changeForumWideDefaultPrivilegeLevel privilege value duration) =>
    if (AuthorizationOperation.changeForumWideDefaultPrivilegeLevel privilege value duration).Accepted env ctx state then
      Function.update configuredWith privilege (adjustLevel env ctx state (.forumWide .adjustForumWidePrivilege))
    else configuredWith
  | _ => configuredWith

/-- The states that runs of admissible requests lead to, by any users at any times, and with which level each default
level was configured there. -/
inductive ForumReachable (env : ContentEnvironment) (config : Configuration)
    (admissible : Context → ForumState → ForumRequest → Prop) : ForumState → ConfiguredWith → Prop
  /-- A run starts with the empty store. -/
  | start : ForumReachable env config admissible config.initial fun _ => none
  /-- A run goes on with a further request. -/
  | step {state : ForumState} {configuredWith : ConfiguredWith} (ctx : Context) (request : ForumRequest)
      (reached : ForumReachable env config admissible state configuredWith)
      (callable : request.Callable state.collection.toEntityCollection) (admitted : admissible ctx state request) :
      ForumReachable env config admissible (request.perform env ctx state).state
        (configuredWith.after env ctx state request)

end Forum.Repository
