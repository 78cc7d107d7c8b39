import Forum.Repository.AuthorizationRequests

/-!
# The requests that change threads and messages

The public operations of the thread and message repositories that change threads, messages or the texts they
consist of, and the one that deletes a user with all that the user has created. They are answered as those of
the other repositories are; what is new here is what observers see of them. An event hands its observers
references to entities, so that they read the store as it is when the event is emitted: after the direct write,
or before it where entities are deleted, merged or moved.
-/

namespace Forum.Repository

open Forum.Library Forum.Entities Forum.Authorization

/-- An event, with the store its observers read. -/
structure Emission where
  event : ForumEvent
  store : EntityCollection

/-- What a request answers with, and what it has emitted, in order. -/
structure ContentResponse where
  status : RequestStatus
  state : ForumState
  emissions : List Emission := []

/-- The configured limits of the reasons for changing a message. -/
structure ChangeReasonConfig where
  minChangeReasonLength : ℕ
  maxChangeReasonLength : ℕ

/-- The requests that change threads and messages. The ids of new ones are those that `generateUniqueId` gives
out. -/
inductive ContentRequest
  | addNewDiscussionThread (id : IdType) (name : NameType)
  | changeDiscussionThreadName (id : IdType) (newName : NameType)
  | changeDiscussionThreadPinDisplayOrder (id : IdType) (newValue : ℕ)
  | changeDiscussionThreadApproval (id : IdType) (newApproval : Bool)
  | deleteDiscussionThread (id : IdType)
  | mergeDiscussionThreads (fromId intoId : IdType)
  | addNewDiscussionMessageInThread (id threadId : IdType) (content : String)
  | deleteDiscussionMessage (id : IdType)
  | changeDiscussionThreadMessageContent (id : IdType) (newContent changeReason : String)
  | changeDiscussionThreadMessageApproval (id : IdType) (newApproval : Bool)
  | moveDiscussionThreadMessage (messageId intoThreadId : IdType)
  | deleteUser (id : IdType)

/-- Emit an event about the store as it is. -/
def ForumState.emit (state : ForumState) (op : Operation) : Emission :=
  ⟨.content op, state.collection.toEntityCollection⟩

section

variable (env : ContentEnvironment) (config : ChangeReasonConfig) (ctx : Context) (state : ForumState)

/-- A request about entities of the store. -/
structure EntityRequest where
  /-- What becomes of the arguments, before the lock is taken. -/
  validation : RequestStatus
  /-- Looking up the entities. -/
  checks : EntityCollection → RequestStatus
  question : AuthorizationQuestion
  operation : Operation
  /-- Is the event emitted before the direct write? -/
  announcedFirst : Bool

/-- Answer a request about entities of the store. What happens between a direct write and its event is an
argument. -/
def EntityRequest.perform (r : EntityRequest) (followUp : ForumState → ForumState × List Emission) : ContentResponse :=
  if r.validation ≠ .ok then ⟨r.validation, state, []⟩
  else
    let state := state.seen env ctx
    let found := r.checks state.collection.toEntityCollection
    if found ≠ .ok then ⟨found, state, []⟩
    else
      let (status, state) := state.authorize ctx r.question
      if status ≠ .ok then ⟨status, state, []⟩
      else
        let (code, written) := state.perform ctx r.operation
        if r.announcedFirst then ⟨.directWrite code, written, [state.emit r.operation]⟩
        else if code ≠ .ok then ⟨.directWrite code, written, []⟩
        else
          let (written, emissions) := followUp written
          ⟨.ok, written, emissions ++ [written.emit r.operation]⟩

/-- The direct write of a request is made, in a state whose store is the one its checks have seen, and accepted. -/
structure EntityRequest.Written (r : EntityRequest) (asked written : ForumState) : Prop where
  checked : r.checks (state.seen env ctx).collection.toEntityCollection = .ok
  store_asked : asked.collection.toEntityCollection = (state.seen env ctx).collection.toEntityCollection
  accepted : (r.operation.perform ctx asked.collection.toEntityCollection).1 = .ok
  store_written : written.collection.toEntityCollection = (r.operation.perform ctx asked.collection.toEntityCollection).2

/-- How an accepted request goes. -/
theorem EntityRequest.perform_accepted (r : EntityRequest) (followUp : ForumState → ForumState × List Emission)
    (h : (r.perform env ctx state followUp).status = .ok) :
    r.validation = .ok ∧ ∃ asked written, r.Written env ctx state asked written ∧
      r.perform env ctx state followUp =
        if r.announcedFirst then ⟨.ok, written, [asked.emit r.operation]⟩
        else ⟨.ok, (followUp written).1, (followUp written).2 ++ [(followUp written).1.emit r.operation]⟩ := by
  by_cases hvalid : r.validation = .ok
  · by_cases hchecked : r.checks (state.seen env ctx).collection.toEntityCollection = .ok
    · rcases hauthorize : (state.seen env ctx).authorize ctx r.question with ⟨status, asked⟩
      have hasked : asked.collection.toEntityCollection = (state.seen env ctx).collection.toEntityCollection := by
        rw [← congrArg (fun result : RequestStatus × ForumState => result.2.collection.toEntityCollection) hauthorize]
        rfl
      by_cases hstatus : status = .ok
      · by_cases hcode : (r.operation.perform ctx asked.collection.toEntityCollection).1 = .ok
        · refine ⟨hvalid, asked, (asked.perform ctx r.operation).2, ⟨hchecked, hasked, hcode, rfl⟩, ?_⟩
          simp [perform, hvalid, hchecked, hauthorize, hstatus, hcode, ForumState.perform]
        · refine absurd h ?_
          by_cases hfirst : r.announcedFirst <;>
            simp [perform, hvalid, hchecked, hauthorize, hstatus, hcode, ForumState.perform, hfirst]
      · simp [perform, hvalid, hchecked, hauthorize, hstatus] at h
    · simp [perform, hvalid, hchecked] at h
  · simp [perform, hvalid] at h

/-- Nothing happens between the direct write and its event. -/
def noFollowUp (state : ForumState) : ForumState × List Emission := (state, [])

/-- What a registered user is granted for something it has created, as `grantDefaultLevel` has it, and the event
of it. -/
def ForumState.emitDefaultLevel (privilege : ForumWideDefaultPrivilegeDuration) (level : PrivilegeLevel) :
    ForumState × List Emission :=
  let (state, events, _) := state.grantDefaultLevel ctx privilege level
  (state, events.map fun event => ⟨event, state.collection.toEntityCollection⟩)

namespace MemoryRepositoryDiscussionThread

/-- Look a thread up. -/
def findThread (id : IdType) (s : EntityCollection) : RequestStatus := if id ∈ s.allThreads then .ok else .notFound

/-- The validation of a thread's name. -/
def validateName (name : NameType) : RequestStatus :=
  validateString env.toEnvironment name.string false (some env.minNameLength) (some env.maxNameLength)
    env.doesNotContainLeadingOrTrailingWhitespace

/-- The request `addNewDiscussionThread`, with what its observers see. -/
def emitNewDiscussionThread (id : IdType) (name : NameType) : ContentResponse :=
  if validateName env name ≠ .ok then ⟨validateName env name, state, []⟩
  else
    let (status, state) := (state.seen env ctx).authorize ctx .addNewDiscussionThread
    if status ≠ .ok then ⟨status, state, []⟩
    else
      let approved := (state.authorize ctx .autoApproveDiscussionThread).1 = .ok
      let op := .addNewDiscussionThread id name approved
      let (code, state) := state.perform ctx op
      if code ≠ .ok then ⟨.directWrite code, state, []⟩
      else
        let added := state.emit op
        let (state, granted) := state.emitDefaultLevel ctx .createDiscussionThread ⟨.discussionThread, id⟩
        ⟨.ok, state, added :: granted⟩

/-- `changeDiscussionThreadName`. -/
def changeDiscussionThreadName (id : IdType) (newName : NameType) : EntityRequest where
  validation := validateName env newName
  checks := findThread id
  question := .changeDiscussionThreadName id
  operation := .changeDiscussionThreadName id newName
  announcedFirst := false

/-- `changeDiscussionThreadPinDisplayOrder`. -/
def changeDiscussionThreadPinDisplayOrder (id : IdType) (newValue : ℕ) : EntityRequest where
  validation := .ok
  checks := findThread id
  question := .changeDiscussionThreadPinDisplayOrder id
  operation := .changeDiscussionThreadPinDisplayOrder id newValue
  announcedFirst := false

/-- `changeDiscussionThreadApproval`. -/
def changeDiscussionThreadApproval (id : IdType) (newApproval : Bool) : EntityRequest where
  validation := .ok
  checks := findThread id
  question := .changeDiscussionThreadApproval id
  operation := .changeDiscussionThreadApproval id newApproval
  announcedFirst := false

/-- Announced while the thread is still there. -/
def deleteDiscussionThread (id : IdType) : EntityRequest where
  validation := if id = 0 then .invalidParameters else .ok
  checks := findThread id
  question := .deleteDiscussionThread id
  operation := .deleteDiscussionThread id
  announcedFirst := true

/-- Announced while the messages are still in the thread they come from. -/
def mergeDiscussionThreads (fromId intoId : IdType) : EntityRequest where
  validation :=
    if fromId = 0 ∨ intoId = 0 then .invalidParameters
    else if fromId = intoId then .noEffect
    else .ok
  checks s := if fromId ∈ s.allThreads ∧ intoId ∈ s.allThreads then .ok else .notFound
  question := .mergeDiscussionThreads fromId intoId
  operation := .mergeDiscussionThreads fromId intoId
  announcedFirst := true

end MemoryRepositoryDiscussionThread

namespace MemoryRepositoryDiscussionThreadMessage

/-- Look a message up. -/
def findMessage (id : IdType) (s : EntityCollection) : RequestStatus := if id ∈ s.allMessages then .ok else .notFound

/-- The validation of a message's content. -/
def validateContent (content : String) : RequestStatus :=
  validateString env.toEnvironment content false (some env.minContentLength) (some env.maxContentLength)
    env.doesNotContainLeadingOrTrailingWhitespace

/-- One of the users a message quotes. -/
def emitQuote (message : IdType) (result : ForumState × List Emission) (user : IdType) : ForumState × List Emission :=
  let op := .quoteUserInMessage message user
  let (code, state) := result.1.perform ctx op
  (state, if code = .ok then result.2 ++ [state.emit op] else result.2)

/-- The request `addNewDiscussionMessageInThread`, with what its observers see. -/
def emitNewDiscussionMessageInThread (id threadId : IdType) (content : String) : ContentResponse :=
  if threadId = 0 then ⟨.invalidParameters, state, []⟩
  else if validateContent env content ≠ .ok then ⟨validateContent env content, state, []⟩
  else
    let state := state.seen env ctx
    if threadId ∉ state.collection.allThreads then ⟨.notFound, state, []⟩
    else
      let (status, state) := state.authorize ctx (.addNewDiscussionMessageInThread threadId)
      if status ≠ .ok then ⟨status, state, []⟩
      else
        let alreadySubscribed := threadId ∈ state.collection.userSubscribedThreads (state.currentUser ctx)
        let approved := (state.authorize ctx (.autoApproveDiscussionMessageInThread threadId)).1 = .ok
        let op := .addNewDiscussionMessageInThread id threadId approved (.text content)
        let (code, state) := state.perform ctx op
        if code ≠ .ok then ⟨.directWrite code, state, []⟩
        else
          let added := state.emit op
          let subscribed := if alreadySubscribed then [] else [state.emit (.subscribeToDiscussionThread threadId)]
          let (state, granted) :=
            state.emitDefaultLevel ctx .createDiscussionThreadMessage ⟨.discussionThreadMessage, id⟩
          let (state, emissions) := (env.extractUuidReferences content).foldl (emitQuote ctx id)
            (state, added :: subscribed ++ granted)
          ⟨.ok, state, emissions⟩

/-- Announced while the message is still there. -/
def deleteDiscussionMessage (id : IdType) : EntityRequest where
  validation := if id = 0 then .invalidParameters else .ok
  checks := findMessage id
  question := .deleteDiscussionMessage id
  operation := .deleteDiscussionMessage id
  announcedFirst := true

/-- A reason may be left out when reasons have no minimum length. -/
def changeDiscussionThreadMessageContent (id : IdType) (newContent changeReason : String) : EntityRequest where
  validation :=
    if validateContent env newContent ≠ .ok then validateContent env newContent
    else
      validateString env.toEnvironment changeReason (config.minChangeReasonLength = 0)
        (some config.minChangeReasonLength) (some config.maxChangeReasonLength)
        env.doesNotContainLeadingOrTrailingWhitespace
  checks := findMessage id
  question := .changeDiscussionThreadMessageContent id
  operation := .changeDiscussionThreadMessageContent id newContent changeReason
  announcedFirst := false

/-- The users the new content refers to are quoted, unless the content of the message refers to them; by then it
is the new one. -/
def quoteNewReferences (id : IdType) (newContent : String) (state : ForumState) : ForumState × List Emission :=
  let newQuotedIds := env.extractUuidReferences newContent
  let oldQuotedIds := env.extractUuidReferences (state.collection.message id).content
  (newQuotedIds.filter (· ∉ oldQuotedIds)).foldl (emitQuote ctx id) (state, [])

/-- `changeDiscussionThreadMessageApproval`. -/
def changeDiscussionThreadMessageApproval (id : IdType) (newApproval : Bool) : EntityRequest where
  validation := .ok
  checks := findMessage id
  question := .changeDiscussionThreadMessageApproval id
  operation := .changeDiscussionThreadMessageApproval id newApproval
  announcedFirst := false

/-- Announced while the message is still in the thread it comes from. -/
def moveDiscussionThreadMessage (messageId intoThreadId : IdType) : EntityRequest where
  validation := if messageId = 0 ∨ intoThreadId = 0 then .invalidParameters else .ok
  checks s :=
    if messageId ∈ s.allMessages ∧ intoThreadId ∈ s.allThreads then
      if s.messageParentThread messageId = intoThreadId then .noEffect else .ok
    else .notFound
  question := .moveDiscussionThreadMessage messageId intoThreadId
  operation := .moveDiscussionThreadMessage messageId intoThreadId
  announcedFirst := true

end MemoryRepositoryDiscussionThreadMessage

namespace MemoryRepositoryUser

/-- Announced while the user is still there. -/
def deleteUser (id : IdType) : EntityRequest where
  validation := if id = 0 then .invalidParameters else .ok
  checks s := if id ∈ s.users then .ok else .notFound
  question := .deleteUser id
  operation := .deleteUser id
  announcedFirst := true

end MemoryRepositoryUser

/-- Answer a request. -/
def ContentRequest.perform : ContentRequest → ContentResponse
  | .addNewDiscussionThread id name =>
    MemoryRepositoryDiscussionThread.emitNewDiscussionThread env ctx state id name
  | .changeDiscussionThreadName id newName =>
    (MemoryRepositoryDiscussionThread.changeDiscussionThreadName env id newName).perform env ctx state noFollowUp
  | .changeDiscussionThreadPinDisplayOrder id newValue =>
    (MemoryRepositoryDiscussionThread.changeDiscussionThreadPinDisplayOrder id newValue).perform env ctx state noFollowUp
  | .changeDiscussionThreadApproval id newApproval =>
    (MemoryRepositoryDiscussionThread.changeDiscussionThreadApproval id newApproval).perform env ctx state noFollowUp
  | .deleteDiscussionThread id =>
    (MemoryRepositoryDiscussionThread.deleteDiscussionThread id).perform env ctx state noFollowUp
  | .mergeDiscussionThreads fromId intoId =>
    (MemoryRepositoryDiscussionThread.mergeDiscussionThreads fromId intoId).perform env ctx state noFollowUp
  | .addNewDiscussionMessageInThread id threadId content =>
    MemoryRepositoryDiscussionThreadMessage.emitNewDiscussionMessageInThread env ctx state id threadId content
  | .deleteDiscussionMessage id =>
    (MemoryRepositoryDiscussionThreadMessage.deleteDiscussionMessage id).perform env ctx state noFollowUp
  | .changeDiscussionThreadMessageContent id newContent changeReason =>
    (MemoryRepositoryDiscussionThreadMessage.changeDiscussionThreadMessageContent env config id newContent
      changeReason).perform env ctx state
        (MemoryRepositoryDiscussionThreadMessage.quoteNewReferences env ctx id newContent)
  | .changeDiscussionThreadMessageApproval id newApproval =>
    (MemoryRepositoryDiscussionThreadMessage.changeDiscussionThreadMessageApproval id newApproval).perform env ctx state
      noFollowUp
  | .moveDiscussionThreadMessage messageId intoThreadId =>
    (MemoryRepositoryDiscussionThreadMessage.moveDiscussionThreadMessage messageId intoThreadId).perform env ctx state
      noFollowUp
  | .deleteUser id => (MemoryRepositoryUser.deleteUser id).perform env ctx state noFollowUp

/-! ### Additions

The requests that add threads and messages are those of the requests that concern privileges.
-/

/-- A response agrees with one that leaves out what observers read. -/
def ContentResponse.Agrees (response : ContentResponse) (response' : ForumResponse) : Prop :=
  response.status = response'.status ∧ response.state = response'.state ∧
    response.emissions.map Emission.event = response'.events

/-- A new thread is what the requests that concern privileges make of it. -/
theorem emitNewDiscussionThread_agrees (id : IdType) (name : NameType) :
    (MemoryRepositoryDiscussionThread.emitNewDiscussionThread env ctx state id name).Agrees
      (MemoryRepositoryDiscussionThread.addNewDiscussionThread env ctx state id name) := by
  unfold MemoryRepositoryDiscussionThread.emitNewDiscussionThread
    MemoryRepositoryDiscussionThread.addNewDiscussionThread MemoryRepositoryDiscussionThread.validateName
    ForumState.emitDefaultLevel ContentResponse.Agrees
  dsimp only
  split_ifs <;> simp [ForumState.emit, Function.comp_def]

/-- Quoting users is the same with and without what observers read. -/
theorem foldl_emitQuote (message : IdType) (users : List IdType) (state : ForumState) (emissions : List Emission) :
    let quoted := users.foldl (MemoryRepositoryDiscussionThreadMessage.emitQuote ctx message) (state, emissions)
    let quoted' := users.foldl (MemoryRepositoryDiscussionThreadMessage.quoteUser ctx message)
      (state, emissions.map Emission.event)
    quoted.1 = quoted'.1 ∧ quoted.2.map Emission.event = quoted'.2 := by
  induction users generalizing state emissions with
  | nil => exact ⟨rfl, rfl⟩
  | cons user users ih =>
    rw [List.foldl_cons, List.foldl_cons, MemoryRepositoryDiscussionThreadMessage.emitQuote,
      MemoryRepositoryDiscussionThreadMessage.quoteUser]
    dsimp only
    split_ifs
    · have hquoted := ih (ForumState.perform ctx state (.quoteUserInMessage message user)).2
        (emissions ++ [(ForumState.perform ctx state (.quoteUserInMessage message user)).2.emit
          (.quoteUserInMessage message user)])
      rw [List.map_append] at hquoted
      exact hquoted
    · exact ih _ _

theorem emitNewDiscussionMessageInThread_agrees (id threadId : IdType) (content : String) :
    (MemoryRepositoryDiscussionThreadMessage.emitNewDiscussionMessageInThread env ctx state id threadId content).Agrees
      (MemoryRepositoryDiscussionThreadMessage.addNewDiscussionMessageInThread env ctx state id threadId content) := by
  unfold MemoryRepositoryDiscussionThreadMessage.emitNewDiscussionMessageInThread
    MemoryRepositoryDiscussionThreadMessage.addNewDiscussionMessageInThread
    MemoryRepositoryDiscussionThreadMessage.validateContent ForumState.emitDefaultLevel ContentResponse.Agrees
  dsimp only
  split_ifs <;> simp [ForumState.emit, Function.comp_def, foldl_emitQuote]

theorem MemoryRepositoryDiscussionThread.emitNewDiscussionThread_accepted {id : IdType} {name : NameType}
    (h : (emitNewDiscussionThread env ctx state id name).status = .ok) :
    ∃ (asked : ForumState) (approved : Bool),
      asked.collection.toEntityCollection = (state.seen env ctx).collection.toEntityCollection ∧
      let written := (asked.perform ctx (.addNewDiscussionThread id name approved)).2
      let granted := written.emitDefaultLevel ctx .createDiscussionThread ⟨.discussionThread, id⟩
      emitNewDiscussionThread env ctx state id name =
        ⟨.ok, granted.1, written.emit (.addNewDiscussionThread id name approved) :: granted.2⟩ := by
  by_cases hvalid : validateName env name = .ok
  · rcases hauthorize : (state.seen env ctx).authorize ctx .addNewDiscussionThread with ⟨status, asked⟩
    by_cases hstatus : status = .ok
    · refine ⟨asked, (asked.authorize ctx .autoApproveDiscussionThread).1 = .ok, ?_, ?_⟩
      · rw [← congrArg (fun result : RequestStatus × ForumState => result.2.collection.toEntityCollection) hauthorize]
        rfl
      · simp [emitNewDiscussionThread, hvalid, hauthorize, hstatus, ForumState.perform, Operation.perform,
          Repository.addNewDiscussionThread]
    · simp [emitNewDiscussionThread, hvalid, hauthorize, hstatus] at h
  · simp [emitNewDiscussionThread, hvalid] at h

theorem MemoryRepositoryDiscussionThreadMessage.emitNewDiscussionMessageInThread_accepted {id threadId : IdType}
    {content : String} (h : (emitNewDiscussionMessageInThread env ctx state id threadId content).status = .ok) :
    ∃ (asked : ForumState) (approved subscribed : Bool),
      asked.collection.toEntityCollection = (state.seen env ctx).collection.toEntityCollection ∧
      threadId ∈ asked.collection.allThreads ∧
      let op : Operation := .addNewDiscussionMessageInThread id threadId approved (.text content)
      let written := (asked.perform ctx op).2
      let granted := written.emitDefaultLevel ctx .createDiscussionThreadMessage ⟨.discussionThreadMessage, id⟩
      let quoted := (env.extractUuidReferences content).foldl (emitQuote ctx id)
        (granted.1, written.emit op ::
          (if subscribed then [] else [written.emit (.subscribeToDiscussionThread threadId)]) ++ granted.2)
      emitNewDiscussionMessageInThread env ctx state id threadId content = ⟨.ok, quoted.1, quoted.2⟩ := by
  by_cases hid : threadId = 0
  · simp [emitNewDiscussionMessageInThread, hid] at h
  by_cases hvalid : validateContent env content = .ok
  · by_cases hthread : threadId ∈ (state.seen env ctx).collection.allThreads
    · rcases hauthorize : (state.seen env ctx).authorize ctx (.addNewDiscussionMessageInThread threadId) with ⟨status, asked⟩
      have hasked : asked.collection.toEntityCollection = (state.seen env ctx).collection.toEntityCollection := by
        rw [← congrArg (fun result : RequestStatus × ForumState => result.2.collection.toEntityCollection) hauthorize]
        rfl
      by_cases hstatus : status = .ok
      · refine ⟨asked, (asked.authorize ctx (.autoApproveDiscussionMessageInThread threadId)).1 = .ok,
          threadId ∈ asked.collection.userSubscribedThreads (asked.currentUser ctx), hasked, ?_, ?_⟩
        · rwa [hasked]
        · simp [emitNewDiscussionMessageInThread, hid, hvalid, hthread, hauthorize, hstatus, ForumState.perform,
            Operation.perform, Repository.addNewDiscussionMessageInThread, hasked]
      · simp [emitNewDiscussionMessageInThread, hid, hvalid, hthread, hauthorize, hstatus] at h
    · simp [emitNewDiscussionMessageInThread, hid, hvalid, hthread] at h
  · simp [emitNewDiscussionMessageInThread, hid, hvalid] at h

end

/-- The id a request gives to a new thread or message is fresh. -/
def ContentRequest.Fresh (s : EntityCollection) : ContentRequest → Prop
  | .addNewDiscussionThread id _ | .addNewDiscussionMessageInThread id _ _ => id ≠ 0 ∧ id ∉ s.issuedIds
  | _ => True

end Forum.Repository
