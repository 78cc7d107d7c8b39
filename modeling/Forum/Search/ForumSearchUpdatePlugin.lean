import Forum.Repository.ContentRequests
import Forum.Repository.PrivilegeRange
import Forum.Search.IndexedStore

/-!
# The search update plugin

`ForumSearchUpdatePlugin` listens to the events about threads and messages and enqueues records for the search
index: each handler reads the entity it is handed. Handlers of deletions see the store before the write, and
infer from it what is deleted along with the entity.
-/

namespace Forum.Search

open Forum.Library Forum.Entities Forum.Repository Forum.Authorization

/-! ### The handlers -/

namespace ForumSearchUpdatePlugin

/-- `DiscussionThread::ChangeType`. -/
inductive DiscussionThreadChangeType
  | name | pinDisplayOrder | approval
  deriving DecidableEq

/-- `DiscussionThreadMessage::ChangeType`. -/
inductive DiscussionThreadMessageChangeType
  | content | approval
  deriving DecidableEq

variable (s : EntityCollection)

/-- A new thread is indexed by its name. -/
def onAddNewDiscussionThread (thread : IdType) : List SearchUpdate := [.newThread thread (s.thread thread).name.string]

/-- A thread is only indexed again when its name has changed. -/
def onChangeDiscussionThread (thread : IdType) (changeType : DiscussionThreadChangeType) : List SearchUpdate :=
  if changeType ≠ .name then [] else [.changeThreadName thread (s.thread thread).name.string]

/-- A message that is deleted leaves the index. -/
def onDeleteDiscussionThreadMessage (message : IdType) : List SearchUpdate := [.deleteThreadMessage message]

/-- Also the handler of a merge, which it is called by for the thread that is merged into another. -/
def onDeleteDiscussionThread (thread : IdType) : List SearchUpdate :=
  .deleteThread thread :: (ascending (s.threadMessages thread)).flatMap onDeleteDiscussionThreadMessage

/-- A new message is indexed by its content. -/
def onAddNewDiscussionThreadMessage (message : IdType) : List SearchUpdate :=
  [.newThreadMessage message (s.message message).content]

/-- A message is only indexed again when its content has changed. -/
def onChangeDiscussionThreadMessage (message : IdType) (changeType : DiscussionThreadMessageChangeType) :
    List SearchUpdate :=
  if changeType ≠ .content then [] else [.changeThreadMessageContent message (s.message message).content]

/-- `registerEvents`: what is enqueued for an event. There is no handler for the other events. -/
def enqueuedFor (emission : Emission) : List SearchUpdate :=
  match emission.event with
  | .content (.addNewDiscussionThread thread _ _) => onAddNewDiscussionThread emission.store thread
  | .content (.changeDiscussionThreadName thread _) => onChangeDiscussionThread emission.store thread .name
  | .content (.changeDiscussionThreadPinDisplayOrder thread _) =>
    onChangeDiscussionThread emission.store thread .pinDisplayOrder
  | .content (.changeDiscussionThreadApproval thread _) => onChangeDiscussionThread emission.store thread .approval
  | .content (.deleteDiscussionThread thread) => onDeleteDiscussionThread emission.store thread
  | .content (.mergeDiscussionThreads fromThread _) => onDeleteDiscussionThread emission.store fromThread
  | .content (.addNewDiscussionMessageInThread message _ _ _) => onAddNewDiscussionThreadMessage emission.store message
  | .content (.changeDiscussionThreadMessageContent message _ _) =>
    onChangeDiscussionThreadMessage emission.store message .content
  | .content (.changeDiscussionThreadMessageApproval message _) =>
    onChangeDiscussionThreadMessage emission.store message .approval
  | .content (.deleteDiscussionMessage message) => onDeleteDiscussionThreadMessage message
  | _ => []

/-- What is enqueued for the events of a request. -/
def enqueued (emissions : List Emission) : List SearchUpdate := emissions.flatMap enqueuedFor

end ForumSearchUpdatePlugin

open ForumSearchUpdatePlugin SearchIndex

variable {env : ContentEnvironment} {config : ChangeReasonConfig} {ctx : Context} {state : ForumState}

/-! ### What requests leave of the index -/

/-- The store of a state. -/
abbrev storeOf (state : ForumState) : EntityCollection := state.collection.toEntityCollection

variable (env ctx state) in
theorem ofStore_seen : ofStore (storeOf (state.seen env ctx)) = ofStore (storeOf state) := by
  rcases getAndUpdate_eq env.toEnvironment ctx (storeOf state) with h | h
  · exact congrArg ofStore h
  · exact (congrArg ofStore h).trans (ofStore_updateUserLastSeen ctx _ _)

theorem enqueued_cons (emission : Emission) (emissions : List Emission) :
    enqueued (emission :: emissions) = enqueuedFor emission ++ enqueued emissions := rfl

theorem enqueued_append (emissions emissions' : List Emission) :
    enqueued (emissions ++ emissions') = enqueued emissions ++ enqueued emissions' :=
  List.flatMap_append

variable (ctx state) in
/-- A grant changes nothing of the index, and nothing is enqueued for it. -/
theorem emitDefaultLevel_keeps (privilege : ForumWideDefaultPrivilegeDuration) (level : PrivilegeLevel) :
    storeOf (state.emitDefaultLevel ctx privilege level).1 = storeOf state ∧
      enqueued (state.emitDefaultLevel ctx privilege level).2 = [] := by
  unfold ForumState.emitDefaultLevel ForumState.grantDefaultLevel
  dsimp only
  split_ifs
  · exact ⟨rfl, rfl⟩
  · split
    · exact ⟨rfl, rfl⟩
    · refine ⟨?_, rfl⟩
      unfold AuthorizationOperation.perform
      split_ifs <;> rfl

variable (ctx) in
/-- Quoting users changes nothing of the index, and nothing is enqueued for it. -/
theorem emitQuote_keeps (message : IdType) (users : List IdType) (result : ForumState × List Emission) :
    let quoted := users.foldl (MemoryRepositoryDiscussionThreadMessage.emitQuote ctx message) result
    ofStore (storeOf quoted.1) = ofStore (storeOf result.1) ∧ enqueued quoted.2 = enqueued result.2 := by
  refine foldl_keeps (P := fun quoted : ForumState × List Emission =>
    ofStore (storeOf quoted.1) = ofStore (storeOf result.1) ∧ enqueued quoted.2 = enqueued result.2) ⟨rfl, rfl⟩ ?_
  rintro ⟨quoted, emissions⟩ user - ⟨hstore, henqueued⟩
  refine ⟨(ofStore_quoteUserInMessage ctx message user).trans hstore, ?_⟩
  unfold MemoryRepositoryDiscussionThreadMessage.emitQuote
  dsimp only
  split_ifs
  · rw [enqueued_append, henqueued]
    exact List.append_nil _
  · exact henqueued

/-! ### Handlers and writes -/

variable {s : EntityCollection}

/-- What the index says of a thread is what its handlers read. -/
theorem name_of_ofStore {threads messages : Finset IdType} {texts : (IdType → NameType) × (IdType → String)}
    (h : ofStore s = ofTexts threads messages texts) {id : IdType} (hid : id ∈ threads) :
    (s.thread id).name.string = (texts.1 id).string := by
  have hentry := congrFun (congrArg SearchIndex.threads h) id
  simp only [ofStore, ofTexts, if_pos hid] at hentry
  split_ifs at hentry
  exact Option.some.inj hentry

/-- What the index says of a message is what its handlers read. -/
theorem content_of_ofStore {threads messages : Finset IdType} {texts : (IdType → NameType) × (IdType → String)}
    (h : ofStore s = ofTexts threads messages texts) {id : IdType} (hid : id ∈ messages) :
    (s.message id).content = texts.2 id := by
  have hentry := congrFun (congrArg SearchIndex.messages h) id
  simp only [ofStore, ofTexts, if_pos hid] at hentry
  split_ifs at hentry
  exact Option.some.inj hentry

theorem follows_addNewDiscussionThread (id : IdType) (name : NameType) (approved : Bool) :
    (ofStore s).applyAll
        (onAddNewDiscussionThread ((Operation.addNewDiscussionThread id name approved).perform ctx s).2 id) =
      ofStore ((Operation.addNewDiscussionThread id name approved).perform ctx s).2 := by
  have hstore := ofStore_addNewDiscussionThread (s := s) ctx id name approved
  have hname := name_of_ofStore hstore (Finset.mem_insert_self id _)
  simp only [Function.update_self] at hname
  rw [hstore, onAddNewDiscussionThread, hname]
  exact applyAll_newThread id name

theorem follows_changeDiscussionThreadName {id : IdType} (h : id ∈ s.allThreads) {name : NameType} {s' : EntityCollection}
    (hs' : ofStore s' = ofStore ((Operation.changeDiscussionThreadName id name).perform ctx s).2) :
    (ofStore s).applyAll (onChangeDiscussionThread s' id .name) = ofStore s' := by
  rw [ofStore_changeDiscussionThreadName ctx h name] at hs'
  have hname := name_of_ofStore hs' h
  simp only [Function.update_self] at hname
  rw [hs', onChangeDiscussionThread, if_neg (by simp), hname]
  exact applyAll_changeThreadName h name

theorem follows_addNewDiscussionMessageInThread {thread : IdType} (h : thread ∈ s.allThreads) (id : IdType)
    (approved : Bool) (content : String) :
    let op : Operation := .addNewDiscussionMessageInThread id thread approved (.text content)
    (ofStore s).applyAll (onAddNewDiscussionThreadMessage (op.perform ctx s).2 id) = ofStore (op.perform ctx s).2 := by
  intro op
  have hstore := ofStore_addNewDiscussionMessageInThread ctx h id approved content
  have hcontent := content_of_ofStore hstore (Finset.mem_insert_self id _)
  simp only [Function.update_self] at hcontent
  rw [hstore, onAddNewDiscussionThreadMessage, hcontent]
  exact applyAll_newThreadMessage id content

theorem follows_changeDiscussionThreadMessageContent {id : IdType} (h : id ∈ s.allMessages) {content reason : String}
    {s' : EntityCollection}
    (hs' : ofStore s' = ofStore ((Operation.changeDiscussionThreadMessageContent id content reason).perform ctx s).2) :
    (ofStore s).applyAll (onChangeDiscussionThreadMessage s' id .content) = ofStore s' := by
  rw [ofStore_changeDiscussionThreadMessageContent ctx h content reason] at hs'
  have hcontent := content_of_ofStore hs' h
  simp only [Function.update_self] at hcontent
  rw [hs', onChangeDiscussionThreadMessage, if_neg (by simp), hcontent]
  exact applyAll_changeThreadMessageContent h content

theorem follows_deleteDiscussionMessage {id : IdType} (h : id ∈ s.allMessages) :
    (ofStore s).applyAll (onDeleteDiscussionThreadMessage id) =
      ofStore ((Operation.deleteDiscussionMessage id).perform ctx s).2 := by
  rw [ofStore_deleteDiscussionMessage ctx h]
  exact applyAll_deleteThreadMessage [id]

/-- The records for a thread that goes away remove it and the messages that are in it. -/
theorem applyAll_onDeleteDiscussionThread (thread : IdType) :
    (ofStore s).applyAll (onDeleteDiscussionThread s thread) =
      ofTexts (s.allThreads.erase thread) (s.allMessages \ s.threadMessages thread) s.texts := by
  have hmessages : (ascending (s.threadMessages thread)).flatMap onDeleteDiscussionThreadMessage =
      (ascending (s.threadMessages thread)).map .deleteThreadMessage := List.map_eq_flatMap.symm
  rw [onDeleteDiscussionThread, hmessages, ← List.singleton_append, applyAll_append]
  have hthread := @applyAll_deleteThread s.allThreads s.allMessages s.texts thread
  rw [ofStore, hthread, applyAll_deleteThreadMessage]
  congr 2
  ext m
  simp

theorem follows_deleteDiscussionThread {id : IdType} (h : id ∈ s.allThreads) :
    (ofStore s).applyAll (onDeleteDiscussionThread s id) =
      ofStore ((Operation.deleteDiscussionThread id).perform ctx s).2 := by
  rw [applyAll_onDeleteDiscussionThread, ofStore_deleteDiscussionThread ctx h]

/-- The messages of a thread that is merged into another stay in the store; the index keeps up with that when there
are none. -/
theorem follows_mergeDiscussionThreads_iff (hs : Authored s.toOwnership) {fromId intoId : IdType} (hne : fromId ≠ intoId)
    (hfrom : fromId ∈ s.allThreads) (hinto : intoId ∈ s.allThreads) :
    (ofStore s).applyAll (onDeleteDiscussionThread s fromId) =
        ofStore ((Operation.mergeDiscussionThreads fromId intoId).perform ctx s).2 ↔
      s.threadMessages fromId = ∅ := by
  rw [applyAll_onDeleteDiscussionThread, ofStore_mergeDiscussionThreads ctx hne hfrom hinto, ofTexts_inj]
  have hsub : s.threadMessages fromId ⊆ s.allMessages := fun m hm => ((hs.threadMessages fromId hfrom m).1 hm).1
  refine ⟨fun h => ?_, fun h => by simp [h]⟩
  refine Finset.eq_empty_of_forall_notMem fun m hm => ?_
  have hkept := hsub hm
  rw [← h.2, Finset.mem_sdiff] at hkept
  exact hkept.2 hm

/-- Nothing is enqueued for a user who is deleted; the index keeps up with that when the user has created neither
threads nor messages. -/
theorem follows_deleteUser_iff (hs : Authored s.toOwnership) {id : IdType} (h : id ∈ s.users) :
    ofStore s = ofStore ((Operation.deleteUser id).perform ctx s).2 ↔ s.userThreads id = ∅ ∧ s.userMessages id = ∅ := by
  have hthreads := hs.userThreads id (.inr h)
  have hmessages := hs.userMessages id (.inr h)
  rw [ofStore_deleteUser ctx h, ofStore, ofTexts_inj]
  constructor
  · rintro ⟨hallThreads, hallMessages⟩
    refine ⟨Finset.eq_empty_of_forall_notMem fun t ht => ?_, Finset.eq_empty_of_forall_notMem fun m hm => ?_⟩
    · obtain ⟨ht, hauthor⟩ := (hthreads t).1 ht
      rw [hallThreads, hs.mem_allThreads_deleteUser h] at ht
      exact ht.2 hauthor
    · obtain ⟨hm, hauthor⟩ := (hmessages m).1 hm
      rw [hallMessages, hs.mem_allMessages_deleteUser h] at hm
      exact hm.2.1 hauthor
  · rintro ⟨hnoThreads, hnoMessages⟩
    have hnotThread : ∀ t ∈ s.allThreads, s.threadCreatedBy t ≠ id := fun t ht hauthor =>
      Finset.notMem_empty t (hnoThreads ▸ (hthreads t).2 ⟨ht, hauthor⟩)
    have hnotMessage : ∀ m ∈ s.allMessages, s.messageCreatedBy m ≠ id := fun m hm hauthor =>
      Finset.notMem_empty m (hnoMessages ▸ (hmessages m).2 ⟨hm, hauthor⟩)
    refine ⟨Finset.ext fun t => ?_, Finset.ext fun m => ?_⟩
    · rw [hs.mem_allThreads_deleteUser h]
      exact ⟨fun ht => ⟨ht, hnotThread t ht⟩, And.left⟩
    · rw [hs.mem_allMessages_deleteUser h]
      exact ⟨fun hm => ⟨hm, hnotMessage m hm, hnotThread _ (hs.messageParent m hm)⟩, And.left⟩

/-! ### Requests -/

/-- An accepted request that announces its direct write first. -/
theorem enqueued_announcedFirst {r : EntityRequest} {followUp : ForumState → ForumState × List Emission}
    (hfirst : r.announcedFirst = true) (h : (r.perform env ctx state followUp).status = .ok) :
    r.validation = .ok ∧ r.checks (storeOf (state.seen env ctx)) = .ok ∧
      enqueued (r.perform env ctx state followUp).emissions =
        enqueuedFor ⟨.content r.operation, storeOf (state.seen env ctx)⟩ ∧
      storeOf (r.perform env ctx state followUp).state = (r.operation.perform ctx (storeOf (state.seen env ctx))).2 := by
  obtain ⟨hvalid, asked, written, hwritten, heq⟩ := r.perform_accepted env ctx state followUp h
  rw [if_pos hfirst] at heq
  refine ⟨hvalid, hwritten.checked, ?_, ?_⟩
  · rw [heq, storeOf, ← hwritten.store_asked]
    exact List.append_nil _
  · rw [heq, storeOf, storeOf, ← hwritten.store_asked]
    exact hwritten.store_written

/-- An accepted request that makes its direct write first. -/
theorem enqueued_writtenFirst {r : EntityRequest} {followUp : ForumState → ForumState × List Emission}
    (hfirst : r.announcedFirst = false)
    (hfollow : ∀ state, ofStore (storeOf (followUp state).1) = ofStore (storeOf state) ∧ enqueued (followUp state).2 = [])
    (h : (r.perform env ctx state followUp).status = .ok) :
    r.checks (storeOf (state.seen env ctx)) = .ok ∧
      enqueued (r.perform env ctx state followUp).emissions =
        enqueuedFor ⟨.content r.operation, storeOf (r.perform env ctx state followUp).state⟩ ∧
      ofStore (storeOf (r.perform env ctx state followUp).state) =
        ofStore (r.operation.perform ctx (storeOf (state.seen env ctx))).2 := by
  obtain ⟨-, asked, written, hwritten, heq⟩ := r.perform_accepted env ctx state followUp h
  rw [if_neg (by simp [hfirst])] at heq
  refine ⟨hwritten.checked, ?_, ?_⟩
  · rw [heq, enqueued_append, (hfollow written).2]
    exact List.append_nil _
  · rw [heq, storeOf, (hfollow written).1, storeOf, storeOf, hwritten.store_written, hwritten.store_asked]

/-- Does the plugin foresee what a request does to the threads and messages? It takes the messages of a thread that
is merged for deleted, and is not told of users that are. -/
def Foreseen (s : EntityCollection) : ContentRequest → Prop
  | .mergeDiscussionThreads fromId _ => s.threadMessages fromId = ∅
  | .deleteUser id => s.userThreads id = ∅ ∧ s.userMessages id = ∅
  | _ => True

theorem toOwnership_seen : (storeOf (state.seen env ctx)).toOwnership = (storeOf state).toOwnership := by
  rcases getAndUpdate_eq env.toEnvironment ctx (storeOf state) with h | h
  · exact congrArg (fun s : EntityCollection => s.toOwnership) h
  · exact (congrArg (fun s : EntityCollection => s.toOwnership) h).trans
      (ownershipKept_perform ctx (storeOf state)
        (show (Operation.updateUserLastSeen ctx.currentUserId ctx.currentTime).keepsOwnership from rfl)).1

/-- What is enqueued for an accepted request brings the index of the store before it to that of the store after it,
exactly when the plugin foresees what the request does. -/
theorem updates_mirror_iff (hreach : Reachable anyOperation (storeOf state)) {request : ContentRequest}
    (haccepted : (request.perform env config ctx state).status = .ok) :
    (ofStore (storeOf state)).applyAll (enqueued (request.perform env config ctx state).emissions) =
        ofStore (storeOf (request.perform env config ctx state).state) ↔
      Foreseen (storeOf state) request := by
  have hauthored : Authored (storeOf (state.seen env ctx)).toOwnership := by
    rw [toOwnership_seen]
    exact hreach.authored
  have hnothing : ∀ state : ForumState, ofStore (storeOf (noFollowUp state).1) = ofStore (storeOf state) ∧
      enqueued (noFollowUp state).2 = [] := fun _ => ⟨rfl, rfl⟩
  rw [← ofStore_seen env ctx state]
  cases request with
  | addNewDiscussionThread id name =>
    refine iff_of_true ?_ trivial
    obtain ⟨asked, approved, hasked, heq⟩ :=
      MemoryRepositoryDiscussionThread.emitNewDiscussionThread_accepted env ctx state haccepted
    obtain ⟨hstore, hgranted⟩ := emitDefaultLevel_keeps ctx
      (asked.perform ctx (.addNewDiscussionThread id name approved)).2 .createDiscussionThread ⟨.discussionThread, id⟩
    rw [ContentRequest.perform, heq]
    dsimp only
    rw [enqueued_cons, hgranted, List.append_nil, hstore, show storeOf (state.seen env ctx) = storeOf asked from hasked.symm]
    exact follows_addNewDiscussionThread id name approved
  | changeDiscussionThreadName id newName =>
    obtain ⟨hchecks, henqueued, hstore⟩ := enqueued_writtenFirst rfl hnothing haccepted
    have hid : id ∈ (storeOf (state.seen env ctx)).allThreads := by
      by_contra hid
      simp [MemoryRepositoryDiscussionThread.changeDiscussionThreadName, MemoryRepositoryDiscussionThread.findThread,
        hid] at hchecks
    refine iff_of_true ?_ trivial
    rw [ContentRequest.perform, henqueued]
    exact follows_changeDiscussionThreadName hid hstore
  | changeDiscussionThreadPinDisplayOrder id newValue =>
    obtain ⟨-, henqueued, hstore⟩ := enqueued_writtenFirst rfl hnothing haccepted
    refine iff_of_true ?_ trivial
    rw [ContentRequest.perform, henqueued, hstore]
    exact (ofStore_changeDiscussionThreadPinDisplayOrder ctx id newValue).symm
  | changeDiscussionThreadApproval id newApproval =>
    obtain ⟨-, henqueued, hstore⟩ := enqueued_writtenFirst rfl hnothing haccepted
    refine iff_of_true ?_ trivial
    rw [ContentRequest.perform, henqueued, hstore]
    exact (ofStore_changeDiscussionThreadApproval ctx id newApproval).symm
  | deleteDiscussionThread id =>
    obtain ⟨-, hchecks, henqueued, hstore⟩ := enqueued_announcedFirst rfl haccepted
    have hid : id ∈ (storeOf (state.seen env ctx)).allThreads := by
      by_contra hid
      simp [MemoryRepositoryDiscussionThread.deleteDiscussionThread, MemoryRepositoryDiscussionThread.findThread,
        hid] at hchecks
    refine iff_of_true ?_ trivial
    rw [ContentRequest.perform, henqueued, hstore]
    exact follows_deleteDiscussionThread hid
  | mergeDiscussionThreads fromId intoId =>
    obtain ⟨hvalid, hchecks, henqueued, hstore⟩ := enqueued_announcedFirst rfl haccepted
    have hne : fromId ≠ intoId := by
      rintro rfl
      by_cases hzero : fromId = 0 <;> simp [MemoryRepositoryDiscussionThread.mergeDiscussionThreads, hzero] at hvalid
    have hids : fromId ∈ (storeOf (state.seen env ctx)).allThreads ∧ intoId ∈ (storeOf (state.seen env ctx)).allThreads := by
      by_contra hids
      simp [MemoryRepositoryDiscussionThread.mergeDiscussionThreads, hids] at hchecks
    rw [ContentRequest.perform, henqueued, hstore]
    refine (follows_mergeDiscussionThreads_iff hauthored hne hids.1 hids.2).trans ?_
    rw [toOwnership_seen]
    rfl
  | addNewDiscussionMessageInThread id threadId content =>
    refine iff_of_true ?_ trivial
    obtain ⟨asked, approved, subscribed, hasked, hthread, heq⟩ :=
      MemoryRepositoryDiscussionThreadMessage.emitNewDiscussionMessageInThread_accepted env ctx state haccepted
    dsimp only at heq
    rw [ContentRequest.perform, heq]
    dsimp only
    obtain ⟨hstore, hgranted⟩ := emitDefaultLevel_keeps ctx
      (asked.perform ctx (.addNewDiscussionMessageInThread id threadId approved (.text content))).2
      .createDiscussionThreadMessage ⟨.discussionThreadMessage, id⟩
    have hsubscribed : ∀ written : ForumState, enqueued
        (if subscribed then [] else [written.emit (.subscribeToDiscussionThread threadId)]) = [] := fun written => by
      split_ifs <;> rfl
    rw [(emitQuote_keeps ctx id _ _).1, (emitQuote_keeps ctx id _ _).2]
    dsimp only
    rw [enqueued_append, enqueued_cons, hsubscribed, hgranted, List.append_nil, List.append_nil, hstore,
      show storeOf (state.seen env ctx) = storeOf asked from hasked.symm]
    exact follows_addNewDiscussionMessageInThread hthread id approved content
  | deleteDiscussionMessage id =>
    obtain ⟨-, hchecks, henqueued, hstore⟩ := enqueued_announcedFirst rfl haccepted
    have hid : id ∈ (storeOf (state.seen env ctx)).allMessages := by
      by_contra hid
      simp [MemoryRepositoryDiscussionThreadMessage.deleteDiscussionMessage,
        MemoryRepositoryDiscussionThreadMessage.findMessage, hid] at hchecks
    refine iff_of_true ?_ trivial
    rw [ContentRequest.perform, henqueued, hstore]
    exact follows_deleteDiscussionMessage hid
  | changeDiscussionThreadMessageContent id newContent changeReason =>
    have hquotes : ∀ state : ForumState,
        let quoted := MemoryRepositoryDiscussionThreadMessage.quoteNewReferences env ctx id newContent state
        ofStore (storeOf quoted.1) = ofStore (storeOf state) ∧ enqueued quoted.2 = [] :=
      fun state => emitQuote_keeps ctx id _ (state, [])
    obtain ⟨hchecks, henqueued, hstore⟩ := enqueued_writtenFirst rfl hquotes haccepted
    have hid : id ∈ (storeOf (state.seen env ctx)).allMessages := by
      by_contra hid
      simp [MemoryRepositoryDiscussionThreadMessage.changeDiscussionThreadMessageContent,
        MemoryRepositoryDiscussionThreadMessage.findMessage, hid] at hchecks
    refine iff_of_true ?_ trivial
    rw [ContentRequest.perform, henqueued]
    exact follows_changeDiscussionThreadMessageContent hid hstore
  | changeDiscussionThreadMessageApproval id newApproval =>
    obtain ⟨-, henqueued, hstore⟩ := enqueued_writtenFirst rfl hnothing haccepted
    refine iff_of_true ?_ trivial
    rw [ContentRequest.perform, henqueued, hstore]
    exact (ofStore_changeDiscussionThreadMessageApproval ctx id newApproval).symm
  | moveDiscussionThreadMessage messageId intoThreadId =>
    obtain ⟨-, -, henqueued, hstore⟩ := enqueued_announcedFirst rfl haccepted
    refine iff_of_true ?_ trivial
    rw [ContentRequest.perform, henqueued, hstore]
    exact (ofStore_moveDiscussionThreadMessage ctx messageId intoThreadId).symm
  | deleteUser id =>
    obtain ⟨-, hchecks, henqueued, hstore⟩ := enqueued_announcedFirst rfl haccepted
    have hid : id ∈ (storeOf (state.seen env ctx)).users := by
      by_contra hid
      simp [MemoryRepositoryUser.deleteUser, hid] at hchecks
    rw [ContentRequest.perform, henqueued, hstore]
    refine (follows_deleteUser_iff hauthored hid).trans ?_
    rw [toOwnership_seen]
    rfl

/-! ### A thread with a message, and another thread -/

/-- A user's two threads, one of them with a message. -/
def twoThreads : List (Context × Operation) :=
  [(⟨0, 1, ""⟩, .addNewUser 1 ⟨"user", [1]⟩ "auth"), (⟨1, 2, ""⟩, .addNewDiscussionThread 2 ⟨"first", [1]⟩ true),
    (⟨1, 3, ""⟩, .addNewDiscussionMessageInThread 3 2 true (.text "message")),
    (⟨1, 4, ""⟩, .addNewDiscussionThread 4 ⟨"second", [2]⟩ true)]

/-- A forum with the two threads, where every user may do everything. -/
def forumWithTwoThreads : ForumState :=
  { plainConfiguration.initial with
    collection := { plainConfiguration.initial.collection with toEntityCollection := run twoThreads .empty } }

theorem forumWithTwoThreads_reachable : Reachable anyOperation (storeOf forumWithTwoThreads) :=
  .run .empty twoThreads (by decide +kernel)

/-- When the thread is deleted, the index keeps up. -/
theorem updates_mirror_deletedThread :
    let response := (ContentRequest.deleteDiscussionThread 2).perform plainEnvironment ⟨0, 100⟩ ⟨1, 5, ""⟩ forumWithTwoThreads
    response.status = .ok ∧
      (ofStore (storeOf forumWithTwoThreads)).applyAll (enqueued response.emissions) = ofStore (storeOf response.state) := by
  have hstatus : ((ContentRequest.deleteDiscussionThread 2).perform plainEnvironment ⟨0, 100⟩ ⟨1, 5, ""⟩
      forumWithTwoThreads).status = .ok := by
    decide +kernel
  exact ⟨hstatus, (updates_mirror_iff forumWithTwoThreads_reachable hstatus).2 trivial⟩

/-- When the thread is merged into the other, its message stays in the store, but the index loses it. -/
theorem not_updates_mirror_mergedThread :
    let response := (ContentRequest.mergeDiscussionThreads 2 4).perform plainEnvironment ⟨0, 100⟩ ⟨1, 5, ""⟩ forumWithTwoThreads
    Reachable anyOperation (storeOf forumWithTwoThreads) ∧ response.status = .ok ∧
      (ofStore (storeOf forumWithTwoThreads)).applyAll (enqueued response.emissions) ≠
        ofStore (storeOf response.state) := by
  refine ⟨forumWithTwoThreads_reachable, by decide +kernel, fun h => ?_⟩
  have hentry := congrFun (congrArg SearchIndex.messages h) 3
  revert hentry
  decide +kernel

end Forum.Search
