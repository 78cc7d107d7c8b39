import Forum.Entities.MessageIndexEffects
import Forum.Repository.Authors
import Forum.Library.Partition

/-!
# The messages a thread lists

In every state of the store `byCreated` of a thread lists messages of that thread only, each once and in
the order they were created. During a batch insert it may miss some. A thread of the store is the parent
of every message it lists.
-/

namespace Forum.Repository

open Forum.Entities Forum.Library EntityCollection

variable (ctx : Context) (s : EntityCollection)

/-! ### Operations that change no list -/

@[simp] theorem messageLists_updateThreadLastUpdated (thread user : IdType) :
    (updateThreadLastUpdated ctx thread user s).messageLists = s.messageLists := by
  unfold updateThreadLastUpdated DiscussionThread.updateLastUpdatedBy DiscussionThread.updateLastUpdatedDetails
  simp

@[simp] theorem messageLists_updateTagLastUpdated (tag user : IdType) :
    (updateTagLastUpdated ctx tag user s).messageLists = s.messageLists := rfl

@[simp] theorem messageLists_updateCategoryLastUpdated (category user : IdType) :
    (updateCategoryLastUpdated ctx category user s).messageLists = s.messageLists := rfl

@[simp] theorem messageLists_updateMessageCounts (thread : IdType) (difference : ℤ) :
    (updateMessageCounts s thread difference).messageLists = s.messageLists := by
  unfold updateMessageCounts
  dsimp only
  rw [messageLists_foldl fun s category _ => DiscussionCategory.messageLists_updateMessageCount s category thread _,
    messageLists_foldl fun s tag _ => DiscussionTag.messageLists_updateMessageCount s tag _]

@[simp] theorem messageLists_updateThreadOnMoveMessage (thread : IdType) (delta : ℤ) :
    (updateThreadOnMoveMessage ctx s thread delta).messageLists = s.messageLists := by
  simp [updateThreadOnMoveMessage]

@[simp] theorem messageLists_updateCategoryParent (category : IdType) (newParent : Option IdType) (user : IdType) :
    (updateCategoryParent ctx s category newParent user).messageLists = s.messageLists := by
  unfold updateCategoryParent
  cases s.categoryParent category <;> cases newParent <;> simp

theorem messageLists_mergeDiscussionTags (fromId intoId : IdType) :
    (mergeDiscussionTags ctx s fromId intoId).2.messageLists = s.messageLists := by
  unfold mergeDiscussionTags
  dsimp only
  split_ifs
  · rfl
  · rw [messageLists_deleteDiscussionTag, messageLists_updateTagLastUpdated,
      messageLists_foldl fun s category _ => DiscussionCategory.messageLists_addTag ctx s category intoId,
      DiscussionTag.messageLists_insertDiscussionThreads,
      messageLists_foldl fun s thread _ => DiscussionThread.messageLists_addTag ctx s thread intoId]
  · rfl

theorem messageLists_deleteDiscussionCategory (id : IdType) :
    (deleteDiscussionCategory ctx s id).2.messageLists = s.messageLists := by
  unfold deleteDiscussionCategory
  dsimp only
  split_ifs
  · rw [EntityCollection.messageLists_deleteDiscussionCategory,
      messageLists_foldl fun s child _ => messageLists_updateCategoryParent ctx s child none _]
  · rfl

theorem messageLists_voteDiscussionThreadMessage (id : IdType) (up : Bool) :
    (voteDiscussionThreadMessage ctx s id up).2.messageLists = s.messageLists := by
  unfold voteDiscussionThreadMessage
  dsimp only
  split_ifs <;> rfl

theorem messageLists_resetVoteDiscussionThreadMessage (id : IdType) :
    (resetVoteDiscussionThreadMessage ctx s id).2.messageLists = s.messageLists := by
  unfold resetVoteDiscussionThreadMessage
  split
  · extract_lets user target entry
    have hremove := DiscussionThreadMessage.messageLists_removeVote s id user
    generalize DiscussionThreadMessage.removeVote id s user = removed at hremove
    rcases removed with ⟨status, s'⟩
    cases status <;> exact hremove
  · rfl

/-- A field of an attachment changes between the announcements. -/
theorem messageLists_changeAttachment (key : AttachmentKey) (id : IdType) (attachment : IdType → Attachment) :
    (({ s.onPrepareUpdateAttachment key id with attachment := attachment } :
      EntityCollection).onUpdateAttachment key id).messageLists = s.messageLists := by
  rw [messageLists_onUpdateAttachment]
  exact messageLists_onPrepareUpdateAttachment s key id

/-- The operations after which every thread lists what it listed before. -/
def Operation.keepsMessageLists : Operation → Bool
  | .changeUserName .. | .changeUserInfo .. | .changeUserTitle .. | .changeUserSignature ..
  | .changeUserAttachmentQuota .. | .changeUserLogo .. | .deleteUserLogo .. | .updateUserLastSeen ..
  | .deletePrivateMessage .. | .changeAttachmentName .. | .changeAttachmentApproval .. | .deleteAttachment ..
  | .addAttachmentToDiscussionThreadMessage .. | .removeAttachmentFromDiscussionThreadMessage ..
  | .changeDiscussionThreadName .. | .changeDiscussionThreadPinDisplayOrder .. | .changeDiscussionThreadApproval ..
  | .subscribeToDiscussionThread .. | .unsubscribeFromDiscussionThread ..
  | .changeDiscussionThreadMessageContent .. | .changeDiscussionThreadMessageApproval ..
  | .upVoteDiscussionThreadMessage .. | .downVoteDiscussionThreadMessage .. | .resetVoteDiscussionThreadMessage ..
  | .setMessageCommentToSolved .. | .quoteUserInMessage .. | .changeDiscussionTagName ..
  | .changeDiscussionTagUiBlob .. | .deleteDiscussionTag .. | .addDiscussionTagToThread ..
  | .removeDiscussionTagFromThread .. | .mergeDiscussionTags .. | .changeDiscussionCategoryName ..
  | .changeDiscussionCategoryDescription .. | .changeDiscussionCategoryParent ..
  | .changeDiscussionCategoryDisplayOrder .. | .deleteDiscussionCategory ..
  | .addDiscussionTagToCategory .. | .removeDiscussionTagFromCategory .. => true
  | _ => false

theorem messageLists_perform {op : Operation} (hop : op.keepsMessageLists) :
    (op.perform ctx s).2.messageLists = s.messageLists := by
  cases op <;> simp only [Operation.keepsMessageLists, Bool.false_eq_true] at hop <;> simp only [Operation.perform]
  case mergeDiscussionTags => exact messageLists_mergeDiscussionTags ctx s _ _
  case deleteDiscussionCategory => exact messageLists_deleteDiscussionCategory ctx s _
  case upVoteDiscussionThreadMessage => exact messageLists_voteDiscussionThreadMessage ctx s _ true
  case downVoteDiscussionThreadMessage => exact messageLists_voteDiscussionThreadMessage ctx s _ false
  case resetVoteDiscussionThreadMessage => exact messageLists_resetVoteDiscussionThreadMessage ctx s _
  case changeDiscussionThreadMessageContent id content reason =>
    unfold changeDiscussionThreadMessageContent
    dsimp only
    split
    · rw [DiscussionThread.messageLists_setLatestVisibleChange, DiscussionThread.messageLists_resetVisitorsSinceLastEdit]
      exact messageLists_modifyMessage s id rfl
    · rfl
  case changeDiscussionThreadMessageApproval id approved =>
    unfold changeDiscussionThreadMessageApproval
    split_ifs
    · rfl
    · exact (DiscussionThread.messageLists_resetVisitorsSinceLastEdit _ _).trans (messageLists_modifyMessage s id rfl)
    · rfl
  case setMessageCommentToSolved id =>
    unfold setMessageCommentToSolved
    split_ifs
    · rfl
    · exact DiscussionThreadMessage.messageLists_changeSolvedCommentsCount _ _ 1
    · rfl
  case changeAttachmentName id name =>
    unfold changeAttachmentName
    split_ifs
    · exact messageLists_changeAttachment s .name id _
    · rfl
  case changeAttachmentApproval id approved =>
    unfold changeAttachmentApproval
    split_ifs
    · rfl
    · exact messageLists_changeAttachment s .approval id _
    · rfl
  all_goals
    simp only [changeUserName, changeUserInfo, changeUserTitle, changeUserSignature, changeUserAttachmentQuota,
      changeUserLogo, deleteUserLogo, changeUserField, updateUserLastSeen, deletePrivateMessage, deleteAttachment, addAttachmentToDiscussionThreadMessage,
      removeAttachmentFromDiscussionThreadMessage, changeDiscussionThreadName, changeDiscussionThreadPinDisplayOrder,
      changeDiscussionThreadApproval, subscribeToDiscussionThread, unsubscribeFromDiscussionThread,
      quoteUserInMessage, changeDiscussionTagName, changeDiscussionTagUiBlob, deleteDiscussionTag,
      addDiscussionTagToThread, removeDiscussionTagFromThread, changeDiscussionCategoryName,
      changeDiscussionCategoryDescription, changeDiscussionCategoryParent, changeDiscussionCategoryDisplayOrder,
      addDiscussionTagToCategory, removeDiscussionTagFromCategory]
    repeat' split
    all_goals
      first
        | rfl
        | simp [User.updateName, messageLists_deleteDiscussionTag]

/-! ### Operations that change a list -/

variable {ctx s} {P : MessageLists → Prop}

theorem messageLists_keeps_mergeDiscussionThreads (hP : MessageLists.Closed P) (h : P s.messageLists)
    (fromId intoId : IdType) : P (mergeDiscussionThreads ctx s fromId intoId).2.messageLists := by
  unfold mergeDiscussionThreads
  split
  next => exact h
  split
  next =>
    extract_lets s₁ s₂ s₃ s₄ s₅ s₆
    have h₂ : s₂.messageLists = s.messageLists :=
      (messageLists_foldl fun s m _ => DiscussionThreadMessage.messageLists_setParentThread s m intoId).trans
        (messageLists_updateThreadLastUpdated ctx s intoId _)
    have h₃ : P s₃.messageLists := DiscussionThread.messageLists_keeps_insertMessages intoId hP (by rwa [h₂]) _
    have h₆ : s₆.messageLists = s₃.messageLists := by
      refine (messageLists_foldl fun s user _ =>
        (DiscussionThread.messageLists_insertSubscribedUser _ intoId user).trans
          (messageLists_threadsAdd s (.subscribedBy user) intoId)).trans ?_
      exact (messageLists_updateMessageCounts s₄ intoId _).trans (messageLists_updateMessageCounts s₃ fromId _)
    clear_value s₆
    exact messageLists_keeps_deleteDiscussionThread ctx hP (by rwa [h₆]) fromId false true
  next => exact h

theorem messageLists_keeps_addNewDiscussionMessageInThread (hP : MessageLists.Closed P) (h : P s.messageLists)
    {id : IdType} (hid : ∀ thread, id ∉ s.threadMessages thread) (thread : IdType) (approved : Bool)
    (content : MessageContent) :
    P (addNewDiscussionMessageInThread ctx s id thread approved content).2.messageLists := by
  have hnew : ∀ t, id ∉ (s.messageLists.construct id).threadMessages t := fun t => by
    by_cases ht : t = id
    · simp [MessageLists.construct, ht]
    · dsimp only [MessageLists.construct]
      rw [Function.update_of_ne ht]
      exact hid t
  unfold addNewDiscussionMessageInThread
  split
  next =>
    extract_lets user s₁ s₂
    have h₂ : P s₂.messageLists := by
      rw [DiscussionThreadMessage.messageLists_setParentThread, messageLists_createDiscussionThreadMessage]
      exact hP.setCreated (hP.construct h id) hnew _
    clear_value s₂
    split
    next => exact h₂
    all_goals
      extract_lets s₃ s₄ s₅ s₆ s₇ s₈ s₉ s₁₀
      have h₄ : s₄.messageLists = s₂.messageLists :=
        (messageLists_messagesAdd s₃ (by simp) id).trans (messageLists_modifyMessage s₂ id rfl)
      have h₅ : P s₅.messageLists := by
        have h₄' : P s₄.messageLists := by rwa [h₄]
        rw [DiscussionThread.messageLists_insertMessage]
        exact hP.insert h₄' thread id
      have h₈ : s₈.messageLists = s₅.messageLists := by
        have h₇ : s₇.messageLists = s₅.messageLists :=
          (DiscussionThread.messageLists_setLatestVisibleChange s₆ thread _).trans
            (DiscussionThread.messageLists_resetVisitorsSinceLastEdit s₅ thread)
        dsimp only [s₈]
        split_ifs
        · exact h₇
        · exact (DiscussionThread.messageLists_insertSubscribedUser s₇ thread user).trans h₇
      have h₁₀ : s₁₀.messageLists = s₅.messageLists :=
        (messageLists_messagesAdd s₉ (by simp) id).trans ((messageLists_updateMessageCounts s₈ thread 1).trans h₈)
      clear_value s₁₀
      rw [messageLists_threadsAdd, h₁₀]
      exact h₅
  next => exact h

theorem messageLists_keeps_moveDiscussionThreadMessage (hP : MessageLists.Closed P) (h : P s.messageLists)
    (message intoThread : IdType) : P (moveDiscussionThreadMessage ctx s message intoThread).2.messageLists := by
  unfold moveDiscussionThreadMessage
  dsimp only
  split_ifs
  · exact h
  · rw [DiscussionThreadMessage.messageLists_setParentThread, messageLists_updateThreadOnMoveMessage,
      DiscussionThread.messageLists_deleteDiscussionThreadMessage, messageLists_updateThreadOnMoveMessage,
      DiscussionThread.messageLists_insertMessage]
    exact hP.erase (hP.insert h intoThread message) _ message
  · exact h

/-- The operations at the beginning and at the end of a batch insert. -/
def Operation.isBatchInsert : Operation → Bool
  | .startBatchInsert | .stopBatchInsert => true
  | _ => false

/-- Every other operation keeps what holds of the lists, if the id of a new message is in no thread. -/
theorem messageLists_keeps_perform (hP : MessageLists.Closed P) (h : P s.messageLists) (op : Operation)
    (hbatch : op.isBatchInsert = false) (hnew : ∀ id, op.newId = some id → ∀ thread, id ∉ s.threadMessages thread) :
    P (op.perform ctx s).2.messageLists := by
  by_cases hk : op.keepsMessageLists
  · rwa [messageLists_perform ctx s hk]
  have hconstruct : ∀ id, P (s.construct id).messageLists := fun id => by
    rw [messageLists_construct]
    exact hP.construct h id
  cases op <;> simp only [Operation.keepsMessageLists, not_true_eq_false, Bool.false_eq_true, not_false_eq_true] at hk <;>
    simp only [Operation.perform]
  case mergeDiscussionThreads fromId intoId => exact messageLists_keeps_mergeDiscussionThreads hP h fromId intoId
  case addNewDiscussionMessageInThread id thread approved content =>
    exact messageLists_keeps_addNewDiscussionMessageInThread hP h (hnew id rfl) thread approved content
  case moveDiscussionThreadMessage message intoThread =>
    exact messageLists_keeps_moveDiscussionThreadMessage hP h message intoThread
  case deleteUser id =>
    unfold deleteUser
    split_ifs
    · exact messageLists_keeps_deleteUser ctx hP h id
    · exact h
  case deleteDiscussionThread id =>
    unfold deleteDiscussionThread
    split_ifs
    · exact messageLists_keeps_deleteDiscussionThread ctx hP h id true true
    · exact h
  case deleteDiscussionMessage id =>
    unfold deleteDiscussionMessage
    split_ifs
    · exact messageLists_keeps_deleteDiscussionThreadMessage ctx hP h id true
    · exact h
  case startBatchInsert => cases hbatch
  case stopBatchInsert => cases hbatch
  case addNewUser id name auth =>
    unfold addNewUser
    split_ifs
    · exact h
    · exact h
    · rw [messageLists_usersAdd, User.messageLists_updateAuth]
      exact hconstruct id
  case sendPrivateMessage id destination content =>
    unfold sendPrivateMessage
    dsimp only
    split_ifs
    · exact h
    · rw [User.messageLists_modifyUser, messageLists_privateMessagesAdd, messageLists_privateMessagesAdd,
        messageLists_privateMessagesAdd]
      exact hconstruct id
    · exact h
  case addNewAttachment id name size approved =>
    unfold addNewAttachment
    rw [messageLists_attachmentsAdd, messageLists_attachmentsAdd]
    exact hconstruct id
  case addNewDiscussionThread id name approved =>
    unfold addNewDiscussionThread
    rw [messageLists_threadsAdd, messageLists_threadsAdd, DiscussionThread.messageLists_updateLastUpdated,
      DiscussionThread.messageLists_setLatestVisibleChange]
    exact hconstruct id
  case addCommentToDiscussionThreadMessage id message content =>
    unfold addCommentToDiscussionThreadMessage
    dsimp only
    split_ifs
    · rw [messageLists_commentsAdd, messageLists_commentsAdd, messageLists_commentsAdd]
      exact hconstruct id
    · exact h
  case addNewDiscussionTag id name =>
    unfold addNewDiscussionTag
    split_ifs
    · exact h
    · rw [messageLists_tagsAdd]
      exact hconstruct id
  case addNewDiscussionCategory id name parentId =>
    unfold addNewDiscussionCategory
    dsimp only
    split_ifs
    · exact h
    · rw [messageLists_categoriesAdd]
      exact hconstruct id
    · rw [messageLists_categoriesAdd]
      exact hconstruct id

/-! ### Messages have ids that were given out -/

/-- The messages of every thread, also of one that is gone, have ids that were given out. -/
def ThreadMessagesIssued (o : Ownership) : Prop := ∀ thread, o.threadMessages thread ⊆ o.issuedIds

namespace ThreadMessagesIssued

variable {o o' : Ownership} {user id : IdType} {op : Operation}

theorem mono (h : ThreadMessagesIssued o) (hids : o.issuedIds ⊆ o'.issuedIds)
    (hmessages : ∀ thread, o'.threadMessages thread ⊆ o.threadMessages thread) : ThreadMessagesIssued o' :=
  fun thread => (hmessages thread).trans ((h thread).trans hids)

theorem deleteMessages (h : ThreadMessagesIssued o) (messages : Finset IdType) (alsoFromUser : Bool) :
    ThreadMessagesIssued (o.deleteMessages messages alsoFromUser) :=
  h.mono (by rfl) fun _ => Finset.filter_subset _ _

theorem deleteThread (h : ThreadMessagesIssued o) (thread : IdType) (deleteMessages alsoFromUser : Bool) :
    ThreadMessagesIssued (o.deleteThread thread deleteMessages alsoFromUser) := by
  have hdrop : ThreadMessagesIssued (o.dropThread thread alsoFromUser) := h.mono (by rfl) fun _ => by rfl
  unfold Ownership.deleteThread
  split_ifs
  · exact hdrop.deleteMessages _ _
  · exact hdrop
  · exact h

theorem deleteUser (h : ThreadMessagesIssued o) (user : IdType) : ThreadMessagesIssued (o.deleteUser user) :=
  Ownership.deleteUser_keeps h (fun _ => h.mono (by rfl) fun _ => by rfl) (fun _ _ h => h.deleteMessages _ _)
    (fun _ _ h => h.deleteThread _ _ _) (fun _ _ _ _ h => h.mono (by rfl) fun _ => by rfl)
    fun _ _ h => h.mono (by rfl) fun _ => by rfl

theorem construct (h : ThreadMessagesIssued o) (id : IdType) : ThreadMessagesIssued (o.construct id) :=
  h.mono (Finset.subset_insert _ _) fun thread => by
    by_cases ht : thread = id <;> simp [Ownership.construct, ht]

theorem addMessage (h : ThreadMessagesIssued o) (thread : IdType) : ThreadMessagesIssued (o.addMessage id thread user) := by
  intro t m hm
  rcases mem_update_insert.1 hm with hm | ⟨rfl, -⟩
  · exact h.construct id t hm
  · exact Finset.mem_insert_self _ _

theorem mergeThreads (h : ThreadMessagesIssued o) (fromId intoId : IdType) :
    ThreadMessagesIssued (o.mergeThreads fromId intoId) := by
  refine ThreadMessagesIssued.deleteThread (fun t => ?_) _ _ _
  by_cases ht : t = intoId
  · subst ht
    simpa using Finset.union_subset (h t) (h fromId)
  · simpa [ht] using h t

/-- A message that moves is a message of the store. -/
theorem moveMessage (h : ThreadMessagesIssued o) (hissued : Issued o) {message : IdType} (hm : message ∈ o.allMessages)
    (intoThread : IdType) : ThreadMessagesIssued (o.moveMessage message intoThread) := by
  intro t
  dsimp only [Ownership.moveMessage]
  split_ifs
  · exact (Finset.erase_subset _ _).trans (h t)
  · exact Finset.insert_subset (hissued.messages hm) (h t)
  · exact h t

theorem step (hstep : OwnershipStep user op o o') (hissued : Issued o) (h : ThreadMessagesIssued o) :
    ThreadMessagesIssued o' := by
  cases hstep with
  | keep => exact h
  | deleteUser => exact h.deleteUser _
  | deleteDiscussionThread => exact h.deleteThread _ _ _
  | mergeDiscussionThreads => exact h.mergeThreads _ _
  | addNewDiscussionMessageInThread => exact h.addMessage _
  | deleteDiscussionMessage => exact h.deleteMessages _ _
  | moveDiscussionThreadMessage known => exact h.moveMessage hissued known _
  | resetVoteDiscussionThreadMessage =>
    unfold Ownership.resetVote
    split_ifs <;> exact h.mono (by rfl) fun _ => by rfl
  | addNewUser | sendPrivateMessage | constructMessage | addCommentToDiscussionThreadMessage | addNewDiscussionTag
  | addNewDiscussionCategory | addNewDiscussionThread | addNewAttachment =>
    exact (h.construct _).mono (by rfl) fun _ => by rfl
  | upVoteDiscussionThreadMessage | downVoteDiscussionThreadMessage | deletePrivateMessage | deleteAttachment
  | addAttachmentToDiscussionThreadMessage | removeAttachmentFromDiscussionThreadMessage
  | subscribeToDiscussionThread | unsubscribeFromDiscussionThread => exact h.mono (by rfl) fun _ => by rfl

end ThreadMessagesIssued

theorem Reachable.threadMessagesIssued {admissible : Context → EntityCollection → Operation → Prop}
    (h : Reachable admissible s) : ThreadMessagesIssued s.toOwnership :=
  h.ownership (fun _ => by simp) fun _ _ _ _ hreached _ _ hstep ih => ih.step hstep hreached.issued

/-! ### Every state of the store -/

/-- The id of what is constructed is in no thread. -/
theorem Reachable.newId_notMem {admissible : Context → EntityCollection → Operation → Prop}
    (h : Reachable admissible s) {op : Operation} (hcallable : Callable s op) :
    ∀ id, op.newId = some id → ∀ thread, id ∉ s.threadMessages thread :=
  fun id hid thread hm => (hcallable.fresh id hid).2 (h.threadMessagesIssued thread hm)

/-- In every state reached, what the threads list is sound. -/
theorem Reachable.messageLists_sound {admissible : Context → EntityCollection → Operation → Prop}
    (h : Reachable admissible s) : s.messageLists.Sound := by
  induction h with
  | empty => exact fun _ => ⟨∅, by simp, Library.indexes_nil⟩
  | step ctx op reached callable _ ih =>
    by_cases hbatch : op.isBatchInsert = false
    · exact messageLists_keeps_perform MessageLists.Sound.closed ih op hbatch (reached.newId_notMem callable)
    · cases op <;> simp only [Operation.isBatchInsert, not_true_eq_false, Bool.true_eq_false, not_false_eq_true] at hbatch
      case startBatchInsert => exact ih
      case stopBatchInsert => exact messageLists_sound_stopBatchInsert ih

/-- A thread lists its own messages only. -/
theorem Reachable.messageParentThread_of_mem_index {admissible : Context → EntityCollection → Operation → Prop}
    (h : Reachable admissible s) {thread message : IdType} (ht : thread ∈ s.allThreads)
    (hm : message ∈ s.index (.messages (.ofThread thread))) : s.messageParentThread message = thread :=
  ((h.authored.threadMessages thread ht message).1 (h.messageLists_sound.mem_threadMessages hm)).2

/-! ### Outside a batch insert -/

/-- A thread of the store was there before, or is new. -/
theorem OwnershipStep.mem_allThreads {user thread : IdType} {op : Operation} {o o' : Ownership}
    (hstep : OwnershipStep user op o o') (ht : thread ∈ o'.allThreads) :
    thread ∈ o.allThreads ∨ ∃ name approved, op = .addNewDiscussionThread thread name approved := by
  cases hstep with
  | addNewDiscussionThread =>
    rcases Finset.mem_insert.1 ht with rfl | ht
    · exact Or.inr ⟨_, _, rfl⟩
    · exact Or.inl ht
  | deleteUser => exact Or.inl ((Shrinks.deleteUser _ _).threads ht)
  | deleteDiscussionThread => exact Or.inl ((Shrinks.deleteThread _ _ _ _).threads ht)
  | @mergeDiscussionThreads o fromId intoId =>
    have hsub : (o.mergeThreads fromId intoId).allThreads ⊆ o.allThreads := (Shrinks.deleteThread _ _ _ _).threads
    exact Or.inl (hsub ht)
  | resetVoteDiscussionThreadMessage =>
    unfold Ownership.resetVote at ht
    split_ifs at ht <;> exact Or.inl ht
  | _ => exact Or.inl ht

/-- Outside a batch insert every thread of the store lists all its messages. -/
def MessagesListed (s : EntityCollection) : Prop :=
  s.batchInsertInProgress = false → ∀ thread ∈ s.allThreads, s.messageLists.Listed thread

theorem messagesListed_stopBatchInsert (h : MessagesListed s) : MessagesListed s.stopBatchInsert := by
  unfold MessagesListed
  rw [toStore_stopBatchInsert, messageLists_stopBatchInsert]
  intro _ thread ht
  by_cases hb : s.batchInsertInProgress = true
  · have hlisting : s.iterateThreads .all = ascending s.allThreads := if_pos hb
    rw [hlisting]
    exact .foldl_stopBatchInsert (nodup_ascending _) (by simpa using ht) hb
  · exact ⟨rfl, (foldl_keeps (P := MessageLists.Listed thread) (h (by simpa using hb) thread ht)
      fun L t _ hL => hL.stopBatchInsert t).2⟩

theorem messageLists_addNewDiscussionThread (id : IdType) (name : NameType) (approved : Bool) :
    (addNewDiscussionThread ctx s id name approved).2.messageLists = s.messageLists.construct id := by
  unfold addNewDiscussionThread
  rw [messageLists_threadsAdd, messageLists_threadsAdd, DiscussionThread.messageLists_updateLastUpdated,
    DiscussionThread.messageLists_setLatestVisibleChange]
  exact messageLists_construct (s := s) id

theorem Reachable.messagesListed {admissible : Context → EntityCollection → Operation → Prop}
    (h : Reachable admissible s) : MessagesListed s := by
  induction h with
  | empty => exact fun _ thread ht => absurd ht (Finset.notMem_empty thread)
  | @step s ctx op reached callable _ ih =>
    by_cases hbatch : op.isBatchInsert = false
    · intro hb thread ht
      have hflag : MessageLists.Closed fun L => L.batchInsertInProgress = s.batchInsertInProgress := by
        refine ⟨fun h t m => ?_, fun h t m => ?_, fun h _ => h, fun h _ _ => h⟩
        · unfold MessageLists.insert
          split_ifs <;> exact h
        · unfold MessageLists.erase
          split_ifs <;> exact h
      have hsame : ((op.perform ctx s).2.messageLists).batchInsertInProgress = s.batchInsertInProgress :=
        messageLists_keeps_perform hflag rfl op hbatch (reached.newId_notMem callable)
      have hbefore : s.batchInsertInProgress = false := hsame.symm.trans hb
      rcases (ownershipStep_perform ctx s op).mem_allThreads ht with ht | ⟨name, approved, rfl⟩
      · exact messageLists_keeps_perform (MessageLists.Listed.closed thread) (ih hbefore thread ht) op hbatch
          (reached.newId_notMem callable)
      · rw [Operation.perform, messageLists_addNewDiscussionThread]
        exact .construct_self hbefore thread
    · cases op <;> simp only [Operation.isBatchInsert, not_true_eq_false, Bool.true_eq_false, not_false_eq_true] at hbatch
      case startBatchInsert => exact fun hb => by cases hb
      case stopBatchInsert => exact messagesListed_stopBatchInsert ih

/-- Outside a batch insert each thread of the store lists its messages, each once and in the order in which they were
created, and these are the messages that name the thread. -/
theorem messageIndexes_of_reachable (h : Reachable anyOperation s) (hb : s.batchInsertInProgress = false) {thread : IdType}
    (ht : thread ∈ s.allThreads) :
    Indexes (fun message => IndexKey.ascending (s.message message).created) (s.index (.messages (.ofThread thread)))
        (s.threadMessages thread) ∧
      ∀ message, message ∈ s.threadMessages thread ↔ message ∈ s.allMessages ∧ s.messageParentThread message = thread :=
  ⟨(h.messagesListed hb thread ht).2, h.authored.threadMessages thread ht⟩

/-- Two messages are written during a batch insert, and one is moved and merged back afterwards. -/
theorem messageIndexes_of_movedBack :
    let s := run
      [({ currentUserId := 0, currentTime := 1 }, .startBatchInsert),
        ({ currentUserId := 0, currentTime := 2 }, .addNewDiscussionThread 1 { sortKey := [1] } true),
        ({ currentUserId := 0, currentTime := 3 }, .addNewDiscussionThread 2 { sortKey := [2] } true),
        ({ currentUserId := 0, currentTime := 4 }, .addNewDiscussionMessageInThread 3 1 true (.text "first")),
        ({ currentUserId := 0, currentTime := 5 }, .addNewDiscussionMessageInThread 4 1 true (.text "second")),
        ({ currentUserId := 0, currentTime := 6 }, .stopBatchInsert),
        ({ currentUserId := 0, currentTime := 7 }, .moveDiscussionThreadMessage 3 2),
        ({ currentUserId := 0, currentTime := 8 }, .mergeDiscussionThreads 2 1)] .empty
    Indexes (fun message => IndexKey.ascending (s.message message).created) (s.index (.messages (.ofThread 1)))
        (s.threadMessages 1) ∧
      ∀ message, message ∈ s.threadMessages 1 ↔ message ∈ s.allMessages ∧ s.messageParentThread message = 1 :=
  messageIndexes_of_reachable (Reachable.empty.run _ (by decide +kernel)) (by decide +kernel) (by decide +kernel)

/-! ### Who has what -/

/-- In every state reached the threads partition the messages, and the users, with the anonymous user, partition the
threads as well as the messages. -/
theorem partitions_of_reachable (h : Reachable anyOperation s) :
    Partitions s.allMessages s.allThreads s.threadMessages ∧
      Partitions s.allThreads (insert anonymousUser s.users) s.userThreads ∧
        Partitions s.allMessages (insert anonymousUser s.users) s.userMessages := by
  have ha := h.authored
  have huser : ∀ {user}, user ∈ insert anonymousUser s.users ↔ UserObject s.toOwnership user := Finset.mem_insert
  refine ⟨partitions_of_owner ha.messageParent ha.threadMessages, ?_, ?_⟩
  · exact partitions_of_owner (fun thread ht => huser.2 (ha.threadAuthor thread ht)) fun user hu =>
      ha.userThreads user (huser.1 hu)
  · exact partitions_of_owner (fun message hm => huser.2 (ha.messageAuthor message hm)) fun user hu =>
      ha.userMessages user (huser.1 hu)

/-- A user is deleted who wrote in the thread of another one. -/
theorem partitions_of_deletedUser :
    let s := run
      [({ currentUserId := 0, currentTime := 1 }, .addNewUser 1 { sortKey := [1] } "first"),
        ({ currentUserId := 0, currentTime := 2 }, .addNewUser 2 { sortKey := [2] } "second"),
        ({ currentUserId := 1, currentTime := 3 }, .addNewDiscussionThread 3 { sortKey := [3] } true),
        ({ currentUserId := 2, currentTime := 4 }, .addNewDiscussionMessageInThread 4 3 true (.text "theirs")),
        ({ currentUserId := 0, currentTime := 5 }, .addNewDiscussionMessageInThread 5 3 true (.text "anonymous")),
        ({ currentUserId := 0, currentTime := 6 }, .deleteUser 2)] .empty
    Partitions s.allMessages s.allThreads s.threadMessages ∧
      Partitions s.allThreads (insert anonymousUser s.users) s.userThreads ∧
        Partitions s.allMessages (insert anonymousUser s.users) s.userMessages :=
  partitions_of_reachable (Reachable.empty.run _ (by decide +kernel))

end Forum.Repository
