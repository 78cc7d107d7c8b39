import Forum.Repository.Authors
import Forum.Search.SearchIndex

/-!
# The direct writes and the search index

What each direct write on threads and messages means for an index of their texts: which entry it sets or
removes, or that it leaves all of them as they are.
-/

namespace Forum.Search

open Forum.Library Forum.Entities Forum.Repository EntityCollection SearchIndex

variable (ctx : Context) (s : EntityCollection)

/-! ### Texts -/

@[simp] theorem texts_updateThreadLastUpdated (thread user : IdType) :
    (updateThreadLastUpdated ctx thread user s).texts = s.texts := by
  simp [updateThreadLastUpdated]

@[simp] theorem texts_updateMessageCounts (thread : IdType) (difference : ℤ) :
    (updateMessageCounts s thread difference).texts = s.texts :=
  (texts_foldl fun s category _ => DiscussionCategory.texts_updateMessageCount s category thread difference).trans
    (texts_foldl fun s tag _ => DiscussionTag.texts_updateMessageCount s tag difference)

@[simp] theorem texts_updateThreadOnMoveMessage (thread : IdType) (delta : ℤ) :
    (updateThreadOnMoveMessage ctx s thread delta).texts = s.texts := by
  simp [updateThreadOnMoveMessage]

/-- A user subscribes to the thread that another one is merged into. -/
theorem texts_subscribe (thread user : IdType) :
    (DiscussionThread.insertSubscribedUser thread (s.threadsAdd (.subscribedBy user) thread) user).texts = s.texts := by
  simp

/-! ### Writes that keep threads and messages -/

variable {s}

theorem ofStore_of_kept {s' : EntityCollection} (h : OwnershipKept s s') (htexts : s'.texts = s.texts) :
    ofStore s' = ofStore s :=
  ofStore_congr (congrArg Ownership.allThreads h.1) (congrArg Ownership.allMessages h.1) htexts

/-- A write that changes neither the ownership of entities nor their texts. -/
theorem ofStore_perform_of_kept {op : Operation} (hop : op.keepsOwnership)
    (htexts : (op.perform ctx s).2.texts = s.texts) : ofStore (op.perform ctx s).2 = ofStore s :=
  ofStore_of_kept (ownershipKept_perform ctx s hop) htexts

theorem ofStore_changeDiscussionThreadPinDisplayOrder (id : IdType) (value : ℕ) :
    ofStore ((Operation.changeDiscussionThreadPinDisplayOrder id value).perform ctx s).2 = ofStore s := by
  refine ofStore_perform_of_kept ctx rfl ?_
  rw [Operation.perform, changeDiscussionThreadPinDisplayOrder]
  split_ifs <;> simp

theorem ofStore_changeDiscussionThreadApproval (id : IdType) (approved : Bool) :
    ofStore ((Operation.changeDiscussionThreadApproval id approved).perform ctx s).2 = ofStore s := by
  refine ofStore_perform_of_kept ctx rfl ?_
  rw [Operation.perform, changeDiscussionThreadApproval]
  split_ifs <;> simp

theorem ofStore_changeDiscussionThreadMessageApproval (id : IdType) (approved : Bool) :
    ofStore ((Operation.changeDiscussionThreadMessageApproval id approved).perform ctx s).2 = ofStore s := by
  refine ofStore_perform_of_kept ctx rfl ?_
  rw [Operation.perform, changeDiscussionThreadMessageApproval]
  dsimp only
  split_ifs
  · rfl
  · rw [DiscussionThread.texts_resetVisitorsSinceLastEdit, texts_modifyMessage s id rfl]
  · rfl

theorem ofStore_quoteUserInMessage (message user : IdType) :
    ofStore ((Operation.quoteUserInMessage message user).perform ctx s).2 = ofStore s := by
  refine ofStore_perform_of_kept ctx rfl ?_
  rw [Operation.perform, quoteUserInMessage]
  split_ifs <;> simp

theorem ofStore_updateUserLastSeen (id : IdType) (value : Timestamp) :
    ofStore ((Operation.updateUserLastSeen id value).perform ctx s).2 = ofStore s := by
  refine ofStore_perform_of_kept ctx rfl ?_
  rw [Operation.perform, updateUserLastSeen]
  split_ifs <;> simp

theorem ofStore_moveDiscussionThreadMessage (message intoThread : IdType) :
    ofStore ((Operation.moveDiscussionThreadMessage message intoThread).perform ctx s).2 = ofStore s := by
  by_cases h : message ∈ s.allMessages ∧ intoThread ∈ s.allThreads
  · by_cases hne : s.messageParentThread message = intoThread
    · simp [Operation.perform, moveDiscussionThreadMessage, h, hne]
    · have howner := toOwnership_moveDiscussionThreadMessage ctx s h.1 h.2 hne
      refine ofStore_congr ((congrArg Ownership.allThreads howner).trans rfl)
        ((congrArg Ownership.allMessages howner).trans rfl) ?_
      simp [Operation.perform, moveDiscussionThreadMessage, h, hne]
  · simp [Operation.perform, moveDiscussionThreadMessage, h]

theorem ofStore_changeDiscussionThreadName {id : IdType} (h : id ∈ s.allThreads) (name : NameType) :
    ofStore ((Operation.changeDiscussionThreadName id name).perform ctx s).2 =
      ofTexts s.allThreads s.allMessages (Function.update s.texts.1 id name, s.texts.2) := by
  have hkept := (ownershipKept_perform ctx s (show (Operation.changeDiscussionThreadName id name).keepsOwnership from rfl)).1
  have htexts : ((Operation.changeDiscussionThreadName id name).perform ctx s).2.texts =
      (Function.update s.texts.1 id name, s.texts.2) := by
    rw [Operation.perform, changeDiscussionThreadName, if_pos h, texts_updateThreadLastUpdated,
      DiscussionThread.texts_updateName]
  rw [ofStore, hkept, htexts]

theorem ofStore_changeDiscussionThreadMessageContent {id : IdType} (h : id ∈ s.allMessages) (content reason : String) :
    ofStore ((Operation.changeDiscussionThreadMessageContent id content reason).perform ctx s).2 =
      ofTexts s.allThreads s.allMessages (s.texts.1, Function.update s.texts.2 id content) := by
  have hkept := (ownershipKept_perform ctx s
    (show (Operation.changeDiscussionThreadMessageContent id content reason).keepsOwnership from rfl)).1
  have htexts : ((Operation.changeDiscussionThreadMessageContent id content reason).perform ctx s).2.texts =
      (s.texts.1, Function.update s.texts.2 id content) := by
    rw [Operation.perform, changeDiscussionThreadMessageContent, if_pos h]
    dsimp only
    rw [DiscussionThread.texts_setLatestVisibleChange, DiscussionThread.texts_resetVisitorsSinceLastEdit,
      texts_modifyMessage_content s id rfl]
  rw [ofStore, hkept, htexts]

/-! ### Writes that add threads and messages -/

theorem ofStore_addNewDiscussionThread (id : IdType) (name : NameType) (approved : Bool) :
    ofStore ((Operation.addNewDiscussionThread id name approved).perform ctx s).2 =
      ofTexts (insert id s.allThreads) s.allMessages (Function.update s.texts.1 id name, s.texts.2) := by
  have howner := toOwnership_addNewDiscussionThread ctx s id name approved
  have htexts : ((Operation.addNewDiscussionThread id name approved).perform ctx s).2.texts =
      (Function.update s.texts.1 id name, s.texts.2) := by
    rw [Operation.perform, addNewDiscussionThread]
    simp [texts_createDiscussionThread]
  rw [ofStore, htexts]
  exact congrArg₂ (fun threads messages => ofTexts threads messages _) ((congrArg Ownership.allThreads howner).trans rfl)
    ((congrArg Ownership.allMessages howner).trans rfl)

theorem ofStore_addNewDiscussionMessageInThread {thread : IdType} (h : thread ∈ s.allThreads) (id : IdType)
    (approved : Bool) (content : String) :
    ofStore ((Operation.addNewDiscussionMessageInThread id thread approved (.text content)).perform ctx s).2 =
      ofTexts s.allThreads (insert id s.allMessages) (s.texts.1, Function.update s.texts.2 id content) := by
  have howner := (toOwnership_addNewDiscussionMessageInThread ctx s id h approved content).1
  have htexts : ((Operation.addNewDiscussionMessageInThread id thread approved (.text content)).perform ctx s).2.texts =
      (s.texts.1, Function.update s.texts.2 id content) := by
    rw [Operation.perform, addNewDiscussionMessageInThread, if_pos h]
    dsimp only
    have hcreated := texts_createDiscussionThreadMessage s id (getCurrentUser ctx s) ctx.currentTime ctx.visitDetails
      approved
    have hadd : ∀ s : EntityCollection, ((s.modifyMessage id fun m => { m with content := content }).texts) =
        (s.texts.1, Function.update s.texts.2 id content) := fun s => texts_modifyMessage_content s id rfl
    split_ifs <;> simp [hadd, hcreated]
  rw [ofStore, htexts]
  exact congrArg₂ (fun threads messages => ofTexts threads messages _) ((congrArg Ownership.allThreads howner).trans rfl)
    ((congrArg Ownership.allMessages howner).trans rfl)

/-! ### Deletions -/

theorem ofStore_deleteDiscussionMessage {id : IdType} (h : id ∈ s.allMessages) :
    ofStore ((Operation.deleteDiscussionMessage id).perform ctx s).2 =
      ofTexts s.allThreads (s.allMessages \ {id}) s.texts := by
  rw [Operation.perform, deleteDiscussionMessage, if_pos h, ofStore, texts_deleteDiscussionThreadMessage,
    (toOwnership_deleteDiscussionThreadMessage ctx s id true).1]
  rfl

theorem ofStore_deleteDiscussionThread {id : IdType} (h : id ∈ s.allThreads) :
    ofStore ((Operation.deleteDiscussionThread id).perform ctx s).2 =
      ofTexts (s.allThreads.erase id) (s.allMessages \ s.threadMessages id) s.texts := by
  rw [Operation.perform, Repository.deleteDiscussionThread, if_pos h, ofStore, texts_deleteDiscussionThread,
    (toOwnership_deleteDiscussionThread ctx s id true true).1, Ownership.deleteThread, if_pos h, if_pos rfl]
  rfl

theorem ofStore_mergeDiscussionThreads {fromId intoId : IdType} (hne : fromId ≠ intoId)
    (hfrom : fromId ∈ s.allThreads) (hinto : intoId ∈ s.allThreads) :
    ofStore ((Operation.mergeDiscussionThreads fromId intoId).perform ctx s).2 =
      ofTexts (s.allThreads.erase fromId) s.allMessages s.texts := by
  have howner := toOwnership_mergeDiscussionThreads ctx s hne hfrom hinto
  have htexts : ((Operation.mergeDiscussionThreads fromId intoId).perform ctx s).2.texts = s.texts := by
    rw [Operation.perform, Repository.mergeDiscussionThreads, if_neg hne, if_pos ⟨hfrom, hinto⟩]
    dsimp only
    rw [texts_deleteDiscussionThread, texts_foldl fun s user _ => texts_subscribe s intoId user,
      texts_updateMessageCounts, texts_updateMessageCounts, DiscussionThread.texts_insertMessages,
      texts_foldl fun s message _ => DiscussionThreadMessage.texts_setParentThread s message intoId,
      texts_updateThreadLastUpdated]
  have hmerged : (s.toOwnership.mergeThreads fromId intoId).allThreads = s.allThreads.erase fromId ∧
      (s.toOwnership.mergeThreads fromId intoId).allMessages = s.allMessages := by
    simp [Ownership.mergeThreads, Ownership.deleteThread, hfrom, Ownership.dropThread]
  rw [ofStore, htexts]
  exact congrArg₂ (fun threads messages => ofTexts threads messages _)
    ((congrArg Ownership.allThreads howner).trans hmerged.1) ((congrArg Ownership.allMessages howner).trans hmerged.2)

theorem ofStore_deleteUser {id : IdType} (h : id ∈ s.users) :
    ofStore ((Operation.deleteUser id).perform ctx s).2 =
      ofTexts (s.toOwnership.deleteUser id).allThreads (s.toOwnership.deleteUser id).allMessages s.texts := by
  rw [Operation.perform, Repository.deleteUser, if_pos h, ofStore, texts_deleteUser,
    (toOwnership_deleteUser ctx s id).1]

end Forum.Search
