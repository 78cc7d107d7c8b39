import Forum.Entities.MessageIndexes
import Forum.Entities.ThreadIndexes

/-!
# The order of messages through the operations

Functions of tags and categories leave the message lists alone, and so do those of a thread but for
`insertMessage`, `insertMessages` and `deleteDiscussionThreadMessage`. The deletions take messages out of
their threads; they keep what the indexes list sound.
-/

namespace Forum.Entities

open Forum.Library EntityCollection

variable (ctx : Context) (s : EntityCollection)

/-! ### Threads -/

namespace DiscussionThread

variable (thread : IdType)

@[simp] theorem messageLists_modifyThread (f : DiscussionThread → DiscussionThread) :
    (s.modifyThread thread f).messageLists = s.messageLists := rfl

@[simp] theorem messageLists_updateName (name : NameType) : (updateName thread s name).messageLists = s.messageLists := by
  simp [updateName]

@[simp] theorem messageLists_updateLastUpdated (value : Timestamp) :
    (updateLastUpdated thread s value).messageLists = s.messageLists := by
  unfold updateLastUpdated
  dsimp only
  split_ifs <;> simp

@[simp] theorem messageLists_updatePinDisplayOrder (value : ℕ) :
    (updatePinDisplayOrder thread s value).messageLists = s.messageLists := by
  simp [updatePinDisplayOrder]

@[simp] theorem messageLists_updateLatestMessageCreated (value : Timestamp) :
    (updateLatestMessageCreated thread s value).messageLists = s.messageLists := by
  unfold updateLatestMessageCreated
  rw [messageLists_onUpdateDiscussionThread]
  exact messageLists_onPrepareUpdateDiscussionThread s .latestMessageCreated thread

@[simp] theorem messageLists_removeCategory (category : IdType) :
    (removeCategory thread s ctx category).messageLists = s.messageLists := rfl

@[simp] theorem messageLists_addCategory (category : IdType) :
    (addCategory thread s ctx category).messageLists = s.messageLists := rfl

@[simp] theorem messageLists_setApproved (approved : Bool) :
    (setApproved thread s approved).messageLists = s.messageLists := rfl

@[simp] theorem messageLists_addTag (tag : IdType) : (addTag thread s ctx tag).messageLists = s.messageLists := rfl

@[simp] theorem messageLists_insertSubscribedUser (user : IdType) :
    (insertSubscribedUser thread s user).messageLists = s.messageLists := rfl

@[simp] theorem messageLists_removeTag (tag : IdType) :
    (removeTag thread s ctx tag).messageLists = s.messageLists := rfl

@[simp] theorem messageLists_eraseSubscribedUser (user : IdType) :
    (eraseSubscribedUser thread s user).messageLists = s.messageLists := rfl

@[simp] theorem messageLists_setAboutToBeDeleted (value : Bool) :
    (setAboutToBeDeleted thread s value).messageLists = s.messageLists := rfl

@[simp] theorem messageLists_resetVisitorsSinceLastEdit :
    (resetVisitorsSinceLastEdit thread s).messageLists = s.messageLists := rfl

@[simp] theorem messageLists_setLatestVisibleChange (value : Timestamp) :
    (setLatestVisibleChange thread s value).messageLists = s.messageLists := rfl

theorem messageLists_insertMessage (message : IdType) : (insertMessage thread s message).messageLists =
    s.messageLists.insert s.batchInsertInProgress thread message := by
  rw [insertMessage, messageLists_updateLatestMessageCreated, messageLists_messagesAdd_ofThread]

theorem messageLists_deleteDiscussionThreadMessage (message : IdType) :
    (deleteDiscussionThreadMessage thread s message).messageLists = s.messageLists.erase thread message := by
  rw [deleteDiscussionThreadMessage, refreshLatestMessageCreated, messageLists_updateLatestMessageCreated,
    messageLists_messagesRemove_ofThread]

theorem messageLists_keeps_insertMessages {P : MessageLists → Prop} {s : EntityCollection} (hP : MessageLists.Closed P)
    (h : P s.messageLists) (messages : Finset IdType) : P (insertMessages thread s messages).messageLists := by
  rw [insertMessages, messageLists_updateLatestMessageCreated, messagesAddAll, messageLists_messagesCountChange]
  refine foldl_keeps (P := fun s : EntityCollection => P s.messageLists) ?_ fun s m _ h => ?_
  · rwa [messageLists_messagesPrepareCountChange]
  · rw [messageLists_messagesInsert_ofThread]
    exact hP.insert h thread m

end DiscussionThread

/-! ### Categories and tags -/

namespace DiscussionCategory

variable (category thread tag : IdType)

@[simp] theorem messageLists_addChild (child : IdType) :
    (addChild category s child).messageLists = s.messageLists := rfl

@[simp] theorem messageLists_removeChild (child : IdType) :
    (removeChild category s child).messageLists = s.messageLists := rfl

@[simp] theorem messageLists_modifyTotals (f : TotalThreads → TotalThreads) :
    (s.modifyTotals category f).messageLists = s.messageLists := rfl

@[simp] theorem messageLists_insertNewDiscussionThreads (threads : List IdType) :
    (insertNewDiscussionThreads ctx category s threads).messageLists = s.messageLists := by
  have htotals : ∀ (categories : List IdType) (s : EntityCollection),
      (categories.foldl (fun s c =>
        threads.foldl (fun s thread => s.modifyTotals c fun T => T.add s.threadMessageCount thread 1) s) s).messageLists =
        s.messageLists := fun categories s => messageLists_foldl fun s c _ => messageLists_foldl fun _ _ _ => rfl
  have hadd : ∀ (threads : List IdType) (s : EntityCollection),
      (threads.foldl (fun s thread => DiscussionThread.addCategory thread
        (s.addCategoryMessageCount category (s.threadMessageCount thread)) ctx category) s).messageLists =
        s.messageLists := fun threads s => messageLists_foldl fun _ _ _ => rfl
  unfold insertNewDiscussionThreads
  dsimp only
  rw [htotals, messageLists_finishUpdate_categories, hadd, messageLists_threadsAddRange, messageLists_prepareUpdate]

@[simp] theorem messageLists_insertDiscussionThreads (threads : List IdType) :
    (insertDiscussionThreads ctx category s threads).messageLists = s.messageLists := by
  unfold insertDiscussionThreads
  dsimp only
  split_ifs <;> simp

@[simp] theorem messageLists_insertDiscussionThreadsOfTag :
    (insertDiscussionThreadsOfTag ctx category s tag).messageLists = s.messageLists := by
  unfold insertDiscussionThreadsOfTag
  dsimp only
  split_ifs <;> simp

@[simp] theorem messageLists_deleteDiscussionThread (deleteMessages onlyThisCategory : Bool) :
    (deleteDiscussionThread ctx category s thread deleteMessages onlyThisCategory).messageLists = s.messageLists := by
  have hcount : ∀ (s : EntityCollection) (delta : ℤ), (s.addCategoryMessageCount category delta).messageLists =
      s.messageLists := fun _ _ => rfl
  have htotals : ∀ (categories : List IdType) (s : EntityCollection),
      (categories.foldl (fun s c => s.modifyTotals c fun T => T.remove s.threadMessageCount thread) s).messageLists =
        s.messageLists := fun categories s => messageLists_foldl fun _ _ _ => rfl
  unfold deleteDiscussionThread
  dsimp only
  split_ifs <;> simp [hcount, htotals]

@[simp] theorem messageLists_deleteDiscussionThreadIfNoOtherTagsReferenceIt (deleteMessages : Bool) :
    (deleteDiscussionThreadIfNoOtherTagsReferenceIt ctx category s thread deleteMessages).messageLists =
      s.messageLists := by
  unfold deleteDiscussionThreadIfNoOtherTagsReferenceIt
  dsimp only
  split_ifs
  · rfl
  · rw [messageLists_foldl fun s c _ => messageLists_modifyTotals s c _, messageLists_deleteDiscussionThread]

@[simp] theorem messageLists_addTag : (addTag ctx category s tag).messageLists = s.messageLists := by
  unfold addTag
  split_ifs
  · rfl
  · rw [messageLists_insertDiscussionThreadsOfTag]
    rfl

@[simp] theorem messageLists_removeTag : (removeTag ctx category s tag).messageLists = s.messageLists := by
  unfold removeTag
  split_ifs
  · exact messageLists_foldl fun s t _ => messageLists_deleteDiscussionThreadIfNoOtherTagsReferenceIt ctx s category t true
  · rfl

@[simp] theorem messageLists_updateMessageCount (delta : ℤ) :
    (updateMessageCount category s thread delta).messageLists = s.messageLists := by
  unfold updateMessageCount
  rw [messageLists_finishUpdate_categories]
  rw [messageLists_foldl fun s c _ => messageLists_modifyTotals s c _, messageLists_modifyTotals]
  exact messageLists_prepareUpdate s _ category

@[simp] theorem messageLists_removeTotalsFromChild (child : IdType) :
    (removeTotalsFromChild category s child).messageLists = s.messageLists := messageLists_foldl fun _ _ _ => rfl

@[simp] theorem messageLists_addTotalsFromChild (child : IdType) :
    (addTotalsFromChild category s child).messageLists = s.messageLists := messageLists_foldl fun _ _ _ => rfl

@[simp] theorem messageLists_updateName (name : NameType) :
    (updateName category s name).messageLists = s.messageLists := by
  rw [updateName, messageLists_uniqueUpdate]
  rfl

@[simp] theorem messageLists_updateDisplayOrder (value : ℤ) :
    (updateDisplayOrder category s value).messageLists = s.messageLists := by
  unfold updateDisplayOrder
  split_ifs
  · rfl
  · rw [messageLists_finishUpdate_categories]
    exact messageLists_prepareUpdate s _ category

@[simp] theorem messageLists_updateParent (newParent : Option IdType) :
    (updateParent category s newParent).messageLists = s.messageLists := by
  rw [updateParent, messageLists_finishUpdate_categories]
  exact messageLists_prepareUpdate s _ category

end DiscussionCategory

namespace DiscussionTag

variable (tag thread : IdType)

@[simp] theorem messageLists_addCategory (category : IdType) :
    (addCategory tag s category).messageLists = s.messageLists := rfl

@[simp] theorem messageLists_removeCategory (category : IdType) :
    (removeCategory tag s category).messageLists = s.messageLists := rfl

@[simp] theorem messageLists_updateName (name : NameType) : (updateName tag s name).messageLists = s.messageLists := by
  rw [updateName, messageLists_uniqueUpdate]
  rfl

@[simp] theorem messageLists_updateMessageCount (delta : ℤ) :
    (updateMessageCount tag s delta).messageLists = s.messageLists := by
  unfold updateMessageCount
  split_ifs
  · rfl
  · rw [messageLists_finishUpdate_tags]
    exact messageLists_prepareUpdate s _ tag

@[simp] theorem messageLists_insertDiscussionThreads (threads : List IdType) :
    (insertDiscussionThreads ctx tag s threads).messageLists = s.messageLists := by
  have hcategories : ∀ (categories threads : List IdType) (s : EntityCollection),
      (categories.foldl (fun (acc : List IdType × EntityCollection) category =>
        (DiscussionCategory.compactThreads category acc.2 acc.1,
          DiscussionCategory.insertDiscussionThreads ctx category acc.2 acc.1)) (threads, s)).2.messageLists =
        s.messageLists := fun categories threads s =>
    foldl_view (fun acc : List IdType × EntityCollection => acc.2.messageLists) fun acc category _ => by simp
  have hcount : ∀ (threads : List IdType) (s : EntityCollection),
      (threads.foldl (fun s thread => s.addTagMessageCount tag (s.threadMessageCount thread)) s).messageLists =
        s.messageLists := fun threads s => messageLists_foldl fun _ _ _ => rfl
  unfold insertDiscussionThreads
  dsimp only
  split_ifs <;> simp [hcategories, hcount]

@[simp] theorem messageLists_insertDiscussionThread :
    (insertDiscussionThread ctx tag s thread).messageLists = s.messageLists :=
  messageLists_insertDiscussionThreads ctx s tag [thread]

@[simp] theorem messageLists_deleteDiscussionThread (deleteMessages : Bool) :
    (deleteDiscussionThread ctx tag s thread deleteMessages).messageLists = s.messageLists := by
  have hcount : ∀ (s : EntityCollection) (delta : ℤ), (s.addTagMessageCount tag delta).messageLists =
      s.messageLists := fun _ _ => rfl
  have hcategories : ∀ (categories : List IdType) (s : EntityCollection),
      (categories.foldl (fun s category => DiscussionCategory.deleteDiscussionThreadIfNoOtherTagsReferenceIt ctx category
        s thread deleteMessages) s).messageLists = s.messageLists := fun categories s =>
    messageLists_foldl fun s category _ => by simp
  unfold deleteDiscussionThread
  dsimp only
  split_ifs <;> simp [hcount, hcategories]

end DiscussionTag

/-! ### Users -/

namespace User

variable (user : IdType)

@[simp] theorem messageLists_modifyUser (f : User → User) : (s.modifyUser user f).messageLists = s.messageLists := rfl

@[simp] theorem messageLists_removeVote (message : IdType) :
    (removeVote user s message).messageLists = s.messageLists := rfl

@[simp] theorem messageLists_updateAuth (auth : String) : (updateAuth user s auth).messageLists = s.messageLists := by
  rw [updateAuth, messageLists_uniqueUpdate]
  rfl

@[simp] theorem messageLists_updateName (name : NameType) : (updateName user s name).messageLists = s.messageLists := by
  rw [updateName, messageLists_uniqueUpdate]
  rfl

@[simp] theorem messageLists_updateLastSeen (value : Timestamp) :
    (updateLastSeen user s value).messageLists = s.messageLists := by
  unfold updateLastSeen
  split_ifs
  · rfl
  · rw [messageLists_finishUpdate_users]
    exact messageLists_prepareUpdate s _ user

end User

/-! ### Messages -/

/-- A message is changed but for the time when it was created. -/
theorem messageLists_modifyMessage (message : IdType) {f : DiscussionThreadMessage → DiscussionThreadMessage}
    (hf : (f (s.message message)).created = (s.message message).created) :
    (s.modifyMessage message f).messageLists = s.messageLists := by
  have hcreated : (fun m => ((s.modifyMessage message f).message m).created) = fun m => (s.message m).created := by
    funext m
    by_cases hm : m = message
    · subst hm
      simpa [modifyMessage] using hf
    · simp [modifyMessage, hm]
  unfold messageLists
  rw [hcreated]
  rfl

@[simp] theorem DiscussionThreadMessage.messageLists_removeAttachment (message attachment : IdType) :
    (removeAttachment message s attachment).messageLists = s.messageLists := rfl

@[simp] theorem DiscussionThreadMessage.messageLists_changeSolvedCommentsCount (message : IdType) (delta : ℤ) :
    (changeSolvedCommentsCount message s delta).messageLists = s.messageLists := messageLists_modifyMessage s message rfl

@[simp] theorem DiscussionThreadMessage.messageLists_setParentThread (message thread : IdType) :
    (setParentThread message s thread).messageLists = s.messageLists := rfl

@[simp] theorem DiscussionThreadMessage.messageLists_removeVote (message user : IdType) :
    (removeVote message s user).2.messageLists = s.messageLists := by
  unfold removeVote
  split_ifs <;> rfl

/-! ### Deletions -/

namespace EntityCollection

@[simp] theorem messageLists_eraseAttachmentMessage (attachment message : IdType) :
    (s.eraseAttachmentMessage attachment message).messageLists = s.messageLists := rfl

@[simp] theorem messageLists_deleteMessageComment (comment : IdType) :
    (s.deleteMessageComment comment).messageLists = s.messageLists := by
  unfold deleteMessageComment
  dsimp only
  split_ifs <;> simp

@[simp] theorem messageLists_deletePrivateMessage (message : IdType) (fromSource fromDestination : Bool) :
    (s.deletePrivateMessage message fromSource fromDestination).messageLists = s.messageLists := by
  unfold deletePrivateMessage
  dsimp only
  split_ifs <;> simp

@[simp] theorem messageLists_deleteAttachment (attachment : IdType) (alsoFromUser : Bool) :
    (s.deleteAttachment attachment alsoFromUser).messageLists = s.messageLists := by
  unfold deleteAttachment
  dsimp only
  split_ifs
  · rw [messageLists_foldl fun s message _ => DiscussionThreadMessage.messageLists_removeAttachment s message attachment,
      messageLists_attachmentsRemove, messageLists_attachmentsRemove]
  · rw [messageLists_foldl fun s message _ => DiscussionThreadMessage.messageLists_removeAttachment s message attachment,
      messageLists_attachmentsRemove]
  · rfl

theorem messageLists_detachMessageFromThread (message thread : IdType) :
    (detachMessageFromThread ctx s message thread).messageLists = s.messageLists.erase thread message := by
  unfold detachMessageFromThread
  dsimp only
  rw [messageLists_foldl fun s category _ => DiscussionCategory.messageLists_updateMessageCount s category thread (-1),
    messageLists_foldl fun s tag _ => DiscussionTag.messageLists_updateMessageCount s tag (-1),
    DiscussionThread.messageLists_setLatestVisibleChange, DiscussionThread.messageLists_resetVisitorsSinceLastEdit,
    DiscussionThread.messageLists_deleteDiscussionThreadMessage]

variable {s} {P : MessageLists → Prop}

theorem messageLists_keeps_deleteDiscussionThreadMessage (hP : MessageLists.Closed P) (h : P s.messageLists)
    (message : IdType) (alsoFromUser : Bool) : P (s.deleteDiscussionThreadMessage ctx message alsoFromUser).messageLists := by
  unfold deleteDiscussionThreadMessage
  split
  · extract_lets s₁ s₂ s₃ s₄ s₅ s₆
    have h₂ : s₂.messageLists = s.messageLists := by
      have h₁ : s₁.messageLists = s.messageLists := messageLists_messagesRemove s (by simp) message
      dsimp only [s₂]
      split_ifs
      · rw [messageLists_messagesRemove _ (by simp), h₁]
      · exact h₁
    have h₃ : s₃.messageLists = s.messageLists :=
      (messageLists_foldl fun s comment _ => messageLists_deleteMessageComment s comment).trans h₂
    have h₅ : s₅.messageLists = s.messageLists :=
      (messageLists_foldl fun s user _ => User.messageLists_removeVote s user message).trans
        ((messageLists_foldl fun s user _ => User.messageLists_removeVote s user message).trans h₃)
    have h₆ : s₆.messageLists = s.messageLists := (messageLists_foldl fun s attachment _ =>
      messageLists_eraseAttachmentMessage s attachment message).trans h₅
    clear_value s₆
    split_ifs
    · rwa [h₆]
    · rw [messageLists_detachMessageFromThread, h₆]
      exact hP.erase h _ message
  · exact h

theorem messageLists_keeps_deleteDiscussionThread (hP : MessageLists.Closed P) (h : P s.messageLists) (thread : IdType)
    (deleteMessages alsoFromUser : Bool) :
    P (s.deleteDiscussionThread ctx thread deleteMessages alsoFromUser).messageLists := by
  unfold deleteDiscussionThread
  split
  · extract_lets s₁ s₂ s₃ s₄ s₅ s₆
    have h₃ : s₃.messageLists = s.messageLists := by
      have h₂ : s₂.messageLists = s.messageLists := messageLists_threadsRemove s .all thread
      dsimp only [s₃]
      split_ifs
      · rw [messageLists_threadsRemove, h₂]
      · exact h₂
    have h₄ : s₄.messageLists = s.messageLists := (messageLists_foldl fun s category _ =>
      DiscussionCategory.messageLists_deleteDiscussionThread ctx s category thread deleteMessages false).trans h₃
    have h₅ : s₅.messageLists = s.messageLists := (messageLists_foldl fun s tag _ =>
      DiscussionTag.messageLists_deleteDiscussionThread ctx s tag thread deleteMessages).trans h₄
    have h₆ : s₆.messageLists = s.messageLists :=
      (messageLists_foldl fun s user _ => messageLists_threadsRemove s _ thread).trans h₅
    clear_value s₆
    split_ifs
    · exact foldl_keeps (P := fun s : EntityCollection => P s.messageLists) (by rwa [h₆]) fun s m _ h =>
        messageLists_keeps_deleteDiscussionThreadMessage ctx hP h m true
    · rwa [h₆]
  · exact h

theorem messageLists_deleteDiscussionTag (tag : IdType) :
    (s.deleteDiscussionTag ctx tag).messageLists = s.messageLists := by
  unfold deleteDiscussionTag
  split_ifs
  · dsimp only
    rw [messageLists_foldl fun s thread _ => DiscussionThread.messageLists_removeTag ctx s thread tag,
      messageLists_foldl fun s category _ => DiscussionCategory.messageLists_removeTag ctx s category tag,
      messageLists_tagsRemove]
  · rfl

theorem messageLists_deleteDiscussionCategory (category : IdType) :
    (s.deleteDiscussionCategory ctx category).messageLists = s.messageLists := by
  unfold deleteDiscussionCategory
  split
  · extract_lets s₁ s₂ s₃
    have h₃ : s₃.messageLists = s.messageLists :=
      (messageLists_foldl fun s thread _ => DiscussionThread.messageLists_removeCategory ctx s thread category).trans
        ((messageLists_foldl fun s tag _ => DiscussionTag.messageLists_removeCategory s tag category).trans
          (messageLists_categoriesRemove s category))
    clear_value s₃
    split
    · exact h₃
    · exact (DiscussionCategory.messageLists_removeTotalsFromChild s₃ _ category).trans h₃
  · rfl

theorem messageLists_detachComment (comment : IdType) : (s.detachComment comment).messageLists = s.messageLists := by
  unfold detachComment
  dsimp only
  rw [messageLists_commentsRemove]
  split_ifs <;> simp

theorem messageLists_keeps_deleteUser (hP : MessageLists.Closed P) (h : P s.messageLists) (user : IdType) :
    P (s.deleteUser ctx user).messageLists := by
  unfold deleteUser
  split
  · extract_lets s₁ s₂ s₃ s₄ s₅ s₆ s₇ s₈
    have h₄ : s₄.messageLists = s.messageLists := by
      refine (messageLists_foldl fun s thread _ => DiscussionThread.messageLists_eraseSubscribedUser s thread user).trans ?_
      refine (messageLists_foldl fun s comment _ => messageLists_detachComment comment).trans ?_
      exact (messageLists_foldl fun s message _ => DiscussionThreadMessage.messageLists_removeVote s message user).trans
        (messageLists_usersRemove s user)
    have h₅ : P s₅.messageLists := foldl_keeps (P := fun s : EntityCollection => P s.messageLists) (by rwa [h₄])
      fun s m _ h => messageLists_keeps_deleteDiscussionThreadMessage ctx hP h m false
    have h₆ : P s₆.messageLists := foldl_keeps (P := fun s : EntityCollection => P s.messageLists) h₅
      fun s t _ h => messageLists_keeps_deleteDiscussionThread ctx hP h t true false
    have h₈ : s₈.messageLists = s₆.messageLists :=
      (messageLists_foldl fun s m _ => messageLists_deletePrivateMessage s m false true).trans
        (messageLists_foldl fun s m _ => messageLists_deletePrivateMessage s m true false)
    rw [messageLists_foldl fun s a _ => messageLists_deleteAttachment s a false, h₈]
    exact h₆
  · exact h

/-! ### Creating entities and batch inserts -/

theorem messageLists_construct (id : IdType) : (s.construct id).messageLists = s.messageLists.construct id := by
  have hindex : (fun t => (s.construct id).index (.messages (.ofThread t))) =
      Function.update s.messageLists.index id [] := by
    funext t
    by_cases ht : t = id
    · subst ht
      simp [construct, Indexes.construct, IndexRef.owner, MessageCollectionRef.owner]
    · simp [construct, Indexes.construct, IndexRef.owner, MessageCollectionRef.owner, ht, messageLists]
  unfold messageLists at hindex ⊢
  rw [hindex]
  rfl

theorem messageLists_createDiscussionThreadMessage (id user : IdType) (created : Timestamp) (details : VisitDetails)
    (approved : Bool) :
    (s.createDiscussionThreadMessage id user created details approved).messageLists =
      (s.messageLists.construct id).setCreated id (timestamp48 created) := by
  have hcreated : (fun m => ((s.createDiscussionThreadMessage id user created details approved).message m).created) =
      Function.update s.messageLists.created id (timestamp48 created) := by
    funext m
    by_cases hm : m = id
    · subst hm
      simp [createDiscussionThreadMessage, modifyMessage]
    · simp [createDiscussionThreadMessage, modifyMessage, hm, messageLists, construct]
  rw [← messageLists_construct]
  unfold messageLists MessageLists.setCreated
  rw [hcreated]
  rfl

theorem messageLists_messagesStopBatchInsert {c : MessageCollectionRef} (hc : ∀ thread, c ≠ .ofThread thread) :
    (s.messagesStopBatchInsert c).messageLists = s.messageLists := by
  unfold messagesStopBatchInsert
  split_ifs
  · exact messageLists_indexRebuild s (by simpa using hc)
  · rfl

theorem messageLists_messagesStopBatchInsert_ofThread (thread : IdType) :
    (s.messagesStopBatchInsert (.ofThread thread)).messageLists = s.messageLists.stopBatchInsert thread := by
  unfold messagesStopBatchInsert MessageLists.stopBatchInsert
  by_cases hb : s.batchInsertInProgress = true
  · have hb' : s.messageLists.batchInsertInProgress = true := hb
    rw [if_pos hb, if_pos hb', indexRebuild, messageLists_setIndex_ofThread]
    rfl
  · have hb' : ¬s.messageLists.batchInsertInProgress = true := hb
    rw [if_neg hb, if_neg hb']

/-- The end of a batch insert makes the index of every thread anew. -/
theorem messageLists_stopBatchInsert (s : EntityCollection) : s.stopBatchInsert.messageLists =
    { (s.iterateThreads .all).foldl MessageLists.stopBatchInsert s.messageLists with
      batchInsertInProgress := false } := by
  unfold stopBatchInsert
  extract_lets s₁ s₂ s₃ s₄ s₅ s₆ s₇ s₈ s₉ s₁₀ s₁₁ s₁₂ s₁₃
  have hflag : ∀ s : EntityCollection, ({ s with batchInsertInProgress := false } : EntityCollection).messageLists =
    { s.messageLists with batchInsertInProgress := false } := fun _ => rfl
  rw [hflag]
  have h₂ : s₂.messageLists = s.messageLists :=
    (messageLists_foldl fun s user _ => messageLists_messagesStopBatchInsert (by simp)).trans
      (messageLists_usersStopBatchInsert s)
  have hthreads : s₂.iterateThreads .all = s.iterateThreads .all :=
    (CollectionKept.foldl (fun s user _ => CollectionKept.messagesStopBatchInsert s (.createdBy user))
      (CollectionKept.usersStopBatchInsert s)).iterateThreads
  have h₃ : s₃.messageLists = (s.iterateThreads .all).foldl MessageLists.stopBatchInsert s.messageLists := by
    rw [← h₂, ← hthreads]
    exact foldl_view_eq messageLists fun s thread _ => messageLists_messagesStopBatchInsert_ofThread thread
  have h₈ : s₈.messageLists = s₃.messageLists := by
    refine (messageLists_foldl fun s c _ => messageLists_threadsStopBatchInsert s _).trans ?_
    refine (messageLists_foldl fun s t _ => messageLists_threadsStopBatchInsert s _).trans ?_
    refine (messageLists_foldl fun s u _ => messageLists_attachmentsStopBatchInsert s _).trans ?_
    exact (messageLists_foldl fun s u _ => messageLists_threadsStopBatchInsert s _).trans
      (messageLists_foldl fun s u _ => messageLists_threadsStopBatchInsert s _)
  have h₁₃ : s₁₃.messageLists = s₃.messageLists := by
    refine (messageLists_attachmentsStopBatchInsert s₁₂ .all).trans ?_
    refine (messageLists_categoriesStopBatchInsert s₁₁).trans ((messageLists_tagsStopBatchInsert s₁₀).trans ?_)
    exact (messageLists_messagesStopBatchInsert (by simp)).trans ((messageLists_threadsStopBatchInsert s₈ .all).trans h₈)
  rw [h₁₃, h₃]

theorem messageLists_sound_stopBatchInsert (h : s.messageLists.Sound) : s.stopBatchInsert.messageLists.Sound := by
  rw [messageLists_stopBatchInsert]
  exact foldl_keeps (P := MessageLists.Sound) h fun L thread _ h => h.stopBatchInsert thread

end EntityCollection

end Forum.Entities
