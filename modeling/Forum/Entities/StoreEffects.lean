import Forum.Library.Fold
import Forum.Entities.Creation

/-!
# What the operations do to the store

The store under the indexes. Index maintenance leaves it alone, and every change of a collection
or a field is a plain update of it, whatever the indexes hold. The lemmas here compute the store
after the basic operations; later modules read off the part they are about.
-/

namespace Forum.Entities

open Forum.Library

namespace EntityCollection

variable (s : EntityCollection)

@[simp] theorem toStore_setStore (store : Store) : (s.setStore store).toStore = store := rfl

/-! ### Index maintenance -/

theorem toStore_foldl {α : Type*} {f : EntityCollection → α → EntityCollection} {l : List α}
    (h : ∀ s, ∀ x ∈ l, (f s x).toStore = s.toStore) : (l.foldl f s).toStore = s.toStore :=
  foldl_view toStore h

theorem toStore_unlessBatch {f : EntityCollection → EntityCollection} (h : ∀ s, (f s).toStore = s.toStore) :
    (s.unlessBatch f).toStore = s.toStore := by
  unfold unlessBatch
  split_ifs
  · rfl
  · exact h s

@[simp] theorem toStore_setIndex (ref : IndexRef) (l : List IdType) : (s.setIndex ref l).toStore = s.toStore :=
  rfl

@[simp] theorem toStore_indexInsert (ref : IndexRef) (x : IdType) :
    (s.indexInsert ref x).toStore = s.toStore := rfl

@[simp] theorem toStore_indexInsertRange (ref : IndexRef) (xs : List IdType) :
    (s.indexInsertRange ref xs).toStore = s.toStore := rfl

@[simp] theorem toStore_indexErase (ref : IndexRef) (x : IdType) : (s.indexErase ref x).toStore = s.toStore := by
  unfold indexErase
  dsimp only
  split_ifs <;> rfl

@[simp] theorem toStore_indexPrepareUpdate (ref : IndexRef) (x : IdType) :
    (s.indexPrepareUpdate ref x).toStore = s.toStore := rfl

@[simp] theorem toStore_indexUpdate (ref : IndexRef) (x : IdType) :
    (s.indexUpdate ref x).toStore = s.toStore := by
  unfold indexUpdate
  split_ifs <;> rfl

@[simp] theorem toStore_indexRebuild (ref : IndexRef) : (s.indexRebuild ref).toStore = s.toStore := rfl

@[simp] theorem toStore_uniqueInsert (ref : UniqueIndexRef) (x : IdType) :
    (s.uniqueInsert ref x).toStore = s.toStore := by
  unfold uniqueInsert
  split_ifs <;> rfl

@[simp] theorem toStore_uniqueErase (ref : UniqueIndexRef) (x : IdType) :
    (s.uniqueErase ref x).toStore = s.toStore := rfl

@[simp] theorem toStore_uniquePrepareUpdate (ref : UniqueIndexRef) (x : IdType) :
    (s.uniquePrepareUpdate ref x).toStore = s.toStore := rfl

@[simp] theorem toStore_uniqueUpdate (ref : UniqueIndexRef) (x : IdType) :
    (s.uniqueUpdate ref x).toStore = s.toStore := by
  unfold uniqueUpdate
  dsimp only
  split_ifs <;> rfl

@[simp] theorem toStore_prepareUpdate (ref : IndexRef) (x : IdType) :
    (s.prepareUpdate ref x).toStore = s.toStore := s.toStore_unlessBatch fun s => s.toStore_indexPrepareUpdate ref x

@[simp] theorem toStore_finishUpdate (ref : IndexRef) (x : IdType) :
    (s.finishUpdate ref x).toStore = s.toStore := s.toStore_unlessBatch fun s => s.toStore_indexUpdate ref x

@[simp] theorem toStore_onPrepareUpdateDiscussionThread (key : ThreadKey) (thread : IdType) :
    (s.onPrepareUpdateDiscussionThread key thread).toStore = s.toStore := by
  refine s.toStore_foldl fun s collection _ => ?_
  split_ifs
  · exact toStore_prepareUpdate _ _ _
  · rfl

@[simp] theorem toStore_onUpdateDiscussionThread (key : ThreadKey) (thread : IdType) :
    (s.onUpdateDiscussionThread key thread).toStore = s.toStore := by
  refine s.toStore_foldl fun s collection _ => ?_
  split_ifs
  · exact toStore_finishUpdate _ _ _
  · rfl

@[simp] theorem toStore_onPrepareUpdateAttachment (key : AttachmentKey) (attachment : IdType) :
    (s.onPrepareUpdateAttachment key attachment).toStore = s.toStore := by
  simp [onPrepareUpdateAttachment]

@[simp] theorem toStore_onUpdateAttachment (key : AttachmentKey) (attachment : IdType) :
    (s.onUpdateAttachment key attachment).toStore = s.toStore := by
  simp [onUpdateAttachment]

@[simp] theorem toStore_threadsPrepareCountChange (collection : ThreadCollectionRef) :
    (s.threadsPrepareCountChange collection).toStore = s.toStore := by
  unfold threadsPrepareCountChange
  split
  · split_ifs <;> simp
  · rfl

@[simp] theorem toStore_threadsFinishCountChange (collection : ThreadCollectionRef) :
    (s.threadsFinishCountChange collection).toStore = s.toStore := by
  unfold threadsFinishCountChange
  split
  · split_ifs <;> simp
  · rfl

@[simp] theorem toStore_messagesPrepareCountChange (collection : MessageCollectionRef) :
    (s.messagesPrepareCountChange collection).toStore = s.toStore := by
  unfold messagesPrepareCountChange
  split
  · rfl
  · simp
  · split_ifs <;> simp

@[simp] theorem toStore_messagesCountChange (collection : MessageCollectionRef) :
    (s.messagesCountChange collection).toStore = s.toStore := by
  unfold messagesCountChange
  split
  · rfl
  · simp
  · split_ifs <;> simp

/-! ### Collections -/

end EntityCollection

namespace Store

variable (s : Store)

@[simp] theorem setThreads_threads (c : ThreadCollectionRef) : s.setThreads (s.threads c) c = s := by
  cases c <;> simp [setThreads, threads]

@[simp] theorem setMessages_messages (c : MessageCollectionRef) : s.setMessages (s.messages c) c = s := by
  cases c <;> simp [setMessages, Ownership.messages]

@[simp] theorem setComments_comments (c : CommentCollectionRef) : s.setComments (s.comments c) c = s := by
  cases c <;> simp [setComments, Ownership.comments]

@[simp] theorem setPrivateMessages_privateMessages (c : PrivateMessageCollectionRef) :
    s.setPrivateMessages (s.privateMessages c) c = s := by
  cases c <;> simp [setPrivateMessages, Ownership.privateMessages]

@[simp] theorem setAttachments_attachments (c : AttachmentCollectionRef) :
    s.setAttachments (s.attachments c) c = s := by
  cases c <;> simp [setAttachments, Ownership.attachments]

end Store

namespace EntityCollection

variable (s : EntityCollection) (x : IdType)

@[simp] theorem toStore_threadsAdd (c : ThreadCollectionRef) :
    (s.threadsAdd c x).toStore = s.toStore.setThreads (insert x (s.threads c)) c := by
  unfold threadsAdd
  split_ifs with hx
  · rw [Finset.insert_eq_of_mem hx, Store.setThreads_threads]
  · simp only [toStore_threadsFinishCountChange]
    rw [toStore_unlessBatch _ fun s => s.toStore_foldl fun s key _ => s.toStore_indexInsert _ _]
    simp

@[simp] theorem toStore_threadsAddRange (c : ThreadCollectionRef) (xs : List IdType) :
    (s.threadsAddRange c xs).toStore = s.toStore.setThreads (s.threads c ∪ xs.toFinset) c := by
  unfold threadsAddRange
  split_ifs with hx
  · simp [hx]
  · simp only [toStore_threadsFinishCountChange]
    rw [toStore_unlessBatch _ fun s => s.toStore_foldl fun s key _ => s.toStore_indexInsertRange _ _]
    simp

@[simp] theorem toStore_threadsRemove (c : ThreadCollectionRef) :
    (s.threadsRemove c x).toStore = s.toStore.setThreads ((s.threads c).erase x) c := by
  unfold threadsRemove
  simp only [toStore_threadsPrepareCountChange]
  split_ifs with hx
  · simp only [toStore_threadsFinishCountChange]
    rw [toStore_unlessBatch _ fun s => s.toStore_foldl fun s key _ => s.toStore_indexErase _ _]
    simp
  · simp [Finset.erase_eq_of_notMem hx]

@[simp] theorem toStore_threadsStopBatchInsert (c : ThreadCollectionRef) :
    (s.threadsStopBatchInsert c).toStore = s.toStore := by
  unfold threadsStopBatchInsert
  split_ifs
  · exact s.toStore_foldl fun s key _ => s.toStore_indexRebuild _
  · rfl

@[simp] theorem toStore_messagesInsert (c : MessageCollectionRef) :
    (s.messagesInsert c x).toStore = s.toStore.setMessages (insert x (s.messages c)) c := by
  unfold messagesInsert
  split_ifs with hx
  · rw [Finset.insert_eq_of_mem hx, Store.setMessages_messages]
  · rw [toStore_unlessBatch _ fun s => s.toStore_indexInsert _ _]
    simp

@[simp] theorem toStore_messagesAdd (c : MessageCollectionRef) :
    (s.messagesAdd c x).toStore = s.toStore.setMessages (insert x (s.messages c)) c := by
  unfold messagesAdd
  simp only [toStore_messagesPrepareCountChange]
  split_ifs with hx
  · simp [hx]
  · simp

theorem toStore_foldl_messagesInsert (c : MessageCollectionRef) (l : List IdType) :
    (l.foldl (fun s x => s.messagesInsert c x) s).toStore =
      s.toStore.setMessages (s.messages c ∪ l.toFinset) c := by
  induction l generalizing s with
  | nil => simp
  | cons x l ih =>
    rw [List.foldl_cons, ih, toStore_messagesInsert, List.toFinset_cons]
    cases c <;> simp [Store.setMessages, Ownership.messages]

@[simp] theorem toStore_messagesAddAll (c : MessageCollectionRef) (xs : Finset IdType) :
    (s.messagesAddAll c xs).toStore = s.toStore.setMessages (s.messages c ∪ xs) c := by
  simp [messagesAddAll, toStore_foldl_messagesInsert]

@[simp] theorem toStore_messagesRemove (c : MessageCollectionRef) :
    (s.messagesRemove c x).toStore = s.toStore.setMessages ((s.messages c).erase x) c := by
  unfold messagesRemove
  simp only [toStore_messagesPrepareCountChange]
  split_ifs with hx
  · simp
  · simp [Finset.erase_eq_of_notMem hx]

@[simp] theorem toStore_messagesStopBatchInsert (c : MessageCollectionRef) :
    (s.messagesStopBatchInsert c).toStore = s.toStore := by
  unfold messagesStopBatchInsert
  split_ifs <;> simp

@[simp] theorem toStore_commentsAdd (c : CommentCollectionRef) :
    (s.commentsAdd c x).toStore = s.toStore.setComments (insert x (s.comments c)) c := by
  unfold commentsAdd
  split_ifs with hx
  · simp [hx]
  · simp

@[simp] theorem toStore_commentsRemove (c : CommentCollectionRef) :
    (s.commentsRemove c x).toStore = s.toStore.setComments ((s.comments c).erase x) c := by
  unfold commentsRemove
  split_ifs with hx
  · simp
  · simp [Finset.erase_eq_of_notMem hx]

@[simp] theorem toStore_privateMessagesAdd (c : PrivateMessageCollectionRef) :
    (s.privateMessagesAdd c x).toStore = s.toStore.setPrivateMessages (insert x (s.privateMessages c)) c := by
  unfold privateMessagesAdd
  dsimp only
  split_ifs with hx
  · simp [hx]
  · simp
  · simp

@[simp] theorem toStore_privateMessagesRemove (c : PrivateMessageCollectionRef) :
    (s.privateMessagesRemove c x).toStore =
      s.toStore.setPrivateMessages ((s.privateMessages c).erase x) c := by
  unfold privateMessagesRemove
  dsimp only
  split_ifs with hx
  · simp
  · simp
  · simp [Finset.erase_eq_of_notMem hx]

theorem toStore_attachmentsAdd (c : AttachmentCollectionRef) (hx : x ∉ s.attachments c) :
    (s.attachmentsAdd c x).toStore =
      (s.toStore.setAttachments (insert x (s.attachments c)) c).setAttachmentsTotalSize c
        (s.attachmentsTotalSize c + (s.attachment x).size) := by
  unfold attachmentsAdd
  rw [if_neg hx]
  have h : ∀ s : EntityCollection, (s.unlessBatch fun s => AttachmentCollectionRef.keys.foldl
      (fun s key => s.indexInsert (.attachments c key) x) s).toStore = s.toStore :=
    fun s => s.toStore_unlessBatch fun s => s.toStore_foldl fun s key _ => s.toStore_indexInsert _ _
  simp only [toStore_setStore, h]
  cases c <;> rfl

theorem toStore_attachmentsRemove (c : AttachmentCollectionRef) (hx : x ∈ s.attachments c) :
    (s.attachmentsRemove c x).toStore =
      (s.toStore.setAttachments ((s.attachments c).erase x) c).setAttachmentsTotalSize c
        (s.attachmentsTotalSize c - (s.attachment x).size) := by
  unfold attachmentsRemove
  rw [if_pos hx]
  have h : ∀ s : EntityCollection, (s.unlessBatch fun s => AttachmentCollectionRef.keys.foldl
      (fun s key => s.indexErase (.attachments c key) x) s).toStore = s.toStore :=
    fun s => s.toStore_unlessBatch fun s => s.toStore_foldl fun s key _ => s.toStore_indexErase _ _
  simp only [toStore_setStore, h]
  cases c <;> rfl

@[simp] theorem toStore_attachmentsStopBatchInsert (c : AttachmentCollectionRef) :
    (s.attachmentsStopBatchInsert c).toStore = s.toStore := by
  unfold attachmentsStopBatchInsert
  split_ifs
  · exact s.toStore_foldl fun s key _ => s.toStore_indexRebuild _
  · rfl

@[simp] theorem toStore_usersAdd :
    (s.usersAdd x).toStore = { s.toStore with users := insert x s.users } := by
  unfold usersAdd
  split_ifs with hx
  · rw [Finset.insert_eq_of_mem hx]
  · dsimp only
    rw [toStore_unlessBatch _ fun s => s.toStore_foldl fun s key _ => s.toStore_indexInsert _ _]
    simp

@[simp] theorem toStore_usersRemove :
    (s.usersRemove x).toStore = { s.toStore with users := s.users.erase x } := by
  unfold usersRemove
  split_ifs with hx
  · dsimp only
    rw [toStore_unlessBatch _ fun s => s.toStore_foldl fun s key _ => s.toStore_indexErase _ _]
    simp
  · rw [Finset.erase_eq_of_notMem hx]

@[simp] theorem toStore_usersStopBatchInsert : s.usersStopBatchInsert.toStore = s.toStore := by
  unfold usersStopBatchInsert
  split_ifs
  · exact s.toStore_foldl fun s key _ => s.toStore_indexRebuild _
  · rfl

@[simp] theorem toStore_tagsAdd : (s.tagsAdd x).toStore = { s.toStore with tags := insert x s.tags } := by
  unfold tagsAdd
  split_ifs with hx
  · rw [Finset.insert_eq_of_mem hx]
  · dsimp only
    rw [toStore_unlessBatch _ fun s => s.toStore_foldl fun s key _ => s.toStore_indexInsert _ _]
    simp

@[simp] theorem toStore_tagsRemove : (s.tagsRemove x).toStore = { s.toStore with tags := s.tags.erase x } := by
  unfold tagsRemove
  split_ifs with hx
  · dsimp only
    rw [toStore_unlessBatch _ fun s => s.toStore_foldl fun s key _ => s.toStore_indexErase _ _]
    simp
  · rw [Finset.erase_eq_of_notMem hx]

@[simp] theorem toStore_tagsStopBatchInsert : s.tagsStopBatchInsert.toStore = s.toStore := by
  unfold tagsStopBatchInsert
  split_ifs
  · exact s.toStore_foldl fun s key _ => s.toStore_indexRebuild _
  · rfl

@[simp] theorem toStore_categoriesAdd :
    (s.categoriesAdd x).toStore = { s.toStore with categories := insert x s.categories } := by
  unfold categoriesAdd
  split_ifs with hx
  · rw [Finset.insert_eq_of_mem hx]
  · dsimp only
    rw [toStore_unlessBatch _ fun s => s.toStore_foldl fun s key _ => s.toStore_indexInsert _ _]
    simp

@[simp] theorem toStore_categoriesRemove :
    (s.categoriesRemove x).toStore = { s.toStore with categories := s.categories.erase x } := by
  unfold categoriesRemove
  split_ifs with hx
  · dsimp only
    rw [toStore_unlessBatch _ fun s => s.toStore_foldl fun s key _ => s.toStore_indexErase _ _]
    simp
  · rw [Finset.erase_eq_of_notMem hx]

@[simp] theorem toStore_categoriesStopBatchInsert : s.categoriesStopBatchInsert.toStore = s.toStore := by
  unfold categoriesStopBatchInsert
  split_ifs
  · exact s.toStore_foldl fun s key _ => s.toStore_indexRebuild _
  · rfl

/-- Stopping a batch insert changes indexes only. -/
@[simp] theorem toStore_stopBatchInsert :
    s.stopBatchInsert.toStore = { s.toStore with batchInsertInProgress := false } := by
  unfold stopBatchInsert
  simp only [toStore_attachmentsStopBatchInsert, toStore_categoriesStopBatchInsert,
    toStore_tagsStopBatchInsert, toStore_messagesStopBatchInsert, toStore_threadsStopBatchInsert]
  repeat rw [toStore_foldl _ fun s x _ => by simp]
  simp

end EntityCollection

/-! ### Threads -/

namespace DiscussionThread

variable (thread : IdType) (s : EntityCollection)

theorem toStore_updateName (name : NameType) :
    (updateName thread s name).toStore =
      { s.toStore with thread := Function.update s.thread thread { s.thread thread with name := name } } := by
  simp [updateName, EntityCollection.modifyThread]

theorem toStore_updateLastUpdated (value : Timestamp) :
    (updateLastUpdated thread s value).toStore =
      { s.toStore with
        thread := Function.update s.thread thread
          { s.thread thread with
            lastUpdated := some { (s.thread thread).lastUpdated.getD {} with at' := value } } } := by
  unfold updateLastUpdated
  dsimp only
  split_ifs with h
  · simp [EntityCollection.modifyThread, ← h]
  · simp [EntityCollection.modifyThread]

theorem toStore_updatePinDisplayOrder (value : ℕ) :
    (updatePinDisplayOrder thread s value).toStore =
      { s.toStore with
        thread := Function.update s.thread thread
          { s.thread thread with pinDisplayOrder := value % 2 ^ 14 } } := by
  simp [updatePinDisplayOrder, EntityCollection.modifyThread]

@[simp] theorem toStore_updateLatestMessageCreated (value : Timestamp) :
    (updateLatestMessageCreated thread s value).toStore =
      { s.toStore with latestMessageCreated := Function.update s.latestMessageCreated thread value } := by
  simp [updateLatestMessageCreated]

@[simp] theorem toStore_insertMessage (message : IdType) :
    (insertMessage thread s message).toStore =
      { s.toStore with
        threadMessages := Function.update s.threadMessages thread (insert message (s.threadMessages thread))
        latestMessageCreated := Function.update s.latestMessageCreated thread
          (max (s.latestMessageCreated thread) (s.message message).created) } := by
  simp [insertMessage, Store.setMessages, Ownership.messages]

@[simp] theorem toStore_insertMessages (messages : Finset IdType) :
    (insertMessages thread s messages).toStore =
      { s.toStore with
        threadMessages := Function.update s.threadMessages thread (s.threadMessages thread ∪ messages)
        latestMessageCreated := Function.update s.latestMessageCreated thread
          (max (s.latestMessageCreated thread)
            ((ascending messages).foldl (fun m message => max m (s.message message).created) 0)) } := by
  simp [insertMessages, Store.setMessages, Ownership.messages]

@[simp] theorem toStore_deleteDiscussionThreadMessage (message : IdType) :
    (deleteDiscussionThreadMessage thread s message).toStore =
      { s.toStore with
        threadMessages := Function.update s.threadMessages thread ((s.threadMessages thread).erase message)
        latestMessageCreated := Function.update s.latestMessageCreated thread
          (lastCreated thread (s.messagesRemove (.ofThread thread) message)) } := by
  simp [deleteDiscussionThreadMessage, refreshLatestMessageCreated, Store.setMessages, Ownership.messages]

end DiscussionThread

end Forum.Entities
