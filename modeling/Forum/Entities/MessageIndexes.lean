import Forum.Entities.CategoryHierarchy

/-!
# The messages of a thread in order

`byCreated` of a thread's messages. A message never changes when it was created, so the index is left
alone but where a message comes to a thread or leaves it. `messageLists` is what the index and its keys
are read from; the module goes through the operations and says that most do not change it.

During a batch insert messages are not put in the index, but are taken out of it. What an index lists is
therefore some of the messages of its thread; after the batch insert it is all of them.
-/

namespace Forum.Entities

open Forum.Library

/-- The messages of each thread, when they were created, and `byCreated` of each thread. -/
structure MessageLists where
  batchInsertInProgress : Bool
  threadMessages : IdType → Finset IdType
  created : IdType → Timestamp
  index : IdType → List IdType

/-- The key of a message in `byCreated`. -/
def messageKey (created : IdType → Timestamp) (message : IdType) : IndexKey := .ascending (created message)

namespace MessageLists

variable (L : MessageLists)

/-- The index of each thread lists some of its messages, each once, in the order of their keys. -/
def Sound : Prop := ∀ thread, ∃ listed ⊆ L.threadMessages thread, Library.Indexes (messageKey L.created) (L.index thread) listed

/-- Put a message in a thread; a batch insert leaves the index for later. -/
def insert (batch : Bool) (thread message : IdType) : MessageLists :=
  if message ∈ L.threadMessages thread then L
  else
    { L with
      threadMessages :=
        Function.update L.threadMessages thread (Insert.insert message (L.threadMessages thread))
      index := if batch then L.index else Function.update L.index thread (insertItem (messageKey L.created) message (L.index thread)) }

/-- Take a message out of a thread. -/
def erase (thread message : IdType) : MessageLists :=
  if message ∈ L.threadMessages thread then
    let it := findInNonUnique (messageKey L.created) message (messageKey L.created message) (L.index thread)
    { L with
      threadMessages := Function.update L.threadMessages thread ((L.threadMessages thread).erase message)
      index :=
        if it < (L.index thread).length then Function.update L.index thread ((L.index thread).eraseIdx it) else L.index }
  else L

/-- Construct an entity under a new id. -/
def construct (id : IdType) : MessageLists :=
  { L with
    threadMessages := Function.update L.threadMessages id ∅
    index := Function.update L.index id [] }

/-- A new message is given the time when it is created. -/
def setCreated (message : IdType) (created : Timestamp) : MessageLists :=
  { L with created := Function.update L.created message created }

/-- Make the index of a thread anew. -/
def rebuild (thread : IdType) : MessageLists :=
  { L with
    index := Function.update L.index thread (insertRange (messageKey L.created) (ascending (L.threadMessages thread)) []) }

/-- At the end of a batch insert. -/
def stopBatchInsert (thread : IdType) : MessageLists := if L.batchInsertInProgress then L.rebuild thread else L

variable {L}

variable (L) in
/-- What is made anew lists all messages of the thread. -/
theorem indexes_rebuild (thread : IdType) :
    Library.Indexes (messageKey L.created) ((L.rebuild thread).index thread) (L.threadMessages thread) := by
  have hindexes := indexes_insertRange_nil (messageKey L.created) (nodup_ascending (L.threadMessages thread))
  rw [toFinset_ascending] at hindexes
  simpa only [MessageLists.rebuild, Function.update_self] using hindexes

/-- What holds of the lists stays true when messages come and go and when entities are constructed. -/
structure Closed (P : MessageLists → Prop) : Prop where
  insert : ∀ {L : MessageLists}, P L → ∀ thread message, P (L.insert L.batchInsertInProgress thread message)
  erase : ∀ {L : MessageLists}, P L → ∀ thread message, P (L.erase thread message)
  construct : ∀ {L : MessageLists}, P L → ∀ id, P (L.construct id)
  /-- The message is not yet in any thread. -/
  setCreated : ∀ {L : MessageLists} {message : IdType}, P L → (∀ thread, message ∉ L.threadMessages thread) →
    ∀ created, P (L.setCreated message created)

namespace Sound

theorem insert (h : L.Sound) (batch : Bool) (thread message : IdType) : (L.insert batch thread message).Sound := by
  unfold MessageLists.insert
  by_cases hmem : message ∈ L.threadMessages thread
  · rwa [if_pos hmem]
  rw [if_neg hmem]
  intro t
  obtain ⟨listed, hsub, hlisted⟩ := h t
  by_cases ht : t = thread
  · subst ht
    simp only [Function.update_self]
    split_ifs
    · exact ⟨listed, hsub.trans (Finset.subset_insert _ _), hlisted⟩
    · refine ⟨Insert.insert message listed, Finset.insert_subset_insert _ hsub, ?_⟩
      simp only [Function.update_self]
      exact hlisted.insertItem fun hm => hmem (hsub hm)
  · simp only [Function.update_of_ne ht]
    refine ⟨listed, hsub, ?_⟩
    split_ifs
    · exact hlisted
    · simpa only [Function.update_of_ne ht] using hlisted

theorem erase (h : L.Sound) (thread message : IdType) : (L.erase thread message).Sound := by
  unfold MessageLists.erase
  split_ifs with hmem
  · intro t
    obtain ⟨listed, hsub, hlisted⟩ := h t
    by_cases ht : t = thread
    · subst ht
      refine ⟨listed.erase message, ?_, ?_⟩
      · simp only [Function.update_self]
        exact Finset.erase_subset_erase _ hsub
      · dsimp only
        by_cases hm : message ∈ listed
        · have hprep := hlisted.prepared hm
          rw [if_pos (List.getElem?_eq_some_iff.1 hprep.at_it).1, Function.update_self]
          exact hprep.eraseIdx
        · rw [if_neg (by rw [hlisted.find_of_not_mem hm]; exact lt_irrefl _), Finset.erase_eq_of_notMem hm]
          exact hlisted
    · refine ⟨listed, by simpa only [Function.update_of_ne ht] using hsub, ?_⟩
      dsimp only
      split_ifs
      · simpa only [Function.update_of_ne ht] using hlisted
      · exact hlisted
  · exact h

theorem construct (h : L.Sound) (id : IdType) : (L.construct id).Sound := by
  intro t
  by_cases ht : t = id
  · subst ht
    exact ⟨∅, Finset.empty_subset _, by simp [MessageLists.construct]⟩
  · obtain ⟨listed, hsub, hlisted⟩ := h t
    refine ⟨listed, ?_, ?_⟩
    · simpa only [MessageLists.construct, Function.update_of_ne ht] using hsub
    · simpa only [MessageLists.construct, Function.update_of_ne ht] using hlisted

/-- The message is not yet in any thread. -/
theorem setCreated (h : L.Sound) {message : IdType} (hnew : ∀ thread, message ∉ L.threadMessages thread)
    (created : Timestamp) : (L.setCreated message created).Sound := fun t => by
  obtain ⟨listed, hsub, hlisted⟩ := h t
  refine ⟨listed, hsub, hlisted.congr fun m hm => ?_⟩
  have hne : m ≠ message := fun heq => hnew t (heq ▸ hsub hm)
  simp [messageKey, MessageLists.setCreated, hne]

theorem rebuild (h : L.Sound) (thread : IdType) : (L.rebuild thread).Sound := fun t => by
  by_cases ht : t = thread
  · subst ht
    exact ⟨L.threadMessages t, subset_rfl, indexes_rebuild L t⟩
  · simpa only [MessageLists.rebuild, Function.update_of_ne ht] using h t

theorem stopBatchInsert (h : L.Sound) (thread : IdType) : (L.stopBatchInsert thread).Sound := by
  unfold MessageLists.stopBatchInsert
  split_ifs
  · exact h.rebuild thread
  · exact h

theorem closed : Closed Sound where
  insert h := h.insert _
  erase := Sound.erase
  construct := Sound.construct
  setCreated h hnew := h.setCreated hnew

/-- What the index of a thread lists are messages of the thread. -/
theorem mem_threadMessages (h : L.Sound) {thread message : IdType} (hm : message ∈ L.index thread) :
    message ∈ L.threadMessages thread := by
  obtain ⟨listed, hsub, hlisted⟩ := h thread
  exact hsub ((hlisted.mem_iff message).1 hm)

end Sound

/-- Outside a batch insert the index of a thread lists all its messages. -/
def Listed (thread : IdType) (L : MessageLists) : Prop :=
  L.batchInsertInProgress = false ∧ Library.Indexes (messageKey L.created) (L.index thread) (L.threadMessages thread)

namespace Listed

variable {thread : IdType}

theorem insert (h : L.Listed thread) (t message : IdType) : (L.insert L.batchInsertInProgress t message).Listed thread := by
  obtain ⟨hbatch, hindexes⟩ := h
  unfold MessageLists.insert
  split_ifs with hmem hb
  · exact ⟨hbatch, hindexes⟩
  · rw [hbatch] at hb
    cases hb
  · refine ⟨hbatch, ?_⟩
    by_cases ht : thread = t
    · subst ht
      simp only [Function.update_self]
      exact hindexes.insertItem hmem
    · simp only [Function.update_of_ne ht]
      exact hindexes

theorem erase (h : L.Listed thread) (t message : IdType) : (L.erase t message).Listed thread := by
  obtain ⟨hbatch, hindexes⟩ := h
  unfold MessageLists.erase
  split_ifs with hmem
  · refine ⟨hbatch, ?_⟩
    dsimp only
    by_cases ht : thread = t
    · subst ht
      have hprep := hindexes.prepared hmem
      rw [if_pos (List.getElem?_eq_some_iff.1 hprep.at_it).1, Function.update_self, Function.update_self]
      exact hprep.eraseIdx
    · rw [Function.update_of_ne ht]
      split_ifs
      · rw [Function.update_of_ne ht]
        exact hindexes
      · exact hindexes
  · exact ⟨hbatch, hindexes⟩

theorem construct_self (hbatch : L.batchInsertInProgress = false) (id : IdType) : (L.construct id).Listed id :=
  ⟨hbatch, by simp [MessageLists.construct]⟩

theorem construct (h : L.Listed thread) (id : IdType) : (L.construct id).Listed thread := by
  by_cases ht : thread = id
  · subst ht
    exact construct_self h.1 thread
  · refine ⟨h.1, ?_⟩
    simpa only [MessageLists.construct, Function.update_of_ne ht] using h.2

theorem setCreated {message : IdType} (h : L.Listed thread) (hnew : ∀ thread, message ∉ L.threadMessages thread)
    (created : Timestamp) : (L.setCreated message created).Listed thread := by
  refine ⟨h.1, h.2.congr fun m hm => ?_⟩
  have hne : m ≠ message := fun heq => hnew thread (heq ▸ hm)
  simp [messageKey, MessageLists.setCreated, hne]

/-- An end of a batch insert without a beginning. -/
theorem stopBatchInsert (h : L.Listed thread) (t : IdType) : (L.stopBatchInsert t).Listed thread := by
  unfold MessageLists.stopBatchInsert
  rw [if_neg (by rw [h.1]; exact Bool.false_ne_true)]
  exact h

/-- The index of a thread is made anew in its turn, and left alone in every other. -/
theorem foldl_stopBatchInsert {threads : List IdType} (hn : threads.Nodup) (ht : thread ∈ threads)
    (hb : L.batchInsertInProgress = true) :
    ({ threads.foldl MessageLists.stopBatchInsert L with batchInsertInProgress := false }).Listed thread := by
  refine ⟨rfl, foldl_at (P := fun L : MessageLists => L.batchInsertInProgress = true)
    (Q := fun L : MessageLists => Library.Indexes (messageKey L.created) (L.index thread) (L.threadMessages thread))
    hn ht hb (fun L t _ _ hL => ?_) (fun L hL => ?_) (fun L t _ hne hL => ?_)⟩
  · unfold MessageLists.stopBatchInsert
    rw [if_pos hL]
    exact hL
  · unfold MessageLists.stopBatchInsert
    rw [if_pos hL]
    exact indexes_rebuild L thread
  · unfold MessageLists.stopBatchInsert
    split_ifs
    · have hother : (L.rebuild t).index thread = L.index thread := Function.update_of_ne hne.symm _ _
      rw [hother]
      exact hL
    · exact hL

theorem closed (thread : IdType) : Closed (Listed thread) where
  insert := Listed.insert
  erase := Listed.erase
  construct := Listed.construct
  setCreated h hnew := h.setCreated hnew

end Listed

end MessageLists

/-- The message lists of the collection. -/
def EntityCollection.messageLists (s : EntityCollection) : MessageLists where
  batchInsertInProgress := s.batchInsertInProgress
  threadMessages := s.threadMessages
  created message := (s.message message).created
  index thread := s.index (.messages (.ofThread thread))

namespace EntityCollection

variable {s s' : EntityCollection}

theorem messageLists_congr (hs : s'.toStore = s.toStore)
    (hindex : ∀ thread, s'.index (.messages (.ofThread thread)) = s.index (.messages (.ofThread thread))) :
    s'.messageLists = s.messageLists := by
  unfold messageLists
  simp only [hs, hindex]

theorem messageLists_foldl {α : Type*} {f : EntityCollection → α → EntityCollection} {l : List α}
    (h : ∀ s, ∀ x ∈ l, (f s x).messageLists = s.messageLists) : (l.foldl f s).messageLists = s.messageLists :=
  foldl_view messageLists h

variable (s)

theorem messageLists_unlessBatch {f : EntityCollection → EntityCollection}
    (h : ∀ s, (f s).messageLists = s.messageLists) : (s.unlessBatch f).messageLists = s.messageLists := by
  unfold unlessBatch
  split_ifs
  · rfl
  · exact h s

/-! ### Indexes -/

section indexes

variable {ref : IndexRef} (href : ∀ thread, ref ≠ .messages (.ofThread thread)) (x : IdType)
include href

theorem messageLists_setIndex (l : List IdType) : (s.setIndex ref l).messageLists = s.messageLists :=
  messageLists_congr rfl fun thread => Function.update_of_ne (href thread).symm _ _

theorem messageLists_indexInsert : (s.indexInsert ref x).messageLists = s.messageLists :=
  messageLists_setIndex s href _

theorem messageLists_indexInsertRange (xs : List IdType) :
    (s.indexInsertRange ref xs).messageLists = s.messageLists := messageLists_setIndex s href _

theorem messageLists_indexErase : (s.indexErase ref x).messageLists = s.messageLists := by
  unfold indexErase
  dsimp only
  split_ifs
  · exact messageLists_setIndex s href _
  · rfl

theorem messageLists_indexRebuild : (s.indexRebuild ref).messageLists = s.messageLists :=
  messageLists_setIndex s href _

theorem messageLists_finishUpdate : (s.finishUpdate ref x).messageLists = s.messageLists := by
  refine messageLists_unlessBatch s (f := fun s => s.indexUpdate ref x) fun s => ?_
  unfold indexUpdate
  split_ifs
  · exact messageLists_setIndex s href _
  · exact messageLists_setIndex s href _
  · rfl

end indexes

@[simp] theorem messageLists_prepareUpdate (ref : IndexRef) (x : IdType) :
    (s.prepareUpdate ref x).messageLists = s.messageLists :=
  messageLists_unlessBatch s (f := fun s => s.indexPrepareUpdate ref x) fun _ => rfl

@[simp] theorem messageLists_finishUpdate_users (key : UserKey) (x : IdType) :
    (s.finishUpdate (.users key) x).messageLists = s.messageLists := messageLists_finishUpdate s (by simp) x

@[simp] theorem messageLists_finishUpdate_tags (key : TagKey) (x : IdType) :
    (s.finishUpdate (.tags key) x).messageLists = s.messageLists := messageLists_finishUpdate s (by simp) x

@[simp] theorem messageLists_finishUpdate_categories (key : CategoryKey) (x : IdType) :
    (s.finishUpdate (.categories key) x).messageLists = s.messageLists := messageLists_finishUpdate s (by simp) x

@[simp] theorem messageLists_uniqueInsert (ref : UniqueIndexRef) (x : IdType) :
    (s.uniqueInsert ref x).messageLists = s.messageLists := by
  unfold uniqueInsert
  split_ifs <;> rfl

@[simp] theorem messageLists_uniqueErase (ref : UniqueIndexRef) (x : IdType) :
    (s.uniqueErase ref x).messageLists = s.messageLists := rfl

@[simp] theorem messageLists_uniquePrepareUpdate (ref : UniqueIndexRef) (x : IdType) :
    (s.uniquePrepareUpdate ref x).messageLists = s.messageLists := rfl

@[simp] theorem messageLists_uniqueUpdate (ref : UniqueIndexRef) (x : IdType) :
    (s.uniqueUpdate ref x).messageLists = s.messageLists := by
  unfold uniqueUpdate
  dsimp only
  split_ifs <;> rfl

@[simp] theorem messageLists_onPrepareUpdateDiscussionThread (key : ThreadKey) (thread : IdType) :
    (s.onPrepareUpdateDiscussionThread key thread).messageLists = s.messageLists := by
  refine messageLists_foldl fun s c _ => ?_
  split_ifs <;> simp

@[simp] theorem messageLists_onUpdateDiscussionThread (key : ThreadKey) (thread : IdType) :
    (s.onUpdateDiscussionThread key thread).messageLists = s.messageLists := by
  refine messageLists_foldl fun s c _ => ?_
  split_ifs
  · exact messageLists_finishUpdate s (by simp) thread
  · rfl

@[simp] theorem messageLists_onPrepareUpdateAttachment (key : AttachmentKey) (attachment : IdType) :
    (s.onPrepareUpdateAttachment key attachment).messageLists = s.messageLists := by
  simp [onPrepareUpdateAttachment]

@[simp] theorem messageLists_onUpdateAttachment (key : AttachmentKey) (attachment : IdType) :
    (s.onUpdateAttachment key attachment).messageLists = s.messageLists := by
  unfold onUpdateAttachment
  rw [messageLists_finishUpdate _ (by simp), messageLists_finishUpdate _ (by simp)]

/-- A loop over the keys of a collection, outside a batch insert. -/
theorem messageLists_unlessBatch_foldl {κ : Type} {f : EntityCollection → κ → EntityCollection} (keys : List κ)
    (h : ∀ s key, (f s key).messageLists = s.messageLists) :
    (s.unlessBatch fun s => keys.foldl f s).messageLists = s.messageLists :=
  messageLists_unlessBatch s fun _ => messageLists_foldl fun s key _ => h s key

theorem messageLists_foldl_indexRebuild {κ : Type} {refOf : κ → IndexRef} (keys : List κ)
    (href : ∀ key thread, refOf key ≠ .messages (.ofThread thread)) :
    (keys.foldl (fun s key => s.indexRebuild (refOf key)) s).messageLists = s.messageLists :=
  messageLists_foldl fun s key _ => messageLists_indexRebuild s (href key)

/-! ### Collections of other entities -/

theorem messageLists_setThreads (x : Finset IdType) (c : ThreadCollectionRef) :
    (s.setStore (s.setThreads x c)).messageLists = s.messageLists := by
  cases c <;> rfl

@[simp] theorem messageLists_threadsPrepareCountChange (c : ThreadCollectionRef) :
    (s.threadsPrepareCountChange c).messageLists = s.messageLists := by
  unfold threadsPrepareCountChange
  cases c with
  | createdBy user =>
    dsimp only
    split_ifs <;> simp
  | all | subscribedBy | tag | category => rfl

@[simp] theorem messageLists_threadsFinishCountChange (c : ThreadCollectionRef) :
    (s.threadsFinishCountChange c).messageLists = s.messageLists := by
  unfold threadsFinishCountChange
  cases c with
  | createdBy user =>
    dsimp only
    split_ifs <;> simp
  | all | subscribedBy | tag | category => rfl

@[simp] theorem messageLists_threadsAdd (c : ThreadCollectionRef) (thread : IdType) :
    (s.threadsAdd c thread).messageLists = s.messageLists := by
  unfold threadsAdd
  split_ifs
  · rfl
  · rw [messageLists_threadsFinishCountChange, messageLists_unlessBatch_foldl _ _ fun s key =>
      messageLists_indexInsert s (by simp) thread, messageLists_setThreads, messageLists_threadsPrepareCountChange]

@[simp] theorem messageLists_threadsAddRange (c : ThreadCollectionRef) (threads : List IdType) :
    (s.threadsAddRange c threads).messageLists = s.messageLists := by
  unfold threadsAddRange
  split_ifs
  · rfl
  · rw [messageLists_threadsFinishCountChange, messageLists_unlessBatch_foldl _ _ fun s key =>
      messageLists_indexInsertRange s (by simp) threads, messageLists_setThreads, messageLists_threadsPrepareCountChange]

@[simp] theorem messageLists_threadsRemove (c : ThreadCollectionRef) (thread : IdType) :
    (s.threadsRemove c thread).messageLists = s.messageLists := by
  unfold threadsRemove
  dsimp only
  split_ifs
  · rw [messageLists_threadsFinishCountChange, messageLists_unlessBatch_foldl _ _ fun s key =>
      messageLists_indexErase s (by simp) thread, messageLists_setThreads, messageLists_threadsPrepareCountChange]
  · simp

@[simp] theorem messageLists_threadsStopBatchInsert (c : ThreadCollectionRef) :
    (s.threadsStopBatchInsert c).messageLists = s.messageLists := by
  unfold threadsStopBatchInsert
  split_ifs
  · exact messageLists_foldl_indexRebuild s _ (by simp)
  · rfl

theorem messageLists_setComments (x : Finset IdType) (c : CommentCollectionRef) :
    (s.setStore (s.setComments x c)).messageLists = s.messageLists := by
  cases c <;> rfl

@[simp] theorem messageLists_commentsAdd (c : CommentCollectionRef) (comment : IdType) :
    (s.commentsAdd c comment).messageLists = s.messageLists := by
  unfold commentsAdd
  split_ifs
  · rfl
  · rw [messageLists_indexInsert _ (by simp), messageLists_setComments]

@[simp] theorem messageLists_commentsRemove (c : CommentCollectionRef) (comment : IdType) :
    (s.commentsRemove c comment).messageLists = s.messageLists := by
  unfold commentsRemove
  split_ifs
  · rw [messageLists_indexErase _ (by simp), messageLists_setComments]
  · rfl

theorem messageLists_setPrivateMessages (x : Finset IdType) (c : PrivateMessageCollectionRef) :
    (s.setStore (s.setPrivateMessages x c)).messageLists = s.messageLists := by
  cases c <;> rfl

@[simp] theorem messageLists_privateMessagesAdd (c : PrivateMessageCollectionRef) (message : IdType) :
    (s.privateMessagesAdd c message).messageLists = s.messageLists := by
  unfold privateMessagesAdd
  split_ifs
  · rfl
  · exact messageLists_setPrivateMessages s _ c
  · rw [messageLists_indexInsert _ (by simp), messageLists_setPrivateMessages]

@[simp] theorem messageLists_privateMessagesRemove (c : PrivateMessageCollectionRef) (message : IdType) :
    (s.privateMessagesRemove c message).messageLists = s.messageLists := by
  unfold privateMessagesRemove
  split_ifs
  · exact messageLists_setPrivateMessages s _ c
  · rw [messageLists_indexErase _ (by simp), messageLists_setPrivateMessages]
  · rfl

theorem messageLists_setAttachments (x : Finset IdType) (c : AttachmentCollectionRef) :
    (s.setStore (s.setAttachments x c)).messageLists = s.messageLists := by
  cases c <;> rfl

theorem messageLists_setAttachmentsTotalSize (c : AttachmentCollectionRef) (size : ℤ) :
    (s.setStore (s.setAttachmentsTotalSize c size)).messageLists = s.messageLists := rfl

@[simp] theorem messageLists_attachmentsAdd (c : AttachmentCollectionRef) (attachment : IdType) :
    (s.attachmentsAdd c attachment).messageLists = s.messageLists := by
  unfold attachmentsAdd
  split_ifs
  · rfl
  · rw [messageLists_setAttachmentsTotalSize, messageLists_unlessBatch_foldl _ _ fun s key =>
      messageLists_indexInsert s (by simp) attachment, messageLists_setAttachments]

@[simp] theorem messageLists_attachmentsRemove (c : AttachmentCollectionRef) (attachment : IdType) :
    (s.attachmentsRemove c attachment).messageLists = s.messageLists := by
  unfold attachmentsRemove
  split_ifs
  · rw [messageLists_setAttachmentsTotalSize, messageLists_unlessBatch_foldl _ _ fun s key =>
      messageLists_indexErase s (by simp) attachment, messageLists_setAttachments]
  · rfl

@[simp] theorem messageLists_attachmentsStopBatchInsert (c : AttachmentCollectionRef) :
    (s.attachmentsStopBatchInsert c).messageLists = s.messageLists := by
  unfold attachmentsStopBatchInsert
  split_ifs
  · exact messageLists_foldl_indexRebuild s _ (by simp)
  · rfl

@[simp] theorem messageLists_usersAdd (user : IdType) : (s.usersAdd user).messageLists = s.messageLists := by
  unfold usersAdd
  split_ifs
  · rfl
  · rw [messageLists_unlessBatch_foldl _ _ fun s key => messageLists_indexInsert s (by simp) user,
      messageLists_indexInsert _ (by simp), messageLists_uniqueInsert, messageLists_uniqueInsert]
    rfl

@[simp] theorem messageLists_usersRemove (user : IdType) : (s.usersRemove user).messageLists = s.messageLists := by
  unfold usersRemove
  split_ifs
  · rw [messageLists_unlessBatch_foldl _ _ fun s key => messageLists_indexErase s (by simp) user,
      messageLists_indexErase _ (by simp)]
    rfl
  · rfl

@[simp] theorem messageLists_usersStopBatchInsert : s.usersStopBatchInsert.messageLists = s.messageLists := by
  unfold usersStopBatchInsert
  split_ifs
  · exact messageLists_foldl_indexRebuild s _ (by simp)
  · rfl

@[simp] theorem messageLists_tagsAdd (tag : IdType) : (s.tagsAdd tag).messageLists = s.messageLists := by
  unfold tagsAdd
  split_ifs
  · rfl
  · rw [messageLists_unlessBatch_foldl _ _ fun s key => messageLists_indexInsert s (by simp) tag,
      messageLists_uniqueInsert]
    rfl

@[simp] theorem messageLists_tagsRemove (tag : IdType) : (s.tagsRemove tag).messageLists = s.messageLists := by
  unfold tagsRemove
  split_ifs
  · rw [messageLists_unlessBatch_foldl _ _ fun s key => messageLists_indexErase s (by simp) tag]
    rfl
  · rfl

@[simp] theorem messageLists_tagsStopBatchInsert : s.tagsStopBatchInsert.messageLists = s.messageLists := by
  unfold tagsStopBatchInsert
  split_ifs
  · exact messageLists_foldl_indexRebuild s _ (by simp)
  · rfl

@[simp] theorem messageLists_categoriesAdd (category : IdType) :
    (s.categoriesAdd category).messageLists = s.messageLists := by
  unfold categoriesAdd
  split_ifs
  · rfl
  · rw [messageLists_unlessBatch_foldl _ _ fun s key => messageLists_indexInsert s (by simp) category,
      messageLists_uniqueInsert]
    rfl

@[simp] theorem messageLists_categoriesRemove (category : IdType) :
    (s.categoriesRemove category).messageLists = s.messageLists := by
  unfold categoriesRemove
  split_ifs
  · rw [messageLists_unlessBatch_foldl _ _ fun s key => messageLists_indexErase s (by simp) category]
    rfl
  · rfl

@[simp] theorem messageLists_categoriesStopBatchInsert :
    s.categoriesStopBatchInsert.messageLists = s.messageLists := by
  unfold categoriesStopBatchInsert
  split_ifs
  · exact messageLists_foldl_indexRebuild s _ (by simp)
  · rfl

/-! ### Messages coming and leaving -/

@[simp] theorem messageLists_messagesPrepareCountChange (c : MessageCollectionRef) :
    (s.messagesPrepareCountChange c).messageLists = s.messageLists := by
  unfold messagesPrepareCountChange
  cases c with
  | createdBy user =>
    dsimp only
    split_ifs <;> simp
  | ofThread thread => simp
  | all => rfl

@[simp] theorem messageLists_messagesCountChange (c : MessageCollectionRef) :
    (s.messagesCountChange c).messageLists = s.messageLists := by
  unfold messagesCountChange
  cases c with
  | createdBy user =>
    dsimp only
    split_ifs <;> simp
  | ofThread thread => simp
  | all => rfl

/-- A message of the forum or of a user is not yet a message of a thread. -/
theorem messageLists_messagesInsert {c : MessageCollectionRef} (hc : ∀ thread, c ≠ .ofThread thread) (m : IdType) :
    (s.messagesInsert c m).messageLists = s.messageLists := by
  have hset : ∀ x, (s.setStore (s.setMessages x c)).messageLists = s.messageLists := fun x => by
    cases c with
    | ofThread thread => exact (hc thread rfl).elim
    | all | createdBy => rfl
  unfold messagesInsert
  split_ifs
  · rfl
  · rw [messageLists_unlessBatch _ fun s => messageLists_indexInsert s (by simpa using hc) m, hset]

theorem messageLists_setIndex_ofThread (thread : IdType) (l : List IdType) :
    (s.setIndex (.messages (.ofThread thread)) l).messageLists =
      { s.messageLists with index := Function.update s.messageLists.index thread l } := by
  have hindex : (fun t => (s.setIndex (.messages (.ofThread thread)) l).index (.messages (.ofThread t))) =
      Function.update s.messageLists.index thread l := by
    funext t
    by_cases ht : t = thread
    · subst ht
      simp [setIndex]
    · simp [setIndex, ht, messageLists]
  unfold messageLists at hindex ⊢
  rw [hindex]
  rfl

theorem messageLists_messagesInsert_ofThread (thread m : IdType) :
    (s.messagesInsert (.ofThread thread) m).messageLists =
      s.messageLists.insert s.batchInsertInProgress thread m := by
  unfold messagesInsert MessageLists.insert
  by_cases hm : m ∈ s.threadMessages thread
  · rw [if_pos (c := m ∈ s.messages (.ofThread thread)) hm, if_pos (c := m ∈ s.messageLists.threadMessages thread) hm]
  · rw [if_neg (c := m ∈ s.messages (.ofThread thread)) hm, if_neg (c := m ∈ s.messageLists.threadMessages thread) hm]
    dsimp only
    unfold unlessBatch
    cases hb : s.batchInsertInProgress
    · rw [if_neg (by simp [setStore, Store.setMessages, hb])]
      exact messageLists_setIndex_ofThread _ thread _
    · rw [if_pos (by simp [setStore, Store.setMessages, hb])]
      rfl

theorem messageLists_messagesAdd {c : MessageCollectionRef} (hc : ∀ thread, c ≠ .ofThread thread) (m : IdType) :
    (s.messagesAdd c m).messageLists = s.messageLists := by
  unfold messagesAdd
  dsimp only
  split_ifs
  · simp
  · rw [messageLists_messagesCountChange, messageLists_messagesInsert _ hc, messageLists_messagesPrepareCountChange]

theorem messageLists_messagesRemove {c : MessageCollectionRef} (hc : ∀ thread, c ≠ .ofThread thread) (m : IdType) :
    (s.messagesRemove c m).messageLists = s.messageLists := by
  have hset : ∀ (s : EntityCollection) x, (s.setStore (s.setMessages x c)).messageLists = s.messageLists := fun s x => by
    cases c with
    | ofThread thread => exact (hc thread rfl).elim
    | all | createdBy => rfl
  unfold messagesRemove
  dsimp only
  split_ifs
  · rw [messageLists_messagesCountChange, messageLists_indexErase _ (by simpa using hc), hset,
      messageLists_messagesPrepareCountChange]
  · simp

/-- A message comes to a thread. -/
theorem messageLists_messagesAdd_ofThread (thread m : IdType) :
    (s.messagesAdd (.ofThread thread) m).messageLists =
      s.messageLists.insert s.batchInsertInProgress thread m := by
  unfold messagesAdd
  dsimp only
  split_ifs with hm
  · have hmem : m ∈ s.messages (.ofThread thread) := by simpa using hm
    rw [messageLists_messagesPrepareCountChange, MessageLists.insert, if_pos]
    exact hmem
  · rw [messageLists_messagesCountChange, messageLists_messagesInsert_ofThread, messageLists_messagesPrepareCountChange,
      toStore_messagesPrepareCountChange]

/-- A message leaves a thread. -/
theorem messageLists_messagesRemove_ofThread (thread m : IdType) :
    (s.messagesRemove (.ofThread thread) m).messageLists = s.messageLists.erase thread m := by
  unfold messagesRemove
  dsimp only
  rw [toStore_messagesPrepareCountChange]
  have hlists : (s.messagesPrepareCountChange (.ofThread thread)).messageLists = s.messageLists := by simp
  have hstore : (s.messagesPrepareCountChange (.ofThread thread)).toStore = s.toStore := by simp
  generalize s.messagesPrepareCountChange (.ofThread thread) = s' at hlists hstore
  unfold MessageLists.erase
  by_cases hm : m ∈ s.threadMessages thread
  · rw [if_pos (c := m ∈ s.messages (.ofThread thread)) hm, if_pos (c := m ∈ s.messageLists.threadMessages thread) hm,
      messageLists_messagesCountChange, ← hlists, ← hstore]
    unfold indexErase
    dsimp only
    by_cases hit : findInNonUnique (messageKey s'.messageLists.created) m (messageKey s'.messageLists.created m)
        (s'.messageLists.index thread) < (s'.messageLists.index thread).length
    · rw [if_pos hit, if_pos]
      · exact messageLists_setIndex_ofThread _ thread _
      · exact hit
    · rw [if_neg hit, if_neg]
      · rfl
      · exact hit
  · rw [if_neg (c := m ∈ s.messages (.ofThread thread)) hm, if_neg (c := m ∈ s.messageLists.threadMessages thread) hm,
      hlists]

end EntityCollection

end Forum.Entities
