import Forum.Entities.ThreadIndexes

/-!
# What the operations do to the thread collections

The functions of threads, tags, categories and of the entity collection, one after the other: each
keeps every thread collection sound. For those that change a key of a thread the collection must be
held by the thread; those that add a listing to a category need the listing to be sound itself.
-/

namespace Forum.Entities

open Forum.Library EntityCollection

variable {r : ThreadCollectionRef} {s : EntityCollection}

/-! ### Changes of the store that no thread collection notices -/

namespace CollectionKept

/-- Changing fields of a thread that are no keys. -/
theorem modifyThread {thread : IdType} {f : DiscussionThread → DiscussionThread}
    (hname : (f (s.thread thread)).name = (s.thread thread).name)
    (hcreated : (f (s.thread thread)).created = (s.thread thread).created)
    (hupdated : ((f (s.thread thread)).lastUpdated.map LastUpdatedInfo.at').getD 0 = s.threadLastUpdated thread)
    (hpin : (f (s.thread thread)).pinDisplayOrder = (s.thread thread).pinDisplayOrder) :
    CollectionKept r s (s.modifyThread thread f) := by
  refine .of_toIndexes rfl (by cases r <;> rfl) (fun t _ => ?_) rfl
  by_cases ht : t = thread
  · subst ht
    exact Store.threadKey_congr (by simp [EntityCollection.modifyThread, hname])
      (by simp [EntityCollection.modifyThread, hcreated])
      (by simpa [EntityCollection.modifyThread, Properties.threadLastUpdated] using hupdated)
      (by simp [EntityCollection.modifyThread, hpin]) rfl rfl
  · have hf : (s.modifyThread thread f).thread t = s.thread t := Function.update_of_ne ht _ _
    exact Store.threadKey_congr (by rw [hf]) (by rw [hf]) (by simp [Properties.threadLastUpdated, hf])
      (by rw [hf]) rfl rfl

theorem setLatestVisibleChange (thread : IdType) (value : Timestamp) :
    CollectionKept r s (DiscussionThread.setLatestVisibleChange thread s value) :=
  modifyThread rfl rfl rfl rfl

theorem resetVisitorsSinceLastEdit (thread : IdType) :
    CollectionKept r s (DiscussionThread.resetVisitorsSinceLastEdit thread s) :=
  modifyThread rfl rfl rfl rfl

theorem setApproved (thread : IdType) (value : Bool) :
    CollectionKept r s (DiscussionThread.setApproved thread s value) :=
  modifyThread rfl rfl rfl rfl

theorem updateLastUpdatedDetails (thread : IdType) (details : VisitDetails) :
    CollectionKept r s (DiscussionThread.updateLastUpdatedDetails thread s details) := by
  refine modifyThread rfl rfl ?_ rfl
  unfold Properties.threadLastUpdated
  cases (s.thread thread).lastUpdated <;> rfl

theorem updateLastUpdatedBy (thread user : IdType) :
    CollectionKept r s (DiscussionThread.updateLastUpdatedBy thread s user) := by
  refine modifyThread rfl rfl ?_ rfl
  unfold Properties.threadLastUpdated
  cases (s.thread thread).lastUpdated <;> rfl

/-- The setup of `LastUpdatedInfo`. -/
theorem setupLastUpdated (thread : IdType) : CollectionKept r s
    (s.modifyThread thread fun t => { t with lastUpdated := some ((s.thread thread).lastUpdated.getD {}) }) := by
  refine modifyThread rfl rfl ?_ rfl
  unfold Properties.threadLastUpdated
  cases (s.thread thread).lastUpdated <;> rfl

/-- Changing the relations of threads to tags and categories other than what the collections hold. -/
theorem of_store {s' : EntityCollection} (hi : s'.toIndexes = s.toIndexes) (ht : s'.threads r = s.threads r)
    (hk : s'.threadKey = s.threadKey) (hb : s'.batchInsertInProgress = s.batchInsertInProgress) :
    CollectionKept r s s' :=
  .of_toIndexes hi ht (fun _ _ => by rw [hk]) hb

theorem setThreadTags (x : IdType → Finset IdType) : CollectionKept r s { s with threadTags := x } :=
  .of_store rfl (by cases r <;> rfl) rfl rfl

theorem setThreadCategories (x : IdType → Finset IdType) : CollectionKept r s { s with threadCategories := x } :=
  .of_store rfl (by cases r <;> rfl) rfl rfl

theorem addTag (ctx : Context) (thread tag : IdType) : CollectionKept r s (DiscussionThread.addTag thread s ctx tag) :=
  (setThreadTags _).trans' (setLatestVisibleChange thread ctx.currentTime)

theorem removeTag (ctx : Context) (thread tag : IdType) :
    CollectionKept r s (DiscussionThread.removeTag thread s ctx tag) :=
  (setThreadTags _).trans' (setLatestVisibleChange thread ctx.currentTime)

theorem addCategory (ctx : Context) (thread category : IdType) :
    CollectionKept r s (DiscussionThread.addCategory thread s ctx category) :=
  (setThreadCategories _).trans' (setLatestVisibleChange thread ctx.currentTime)

theorem removeCategory (ctx : Context) (thread category : IdType) :
    CollectionKept r s (DiscussionThread.removeCategory thread s ctx category) :=
  (setThreadCategories _).trans' (setLatestVisibleChange thread ctx.currentTime)

theorem prepareUpdate (ref : IndexRef) (h : ∀ key, ref ≠ .threads r key) (x : IdType) :
    CollectionKept r s (s.prepareUpdate ref x) :=
  .of_toStore (toStore_prepareUpdate s ref x) fun key => .prepareUpdate (h key).symm x s

theorem finishUpdate (ref : IndexRef) (h : ∀ key, ref ≠ .threads r key) (x : IdType) :
    CollectionKept r s (s.finishUpdate ref x) :=
  .of_toStore (toStore_finishUpdate s ref x) fun key => .finishUpdate (h key).symm x s

theorem modifyTotals (category : IdType) (f : TotalThreads → TotalThreads) :
    CollectionKept r s (s.modifyTotals category f) :=
  .of_store rfl (by cases r <;> rfl) rfl rfl

theorem addCategoryMessageCount (category : IdType) (delta : ℤ) :
    CollectionKept r s (s.addCategoryMessageCount category delta) :=
  .of_store rfl (by cases r <;> rfl) rfl rfl

theorem addTagMessageCount (tag : IdType) (delta : ℤ) : CollectionKept r s (s.addTagMessageCount tag delta) :=
  .of_store rfl (by cases r <;> rfl) rfl rfl

end CollectionKept

/-! ### Threads -/

namespace CollectionSound

variable {thread : IdType}

/-- A change of a plain field that one key of a thread is read from. -/
theorem updateField (key : ThreadKey) (h : CollectionSound s r) (held : Held s.toStore r thread)
    {f : EntityCollection → EntityCollection} (hindexes : ∀ s, (f s).toIndexes = s.toIndexes)
    (hownership : ∀ s, (f s).toOwnership = s.toOwnership) (hplacement : ∀ s, (f s).toPlacement = s.toPlacement)
    (hbatch : ∀ s, (f s).batchInsertInProgress = s.batchInsertInProgress)
    (hkeys : ∀ s t key', t ≠ thread ∨ key' ≠ key → (f s).threadKey t key' = s.threadKey t key') :
    CollectionSound ((f (s.onPrepareUpdateDiscussionThread key thread)).onUpdateDiscussionThread key thread) r := by
  refine h.update held (fun _ => .of_toIndexes (hindexes _)) ?_ ?_ ?_ ?_
  · cases r <;> simp [Store.threads, hownership, hplacement]
  · simp [Store.threadHolders, hownership, hplacement]
  · simp [hbatch]
  · intro t _ key' ht
    rw [hkeys _ t key' ht, toStore_onPrepareUpdateDiscussionThread]

theorem threadKey_modifyThread {t : IdType} {key : ThreadKey} (f : DiscussionThread → DiscussionThread) (s : EntityCollection)
    (h : t ≠ thread ∨ ∀ d, { s with thread := fun _ => f d }.threadKey t key = { s with thread := fun _ => d }.threadKey t key) :
    (s.modifyThread thread f).threadKey t key = s.threadKey t key := by
  by_cases ht : t = thread
  · subst ht
    have := h.resolve_left (by simp) (s.thread t)
    cases key <;> simp_all [Store.threadKey, EntityCollection.modifyThread, Properties.threadLastUpdated,
      Ownership.threadMessageCount]
  · cases key <;> simp [Store.threadKey, EntityCollection.modifyThread, Properties.threadLastUpdated,
      Ownership.threadMessageCount, ht]

theorem updateName (h : CollectionSound s r) (held : Held s.toStore r thread) (name : NameType) :
    CollectionSound (DiscussionThread.updateName thread s name) r := by
  refine h.updateField .name held (f := fun s => s.modifyThread thread fun t => { t with name := name })
    (fun _ => rfl) (fun _ => rfl) (fun _ => rfl) (fun _ => rfl) fun s t key ht => ?_
  exact threadKey_modifyThread _ s (ht.imp_right fun hkey d => by cases key <;> first | rfl | exact absurd rfl hkey)

theorem updatePinDisplayOrder (h : CollectionSound s r) (held : Held s.toStore r thread) (value : ℕ) :
    CollectionSound (DiscussionThread.updatePinDisplayOrder thread s value) r := by
  refine h.updateField .pinDisplayOrder held
    (f := fun s => s.modifyThread thread fun t => { t with pinDisplayOrder := value % 2 ^ 14 })
    (fun _ => rfl) (fun _ => rfl) (fun _ => rfl) (fun _ => rfl) fun s t key ht => ?_
  exact threadKey_modifyThread _ s (ht.imp_right fun hkey d => by cases key <;> first | rfl | exact absurd rfl hkey)

theorem updateLatestMessageCreated (h : CollectionSound s r) (held : Held s.toStore r thread) (value : Timestamp) :
    CollectionSound (DiscussionThread.updateLatestMessageCreated thread s value) r := by
  refine h.updateField .latestMessageCreated held
    (f := fun s => { s with latestMessageCreated := Function.update s.latestMessageCreated thread value })
    (fun _ => rfl) (fun _ => rfl) (fun _ => rfl) (fun _ => rfl) fun s t key ht => ?_
  cases key
  case latestMessageCreated =>
    have hne : t ≠ thread := ht.resolve_right (by simp)
    simp [Store.threadKey, hne]
  all_goals rfl

theorem updateLastUpdated (h : CollectionSound s r) (held : Held s.toStore r thread) (value : Timestamp) :
    CollectionSound (DiscussionThread.updateLastUpdated thread s value) r := by
  unfold DiscussionThread.updateLastUpdated
  dsimp only
  split_ifs
  · exact h.kept (.setupLastUpdated thread)
  · refine (h.kept (.setupLastUpdated thread)).updateField .lastUpdated ?_
      (f := fun s' => s'.modifyThread thread fun t =>
        { t with lastUpdated := some { (s.thread thread).lastUpdated.getD {} with at' := value } })
      (fun _ => rfl) (fun _ => rfl) (fun _ => rfl) (fun _ => rfl) fun s t key ht => ?_
    · exact held
    · exact threadKey_modifyThread _ s (ht.imp_right fun hkey d => by cases key <;> first | rfl | exact absurd rfl hkey)

end CollectionSound

/-! ### Messages in threads -/

theorem Store.threadKey_setMessages {s : Store} {x : Finset IdType} {thread t : IdType} {key : ThreadKey}
    (h : t ≠ thread ∨ key ≠ .messageCount) :
    (s.setMessages x (.ofThread thread)).threadKey t key = s.threadKey t key := by
  cases key
  case messageCount =>
    have hne : t ≠ thread := h.resolve_right (by simp)
    simp [Store.threadKey, Store.setMessages, Ownership.threadMessageCount, hne]
  all_goals rfl

@[simp] theorem Store.threads_setMessages (s : Store) (x : Finset IdType) (c : MessageCollectionRef)
    (r : ThreadCollectionRef) : (s.setMessages x c).threads r = s.threads r := by
  cases c <;> cases r <;> rfl

@[simp] theorem Store.threadHolders_setMessages (s : Store) (x : Finset IdType) (c : MessageCollectionRef)
    (t : IdType) : (s.setMessages x c).threadHolders t = s.threadHolders t := by
  cases c <;> rfl

@[simp] theorem Store.batchInsertInProgress_setMessages (s : Store) (x : Finset IdType) (c : MessageCollectionRef) :
    (s.setMessages x c).batchInsertInProgress = s.batchInsertInProgress := by
  cases c <;> rfl

namespace CollectionKept

/-- Message collections other than those of threads, whose size is a key of the thread. -/
theorem of_setMessages {c : MessageCollectionRef} {s' : EntityCollection} {x : Finset IdType}
    (hc : ∀ t, c ≠ .ofThread t) (hs : s'.toStore = s.toStore.setMessages x c)
    (hi : ∀ key, IndexKept (.threads r key) s s') : CollectionKept r s s' := by
  refine ⟨by simp [hs], fun t _ => ?_, by simp [hs], hi⟩
  rw [hs]
  cases c with
  | ofThread t => exact absurd rfl (hc t)
  | all | createdBy => rfl

theorem messagesPrepareCountChange {c : MessageCollectionRef} (hc : ∀ t, c ≠ .ofThread t) :
    CollectionKept r s (s.messagesPrepareCountChange c) := by
  unfold EntityCollection.messagesPrepareCountChange
  split
  · exact .refl r s
  · exact absurd rfl (hc _)
  · split_ifs
    · exact .refl r s
    · exact .prepareUpdate _ (by simp) _

theorem messagesCountChange {c : MessageCollectionRef} (hc : ∀ t, c ≠ .ofThread t) :
    CollectionKept r s (s.messagesCountChange c) := by
  unfold EntityCollection.messagesCountChange
  split
  · exact .refl r s
  · exact absurd rfl (hc _)
  · split_ifs
    · exact .refl r s
    · exact .finishUpdate _ (by simp) _

theorem messagesAdd {c : MessageCollectionRef} (hc : ∀ t, c ≠ .ofThread t) (m : IdType) :
    CollectionKept r s (s.messagesAdd c m) := by
  unfold EntityCollection.messagesAdd
  dsimp only
  split_ifs
  · exact messagesPrepareCountChange hc
  · refine (messagesCountChange hc).trans' (CollectionKept.trans' ?_ (messagesPrepareCountChange hc))
    exact of_setMessages hc (toStore_messagesInsert _ m c) fun key => .messagesInsert (by simp) m _

theorem messagesRemove {c : MessageCollectionRef} (hc : ∀ t, c ≠ .ofThread t) (m : IdType) :
    CollectionKept r s (s.messagesRemove c m) := by
  unfold EntityCollection.messagesRemove
  dsimp only
  split_ifs
  · refine (messagesCountChange hc).trans' (CollectionKept.trans' ?_ (messagesPrepareCountChange hc))
    exact of_setMessages hc (toStore_indexErase _ _ m) fun key => (IndexKept.indexErase (by simp) m _).trans' (.of_toIndexes rfl)
  · exact messagesPrepareCountChange hc

end CollectionKept

namespace CollectionSound

variable {thread : IdType}

/-- A change of the messages of a thread, between the notifications. -/
theorem updateMessages {s' : EntityCollection} (x : Finset IdType) (h : CollectionSound s r)
    (held : Held s.toStore r thread) (hs : s'.toStore = s.toStore.setMessages x (.ofThread thread))
    (hi : ∀ key, IndexKept (.threads r key) (s.onPrepareUpdateDiscussionThread .messageCount thread) s') :
    CollectionSound (s'.messagesCountChange (.ofThread thread)) r := by
  refine h.update held hi ?_ ?_ ?_ fun t _ key ht => ?_
  · rw [hs, Store.threads_setMessages]
  · rw [hs, Store.threadHolders_setMessages]
  · rw [hs, Store.batchInsertInProgress_setMessages]
  · rw [hs, Store.threadKey_setMessages ht]

theorem messagesAdd (h : CollectionSound s r) (held : Held s.toStore r thread) (m : IdType) :
    CollectionSound (s.messagesAdd (.ofThread thread) m) r := by
  unfold EntityCollection.messagesAdd
  dsimp only
  split_ifs
  · exact h.prepare
  · refine updateMessages (insert m (s.threadMessages thread)) h held ?_ fun key => .messagesInsert (by simp) m _
    rw [toStore_messagesInsert, toStore_messagesPrepareCountChange]
    rfl

theorem messagesAddAll (h : CollectionSound s r) (held : Held s.toStore r thread) (messages : Finset IdType) :
    CollectionSound (s.messagesAddAll (.ofThread thread) messages) r := by
  refine updateMessages (s.threadMessages thread ∪ (ascending messages).toFinset) h held ?_ fun key =>
    .foldl (fun s m _ => .messagesInsert (by simp) m s) (.refl _ _)
  rw [toStore_foldl_messagesInsert, toStore_messagesPrepareCountChange]
  rfl

theorem messagesRemove (h : CollectionSound s r) (held : Held s.toStore r thread) (m : IdType) :
    CollectionSound (s.messagesRemove (.ofThread thread) m) r := by
  unfold EntityCollection.messagesRemove
  dsimp only
  split_ifs
  · refine updateMessages ((s.threadMessages thread).erase m) h held ?_ fun key =>
      (IndexKept.indexErase (by simp) m _).trans' (.of_toIndexes rfl)
    rw [toStore_indexErase, toStore_setStore, toStore_messagesPrepareCountChange]
    rfl
  · exact h.prepare

theorem insertMessage (h : CollectionSound s r) (held : Held s.toStore r thread) (m : IdType) :
    CollectionSound (DiscussionThread.insertMessage thread s m) r := by
  refine (h.messagesAdd held m).updateLatestMessageCreated ?_ _
  rw [toStore_messagesAdd]
  simpa [Held] using held

theorem insertMessages (h : CollectionSound s r) (held : Held s.toStore r thread) (messages : Finset IdType) :
    CollectionSound (DiscussionThread.insertMessages thread s messages) r := by
  refine (h.messagesAddAll held messages).updateLatestMessageCreated ?_ _
  rw [toStore_messagesAddAll]
  simpa [Held] using held

theorem deleteDiscussionThreadMessage (h : CollectionSound s r) (held : Held s.toStore r thread) (m : IdType) :
    CollectionSound (DiscussionThread.deleteDiscussionThreadMessage thread s m) r := by
  unfold DiscussionThread.deleteDiscussionThreadMessage DiscussionThread.refreshLatestMessageCreated
  refine (h.messagesRemove held m).updateLatestMessageCreated ?_ _
  rw [toStore_messagesRemove]
  simpa [Held] using held

end CollectionSound

/-! ### Categories -/

variable (ctx : Context)

namespace DiscussionCategory

variable {category thread tag : IdType} {P : EntityCollection → Prop}

/-- What `insertNewDiscussionThreads` does after the threads have joined the collection. -/
theorem collectionKept_insertNewDiscussionThreads (threads : List IdType) :
    CollectionKept r ((s.prepareUpdate (.categories .messageCount) category).threadsAddRange (.category category) threads)
      (insertNewDiscussionThreads ctx category s threads) := by
  unfold insertNewDiscussionThreads
  refine .foldl (fun s c _ => .foldl (fun s t _ => .modifyTotals c _) (.refl r s)) ?_
  refine (CollectionKept.finishUpdate _ (by simp) category).trans' ?_
  exact .foldl (fun s t _ => (CollectionKept.addCategory ctx t category).trans' (.addCategoryMessageCount category _))
    (.refl r _)

theorem collectionSound_insertNewDiscussionThreads (h : CollectionSound s r) {threads : List IdType}
    (hn : threads.Nodup) (hx : ∀ x ∈ threads, x ∉ s.categoryThreads category) :
    CollectionSound (insertNewDiscussionThreads ctx category s threads) r := by
  refine CollectionSound.kept ?_ (collectionKept_insertNewDiscussionThreads ctx threads)
  refine (h.kept (.prepareUpdate _ (by simp) category)).threadsAddRange hn ?_
  simpa [Store.threads] using hx

theorem collectionSound_insertDiscussionThreads (h : CollectionSound s r) {threads : List IdType}
    (hn : threads.Nodup) : CollectionSound (insertDiscussionThreads ctx category s threads) r := by
  unfold insertDiscussionThreads
  dsimp only
  split_ifs
  · exact h
  · exact collectionSound_insertNewDiscussionThreads ctx h (hn.filter _) fun x hx => by
      simpa using (List.mem_filter.1 hx).2

/-- A category fetches the threads of a tag, whose collection is sound. -/
theorem collectionSound_addTag (h : CollectionSound s r) (htag : CollectionSound s (.tag tag)) :
    CollectionSound (addTag ctx category s tag) r := by
  have hset : ∀ r, CollectionSound s r → CollectionSound { s with
      categoryTags := Function.update s.categoryTags category (insert tag (s.categoryTags category)) } r :=
    fun r h => h.kept (.of_store rfl (by cases r <;> rfl) rfl rfl)
  unfold addTag
  split_ifs
  · exact h
  · exact collectionSound_insertDiscussionThreads ctx (hset r h) (hset _ htag).listing.1

/-- Removing a thread from a category removes it from the collection and is not noticed otherwise. -/
theorem deleteDiscussionThread_keeps (kept : ∀ s s', CollectionKept r s s' → P s → P s')
    (remove : ∀ s, P s → P (s.threadsRemove (.category category) thread)) (deleteMessages onlyThisCategory : Bool)
    (h : P s) : P (deleteDiscussionThread ctx category s thread deleteMessages onlyThisCategory) := by
  have prepare : ∀ s, P s → P (if deleteMessages then s.prepareUpdate (.categories .messageCount) category else s) := by
    intro s h
    split_ifs
    · exact kept s _ (.prepareUpdate _ (by simp) category) h
    · exact h
  have count : ∀ s, P s → P
      (if deleteMessages then s.addCategoryMessageCount category (-s.threadMessageCount thread) else s) := by
    intro s h
    split_ifs
    · exact kept s _ (.addCategoryMessageCount category _) h
    · exact h
  have detach : ∀ s : EntityCollection, P s → P
      (if s.threadAboutToBeDeleted thread then s else DiscussionThread.removeCategory thread s ctx category) := by
    intro s h
    split_ifs
    · exact h
    · exact kept s _ (.removeCategory ctx thread category) h
  have finish : ∀ s, P s → P (if deleteMessages then s.finishUpdate (.categories .messageCount) category else s) := by
    intro s h
    split_ifs
    · exact kept s _ (.finishUpdate _ (by simp) category) h
    · exact h
  have totals : ∀ s : EntityCollection, P s → P ((s.categoryAndParents category).foldl (fun s c =>
      s.modifyTotals c fun T => T.remove s.threadMessageCount thread) s) :=
    fun s h => kept s _ (.foldl (fun s c _ => .modifyTotals c _) (.refl r s)) h
  have hdone := finish _ (detach _ (count _ (remove _ (prepare s h))))
  unfold deleteDiscussionThread
  dsimp only
  by_cases hmem : thread ∈ (if deleteMessages then s.prepareUpdate (.categories .messageCount) category
      else s).categoryThreads category
  · rw [if_pos hmem]
    cases onlyThisCategory
    · exact totals _ hdone
    · exact hdone
  · rw [if_neg hmem]
    exact prepare s h

theorem deleteDiscussionThreadIfNoOtherTagsReferenceIt_keeps (kept : ∀ s s', CollectionKept r s s' → P s → P s')
    (remove : ∀ s, P s → P (s.threadsRemove (.category category) thread)) (deleteMessages : Bool) (h : P s) :
    P (deleteDiscussionThreadIfNoOtherTagsReferenceIt ctx category s thread deleteMessages) := by
  unfold deleteDiscussionThreadIfNoOtherTagsReferenceIt
  split_ifs
  · exact h
  · exact kept _ _ (.foldl (fun s c _ => .modifyTotals c _) (.refl r _))
      (deleteDiscussionThread_keeps ctx kept remove deleteMessages true h)

/-- A category gives up the threads it had for a tag. -/
theorem collectionSound_removeTag (h : CollectionSound s r) : CollectionSound (removeTag ctx category s tag) r := by
  unfold removeTag
  split_ifs
  · refine foldl_keeps (P := fun s => CollectionSound s r) (h.kept ?_) fun s t _ h =>
      deleteDiscussionThreadIfNoOtherTagsReferenceIt_keeps (P := fun s => CollectionSound s r) ctx
        (fun _ _ hk h => h.kept hk) (fun _ h => h.threadsRemove _ _) true h
    exact .of_store rfl (by cases r <;> rfl) rfl rfl
  · exact h

theorem collectionKept_updateMessageCount (delta : ℤ) :
    CollectionKept r s (updateMessageCount category s thread delta) := by
  unfold updateMessageCount
  refine (CollectionKept.finishUpdate _ (by simp) category).trans' ?_
  refine .foldl (fun s c _ => .modifyTotals c _) ((CollectionKept.modifyTotals category _).trans' ?_)
  exact (CollectionKept.addCategoryMessageCount category delta).trans' (.prepareUpdate _ (by simp) category)

theorem collectionKept_removeTotalsFromChild (child : IdType) :
    CollectionKept r s (removeTotalsFromChild category s child) :=
  .foldl (fun _ c _ => .modifyTotals c _) (.refl r s)

theorem collectionKept_addTotalsFromChild (child : IdType) :
    CollectionKept r s (addTotalsFromChild category s child) :=
  .foldl (fun _ c _ => .modifyTotals c _) (.refl r s)

theorem collectionKept_updateParent (newParent : Option IdType) :
    CollectionKept r s (updateParent category s newParent) := by
  have hset : ∀ s : EntityCollection, CollectionKept r s
      { s with categoryParent := Function.update s.categoryParent category newParent } :=
    fun s => .of_store rfl (by cases r <;> rfl) rfl rfl
  exact (CollectionKept.finishUpdate _ (by simp) category).trans' ((hset _).trans' (.prepareUpdate _ (by simp) category))

end DiscussionCategory

/-! ### Tags -/

namespace DiscussionTag

variable {tag thread : IdType} {P : EntityCollection → Prop}

theorem collectionKept_updateMessageCount (delta : ℤ) : CollectionKept r s (updateMessageCount tag s delta) := by
  unfold updateMessageCount
  split_ifs
  · exact .refl r s
  · refine (CollectionKept.finishUpdate _ (by simp) tag).trans' ?_
    exact (CollectionKept.addTagMessageCount tag delta).trans' (.prepareUpdate _ (by simp) tag)

/-- A thread joins a tag, and the categories of the tag. -/
theorem collectionSound_insertDiscussionThread (h : CollectionSound s r) :
    CollectionSound (insertDiscussionThread ctx tag s thread) r := by
  have loop : ∀ (categories : List IdType) s, CollectionSound s r → CollectionSound
      (categories.foldl (fun (acc : List IdType × EntityCollection) category =>
        (DiscussionCategory.compactThreads category acc.2 acc.1,
          DiscussionCategory.insertDiscussionThreads ctx category acc.2 acc.1)) ([thread], s)).2 r := by
    intro categories s h
    refine (foldl_keeps (P := fun acc : List IdType × EntityCollection => acc.1 = [thread] ∧ CollectionSound acc.2 r)
      ⟨rfl, h⟩ ?_).2
    rintro ⟨threads, s⟩ category _ ⟨rfl, h⟩
    refine ⟨?_, DiscussionCategory.collectionSound_insertDiscussionThreads ctx h (List.nodup_singleton thread)⟩
    -- an array of one thread is the same after it was compacted
    unfold DiscussionCategory.compactThreads
    by_cases hc : thread ∈ s.categoryThreads category <;> simp [hc]
  have count : ∀ (threads : List IdType) (s : EntityCollection), CollectionKept r s
      (threads.foldl (fun s thread => s.addTagMessageCount tag (s.threadMessageCount thread)) s) :=
    fun threads s => .foldl (fun s t _ => .addTagMessageCount tag _) (.refl r s)
  unfold insertDiscussionThread insertDiscussionThreads
  by_cases ht : thread ∈ s.tagThreads tag
  · simpa [ht] using h
  · simp only [ht, List.filter_cons, not_false_eq_true, decide_true, if_true, List.filter_nil, List.cons_ne_nil,
      if_false]
    refine CollectionSound.kept (CollectionSound.kept (loop _ _ ?_) (.finishUpdate _ (by simp) tag))
      (.finishUpdate _ (by simp) tag)
    refine CollectionSound.kept ?_ (count [thread] _)
    refine CollectionSound.threadsAddRange (CollectionSound.kept (h.kept (.prepareUpdate _ (by simp) tag))
      (.prepareUpdate _ (by simp) tag)) (List.nodup_singleton thread) ?_
    simpa [Store.threads] using ht

/-- Removing a thread from a tag removes it from the collections of the tag and some of its
categories, and is not noticed otherwise. -/
theorem deleteDiscussionThread_keeps (kept : ∀ s s', CollectionKept r s s' → P s → P s')
    (remove : ∀ s, P s → P (s.threadsRemove (.tag tag) thread))
    (removeCategory : ∀ s category, P s → P (s.threadsRemove (.category category) thread)) (deleteMessages : Bool)
    (h : P s) : P (deleteDiscussionThread ctx tag s thread deleteMessages) := by
  have prepare : ∀ s, P s → P (if deleteMessages then s.prepareUpdate (.tags .messageCount) tag else s) := by
    intro s h
    split_ifs
    · exact kept s _ (.prepareUpdate _ (by simp) tag) h
    · exact h
  have count : ∀ s, P s → P
      (if deleteMessages then s.addTagMessageCount tag (-s.threadMessageCount thread) else s) := by
    intro s h
    split_ifs
    · exact kept s _ (.addTagMessageCount tag _) h
    · exact h
  have categories : ∀ (l : List IdType) s, P s → P (l.foldl (fun s category =>
      DiscussionCategory.deleteDiscussionThreadIfNoOtherTagsReferenceIt ctx category s thread deleteMessages) s) :=
    fun l s h => foldl_keeps h fun s c _ h =>
      DiscussionCategory.deleteDiscussionThreadIfNoOtherTagsReferenceIt_keeps ctx kept
        (fun s h => removeCategory s c h) deleteMessages h
  have finish : ∀ s, P s → P (if deleteMessages then s.finishUpdate (.tags .messageCount) tag else s) := by
    intro s h
    split_ifs
    · exact kept s _ (.finishUpdate _ (by simp) tag) h
    · exact h
  have hprepared := prepare _ (kept s _ (.prepareUpdate (.tags .threadCount) (by simp) tag) h)
  unfold deleteDiscussionThread
  dsimp only
  by_cases hmem : thread ∈ (if deleteMessages then (s.prepareUpdate (.tags .threadCount) tag).prepareUpdate
      (.tags .messageCount) tag else s.prepareUpdate (.tags .threadCount) tag).tagThreads tag
  · rw [if_pos hmem]
    exact finish _ (kept _ _ (.finishUpdate _ (by simp) tag) (categories _ _ (count _ (remove _ hprepared))))
  · rw [if_neg hmem]
    exact hprepared

end DiscussionTag

/-! ### Other collections -/

namespace CollectionKept

variable (x : IdType)

theorem usersAdd : CollectionKept r s (s.usersAdd x) :=
  ⟨by rw [toStore_usersAdd]; cases r <;> rfl, fun t _ => by rw [toStore_usersAdd]; rfl,
    by rw [toStore_usersAdd], fun key => .usersAdd (by simp) x s⟩

theorem usersRemove : CollectionKept r s (s.usersRemove x) :=
  ⟨by rw [toStore_usersRemove]; cases r <;> rfl, fun t _ => by rw [toStore_usersRemove]; rfl,
    by rw [toStore_usersRemove], fun key => .usersRemove (by simp) x s⟩

theorem tagsAdd : CollectionKept r s (s.tagsAdd x) :=
  ⟨by rw [toStore_tagsAdd]; cases r <;> rfl, fun t _ => by rw [toStore_tagsAdd]; rfl,
    by rw [toStore_tagsAdd], fun key => .tagsAdd (by simp) x s⟩

theorem tagsRemove : CollectionKept r s (s.tagsRemove x) :=
  ⟨by rw [toStore_tagsRemove]; cases r <;> rfl, fun t _ => by rw [toStore_tagsRemove]; rfl,
    by rw [toStore_tagsRemove], fun key => .tagsRemove (by simp) x s⟩

theorem categoriesAdd : CollectionKept r s (s.categoriesAdd x) :=
  ⟨by rw [toStore_categoriesAdd]; cases r <;> rfl, fun t _ => by rw [toStore_categoriesAdd]; rfl,
    by rw [toStore_categoriesAdd], fun key => .categoriesAdd (by simp) x s⟩

theorem categoriesRemove : CollectionKept r s (s.categoriesRemove x) :=
  ⟨by rw [toStore_categoriesRemove]; cases r <;> rfl, fun t _ => by rw [toStore_categoriesRemove]; rfl,
    by rw [toStore_categoriesRemove], fun key => .categoriesRemove (by simp) x s⟩

theorem commentsAdd (c : CommentCollectionRef) : CollectionKept r s (s.commentsAdd c x) :=
  ⟨by rw [toStore_commentsAdd]; cases c <;> cases r <;> rfl, fun t _ => by rw [toStore_commentsAdd]; cases c <;> rfl,
    by rw [toStore_commentsAdd]; cases c <;> rfl, fun key => .commentsAdd (by simp) x s⟩

theorem commentsRemove (c : CommentCollectionRef) : CollectionKept r s (s.commentsRemove c x) :=
  ⟨by rw [toStore_commentsRemove]; cases c <;> cases r <;> rfl,
    fun t _ => by rw [toStore_commentsRemove]; cases c <;> rfl,
    by rw [toStore_commentsRemove]; cases c <;> rfl, fun key => .commentsRemove (by simp) x s⟩

theorem privateMessagesAdd (c : PrivateMessageCollectionRef) : CollectionKept r s (s.privateMessagesAdd c x) :=
  ⟨by rw [toStore_privateMessagesAdd]; cases c <;> cases r <;> rfl,
    fun t _ => by rw [toStore_privateMessagesAdd]; cases c <;> rfl,
    by rw [toStore_privateMessagesAdd]; cases c <;> rfl, fun key => .privateMessagesAdd (by simp) x s⟩

theorem privateMessagesRemove (c : PrivateMessageCollectionRef) : CollectionKept r s (s.privateMessagesRemove c x) :=
  ⟨by rw [toStore_privateMessagesRemove]; cases c <;> cases r <;> rfl,
    fun t _ => by rw [toStore_privateMessagesRemove]; cases c <;> rfl,
    by rw [toStore_privateMessagesRemove]; cases c <;> rfl, fun key => .privateMessagesRemove (by simp) x s⟩

theorem attachmentsAdd (c : AttachmentCollectionRef) : CollectionKept r s (s.attachmentsAdd c x) := by
  by_cases hx : x ∈ s.attachments c
  · rw [show s.attachmentsAdd c x = s from if_pos hx]
    exact .refl r s
  · have hs := toStore_attachmentsAdd s x c hx
    exact ⟨by rw [hs]; cases c <;> cases r <;> rfl, fun t _ => by rw [hs]; cases c <;> rfl,
      by rw [hs]; cases c <;> rfl, fun key => .attachmentsAdd (by simp) x s⟩

theorem attachmentsRemove (c : AttachmentCollectionRef) : CollectionKept r s (s.attachmentsRemove c x) := by
  by_cases hx : x ∈ s.attachments c
  · have hs := toStore_attachmentsRemove s x c hx
    exact ⟨by rw [hs]; cases c <;> cases r <;> rfl, fun t _ => by rw [hs]; cases c <;> rfl,
      by rw [hs]; cases c <;> rfl, fun key => .attachmentsRemove (by simp) x s⟩
  · rw [show s.attachmentsRemove c x = s from if_neg hx]
    exact .refl r s

/-- Ownership changes, but no thread collection and no thread. -/
theorem setOwnership {o : Ownership} (hall : o.allThreads = s.allThreads) (hcreated : o.userThreads = s.userThreads)
    (hsubscribed : o.userSubscribedThreads = s.userSubscribedThreads) (hmessages : o.threadMessages = s.threadMessages) :
    CollectionKept r s { s with toOwnership := o } := by
  refine .of_store rfl ?_ ?_ rfl
  · cases r <;> simp [Store.threads, hall, hcreated, hsubscribed]
  · funext t key
    cases key <;> simp [Store.threadKey, Ownership.threadMessageCount, Properties.threadLastUpdated, hmessages]

end CollectionKept

/-! ### Deleting messages -/

namespace EntityCollection

variable {message thread user : IdType}

theorem collectionKept_deleteMessageComment (comment : IdType) : CollectionKept r s (s.deleteMessageComment comment) := by
  unfold deleteMessageComment
  split_ifs
  · exact (CollectionKept.commentsRemove comment _).trans' (.commentsRemove comment _)
  · exact .refl r s

/-- Deleting a message comes down to taking it from its thread, unless that is about to be deleted. -/
theorem deleteDiscussionThreadMessage_cases (r : ThreadCollectionRef) (s : EntityCollection) (message : IdType)
    (alsoFromUser : Bool) :
    ∃ s₁ : EntityCollection, CollectionKept r s s₁ ∧ (∀ t, s₁.threadHolders t = s.threadHolders t) ∧
      deleteDiscussionThreadMessage ctx s message alsoFromUser =
        if message ∈ s.allMessages ∧ s.threadAboutToBeDeleted (s.messageParentThread message) = false then
          detachMessageFromThread ctx s₁ message (s.messageParentThread message)
        else s₁ := by
  by_cases hm : message ∈ s.allMessages
  · have hkept : ∀ s₁ s₂ : EntityCollection, CollectionKept r s s₁ → CollectionKept r s₁ s₂ → CollectionKept r s s₂ :=
      fun _ _ h h' => h'.trans' h
    unfold deleteDiscussionThreadMessage
    rw [if_pos hm]
    extract_lets s₁ s₂ s₃ s₄ s₅ s₆
    have h₂ : CollectionKept r s s₂ := by
      have h₁ : CollectionKept r s s₁ := .messagesRemove (by simp) message
      unfold s₂
      split_ifs
      · exact hkept _ _ h₁ (.messagesRemove (by simp) message)
      · exact h₁
    have h₃ : CollectionKept r s s₃ :=
      .foldl (fun s c _ => collectionKept_deleteMessageComment c) h₂
    have hvotes : ∀ (users : List IdType) (s : EntityCollection), CollectionKept r s
        (users.foldl (fun s user => User.removeVote user s message) s) := fun users s =>
      .foldl (fun s u _ => .setOwnership rfl rfl rfl rfl) (.refl r s)
    have h₆ : CollectionKept r s s₆ := by
      refine .foldl (fun s a _ => .setOwnership rfl rfl rfl rfl) ?_
      exact hkept _ _ (hkept _ _ h₃ (hvotes _ s₃)) (hvotes _ s₄)
    -- what is read of the thread afterwards
    let view := fun s : EntityCollection => (s.threadHolders, s.threadAboutToBeDeleted, s.messageParentThread)
    have hremove : ∀ (s : EntityCollection) c, view (s.messagesRemove c message) = view s := by
      intro s c
      simp only [view, toStore_messagesRemove]
      cases c <;> rfl
    have hcomment : ∀ (s : EntityCollection) c, view (s.deleteMessageComment c) = view s := by
      intro s c
      unfold deleteMessageComment
      split_ifs
      · simp only [view, toStore_commentsRemove]
        rfl
      · rfl
    have hview₂ : view s₂ = view s := by
      unfold s₂
      split_ifs
      · exact (hremove _ _).trans (hremove _ _)
      · exact hremove _ _
    have hview₃ : view s₃ = view s₂ := foldl_view view fun s c _ => hcomment s c
    have hview₄ : view s₄ = view s₃ := foldl_view view fun _ _ _ => rfl
    have hview₅ : view s₅ = view s₄ := foldl_view view fun _ _ _ => rfl
    have hview₆ : view s₆ = view s₅ := foldl_view view fun _ _ _ => rfl
    have hview : view s₆ = view s := hview₆.trans (hview₅.trans (hview₄.trans (hview₃.trans hview₂)))
    obtain ⟨hholders, habout, hparent⟩ : s₆.threadHolders = s.threadHolders ∧
        s₆.threadAboutToBeDeleted = s.threadAboutToBeDeleted ∧ s₆.messageParentThread = s.messageParentThread := by
      simpa [view] using hview
    refine ⟨s₆, h₆, fun t => by rw [hholders], ?_⟩
    rw [habout, hparent]
    cases s.threadAboutToBeDeleted (s.messageParentThread message) <;> simp [hm]
  · refine ⟨s, .refl r s, fun _ => rfl, ?_⟩
    rw [if_neg (by tauto)]
    exact if_neg hm

theorem collectionSound_detachMessageFromThread (h : CollectionSound s r) (held : Held s.toStore r thread) :
    CollectionSound (detachMessageFromThread ctx s message thread) r := by
  unfold detachMessageFromThread
  have htags : ∀ (tags : List IdType) (s : EntityCollection), CollectionKept r s
      (tags.foldl (fun s tag => DiscussionTag.updateMessageCount tag s (-1)) s) := fun tags s =>
    .foldl (fun s g _ => DiscussionTag.collectionKept_updateMessageCount (-1)) (.refl r s)
  have hcategories : ∀ (categories : List IdType) (s : EntityCollection), CollectionKept r s
      (categories.foldl (fun s category => DiscussionCategory.updateMessageCount category s thread (-1)) s) :=
    fun categories s => .foldl (fun s c _ => DiscussionCategory.collectionKept_updateMessageCount (-1)) (.refl r s)
  refine CollectionSound.kept (CollectionSound.kept ?_ (htags _ _)) (hcategories _ _)
  exact ((h.deleteDiscussionThreadMessage held message).kept (.resetVisitorsSinceLastEdit thread)).kept
    (.setLatestVisibleChange thread ctx.currentTime)

/-- A message is deleted from a thread that the collection is held by. -/
theorem collectionSound_deleteDiscussionThreadMessage (h : CollectionSound s r)
    (held : Held s.toStore r (s.messageParentThread message)) (alsoFromUser : Bool) :
    CollectionSound (deleteDiscussionThreadMessage ctx s message alsoFromUser) r := by
  obtain ⟨s₁, hk, hholders, heq⟩ := deleteDiscussionThreadMessage_cases ctx r s message alsoFromUser
  rw [heq]
  split_ifs
  · refine collectionSound_detachMessageFromThread ctx (h.kept hk) ?_
    rw [Held, hk.threads, hholders]
    exact held
  · exact h.kept hk

/-- A message of a thread that is about to be deleted does not disturb the thread. -/
theorem collectionKept_deleteDiscussionThreadMessage
    (hd : s.threadAboutToBeDeleted (s.messageParentThread message) = true) (alsoFromUser : Bool) :
    CollectionKept r s (deleteDiscussionThreadMessage ctx s message alsoFromUser) := by
  obtain ⟨s₁, hk, -, heq⟩ := deleteDiscussionThreadMessage_cases ctx r s message alsoFromUser
  rw [heq, if_neg (by simp [hd])]
  exact hk

/-! ### Deleting threads, tags and categories -/

/-- Deleting a thread removes it from collections and is not noticed otherwise, as its messages go with
it. -/
theorem deleteDiscussionThread_keeps {P : EntityCollection → Prop} {deleteMessages alsoFromUser : Bool}
    (kept : ∀ s s', CollectionKept r s s' → P s → P s')
    (removeAll : ∀ s, P s → P (s.threadsRemove .all thread))
    (removeCreated : alsoFromUser = true → ∀ s user, P s → P (s.threadsRemove (.createdBy user) thread))
    (removeCategory : ∀ s category, P s → P (s.threadsRemove (.category category) thread))
    (removeTag : ∀ s tag, P s → P (s.threadsRemove (.tag tag) thread))
    (removeSubscribed : ∀ s', ∀ user ∈ s.threadSubscribedUsers thread, P s' →
      P (s'.threadsRemove (.subscribedBy user) thread))
    (hparent : deleteMessages = true → ∀ m ∈ s.threadMessages thread, s.messageParentThread m = thread) (h : P s) :
    P (deleteDiscussionThread ctx s thread deleteMessages alsoFromUser) := by
  by_cases ht : thread ∈ s.allThreads
  · unfold deleteDiscussionThread
    rw [if_pos ht]
    extract_lets s₁ s₂ s₃ s₄ s₅ s₆
    have h₂ : P s₂ := kept s₁ s₂ (.setOwnership rfl rfl rfl rfl) (removeAll s h)
    have hown₂ : s₂.threadAboutToBeDeleted thread = true ∧ s₂.threadSubscribedUsers = s.threadSubscribedUsers ∧
        s₂.threadMessages = s.threadMessages ∧ s₂.messageParentThread = s.messageParentThread := by
      simp [s₂, s₁, DiscussionThread.setAboutToBeDeleted, Store.setThreads]
    have h₃ : P s₃ ∧ s₃.threadAboutToBeDeleted thread = true ∧ s₃.threadSubscribedUsers = s.threadSubscribedUsers ∧
        s₃.threadMessages = s.threadMessages ∧ s₃.messageParentThread = s.messageParentThread := by
      unfold s₃
      split_ifs with hfrom
      · exact ⟨removeCreated hfrom s₂ _ h₂, by simpa [Store.setThreads] using hown₂⟩
      · exact ⟨h₂, hown₂⟩
    have h₅ : P s₅ := by
      refine foldl_keeps (foldl_keeps h₃.1 fun s c _ h => ?_) fun s g _ h => ?_
      · exact DiscussionCategory.deleteDiscussionThread_keeps ctx kept (fun s h => removeCategory s c h) _ _ h
      · exact DiscussionTag.deleteDiscussionThread_keeps ctx kept (fun s h => removeTag s g h) removeCategory _ h
    have hown₅ : s₅.toOwnership = s₃.toOwnership :=
      (ownershipKept_foldl_deleteDiscussionThread_tag ctx s₄ thread deleteMessages _).1.trans
        (ownershipKept_foldl_deleteDiscussionThread_category ctx s₃ thread deleteMessages _).1
    have h₆ : P s₆ := foldl_keeps h₅ fun s' user hu h => by
      refine removeSubscribed s' user ?_ h
      rw [← h₃.2.2.1, ← hown₅]
      exact mem_ascending.1 hu
    have hown₆ : s₆.threadAboutToBeDeleted thread = true ∧ s₆.threadMessages = s.threadMessages ∧
        s₆.messageParentThread = s.messageParentThread := by
      have hstore₆ := toStore_foldl_threadsRemove_subscribedBy s₅ thread (ascending (s₅.threadSubscribedUsers thread))
      have hown₅' : s₅.threadAboutToBeDeleted thread = true ∧ s₅.threadMessages = s.threadMessages ∧
          s₅.messageParentThread = s.messageParentThread := by
        rw [hown₅]
        exact ⟨h₃.2.1, h₃.2.2.2⟩
      unfold s₆
      rw [hstore₆]
      exact hown₅'
    split_ifs with hdelete
    · refine (foldl_keeps (P := fun s' => P s' ∧ s'.threadAboutToBeDeleted thread = true ∧
        s'.messageParentThread = s.messageParentThread) ⟨h₆, hown₆.1, hown₆.2.2⟩ ?_).1
      rintro s' m hm ⟨h, habout, hparents⟩
      have hm' : s'.messageParentThread m = thread := by
        rw [hparents]
        refine hparent hdelete m ?_
        rw [← hown₆.2.1]
        exact mem_ascending.1 hm
      refine ⟨kept _ _ (collectionKept_deleteDiscussionThreadMessage ctx (by rw [hm']; exact habout) true) h, ?_⟩
      rw [(toOwnership_deleteDiscussionThreadMessage ctx s' m true).1]
      exact ⟨habout, hparents⟩
    · exact h₆
  · unfold deleteDiscussionThread
    rw [if_neg ht]
    exact h

theorem collectionSound_deleteDiscussionThread (h : CollectionSound s r) {deleteMessages : Bool}
    (hparent : deleteMessages = true → ∀ m ∈ s.threadMessages thread, s.messageParentThread m = thread)
    (alsoFromUser : Bool) :
    CollectionSound (deleteDiscussionThread ctx s thread deleteMessages alsoFromUser) r :=
  deleteDiscussionThread_keeps (P := fun s => CollectionSound s r) ctx (fun _ _ hk h => h.kept hk)
    (fun _ h => h.threadsRemove _ _) (fun _ _ _ h => h.threadsRemove _ _) (fun _ _ h => h.threadsRemove _ _)
    (fun _ _ h => h.threadsRemove _ _) (fun _ _ _ h => h.threadsRemove _ _) hparent h

theorem collectionSound_deleteDiscussionTag (h : CollectionSound s r) (tag : IdType) :
    CollectionSound (deleteDiscussionTag ctx s tag) r := by
  have hcategories : ∀ (categories : List IdType) s, CollectionSound s r → CollectionSound
      (categories.foldl (fun s category => DiscussionCategory.removeTag ctx category s tag) s) r :=
    fun categories s h => foldl_keeps (P := fun s => CollectionSound s r) h fun s c _ h =>
      DiscussionCategory.collectionSound_removeTag ctx h
  have hthreads : ∀ (threads : List IdType) (s : EntityCollection), CollectionKept r s
      (threads.foldl (fun s thread => DiscussionThread.removeTag thread s ctx tag) s) := fun threads s =>
    .foldl (fun s t _ => .removeTag ctx t tag) (.refl r s)
  unfold deleteDiscussionTag
  split_ifs
  · exact (hcategories _ _ (h.kept (.tagsRemove tag))).kept (hthreads _ _)
  · exact h

theorem collectionKept_deleteDiscussionCategory (category : IdType) :
    CollectionKept r s (deleteDiscussionCategory ctx s category) := by
  have htags : ∀ (tags : List IdType) (s : EntityCollection), CollectionKept r s
      (tags.foldl (fun s tag => DiscussionTag.removeCategory tag s category) s) := fun tags s =>
    .foldl (fun s g _ => .of_store rfl (by cases r <;> rfl) rfl rfl) (.refl r s)
  have hthreads : ∀ (threads : List IdType) (s : EntityCollection), CollectionKept r s
      (threads.foldl (fun s thread => DiscussionThread.removeCategory thread s ctx category) s) := fun threads s =>
    .foldl (fun s t _ => .removeCategory ctx t category) (.refl r s)
  have hchild : ∀ (parent : IdType) (s : EntityCollection),
      CollectionKept r s (DiscussionCategory.removeChild parent s category) := fun parent s =>
    .of_store rfl (by cases r <;> rfl) rfl rfl
  unfold deleteDiscussionCategory
  split_ifs
  · extract_lets s₁ s₂ s₃
    have h₃ : CollectionKept r s s₃ := (hthreads _ s₂).trans' ((htags _ s₁).trans' (.categoriesRemove category))
    split
    · exact h₃
    · exact (hchild _ _).trans' ((DiscussionCategory.collectionKept_removeTotalsFromChild category).trans' h₃)
  · exact .refl r s

end EntityCollection

end Forum.Entities
