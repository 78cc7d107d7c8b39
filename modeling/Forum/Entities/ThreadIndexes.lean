import Forum.Entities.IndexEffects
import Forum.Entities.OwnershipEffects

/-!
# Thread collections

`CollectionSound s r` says that all indexes of a thread collection are sound. A thread sits in many
collections at once and its keys change in place, so each change of a key must reach every
collection that holds the thread: `Held s r t` is the condition under which the bracket of
`onPrepareUpdate…` and `onUpdate…` does.

The module goes through the functions of threads, tags and categories and shows that each keeps a
given collection sound; most of them by leaving it alone, which is `CollectionKept`.
-/

namespace Forum.Entities

open Forum.Library EntityCollection

/-! ### Leaving a thread collection alone -/

/-- The collection, the keys of its threads and its indexes are in `s'` what they are in `s`. -/
structure CollectionKept (r : ThreadCollectionRef) (s s' : EntityCollection) : Prop where
  threads : s'.threads r = s.threads r
  threadKey : ∀ t ∈ s.threads r, s'.threadKey t = s.threadKey t
  batch : s'.batchInsertInProgress = s.batchInsertInProgress
  index : ∀ key, IndexKept (.threads r key) s s'

namespace CollectionKept

variable {r : ThreadCollectionRef} {s s' s'' : EntityCollection}

theorem refl (r : ThreadCollectionRef) (s : EntityCollection) : CollectionKept r s s :=
  ⟨rfl, fun _ _ => rfl, rfl, fun _ => .refl _ s⟩

theorem trans' (h' : CollectionKept r s' s'') (h : CollectionKept r s s') : CollectionKept r s s'' where
  threads := h'.threads.trans h.threads
  threadKey t ht := (h'.threadKey t (h.threads ▸ ht)).trans (h.threadKey t ht)
  batch := h'.batch.trans h.batch
  index key := (h'.index key).trans' (h.index key)

theorem foldl {α : Type*} {f : EntityCollection → α → EntityCollection} {l : List α}
    (hf : ∀ s, ∀ x ∈ l, CollectionKept r s (f s x)) (h : CollectionKept r s s') :
    CollectionKept r s (l.foldl f s') :=
  foldl_keeps h fun s' x hx h => (hf s' x hx).trans' h

/-- Indexes of other collections change. -/
theorem of_toStore (hs : s'.toStore = s.toStore) (h : ∀ key, IndexKept (.threads r key) s s') :
    CollectionKept r s s' :=
  ⟨by rw [hs], fun t _ => by rw [hs], by rw [hs], h⟩

/-- Parts of the store change that the collection does not read. -/
theorem of_toIndexes (hi : s'.toIndexes = s.toIndexes) (ht : s'.threads r = s.threads r)
    (hk : ∀ t ∈ s.threads r, s'.threadKey t = s.threadKey t)
    (hb : s'.batchInsertInProgress = s.batchInsertInProgress) : CollectionKept r s s' :=
  ⟨ht, hk, hb, fun _ => .of_toIndexes hi⟩

/-- The listing of the collection is the same. -/
theorem iterateThreads (h : CollectionKept r s s') : s'.iterateThreads r = s.iterateThreads r := by
  unfold EntityCollection.iterateThreads
  rw [h.batch, h.threads, (h.index .created).index]

end CollectionKept

/-- The keys of a thread are read from six of its fields. -/
theorem Store.threadKey_congr {s s' : Store} {t : IdType} (hname : (s'.thread t).name = (s.thread t).name)
    (hcreated : (s'.thread t).created = (s.thread t).created)
    (hupdated : s'.threadLastUpdated t = s.threadLastUpdated t)
    (hpin : (s'.thread t).pinDisplayOrder = (s.thread t).pinDisplayOrder)
    (hlatest : s'.latestMessageCreated t = s.latestMessageCreated t)
    (hmessages : s'.threadMessages t = s.threadMessages t) : s'.threadKey t = s.threadKey t := by
  funext key
  cases key <;>
    simp [Store.threadKey, Ownership.threadMessageCount, hname, hcreated, hupdated, hpin, hlatest, hmessages]

/-! ### Sound collections -/

/-- All indexes of the thread collection are sound. -/
def CollectionSound (s : EntityCollection) (r : ThreadCollectionRef) : Prop :=
  ∀ key ∈ r.keys, IndexSound s (.threads r key)

/-- A change of the keys of the thread reaches the collection if it holds the thread. -/
def Held (s : Store) (r : ThreadCollectionRef) (thread : IdType) : Prop :=
  thread ∈ s.threads r → r ∈ s.threadHolders thread

namespace CollectionSound

variable {r : ThreadCollectionRef} {s s' : EntityCollection} {key : ThreadKey} {thread : IdType}

theorem kept (h : CollectionSound s r) (hk : CollectionKept r s s') : CollectionSound s' r :=
  fun key hkey => (h key hkey).kept (hk.index key) hk.batch hk.threads fun t ht =>
    congrFun (hk.threadKey t ht) key

/-- A sound collection lists its threads, each once. -/
theorem listing (h : CollectionSound s r) :
    (s.iterateThreads r).Nodup ∧ (s.iterateThreads r).toFinset = s.threads r := by
  unfold EntityCollection.iterateThreads
  split_ifs with hb
  · exact ⟨nodup_ascending _, toFinset_ascending _⟩
  · have hkey : ThreadKey.created ∈ r.keys := by cases r <;> simp [ThreadCollectionRef.keys]
    have hi := (h .created hkey).exact' (by simpa using hb)
    refine ⟨hi.nodup, ?_⟩
    ext t
    rw [List.mem_toFinset]
    exact hi.mem_iff t

theorem nodup_threadHolders (s : Store) (thread : IdType) : (s.threadHolders thread).Nodup := by
  have hmap : ∀ (f : IdType → ThreadCollectionRef), Function.Injective f → ∀ S : Finset IdType,
      ((ascending S).map f).Nodup := fun f hf S => (nodup_ascending S).map hf
  have hsub := hmap .subscribedBy (fun _ _ h => by simpa using h) (s.threadSubscribedUsers thread)
  have htag := hmap .tag (fun _ _ h => by simpa using h) (s.threadTags thread)
  have hcategory := hmap .category (fun _ _ h => by simpa using h) (s.threadCategories thread)
  unfold Store.threadHolders
  refine List.nodup_cons.2 ⟨by simp, List.nodup_cons.2 ⟨by simp, ?_⟩⟩
  refine List.Nodup.append (List.Nodup.append hsub htag ?_) hcategory ?_
  · intro c hc hc'
    obtain ⟨u, -, rfl⟩ := List.mem_map.1 hc
    simp at hc'
  · intro c hc hc'
    obtain ⟨x, -, rfl⟩ := List.mem_map.1 hc'
    simp at hc

/-! ### The bracket around a change of a key -/

/-- Preparing finds the thread in the collection. -/
theorem onPrepareUpdateDiscussionThread (h : IndexSound s (.threads r key)) (hkey : key ∈ r.keys)
    (hr : r ∈ s.threadHolders thread) :
    IndexPrepared (s.onPrepareUpdateDiscussionThread key thread) (.threads r key) thread := by
  refine foldl_at (P := fun s' => IndexSound s' (.threads r key))
    (Q := fun s' => IndexPrepared s' (.threads r key) thread) (nodup_threadHolders _ thread) hr h ?_ ?_ ?_
  · intro s' c _ hc hs'
    split_ifs
    · exact hs'.of_toStore (.prepareUpdate (by simp [hc.symm]) _ _) (by simp)
    · exact hs'
  · intro s' hs'
    rw [if_pos hkey]
    exact hs'.prepareUpdate thread
  · intro s' c _ hc hs'
    split_ifs
    · exact hs'.kept (.prepareUpdate (by simp [hc.symm]) _ _) (by simp) (by simp) (by simp)
    · exact hs'

/-- Finishing puts the thread in its new place. -/
theorem onUpdateDiscussionThread (h : IndexPrepared s (.threads r key) thread) (hkey : key ∈ r.keys)
    (hr : r ∈ s.threadHolders thread) :
    IndexSound (s.onUpdateDiscussionThread key thread) (.threads r key) := by
  refine foldl_at (P := fun s' => IndexPrepared s' (.threads r key) thread)
    (Q := fun s' => IndexSound s' (.threads r key)) (nodup_threadHolders _ thread) hr h ?_ ?_ ?_
  · intro s' c _ hc hs'
    split_ifs
    · exact hs'.kept (.finishUpdate (by simp [hc.symm]) _ _) (by simp) (by simp) (by simp)
    · exact hs'
  · intro s' hs'
    rw [if_pos hkey]
    exact hs'.finishUpdate
  · intro s' c _ hc hs'
    split_ifs
    · exact hs'.of_toStore (.finishUpdate (by simp [hc.symm]) _ _) (by simp)
    · exact hs'

/-- The notifications visit the holders of the thread only, and there the index of the one key. -/
theorem indexKept_onPrepareUpdateDiscussionThread {key' : ThreadKey} (h : r ∉ s.threadHolders thread ∨ key' ≠ key) :
    IndexKept (.threads r key') s (s.onPrepareUpdateDiscussionThread key thread) := by
  refine .foldl (fun s c hc => ?_) (.refl _ s)
  split_ifs
  · refine .prepareUpdate ?_ _ _
    rintro ⟨⟩
    exact h.elim (fun h => h hc) fun h => h rfl
  · exact .refl _ s

theorem indexKept_onUpdateDiscussionThread {key' : ThreadKey} (h : r ∉ s.threadHolders thread ∨ key' ≠ key) :
    IndexKept (.threads r key') s (s.onUpdateDiscussionThread key thread) := by
  refine .foldl (fun s c hc => ?_) (.refl _ s)
  split_ifs
  · refine .finishUpdate ?_ _ _
    rintro ⟨⟩
    exact h.elim (fun h => h hc) fun h => h rfl
  · exact .refl _ s

theorem index_onPrepareUpdateDiscussionThread (s : EntityCollection) (key : ThreadKey) (thread : IdType) :
    (s.onPrepareUpdateDiscussionThread key thread).index = s.index ∧
      (s.onPrepareUpdateDiscussionThread key thread).assertFailed = s.assertFailed := by
  refine foldl_keeps (P := fun s' : EntityCollection => s'.index = s.index ∧ s'.assertFailed = s.assertFailed)
    ⟨rfl, rfl⟩ fun s' c _ h => ?_
  split_ifs
  · unfold EntityCollection.prepareUpdate EntityCollection.unlessBatch
    split_ifs <;> exact h
  · exact h

/-- Preparing alone does no harm. -/
theorem prepare (h : CollectionSound s r) : CollectionSound (s.onPrepareUpdateDiscussionThread key thread) r := by
  intro key' hkey'
  obtain ⟨hindex, hfailed⟩ := index_onPrepareUpdateDiscussionThread s key thread
  refine ⟨fun hb => ?_, ?_⟩
  · rw [toStore_onPrepareUpdateDiscussionThread] at hb ⊢
    rw [hindex]
    exact (h key' hkey').exact' hb
  · rw [hfailed]
    exact (h key' hkey').noFailure

/-- A change of one key of a thread, between preparing and finishing it. -/
theorem update (h : CollectionSound s r) (held : Held s.toStore r thread)
    (hindex : ∀ key', IndexKept (.threads r key') (s.onPrepareUpdateDiscussionThread key thread) s')
    (hthreads : s'.threads r = s.threads r) (hholders : s'.threadHolders thread = s.threadHolders thread)
    (hbatch : s'.batchInsertInProgress = s.batchInsertInProgress)
    (hkeys : ∀ t ∈ s.threads r, ∀ key', t ≠ thread ∨ key' ≠ key → s'.threadKey t key' = s.threadKey t key') :
    CollectionSound (s'.onUpdateDiscussionThread key thread) r := by
  intro key' hkey'
  by_cases hkey : r ∈ s.threadHolders thread ∧ key' = key
  · obtain ⟨hr, rfl⟩ := hkey
    refine onUpdateDiscussionThread ?_ hkey' (hholders ▸ hr)
    refine (onPrepareUpdateDiscussionThread (h key' hkey') hkey' hr).kept (hindex key') ?_ ?_ ?_
    · simpa using hbatch
    · rw [toStore_onPrepareUpdateDiscussionThread]
      exact hthreads
    · intro t ht hne
      rw [toStore_onPrepareUpdateDiscussionThread] at ht ⊢
      exact hkeys t ht key' (.inl hne)
  · have hnot : r ∉ s.threadHolders thread ∨ key' ≠ key := not_and_or.1 hkey
    refine (h key' hkey').kept ?_ (by simpa using hbatch) (by rw [toStore_onUpdateDiscussionThread]; exact hthreads) ?_
    · refine (indexKept_onUpdateDiscussionThread (hholders ▸ hnot)).trans' ((hindex key').trans' ?_)
      exact indexKept_onPrepareUpdateDiscussionThread hnot
    · intro t ht
      rw [toStore_onUpdateDiscussionThread]
      refine hkeys t ht key' (hnot.imp_left fun hnot => ?_)
      rintro rfl
      exact hnot (held ht)

end CollectionSound

/-! ### Changing a thread collection -/

@[simp] theorem Store.threads_setThreads (s : Store) (x : Finset IdType) (c r : ThreadCollectionRef) :
    (s.setThreads x c).threads r = if r = c then x else s.threads r := by
  cases c <;> cases r <;> simp [Store.setThreads, Store.threads, Function.update_apply]

@[simp] theorem Store.threadKey_setThreads (s : Store) (x : Finset IdType) (c : ThreadCollectionRef) :
    (s.setThreads x c).threadKey = s.threadKey := by
  cases c <;> rfl

@[simp] theorem Store.batchInsertInProgress_setThreads (s : Store) (x : Finset IdType) (c : ThreadCollectionRef) :
    (s.setThreads x c).batchInsertInProgress = s.batchInsertInProgress := by
  cases c <;> rfl

namespace CollectionKept

variable {r c : ThreadCollectionRef} (s : EntityCollection)

theorem of_setThreads {s' : EntityCollection} {x : Finset IdType} (h : r ≠ c) (hs : s'.toStore = s.toStore.setThreads x c)
    (hi : ∀ key, IndexKept (.threads r key) s s') : CollectionKept r s s' :=
  ⟨by simp [hs, h], fun t _ => by simp [hs], by simp [hs], hi⟩

theorem threadsAdd (h : r ≠ c) (x : IdType) : CollectionKept r s (s.threadsAdd c x) :=
  of_setThreads s h (toStore_threadsAdd s x c) fun key => .threadsAdd (by simp) (by simp [h]) x s

theorem threadsAddRange (h : r ≠ c) (xs : List IdType) : CollectionKept r s (s.threadsAddRange c xs) :=
  of_setThreads s h (toStore_threadsAddRange s c xs) fun key => .threadsAddRange (by simp) (by simp [h]) xs s

theorem threadsRemove (h : r ≠ c) (x : IdType) : CollectionKept r s (s.threadsRemove c x) :=
  of_setThreads s h (toStore_threadsRemove s x c) fun key => .threadsRemove (by simp) (by simp [h]) x s

theorem threadsStopBatchInsert (h : r ≠ c) : CollectionKept r s (s.threadsStopBatchInsert c) := by
  refine .of_toStore (toStore_threadsStopBatchInsert s c) fun key => ?_
  unfold EntityCollection.threadsStopBatchInsert
  split_ifs
  · exact .foldl (fun s key' _ => .indexRebuild (by simp [h]) s) (.refl _ s)
  · exact .refl _ s

end CollectionKept

namespace CollectionSound

variable {r c : ThreadCollectionRef} {s : EntityCollection}

theorem nodup_keys (c : ThreadCollectionRef) : c.keys.Nodup := by
  cases c <;> simp [ThreadCollectionRef.keys]

/-- Visiting the indexes of a collection, each of which the visit makes sound. -/
theorem foldl_keys {op : EntityCollection → IndexRef → EntityCollection}
    (hstore : ∀ s ref, (op s ref).toStore = s.toStore)
    (hother : ∀ s ref ref', ref' ≠ ref → IndexKept ref' s (op s ref))
    (hat : ∀ s' key, key ∈ c.keys → s'.toStore = s.toStore → IndexKept (.threads c key) s s' →
      IndexSound (op s' (.threads c key)) (.threads c key)) :
    CollectionSound (c.keys.foldl (fun s key => op s (.threads c key)) s) c := by
  intro key hkey
  refine indexSound_foldl (fun key => .threads c key) (fun _ _ h => by simpa using h) (nodup_keys c) hstore
    hother hkey fun s' hs hi => ?_
  exact hat s' key hkey hs hi

theorem noFailure_of_batch (hb : s.batchInsertInProgress = true)
    (hf : ∀ key, key ∈ c.keys → s.assertFailed (.threads c key) = false) : CollectionSound s c :=
  fun key hkey => ⟨fun hb' => absurd (hb'.symm.trans hb) (by simp), hf key hkey⟩

/-- The way a collection changes: `byId` is set, and outside a batch insert each index follows. -/
theorem change (h : CollectionSound s c) (x : Finset IdType) (op : EntityCollection → IndexRef → EntityCollection)
    (hstore : ∀ s ref, (op s ref).toStore = s.toStore)
    (hother : ∀ s ref ref', ref' ≠ ref → IndexKept ref' s (op s ref))
    (hat : ∀ (s' : EntityCollection) key,
      Library.Indexes (s'.indexKey (.threads c key)) (s'.index (.threads c key)) (s.threads c) →
        s'.threads c = x → s'.assertFailed (.threads c key) = false →
          IndexSound (op s' (.threads c key)) (.threads c key)) :
    let s₁ := s.threadsPrepareCountChange c
    let s₂ := s₁.setStore (s₁.setThreads x c)
    CollectionSound ((s₂.unlessBatch fun s => c.keys.foldl (fun s key => op s (.threads c key))
      s).threadsFinishCountChange c) c := by
  have hprepare : ∀ key, IndexKept (.threads c key) s (s.threadsPrepareCountChange c) := fun key =>
    .threadsPrepareCountChange (by simp) c s
  refine kept (s := _) ?_ (.of_toStore (toStore_threadsFinishCountChange _ c) fun key =>
    .threadsFinishCountChange (by simp) c _)
  unfold unlessBatch
  split_ifs with hb
  · exact noFailure_of_batch hb fun key hkey => (hprepare key).assertFailed.trans (h key hkey).noFailure
  · refine foldl_keys hstore hother fun s' key hkey hs hi => hat s' key ?_ (by simp [hs]) ?_
    · rw [hi.index.trans (hprepare key).index]
      refine ((h key hkey).exact' (by simpa using hb)).congr fun t _ => ?_
      rw [hs]
      simp [Store.indexKey]
    · exact hi.assertFailed.trans ((hprepare key).assertFailed.trans (h key hkey).noFailure)

/-- A thread joins a collection. -/
theorem threadsAdd (h : CollectionSound s r) (c : ThreadCollectionRef) (x : IdType) :
    CollectionSound (s.threadsAdd c x) r := by
  by_cases hr : r = c
  · subst hr
    unfold EntityCollection.threadsAdd
    split_ifs with hx
    · exact h
    · simp only [toStore_threadsPrepareCountChange]
      have hsound := h.change (insert x (s.threads r)) (fun s ref => s.indexInsert ref x)
        (fun _ _ => rfl) (fun s ref ref' hne => .indexInsert hne x s) fun s' key hi hs hf =>
          indexSound_indexInsert hi hx hs hf
      simpa only [toStore_threadsPrepareCountChange] using hsound
  · exact h.kept (.threadsAdd s hr x)

/-- Threads that are not in a collection join it. -/
theorem threadsAddRange (h : CollectionSound s r) {c : ThreadCollectionRef} {xs : List IdType} (hn : xs.Nodup)
    (hx : ∀ x ∈ xs, x ∉ s.threads c) : CollectionSound (s.threadsAddRange c xs) r := by
  by_cases hr : r = c
  · subst hr
    unfold EntityCollection.threadsAddRange
    split_ifs
    · exact h
    · have hsound := h.change (s.threads r ∪ xs.toFinset) (fun s ref => s.indexInsertRange ref xs)
        (fun _ _ => rfl) (fun s ref ref' hne => .indexInsertRange hne xs s) fun s' key hi hs hf =>
          indexSound_indexInsertRange hi hn hx hs hf
      simpa only [toStore_threadsPrepareCountChange] using hsound
  · exact h.kept (.threadsAddRange s hr xs)

/-- A thread leaves a collection. -/
theorem threadsRemove (h : CollectionSound s r) (c : ThreadCollectionRef) (x : IdType) :
    CollectionSound (s.threadsRemove c x) r := by
  by_cases hr : r = c
  · subst hr
    unfold EntityCollection.threadsRemove
    simp only [toStore_threadsPrepareCountChange]
    split_ifs with hx
    · have hsound := h.change ((s.threads r).erase x) (fun s ref => s.indexErase ref x)
        (fun s ref => toStore_indexErase s ref x) (fun s ref ref' hne => .indexErase hne x s)
        fun s' key hi hs hf => indexSound_indexErase hi hx hs hf
      simpa only [toStore_threadsPrepareCountChange] using hsound
    · exact (h.kept (.of_toStore (toStore_threadsPrepareCountChange s r) fun key =>
        .threadsPrepareCountChange (by simp) r s)).kept (.of_toStore (toStore_threadsFinishCountChange _ r)
          fun key => .threadsFinishCountChange (by simp) r _)
  · exact h.kept (.threadsRemove s hr x)

end CollectionSound

/-! ### The end of a batch insert -/

/-- The indexes of the collection are exact, whether or not a batch insert is in progress. -/
def CollectionListed (s : EntityCollection) (r : ThreadCollectionRef) : Prop :=
  ∀ key ∈ r.keys, Library.Indexes (s.indexKey (.threads r key)) (s.index (.threads r key)) (s.threads r) ∧
    s.assertFailed (.threads r key) = false

/-- Does the collection belong to the store or one of its entities? -/
def Store.Live (s : Store) : ThreadCollectionRef → Prop
  | .all => True
  | .createdBy user | .subscribedBy user => user ∈ s.users
  | .tag tag => tag ∈ s.tags
  | .category category => category ∈ s.categories

namespace CollectionListed

variable {r c : ThreadCollectionRef} {s s' : EntityCollection}

theorem kept (h : CollectionListed s r) (hk : CollectionKept r s s') : CollectionListed s' r := by
  intro key hkey
  obtain ⟨hi, hf⟩ := h key hkey
  refine ⟨?_, (hk.index key).assertFailed.trans hf⟩
  rw [(hk.index key).index, hk.threads]
  exact hi.congr fun t ht => congrFun (hk.threadKey t ht) key

theorem sound (h : CollectionListed s r) : CollectionSound s r :=
  fun key hkey => ⟨fun _ => (h key hkey).1, (h key hkey).2⟩

theorem of_sound (h : CollectionSound s r) (hb : s.batchInsertInProgress = false) : CollectionListed s r :=
  fun key hkey => ⟨(h key hkey).exact' hb, (h key hkey).noFailure⟩

/-- After the indexes of the collection are rebuilt they are exact; outside a batch insert they were
before. -/
theorem threadsStopBatchInsert_self (h : CollectionSound s r) :
    CollectionListed (s.threadsStopBatchInsert r) r := by
  unfold EntityCollection.threadsStopBatchInsert
  split_ifs with hb
  · intro key hkey
    refine foldl_at (P := fun s' : EntityCollection => s'.assertFailed (.threads r key) = false)
      (Q := fun s' : EntityCollection => Library.Indexes (s'.indexKey (.threads r key))
        (s'.index (.threads r key)) (s'.threads r) ∧ s'.assertFailed (.threads r key) = false)
      (CollectionSound.nodup_keys r) hkey (h key hkey).noFailure ?_ ?_ ?_
    · exact fun s' key' _ _ hf => hf
    · intro s' hf
      have hi := indexes_insertRange_nil (s'.indexKey (.threads r key)) (nodup_ascending (s'.threads r))
      rw [toFinset_ascending] at hi
      refine ⟨?_, hf⟩
      rw [toStore_indexRebuild, show (s'.indexRebuild (.threads r key)).index (.threads r key) =
        insertRange (s'.indexKey (.threads r key)) (ascending (s'.threads r)) [] from Function.update_self _ _ _]
      exact hi
    · rintro s' key' _ hne ⟨hi, hf⟩
      refine ⟨?_, hf⟩
      have hkept : IndexKept (.threads r key) s' (s'.indexRebuild (.threads r key')) :=
        .indexRebuild (by simp [hne.symm]) s'
      rw [hkept.index]
      exact hi
  · exact of_sound h (by simpa using hb)

theorem threadsStopBatchInsert (h : CollectionListed s r) (c : ThreadCollectionRef) :
    CollectionListed (s.threadsStopBatchInsert c) r := by
  by_cases hr : r = c
  · exact hr ▸ threadsStopBatchInsert_self (hr ▸ h.sound)
  · exact h.kept (.threadsStopBatchInsert s hr)

end CollectionListed

namespace CollectionKept

variable {r : ThreadCollectionRef} (s : EntityCollection)

theorem usersStopBatchInsert : CollectionKept r s s.usersStopBatchInsert := by
  refine .of_toStore (toStore_usersStopBatchInsert s) fun key => ?_
  unfold EntityCollection.usersStopBatchInsert
  split_ifs
  · exact .foldl (fun s _ _ => .indexRebuild (by simp) s) (.refl _ s)
  · exact .refl _ s

theorem tagsStopBatchInsert : CollectionKept r s s.tagsStopBatchInsert := by
  refine .of_toStore (toStore_tagsStopBatchInsert s) fun key => ?_
  unfold EntityCollection.tagsStopBatchInsert
  split_ifs
  · exact .foldl (fun s _ _ => .indexRebuild (by simp) s) (.refl _ s)
  · exact .refl _ s

theorem categoriesStopBatchInsert : CollectionKept r s s.categoriesStopBatchInsert := by
  refine .of_toStore (toStore_categoriesStopBatchInsert s) fun key => ?_
  unfold EntityCollection.categoriesStopBatchInsert
  split_ifs
  · exact .foldl (fun s _ _ => .indexRebuild (by simp) s) (.refl _ s)
  · exact .refl _ s

theorem messagesStopBatchInsert (c : MessageCollectionRef) : CollectionKept r s (s.messagesStopBatchInsert c) := by
  refine .of_toStore (toStore_messagesStopBatchInsert s c) fun key => ?_
  unfold EntityCollection.messagesStopBatchInsert
  split_ifs
  · exact .indexRebuild (by simp) s
  · exact .refl _ s

theorem attachmentsStopBatchInsert (c : AttachmentCollectionRef) :
    CollectionKept r s (s.attachmentsStopBatchInsert c) := by
  refine .of_toStore (toStore_attachmentsStopBatchInsert s c) fun key => ?_
  unfold EntityCollection.attachmentsStopBatchInsert
  split_ifs
  · exact .foldl (fun s _ _ => .indexRebuild (by simp) s) (.refl _ s)
  · exact .refl _ s

end CollectionKept

theorem CollectionSound.threadsStopBatchInsert {s : EntityCollection} {r : ThreadCollectionRef}
    (h : CollectionSound s r) (c : ThreadCollectionRef) : CollectionSound (s.threadsStopBatchInsert c) r := by
  by_cases hr : r = c
  · exact hr ▸ (CollectionListed.threadsStopBatchInsert_self (hr ▸ h)).sound
  · exact h.kept (.threadsStopBatchInsert s hr)

/-- When the batch insert stops, the collections of the store and of its entities are exact. -/
theorem CollectionListed.stopBatchInsert {s : EntityCollection} {r : ThreadCollectionRef} (h : CollectionSound s r)
    (hr : s.Live r) : CollectionListed s.stopBatchInsert r := by
  have messages : ∀ (f : IdType → MessageCollectionRef) (l : List IdType) s,
      CollectionKept r s (l.foldl (fun s x => s.messagesStopBatchInsert (f x)) s) := fun f l s =>
    .foldl (fun s x _ => .messagesStopBatchInsert s (f x)) (.refl r s)
  have attachments : ∀ (f : IdType → AttachmentCollectionRef) (l : List IdType) s,
      CollectionKept r s (l.foldl (fun s x => s.attachmentsStopBatchInsert (f x)) s) := fun f l s =>
    .foldl (fun s x _ => .attachmentsStopBatchInsert s (f x)) (.refl r s)
  have sound : ∀ (f : IdType → ThreadCollectionRef) (l : List IdType) s, CollectionSound s r →
      CollectionSound (l.foldl (fun s x => s.threadsStopBatchInsert (f x)) s) r := fun f l s h =>
    foldl_keeps (P := fun s => CollectionSound s r) h fun s x _ h => h.threadsStopBatchInsert (f x)
  have listed : ∀ (f : IdType → ThreadCollectionRef) (l : List IdType) s, CollectionListed s r →
      CollectionListed (l.foldl (fun s x => s.threadsStopBatchInsert (f x)) s) r := fun f l s h =>
    foldl_keeps (P := fun s => CollectionListed s r) h fun s x _ h => h.threadsStopBatchInsert (f x)
  -- the loop that reaches the collection
  have reached : ∀ (f : IdType → ThreadCollectionRef) (S : Finset IdType) s x, x ∈ S → r = f x → CollectionSound s r →
      CollectionListed ((ascending S).foldl (fun s x => s.threadsStopBatchInsert (f x)) s) r := by
    rintro f S s x hx rfl h
    exact foldl_at (P := fun s => CollectionSound s (f x)) (Q := fun s => CollectionListed s (f x))
      (nodup_ascending S) (mem_ascending.2 hx) h (fun s y _ _ h => h.threadsStopBatchInsert (f y))
      (fun s h => CollectionListed.threadsStopBatchInsert_self h) fun s y _ _ h => h.threadsStopBatchInsert (f y)
  unfold EntityCollection.stopBatchInsert
  extract_lets s₁ s₂ s₃ s₄ s₅ s₆ s₇ s₈ s₉ s₁₀ s₁₁ s₁₂ s₁₃
  have h₃ : CollectionSound s₃ r :=
    ((h.kept (.usersStopBatchInsert s)).kept (messages .createdBy _ s₁)).kept (messages .ofThread _ s₂)
  have h₄ : CollectionSound s₄ r := sound .createdBy _ s₃ h₃
  have h₆ : CollectionSound s₆ r := (sound .subscribedBy _ s₄ h₄).kept (attachments .createdBy _ s₅)
  have h₇ : CollectionSound s₇ r := sound .tag _ s₆ h₆
  have hstore₁ : s₁.toStore = s.toStore := toStore_usersStopBatchInsert s
  have hstore₂ : s₂.toStore = s.toStore := (s₁.toStore_foldl fun s x _ => by simp).trans hstore₁
  have hstore₃ : s₃.toStore = s.toStore := (s₂.toStore_foldl fun s x _ => by simp).trans hstore₂
  have hstore₄ : s₄.toStore = s.toStore := (s₃.toStore_foldl fun s x _ => by simp).trans hstore₃
  have hstore₅ : s₅.toStore = s.toStore := (s₄.toStore_foldl fun s x _ => by simp).trans hstore₄
  have hstore₆ : s₆.toStore = s.toStore := (s₅.toStore_foldl fun s x _ => by simp).trans hstore₅
  have hstore₇ : s₇.toStore = s.toStore := (s₆.toStore_foldl fun s x _ => by simp).trans hstore₆
  have h₉ : CollectionListed s₉ r := by
    cases r with
    | all => exact threadsStopBatchInsert_self (sound .category _ s₇ h₇)
    | category c =>
      refine CollectionListed.threadsStopBatchInsert ?_ .all
      exact reached .category _ s₇ c (by rw [hstore₇]; exact hr) rfl h₇
    | tag g =>
      refine CollectionListed.threadsStopBatchInsert (listed .category _ s₇ ?_) .all
      exact reached .tag _ s₆ g (by rw [hstore₆]; exact hr) rfl h₆
    | subscribedBy u =>
      refine CollectionListed.threadsStopBatchInsert (listed .category _ s₇ (listed .tag _ s₆
        (CollectionListed.kept ?_ (attachments .createdBy _ s₅)))) .all
      exact reached .subscribedBy _ s₄ u (by rw [hstore₄]; exact hr) rfl h₄
    | createdBy u =>
      refine CollectionListed.threadsStopBatchInsert (listed .category _ s₇ (listed .tag _ s₆
        (CollectionListed.kept (listed .subscribedBy _ s₄ ?_) (attachments .createdBy _ s₅)))) .all
      exact reached .createdBy _ s₃ u (by rw [hstore₃]; exact hr) rfl h₃
  have h₁₃ : CollectionListed s₁₃ r := (((h₉.kept (.messagesStopBatchInsert s₉ .all)).kept
    (.tagsStopBatchInsert s₁₀)).kept (.categoriesStopBatchInsert s₁₁)).kept (.attachmentsStopBatchInsert s₁₂ .all)
  clear_value s₁₃
  exact h₁₃

end Forum.Entities
