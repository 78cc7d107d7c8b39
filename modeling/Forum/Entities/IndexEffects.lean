import Forum.Entities.OwnershipEffects

/-!
# What the operations do to the indexes

`IndexSound s ref` is what an index is for: it lists the elements of its collection, each once, in
the order of their current keys, and no erase from it has ever failed to find its element.

An operation touches few indexes. `IndexKept ref s s'` says that it does not touch `ref`; the first
half of the module goes through the operations and says which indexes each leaves alone. The second
half is about the operations on the index itself: inserting and erasing an element keep it sound,
and so does a change of the key of one element between `prepareUpdate` and `finishUpdate`.
-/

namespace Forum.Entities

open Forum.Library

namespace EntityCollection

/-! ### Leaving an index alone -/

/-- The index is in `s'` what it is in `s`. -/
structure IndexKept (ref : IndexRef) (s s' : EntityCollection) : Prop where
  index : s'.index ref = s.index ref
  updateIt : s'.updateIt ref = s.updateIt ref
  assertFailed : s'.assertFailed ref = s.assertFailed ref

namespace IndexKept

variable {ref ref' : IndexRef} {s s' s'' : EntityCollection} {x : IdType}

theorem of_toIndexes (h : s'.toIndexes = s.toIndexes) : IndexKept ref s s' := by
  constructor <;> rw [h]

theorem refl (ref : IndexRef) (s : EntityCollection) : IndexKept ref s s := ⟨rfl, rfl, rfl⟩

theorem trans' (h' : IndexKept ref s' s'') (h : IndexKept ref s s') : IndexKept ref s s'' :=
  ⟨h'.index.trans h.index, h'.updateIt.trans h.updateIt, h'.assertFailed.trans h.assertFailed⟩

theorem congr (h : IndexKept ref s s') (hs : s''.toIndexes = s'.toIndexes) : IndexKept ref s s'' :=
  (of_toIndexes hs).trans' h

theorem foldl {α : Type*} {f : EntityCollection → α → EntityCollection} {l : List α}
    (hf : ∀ s, ∀ x ∈ l, IndexKept ref s (f s x)) (h : IndexKept ref s s') : IndexKept ref s (l.foldl f s') :=
  foldl_keeps h fun s' x hx h => (hf s' x hx).trans' h

theorem setIndex (h : ref ≠ ref') (l : List IdType) (s : EntityCollection) : IndexKept ref s (s.setIndex ref' l) :=
  ⟨Function.update_of_ne h _ _, rfl, rfl⟩

theorem indexInsert (h : ref ≠ ref') (x : IdType) (s : EntityCollection) : IndexKept ref s (s.indexInsert ref' x) :=
  setIndex h _ s

theorem indexInsertRange (h : ref ≠ ref') (xs : List IdType) (s : EntityCollection) :
    IndexKept ref s (s.indexInsertRange ref' xs) :=
  setIndex h _ s

theorem indexRebuild (h : ref ≠ ref') (s : EntityCollection) : IndexKept ref s (s.indexRebuild ref') :=
  setIndex h _ s

theorem indexErase (h : ref ≠ ref') (x : IdType) (s : EntityCollection) : IndexKept ref s (s.indexErase ref' x) := by
  unfold EntityCollection.indexErase
  dsimp only
  split_ifs
  · exact setIndex h _ s
  · exact ⟨rfl, rfl, Function.update_of_ne h _ _⟩

theorem indexPrepareUpdate (h : ref ≠ ref') (x : IdType) (s : EntityCollection) :
    IndexKept ref s (s.indexPrepareUpdate ref' x) :=
  ⟨rfl, Function.update_of_ne h _ _, rfl⟩

theorem indexUpdate (h : ref ≠ ref') (x : IdType) (s : EntityCollection) : IndexKept ref s (s.indexUpdate ref' x) := by
  unfold EntityCollection.indexUpdate
  split_ifs
  · exact setIndex h _ s
  · exact setIndex h _ s
  · exact refl ref s

theorem unlessBatch {f : EntityCollection → EntityCollection} (hf : ∀ s, IndexKept ref s (f s)) (s : EntityCollection) :
    IndexKept ref s (s.unlessBatch f) := by
  unfold EntityCollection.unlessBatch
  split_ifs
  · exact refl ref s
  · exact hf s

theorem prepareUpdate (h : ref ≠ ref') (x : IdType) (s : EntityCollection) :
    IndexKept ref s (s.prepareUpdate ref' x) :=
  unlessBatch (indexPrepareUpdate h x) s

theorem finishUpdate (h : ref ≠ ref') (x : IdType) (s : EntityCollection) : IndexKept ref s (s.finishUpdate ref' x) :=
  unlessBatch (indexUpdate h x) s

theorem uniqueInsert (ref' : UniqueIndexRef) (x : IdType) (s : EntityCollection) :
    IndexKept ref s (s.uniqueInsert ref' x) := by
  unfold EntityCollection.uniqueInsert
  split_ifs <;> exact ⟨rfl, rfl, rfl⟩

theorem uniqueUpdate (ref' : UniqueIndexRef) (x : IdType) (s : EntityCollection) :
    IndexKept ref s (s.uniqueUpdate ref' x) := by
  unfold EntityCollection.uniqueUpdate
  dsimp only
  split_ifs <;> exact ⟨rfl, rfl, rfl⟩

/-! ### Notifications and collections -/

theorem threadsPrepareCountChange (h : ref ≠ .users .threadCount) (c : ThreadCollectionRef) (s : EntityCollection) :
    IndexKept ref s (s.threadsPrepareCountChange c) := by
  unfold EntityCollection.threadsPrepareCountChange
  split
  · split_ifs
    · exact refl ref s
    · exact prepareUpdate h _ s
  · exact refl ref s

theorem threadsFinishCountChange (h : ref ≠ .users .threadCount) (c : ThreadCollectionRef) (s : EntityCollection) :
    IndexKept ref s (s.threadsFinishCountChange c) := by
  unfold EntityCollection.threadsFinishCountChange
  split
  · split_ifs
    · exact refl ref s
    · exact finishUpdate h _ s
  · exact refl ref s

variable {c : ThreadCollectionRef}

theorem threadsAdd (h : ref ≠ .users .threadCount) (hc : ∀ key, ref ≠ .threads c key) (x : IdType)
    (s : EntityCollection) : IndexKept ref s (s.threadsAdd c x) := by
  unfold EntityCollection.threadsAdd
  split_ifs
  · exact refl ref s
  · refine (threadsFinishCountChange h c _).trans' ((unlessBatch (fun s => ?_) _).trans' ?_)
    · exact .foldl (fun s key _ => indexInsert (hc key) x s) (refl ref s)
    · exact (threadsPrepareCountChange h c s).congr rfl

theorem threadsAddRange (h : ref ≠ .users .threadCount) (hc : ∀ key, ref ≠ .threads c key) (xs : List IdType)
    (s : EntityCollection) : IndexKept ref s (s.threadsAddRange c xs) := by
  unfold EntityCollection.threadsAddRange
  split_ifs
  · exact refl ref s
  · refine (threadsFinishCountChange h c _).trans' ((unlessBatch (fun s => ?_) _).trans' ?_)
    · exact .foldl (fun s key _ => indexInsertRange (hc key) xs s) (refl ref s)
    · exact (threadsPrepareCountChange h c s).congr rfl

theorem threadsRemove (h : ref ≠ .users .threadCount) (hc : ∀ key, ref ≠ .threads c key) (x : IdType)
    (s : EntityCollection) : IndexKept ref s (s.threadsRemove c x) := by
  unfold EntityCollection.threadsRemove
  dsimp only
  split_ifs
  · refine (threadsFinishCountChange h c _).trans' ((unlessBatch (fun s => ?_) _).trans' ?_)
    · exact .foldl (fun s key _ => indexErase (hc key) x s) (refl ref s)
    · exact (threadsPrepareCountChange h c s).congr rfl
  · exact (threadsFinishCountChange h c _).trans' (threadsPrepareCountChange h c s)

theorem messagesInsert {c : MessageCollectionRef} (h : ref ≠ .messages c) (x : IdType) (s : EntityCollection) :
    IndexKept ref s (s.messagesInsert c x) := by
  unfold EntityCollection.messagesInsert
  split_ifs
  · exact refl ref s
  · exact (unlessBatch (indexInsert h x) _).trans' (of_toIndexes rfl)

theorem commentsAdd {c : CommentCollectionRef} (h : ref ≠ .comments c) (x : IdType) (s : EntityCollection) :
    IndexKept ref s (s.commentsAdd c x) := by
  unfold EntityCollection.commentsAdd
  split_ifs
  · exact refl ref s
  · exact (indexInsert h x _).trans' (of_toIndexes rfl)

theorem commentsRemove {c : CommentCollectionRef} (h : ref ≠ .comments c) (x : IdType) (s : EntityCollection) :
    IndexKept ref s (s.commentsRemove c x) := by
  unfold EntityCollection.commentsRemove
  split_ifs
  · exact (indexErase h x _).trans' (of_toIndexes rfl)
  · exact refl ref s

theorem privateMessagesAdd {c : PrivateMessageCollectionRef} (h : ref ≠ .privateMessages c) (x : IdType)
    (s : EntityCollection) : IndexKept ref s (s.privateMessagesAdd c x) := by
  unfold EntityCollection.privateMessagesAdd
  dsimp only
  split_ifs
  · exact refl ref s
  · exact of_toIndexes rfl
  · exact (indexInsert h x _).trans' (of_toIndexes rfl)

theorem privateMessagesRemove {c : PrivateMessageCollectionRef} (h : ref ≠ .privateMessages c) (x : IdType)
    (s : EntityCollection) : IndexKept ref s (s.privateMessagesRemove c x) := by
  unfold EntityCollection.privateMessagesRemove
  dsimp only
  split_ifs
  · exact of_toIndexes rfl
  · exact (indexErase h x _).trans' (of_toIndexes rfl)
  · exact refl ref s

theorem attachmentsAdd {c : AttachmentCollectionRef} (h : ∀ key, ref ≠ .attachments c key) (x : IdType)
    (s : EntityCollection) : IndexKept ref s (s.attachmentsAdd c x) := by
  have hloop : ∀ s' : EntityCollection, IndexKept ref s s' → IndexKept ref s (s'.unlessBatch fun s =>
      AttachmentCollectionRef.keys.foldl (fun s key => s.indexInsert (.attachments c key) x) s) :=
    fun s' h' => (unlessBatch (fun s => .foldl (fun s key _ => indexInsert (h key) x s) (refl ref s)) s').trans' h'
  unfold EntityCollection.attachmentsAdd
  split_ifs
  · exact refl ref s
  · exact (hloop (s.setStore (s.setAttachments (insert x (s.attachments c)) c)) ⟨rfl, rfl, rfl⟩).congr rfl

theorem attachmentsRemove {c : AttachmentCollectionRef} (h : ∀ key, ref ≠ .attachments c key) (x : IdType)
    (s : EntityCollection) : IndexKept ref s (s.attachmentsRemove c x) := by
  have hloop : ∀ s' : EntityCollection, IndexKept ref s s' → IndexKept ref s (s'.unlessBatch fun s =>
      AttachmentCollectionRef.keys.foldl (fun s key => s.indexErase (.attachments c key) x) s) :=
    fun s' h' => (unlessBatch (fun s => .foldl (fun s key _ => indexErase (h key) x s) (refl ref s)) s').trans' h'
  unfold EntityCollection.attachmentsRemove
  split_ifs
  · exact (hloop (s.setStore (s.setAttachments ((s.attachments c).erase x) c)) ⟨rfl, rfl, rfl⟩).congr rfl
  · exact refl ref s

theorem usersAdd (h : ∀ key, ref ≠ .users key) (x : IdType) (s : EntityCollection) :
    IndexKept ref s (s.usersAdd x) := by
  unfold EntityCollection.usersAdd
  split_ifs
  · exact refl ref s
  · refine (unlessBatch (fun s => ?_) _).trans' ((indexInsert (h _) x _).trans' ?_)
    · exact .foldl (fun s key _ => indexInsert (h key) x s) (refl ref s)
    · exact (uniqueInsert _ x _).trans' ((uniqueInsert _ x _).trans' (of_toIndexes rfl))

theorem usersRemove (h : ∀ key, ref ≠ .users key) (x : IdType) (s : EntityCollection) :
    IndexKept ref s (s.usersRemove x) := by
  unfold EntityCollection.usersRemove
  split_ifs
  · refine (unlessBatch (fun s => ?_) _).trans' ((indexErase (h _) x _).trans' ⟨rfl, rfl, rfl⟩)
    exact .foldl (fun s key _ => indexErase (h key) x s) (refl ref s)
  · exact refl ref s

theorem tagsAdd (h : ∀ key, ref ≠ .tags key) (x : IdType) (s : EntityCollection) :
    IndexKept ref s (s.tagsAdd x) := by
  unfold EntityCollection.tagsAdd
  split_ifs
  · exact refl ref s
  · refine (unlessBatch (fun s => ?_) _).trans' ((uniqueInsert _ x _).trans' (of_toIndexes rfl))
    exact .foldl (fun s key _ => indexInsert (h key) x s) (refl ref s)

theorem tagsRemove (h : ∀ key, ref ≠ .tags key) (x : IdType) (s : EntityCollection) :
    IndexKept ref s (s.tagsRemove x) := by
  unfold EntityCollection.tagsRemove
  split_ifs
  · refine (unlessBatch (fun s => ?_) _).trans' ⟨rfl, rfl, rfl⟩
    exact .foldl (fun s key _ => indexErase (h key) x s) (refl ref s)
  · exact refl ref s

theorem categoriesAdd (h : ∀ key, ref ≠ .categories key) (x : IdType) (s : EntityCollection) :
    IndexKept ref s (s.categoriesAdd x) := by
  unfold EntityCollection.categoriesAdd
  split_ifs
  · exact refl ref s
  · refine (unlessBatch (fun s => ?_) _).trans' ((uniqueInsert _ x _).trans' (of_toIndexes rfl))
    exact .foldl (fun s key _ => indexInsert (h key) x s) (refl ref s)

theorem categoriesRemove (h : ∀ key, ref ≠ .categories key) (x : IdType) (s : EntityCollection) :
    IndexKept ref s (s.categoriesRemove x) := by
  unfold EntityCollection.categoriesRemove
  split_ifs
  · refine (unlessBatch (fun s => ?_) _).trans' ⟨rfl, rfl, rfl⟩
    exact .foldl (fun s key _ => indexErase (h key) x s) (refl ref s)
  · exact refl ref s

end IndexKept

/-! ### Sound indexes -/

/-- The index lists the elements of its collection, each once, in the order of their current keys,
unless a batch insert leaves it alone; no erase from it has failed to find its element. -/
structure IndexSound (s : EntityCollection) (ref : IndexRef) : Prop where
  exact' : s.batchInsertInProgress = false → Library.Indexes (s.indexKey ref) (s.index ref) (s.byId ref)
  noFailure : s.assertFailed ref = false

/-- The index is ready for the key of `x` to change: `updateIt` is where `x` is, or the end of the
index when `x` is not in the collection. -/
structure IndexPrepared (s : EntityCollection) (ref : IndexRef) (x : IdType) : Prop where
  present : s.batchInsertInProgress = false → x ∈ s.byId ref →
    Prepared (s.indexKey ref) (s.index ref) (s.updateIt ref) x (s.byId ref)
  absent : s.batchInsertInProgress = false → x ∉ s.byId ref →
    Library.Indexes (s.indexKey ref) (s.index ref) (s.byId ref) ∧ s.updateIt ref = (s.index ref).length
  noFailure : s.assertFailed ref = false

variable {s s' : EntityCollection} {ref : IndexRef} {x : IdType}

theorem index_setIndex (s : EntityCollection) (ref : IndexRef) (l : List IdType) : (s.setIndex ref l).index ref = l :=
  Function.update_self _ _ _

theorem index_indexInsert (s : EntityCollection) (ref : IndexRef) (x : IdType) :
    (s.indexInsert ref x).index ref = insertItem (s.indexKey ref) x (s.index ref) := index_setIndex _ _ _

/-- A sound index that is left alone stays sound when the keys of its elements do not change. -/
theorem IndexSound.kept (h : IndexSound s ref) (hk : IndexKept ref s s')
    (hbatch : s'.batchInsertInProgress = s.batchInsertInProgress) (hbyId : s'.byId ref = s.byId ref)
    (hkey : ∀ y ∈ s.byId ref, s'.indexKey ref y = s.indexKey ref y) : IndexSound s' ref where
  exact' hb := by
    rw [hk.index, hbyId]
    exact (h.exact' (hbatch ▸ hb)).congr hkey
  noFailure := hk.assertFailed.trans h.noFailure

theorem IndexSound.of_toStore (h : IndexSound s ref) (hk : IndexKept ref s s') (hs : s'.toStore = s.toStore) :
    IndexSound s' ref :=
  h.kept hk (by rw [hs]) (by rw [hs]) fun y _ => by rw [hs]

theorem indexSound_indexInsert {S : Finset IdType} (h : Library.Indexes (s.indexKey ref) (s.index ref) S) (hx : x ∉ S)
    (hbyId : s.byId ref = insert x S) (hf : s.assertFailed ref = false) : IndexSound (s.indexInsert ref x) ref where
  exact' _ := by
    rw [index_indexInsert, toStore_indexInsert, hbyId]
    exact h.insertItem hx
  noFailure := hf

theorem indexSound_indexInsertRange {S : Finset IdType} {xs : List IdType}
    (h : Library.Indexes (s.indexKey ref) (s.index ref) S) (hn : xs.Nodup) (hx : ∀ x ∈ xs, x ∉ S)
    (hbyId : s.byId ref = S ∪ xs.toFinset) (hf : s.assertFailed ref = false) :
    IndexSound (s.indexInsertRange ref xs) ref where
  exact' _ := by
    have hindex : (s.indexInsertRange ref xs).index ref = insertRange (s.indexKey ref) xs (s.index ref) :=
      index_setIndex _ _ _
    rw [hindex, toStore_indexInsertRange, hbyId]
    exact h.insertRange hn hx
  noFailure := hf

/-- An erase from a sound index finds its element. -/
theorem indexSound_indexErase {S : Finset IdType} (h : Library.Indexes (s.indexKey ref) (s.index ref) S) (hx : x ∈ S)
    (hbyId : s.byId ref = S.erase x) (hf : s.assertFailed ref = false) : IndexSound (s.indexErase ref x) ref := by
  have hprep := h.prepared hx
  have hlt := (List.getElem?_eq_some_iff.1 hprep.at_it).1
  have herase : s.indexErase ref x = s.setIndex ref
      ((s.index ref).eraseIdx (findInNonUnique (s.indexKey ref) x (s.indexKey ref x) (s.index ref))) :=
    if_pos hlt
  rw [herase]
  refine ⟨fun _ => ?_, hf⟩
  rw [index_setIndex, toStore_setIndex, hbyId]
  exact hprep.eraseIdx

theorem indexSound_indexRebuild (hf : s.assertFailed ref = false) : IndexSound (s.indexRebuild ref) ref where
  exact' _ := by
    have hindex : (s.indexRebuild ref).index ref = insertRange (s.indexKey ref) (ascending (s.byId ref)) [] :=
      index_setIndex _ _ _
    have h := indexes_insertRange_nil (s.indexKey ref) (nodup_ascending (s.byId ref))
    rw [toFinset_ascending] at h
    rw [hindex, toStore_indexRebuild]
    exact h
  noFailure := hf

/-- Visiting the indexes of a collection, each of which the visit makes sound. -/
theorem indexSound_foldl {κ : Type*} (refOf : κ → IndexRef) (hinj : Function.Injective refOf) {keys : List κ}
    (hn : keys.Nodup) {op : EntityCollection → IndexRef → EntityCollection}
    (hstore : ∀ s ref, (op s ref).toStore = s.toStore) (hother : ∀ s ref ref', ref' ≠ ref → IndexKept ref' s (op s ref))
    {key : κ} (hkey : key ∈ keys)
    (hat : ∀ s', s'.toStore = s.toStore → IndexKept (refOf key) s s' → IndexSound (op s' (refOf key)) (refOf key)) :
    IndexSound (keys.foldl (fun s key => op s (refOf key)) s) (refOf key) := by
  refine foldl_at (P := fun s' => s'.toStore = s.toStore ∧ IndexKept (refOf key) s s')
    (Q := fun s' => IndexSound s' (refOf key)) hn hkey ⟨rfl, .refl _ s⟩ ?_ ?_ ?_
  · rintro s' key' _ hne ⟨hs, hi⟩
    exact ⟨(hstore _ _).trans hs, (hother s' _ _ fun heq => hne (hinj heq.symm)).trans' hi⟩
  · rintro s' ⟨hs, hi⟩
    exact hat s' hs hi
  · intro s' key' _ hne hs'
    exact hs'.of_toStore (hother s' _ _ fun heq => hne (hinj heq.symm)) (hstore _ _)

theorem IndexPrepared.kept (h : IndexPrepared s ref x) (hk : IndexKept ref s s')
    (hbatch : s'.batchInsertInProgress = s.batchInsertInProgress) (hbyId : s'.byId ref = s.byId ref)
    (hkey : ∀ y ∈ s.byId ref, y ≠ x → s'.indexKey ref y = s.indexKey ref y) : IndexPrepared s' ref x where
  present hb hx := by
    rw [hk.index, hk.updateIt, hbyId]
    exact (h.present (hbatch ▸ hb) (hbyId ▸ hx)).congr hkey
  absent hb hx := by
    rw [hbyId] at hx ⊢
    obtain ⟨hi, hit⟩ := h.absent (hbatch ▸ hb) hx
    rw [hk.index, hk.updateIt]
    exact ⟨hi.congr fun y hy => hkey y hy fun hyx => hx (hyx ▸ hy), hit⟩
  noFailure := hk.assertFailed.trans h.noFailure

/-- Finding an element of a sound index prepares for a change of its key. -/
theorem IndexSound.prepareUpdate (h : IndexSound s ref) (x : IdType) : IndexPrepared (s.prepareUpdate ref x) ref x := by
  have hnoFailure : (s.prepareUpdate ref x).assertFailed ref = false := by
    unfold EntityCollection.prepareUpdate EntityCollection.unlessBatch
    split_ifs <;> exact h.noFailure
  have hit : s.batchInsertInProgress = false →
      (s.prepareUpdate ref x).index ref = s.index ref ∧
        (s.prepareUpdate ref x).updateIt ref =
          findInNonUnique (s.indexKey ref) x (s.indexKey ref x) (s.index ref) := by
    intro hb
    simp [EntityCollection.prepareUpdate, EntityCollection.unlessBatch, EntityCollection.indexPrepareUpdate, hb]
  refine ⟨fun hb hx => ?_, fun hb hx => ?_, hnoFailure⟩
  all_goals
    rw [toStore_prepareUpdate] at hb hx ⊢
    obtain ⟨h₁, h₂⟩ := hit hb
    rw [h₁, h₂]
  · exact (h.exact' hb).prepared hx
  · exact ⟨h.exact' hb, (h.exact' hb).find_of_not_mem hx⟩

theorem assertFailed_indexUpdate (s : EntityCollection) (ref : IndexRef) (x : IdType) :
    (s.indexUpdate ref x).assertFailed = s.assertFailed := by
  unfold EntityCollection.indexUpdate
  split_ifs <;> rfl

/-- After the key of the element has changed, replacing it makes the index sound again. -/
theorem IndexPrepared.finishUpdate (h : IndexPrepared s ref x) : IndexSound (s.finishUpdate ref x) ref := by
  have hnoFailure : (s.finishUpdate ref x).assertFailed ref = false := by
    unfold EntityCollection.finishUpdate EntityCollection.unlessBatch
    split_ifs
    · exact h.noFailure
    · exact (congrFun (assertFailed_indexUpdate s ref x) ref).trans h.noFailure
  refine ⟨fun hb => ?_, hnoFailure⟩
  rw [toStore_finishUpdate] at hb ⊢
  have hfinish : s.finishUpdate ref x = s.indexUpdate ref x := by
    simp [EntityCollection.finishUpdate, EntityCollection.unlessBatch, hb]
  rw [hfinish]
  unfold EntityCollection.indexUpdate
  by_cases hx : x ∈ s.byId ref
  · have hprep := h.present hb hx
    rw [if_pos (List.getElem?_eq_some_iff.1 hprep.at_it).1]
    rw [index_setIndex]
    split_ifs
    · exact hprep.replaceRanked
    · exact hprep.replaceSortedVector
  · obtain ⟨hi, hit⟩ := h.absent hb hx
    rw [if_neg (by rw [hit]; exact lt_irrefl _)]
    exact hi

end EntityCollection

end Forum.Entities
