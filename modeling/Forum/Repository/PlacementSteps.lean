import Forum.Entities.PlacementDeletion
import Forum.Repository.Authors
import Forum.Repository.CategoryHierarchy

/-!
# Steps of the placement

Where threads, tags and categories are is changed by few operations, and by each of them all at once:
`PlacementStep` lists these changes. An operation on a store in which the placement is exact is such a step,
but for a merge of two tags, which tells the categories of the remaining tag one after the other and leaves
some of them out.
-/

namespace Forum.Repository

open Forum.Entities Forum.Library

/-- What an operation does to the threads of the store and to their placement. -/
inductive PlacementStep (threads : Finset IdType) (p : Placement) : Operation → Finset IdType → Placement → Prop
  | keep (op) : PlacementStep threads p op threads p
  /-- An entity that is not a thread, a tag or a category is created under a new id. -/
  | construct {op id} (hid : op.newId = some id) : PlacementStep threads p op threads (p.construct id)
  | addNewDiscussionThread {id name approved} :
    PlacementStep threads p (.addNewDiscussionThread id name approved) (insert id threads) (p.construct id)
  | addNewDiscussionTag {id name} :
    PlacementStep threads p (.addNewDiscussionTag id name) threads { p.construct id with tags := insert id p.tags }
  | addNewDiscussionCategory {id name parentId} :
    PlacementStep threads p (.addNewDiscussionCategory id name parentId) threads
      { p.construct id with categories := insert id p.categories }
  | addDiscussionTagToThread {tag thread} (known : tag ∈ p.tags) (threadKnown : thread ∈ threads) :
    PlacementStep threads p (.addDiscussionTagToThread tag thread) threads (p.tagThread tag thread)
  | removeDiscussionTagFromThread {tag thread} (known : tag ∈ p.tags) (threadKnown : thread ∈ threads) :
    PlacementStep threads p (.removeDiscussionTagFromThread tag thread) threads (p.untagThread tag thread)
  | addDiscussionTagToCategory {tag category} (known : tag ∈ p.tags) (categoryKnown : category ∈ p.categories) :
    PlacementStep threads p (.addDiscussionTagToCategory tag category) threads (p.takeTag tag category)
  | removeDiscussionTagFromCategory {tag category} (known : tag ∈ p.tags) :
    PlacementStep threads p (.removeDiscussionTagFromCategory tag category) threads (p.releaseTag tag category)
  | deleteDiscussionTag {id} (known : id ∈ p.tags) :
    PlacementStep threads p (.deleteDiscussionTag id) threads (p.deleteTag id)
  | deleteDiscussionCategory {id} (known : id ∈ p.categories) :
    PlacementStep threads p (.deleteDiscussionCategory id) threads (p.deleteCategory id)
  | deleteDiscussionThread {id} (known : id ∈ threads) :
    PlacementStep threads p (.deleteDiscussionThread id) (threads.erase id) (p.deleteThread id)
  | mergeDiscussionThreads {fromId intoId} (known : fromId ∈ threads) :
    PlacementStep threads p (.mergeDiscussionThreads fromId intoId) (threads.erase fromId) (p.deleteThread fromId)
  /-- A user takes the threads it created along. -/
  | deleteUser {id} {created : Finset IdType} (known : created ⊆ threads) :
    PlacementStep threads p (.deleteUser id) (threads \ created) ((ascending created).foldl Placement.deleteThread p)

/-! ### Steps keep the placement exact -/

section

variable {threads threads' : Finset IdType} {p p' : Placement} {op : Operation}

/-- Threads are deleted one after the other. -/
theorem placed_foldl_deleteThread (h : Placed threads p) (hknown : TagsKnown threads p) {l : List IdType} (hn : l.Nodup)
    (hl : ∀ t ∈ l, t ∈ threads) :
    Placed (threads \ l.toFinset) (l.foldl Placement.deleteThread p) ∧
      TagsKnown (threads \ l.toFinset) (l.foldl Placement.deleteThread p) := by
  induction l generalizing threads p with
  | nil => simpa using ⟨h, hknown⟩
  | cons t l ih =>
    obtain ⟨htl, hn⟩ := List.nodup_cons.1 hn
    have hset : threads \ (t :: l).toFinset = threads.erase t \ l.toFinset := by
      rw [List.toFinset_cons, Finset.sdiff_insert, Finset.erase_sdiff_comm]
    rw [hset]
    refine ih (h.deleteThread (hl t List.mem_cons_self)) (hknown.deleteThread t) hn fun x hx => ?_
    exact Finset.mem_erase.2 ⟨fun he => htl (he ▸ hx), hl x (List.mem_cons_of_mem _ hx)⟩

/-- Threads that are deleted leave the tags and categories of the store as they are. -/
theorem foldl_deleteThread_eq (p : Placement) (l : List IdType) :
    (l.foldl Placement.deleteThread p).tags = p.tags ∧ (l.foldl Placement.deleteThread p).categories = p.categories :=
  foldl_keeps (P := fun p' : Placement => p'.tags = p.tags ∧ p'.categories = p.categories) ⟨rfl, rfl⟩ fun _ _ _ h => h

/-- Tags and categories of the store were there before, or are new. -/
theorem PlacementStep.mem_tags (hstep : PlacementStep threads p op threads' p') :
    (∀ tag ∈ p'.tags, tag ∈ p.tags ∨ op.newId = some tag) ∧
      ∀ category ∈ p'.categories, category ∈ p.categories ∨ op.newId = some category := by
  cases hstep with
  | addNewDiscussionTag =>
    refine ⟨fun g hg => ?_, fun _ => .inl⟩
    rcases Finset.mem_insert.1 hg with rfl | hg
    · exact .inr rfl
    · exact .inl hg
  | addNewDiscussionCategory =>
    refine ⟨fun _ => .inl, fun c hc => ?_⟩
    rcases Finset.mem_insert.1 hc with rfl | hc
    · exact .inr rfl
    · exact .inl hc
  | @deleteDiscussionTag id =>
    obtain ⟨htags, hcategories, -⟩ :=
      Placed.foldl_dropTag_eq { p with tags := p.tags.erase id } id (ascending (p.tagCategories id))
    have htags' : (p.deleteTag id).tags = p.tags.erase id := htags
    have hcategories' : (p.deleteTag id).categories = p.categories := hcategories
    exact ⟨fun g hg => .inl (Finset.mem_of_mem_erase (htags' ▸ hg)), fun c hc => .inl (hcategories' ▸ hc)⟩
  | deleteDiscussionCategory => exact ⟨fun _ => .inl, fun c hc => .inl (Finset.mem_of_mem_erase hc)⟩
  | deleteUser =>
    obtain ⟨htags, hcategories⟩ := foldl_deleteThread_eq p (ascending _)
    exact ⟨fun g hg => .inl (htags ▸ hg), fun c hc => .inl (hcategories ▸ hc)⟩
  | _ => exact ⟨fun _ => .inl, fun _ => .inl⟩

theorem PlacementStep.placed (hstep : PlacementStep threads p op threads' p') (h : Placed threads p)
    (hknown : TagsKnown threads p)
    (hnew : ∀ id, op.newId = some id → id ∉ threads ∧ id ∉ p.tags ∧ id ∉ p.categories) :
    Placed threads' p' ∧ TagsKnown threads' p' := by
  have construct : ∀ {id}, op.newId = some id → Placed threads (p.construct id) := fun hid =>
    h.construct (hnew _ hid).1 (hnew _ hid).2.1 (hnew _ hid).2.2
  cases hstep with
  | keep => exact ⟨h, hknown⟩
  | construct hid => exact ⟨construct hid, hknown.construct _⟩
  | addNewDiscussionThread =>
    have htags : ∀ id, (p.construct id).threadTags id = ∅ := fun id => Function.update_self _ _ _
    have hcategories : ∀ id, (p.construct id).threadCategories id = ∅ := fun id => Function.update_self _ _ _
    exact ⟨(construct rfl).addThread (hnew _ rfl).1 (htags _) (hcategories _), (hknown.construct _).addThread (htags _)⟩
  | @addNewDiscussionTag id =>
    have hk := hknown.construct id
    have htag : id ∉ (p.construct id).tags := (hnew _ rfl).2.1
    refine ⟨(construct rfl).addTag (Function.update_self _ _ _) (Function.update_self _ _ _) ?_ ?_, hk.addTag id⟩
    · exact fun t ht hmem => htag (hk.threadTags t ht hmem)
    · exact fun c hc hmem => htag (hk.categoryTags c hc hmem)
  | addNewDiscussionCategory =>
    have htags : ∀ id, (p.construct id).categoryTags id = ∅ := fun id => Function.update_self _ _ _
    exact ⟨(construct rfl).addCategory (Function.update_self _ _ _) (htags _) (hnew _ rfl).2.2,
      (hknown.construct _).addCategory (htags _)⟩
  | addDiscussionTagToThread known threadKnown => exact ⟨h.tagThread known threadKnown, hknown.tagThread known _⟩
  | removeDiscussionTagFromThread known threadKnown =>
    exact ⟨h.untagThread known threadKnown, hknown.untagThread _ _⟩
  | addDiscussionTagToCategory known categoryKnown => exact ⟨h.takeTag known categoryKnown, hknown.takeTag known _⟩
  | removeDiscussionTagFromCategory known => exact ⟨h.releaseTag known _, hknown.releaseTag _ _⟩
  | deleteDiscussionTag known => exact ⟨h.deleteTag known, hknown.deleteTag h known⟩
  | deleteDiscussionCategory known => exact ⟨h.deleteCategory known, hknown.deleteCategory _⟩
  | deleteDiscussionThread known => exact ⟨h.deleteThread known, hknown.deleteThread _⟩
  | mergeDiscussionThreads known => exact ⟨h.deleteThread known, hknown.deleteThread _⟩
  | @deleteUser _ created known =>
    have := placed_foldl_deleteThread h hknown (nodup_ascending created) fun t ht => known (mem_ascending.1 ht)
    rwa [toFinset_ascending] at this

end

/-! ### Operations that keep the placement -/

variable (ctx : Context) (s : EntityCollection)

@[simp] theorem toPlacement_updateThreadLastUpdated (thread user : IdType) :
    (updateThreadLastUpdated ctx thread user s).toPlacement = s.toPlacement := by
  simp [updateThreadLastUpdated, DiscussionThread.toStore_updateLastUpdated,
    DiscussionThread.setLatestVisibleChange, DiscussionThread.updateLastUpdatedDetails,
    DiscussionThread.updateLastUpdatedBy, EntityCollection.modifyThread]

@[simp] theorem toPlacement_updateMessageCounts (thread : IdType) (difference : ℤ) :
    (updateMessageCounts s thread difference).toPlacement = s.toPlacement := by
  have htags : ∀ (tags : List IdType) (s : EntityCollection),
      (tags.foldl (fun s tag => DiscussionTag.updateMessageCount tag s difference) s).toPlacement = s.toPlacement :=
    fun tags s => toPlacement_foldl s fun s tag _ => by simp
  have hcategories : ∀ (categories : List IdType) (s : EntityCollection),
      (categories.foldl (fun s category => DiscussionCategory.updateMessageCount category s thread difference)
        s).toPlacement = s.toPlacement := fun categories s => toPlacement_foldl s fun s category _ => by simp
  simp only [updateMessageCounts, hcategories, htags]

@[simp] theorem toPlacement_updateThreadOnMoveMessage (thread : IdType) (delta : ℤ) :
    (updateThreadOnMoveMessage ctx s thread delta).toPlacement = s.toPlacement :=
  toPlacement_updateMessageCounts _ thread delta

/-- The operations that leave the placement alone. -/
def Operation.keepsPlacement : Operation → Bool
  | .changeUserName .. | .changeUserInfo .. | .changeUserTitle .. | .changeUserSignature ..
  | .changeUserAttachmentQuota .. | .changeUserLogo .. | .deleteUserLogo .. | .updateUserLastSeen ..
  | .deletePrivateMessage .. | .changeAttachmentName .. | .changeAttachmentApproval .. | .deleteAttachment ..
  | .addAttachmentToDiscussionThreadMessage .. | .removeAttachmentFromDiscussionThreadMessage ..
  | .changeDiscussionThreadName .. | .changeDiscussionThreadPinDisplayOrder .. | .changeDiscussionThreadApproval ..
  | .subscribeToDiscussionThread .. | .unsubscribeFromDiscussionThread .. | .deleteDiscussionMessage ..
  | .changeDiscussionThreadMessageContent .. | .changeDiscussionThreadMessageApproval ..
  | .moveDiscussionThreadMessage .. | .upVoteDiscussionThreadMessage .. | .downVoteDiscussionThreadMessage ..
  | .resetVoteDiscussionThreadMessage .. | .setMessageCommentToSolved .. | .quoteUserInMessage ..
  | .changeDiscussionTagName .. | .changeDiscussionTagUiBlob .. | .changeDiscussionCategoryName ..
  | .changeDiscussionCategoryDescription .. | .changeDiscussionCategoryDisplayOrder ..
  | .startBatchInsert | .stopBatchInsert => true
  | _ => false

theorem toPlacement_voteDiscussionThreadMessage (id : IdType) (up : Bool) :
    (voteDiscussionThreadMessage ctx s id up).2.toPlacement = s.toPlacement := by
  unfold voteDiscussionThreadMessage
  dsimp only
  split_ifs <;> rfl

theorem toPlacement_resetVoteDiscussionThreadMessage (id : IdType) :
    (resetVoteDiscussionThreadMessage ctx s id).2.toPlacement = s.toPlacement := by
  unfold resetVoteDiscussionThreadMessage DiscussionThreadMessage.removeVote
  dsimp only
  split_ifs <;> rfl

theorem toPlacement_perform {op : Operation} (hop : op.keepsPlacement) :
    (op.perform ctx s).2.toPlacement = s.toPlacement := by
  cases op <;> simp only [Operation.keepsPlacement, Bool.false_eq_true] at hop <;>
    simp only [Operation.perform]
  case stopBatchInsert => simp
  case startBatchInsert => rfl
  case deletePrivateMessage =>
    unfold deletePrivateMessage
    split_ifs
    · rw [EntityCollection.toStore_deletePrivateMessage]
    · rfl
  case upVoteDiscussionThreadMessage => exact toPlacement_voteDiscussionThreadMessage ctx s _ _
  case downVoteDiscussionThreadMessage => exact toPlacement_voteDiscussionThreadMessage ctx s _ _
  case resetVoteDiscussionThreadMessage => exact toPlacement_resetVoteDiscussionThreadMessage ctx s _
  all_goals
    simp only [changeUserName, changeUserInfo, changeUserTitle, changeUserSignature, changeUserAttachmentQuota,
      changeUserLogo, deleteUserLogo, changeUserField, updateUserLastSeen, User.updateLastSeen,
      changeAttachmentName, changeAttachmentApproval, deleteAttachment, addAttachmentToDiscussionThreadMessage,
      removeAttachmentFromDiscussionThreadMessage, changeDiscussionThreadName, changeDiscussionThreadPinDisplayOrder,
      changeDiscussionThreadApproval, subscribeToDiscussionThread, unsubscribeFromDiscussionThread,
      deleteDiscussionMessage, changeDiscussionThreadMessageContent, changeDiscussionThreadMessageApproval,
      moveDiscussionThreadMessage, setMessageCommentToSolved, quoteUserInMessage, changeDiscussionTagName,
      changeDiscussionTagUiBlob, changeDiscussionCategoryName, changeDiscussionCategoryDescription,
      changeDiscussionCategoryDisplayOrder]
    repeat' split
    all_goals
      simp [User.updateName, EntityCollection.modifyUser, EntityCollection.modifyThread,
        EntityCollection.modifyMessage, EntityCollection.modifyTag, EntityCollection.modifyCategory,
        DiscussionThread.toStore_updateName, DiscussionThread.toStore_updatePinDisplayOrder,
        DiscussionThread.setApproved, DiscussionThread.resetVisitorsSinceLastEdit,
        DiscussionThread.setLatestVisibleChange, DiscussionThreadMessage.changeSolvedCommentsCount,
        updateTagLastUpdated, updateCategoryLastUpdated, DiscussionThreadMessage.setParentThread,
        DiscussionThreadMessage.addAttachment, DiscussionThreadMessage.removeAttachment,
        EntityCollection.eraseAttachmentMessage, DiscussionThread.insertSubscribedUser,
        DiscussionThread.eraseSubscribedUser] <;> rfl

/-! ### The simulation -/

/-- What a store must keep for its operations to be steps of the placement. -/
structure PlacementReady (s : EntityCollection) : Prop where
  placed : Placed s.allThreads s.toPlacement
  known : TagsKnown s.allThreads s.toPlacement
  /-- A tag lists its threads. -/
  tagListing : ∀ tag ∈ s.tags, (s.iterateThreads (.tag tag)).toFinset = s.tagThreads tag
  /-- A category lists its threads. -/
  categoryListing : ∀ category ∈ s.categories, (s.iterateThreads (.category category)).toFinset = s.categoryThreads category

variable {s}

/-- An operation changes which threads there are only by adding or deleting some. -/
theorem OwnershipStep.allThreads_eq {user : IdType} {op : Operation} {o o' : Ownership}
    (hstep : OwnershipStep user op o o') (hadd : ∀ id name approved, op ≠ .addNewDiscussionThread id name approved)
    (hdelete : ∀ id, op ≠ .deleteDiscussionThread id) (hmerge : ∀ fromId intoId, op ≠ .mergeDiscussionThreads fromId intoId)
    (huser : ∀ id, op ≠ .deleteUser id) : o'.allThreads = o.allThreads := by
  cases hstep with
  | addNewDiscussionThread => exact absurd rfl (hadd _ _ _)
  | deleteDiscussionThread => exact absurd rfl (hdelete _)
  | mergeDiscussionThreads => exact absurd rfl (hmerge _ _)
  | deleteUser => exact absurd rfl (huser _)
  | resetVoteDiscussionThreadMessage =>
    unfold Ownership.resetVote
    split_ifs <;> rfl
  | _ => rfl

theorem toPlacement_addNewDiscussionThread (id : IdType) (name : NameType) (approved : Bool) :
    (addNewDiscussionThread ctx s id name approved).2.toPlacement = s.toPlacement.construct id := by
  simp [addNewDiscussionThread, EntityCollection.createDiscussionThread, EntityCollection.construct,
    EntityCollection.modifyThread, DiscussionThread.setLatestVisibleChange,
    DiscussionThread.toStore_updateLastUpdated, Store.setThreads]

theorem toPlacement_addNewDiscussionMessageInThread {id thread : IdType} (ht : thread ∈ s.allThreads) (approved : Bool)
    (content : MessageContent) :
    (addNewDiscussionMessageInThread ctx s id thread approved content).2.toPlacement = s.toPlacement.construct id := by
  unfold addNewDiscussionMessageInThread
  rw [if_pos ht]
  dsimp only
  split
  · rfl
  all_goals
    split_ifs <;>
      simp [EntityCollection.createDiscussionThreadMessage, EntityCollection.construct,
        EntityCollection.modifyMessage, DiscussionThreadMessage.setParentThread,
        DiscussionThread.resetVisitorsSinceLastEdit, DiscussionThread.setLatestVisibleChange,
        EntityCollection.modifyThread, DiscussionThread.insertSubscribedUser, Store.setThreads, Store.setMessages]

theorem withoutHierarchy_addNewDiscussionCategory (id : IdType) (name : NameType) (parentId : IdType)
    (h : ¬s.uniqueContains .categoriesByName (.text name)) :
    (addNewDiscussionCategory ctx s id name parentId).2.withoutHierarchy =
      { s.toPlacement.construct id with categories := insert id s.categories }.withoutHierarchy := by
  unfold addNewDiscussionCategory
  rw [if_neg h]
  dsimp only
  split_ifs <;>
    simp [DiscussionCategory.addChild, EntityCollection.createDiscussionCategory, EntityCollection.construct,
      EntityCollection.modifyCategory, Placement.construct, Placement.withoutHierarchy]

theorem withoutHierarchy_updateCategoryParent (category : IdType) (newParent : Option IdType) (user : IdType) :
    (updateCategoryParent ctx s category newParent user).withoutHierarchy = s.withoutHierarchy := by
  unfold updateCategoryParent
  cases s.categoryParent category <;> cases newParent <;>
    simp [updateCategoryLastUpdated, EntityCollection.modifyCategory, DiscussionCategory.removeChild,
      DiscussionCategory.addChild, Placement.withoutHierarchy]

theorem collectionKept_updateCategoryParent (r : ThreadCollectionRef) (category : IdType) (newParent : Option IdType)
    (user : IdType) : CollectionKept r s (updateCategoryParent ctx s category newParent user) := by
  have hparent : CollectionKept r s (updateCategoryLastUpdated ctx category user
      (DiscussionCategory.updateParent category s newParent)) := by
    have hupdate : CollectionKept r s (DiscussionCategory.updateParent category s newParent) :=
      DiscussionCategory.collectionKept_updateParent newParent
    refine CollectionKept.trans' ?_ hupdate
    exact .of_store rfl (by cases r <;> rfl) rfl rfl
  have hremove : ∀ (parent : IdType) (s : EntityCollection), CollectionKept r s (DiscussionCategory.removeChild parent
      (DiscussionCategory.removeTotalsFromChild parent s category) category) := by
    intro parent s
    have htotals : CollectionKept r s (DiscussionCategory.removeTotalsFromChild parent s category) :=
      DiscussionCategory.collectionKept_removeTotalsFromChild category
    refine CollectionKept.trans' ?_ htotals
    exact .of_store rfl (by cases r <;> rfl) rfl rfl
  have hadd : ∀ (parent : IdType) (s : EntityCollection), CollectionKept r s (DiscussionCategory.addChild parent
      (DiscussionCategory.addTotalsFromChild parent s category) category) := by
    intro parent s
    have htotals : CollectionKept r s (DiscussionCategory.addTotalsFromChild parent s category) :=
      DiscussionCategory.collectionKept_addTotalsFromChild category
    refine CollectionKept.trans' ?_ htotals
    exact .of_store rfl (by cases r <;> rfl) rfl rfl
  unfold updateCategoryParent
  cases s.categoryParent category <;> cases newParent
  · exact hparent
  · exact (hadd _ _).trans' hparent
  · exact (hremove _ _).trans' hparent
  · exact (hadd _ _).trans' ((hremove _ _).trans' hparent)

/-- A thread is given a tag that it does not have. -/
theorem toPlacement_insertDiscussionThread (h : PlacementReady s) {tag thread : IdType} (htag : tag ∈ s.tags)
    (hnot : tag ∉ s.threadTags thread) :
    (DiscussionTag.insertDiscussionThread ctx tag (DiscussionThread.addTag thread s ctx tag) thread).toPlacement =
      s.toPlacement.tagThread tag thread := by
  have hmem : thread ∉ (DiscussionThread.addTag thread s ctx tag).tagThreads tag := fun hmem =>
    hnot ((h.placed.tagThreads tag htag thread).1 hmem).2
  exact DiscussionTag.toPlacement_insertDiscussionThread ctx _ tag thread hmem

theorem toPlacement_addDiscussionTagToThread (h : PlacementReady s) {tag thread : IdType} (htag : tag ∈ s.tags)
    (ht : thread ∈ s.allThreads) (hnot : tag ∉ s.threadTags thread) :
    (addDiscussionTagToThread ctx s tag thread).2.toPlacement = s.toPlacement.tagThread tag thread := by
  unfold addDiscussionTagToThread
  rw [if_pos ⟨htag, ht⟩]
  simp only [hnot, decide_false, Bool.false_eq_true, if_false, toPlacement_updateThreadLastUpdated]
  exact toPlacement_insertDiscussionThread ctx h htag hnot

/-- A tag is taken from a thread that has it. -/
theorem toPlacement_deleteDiscussionThread (h : PlacementReady s) (ha : Authored s.toOwnership) {tag thread : IdType}
    (htag : tag ∈ s.tags) (ht : thread ∈ s.allThreads) (hmem : tag ∈ s.threadTags thread) :
    (DiscussionTag.deleteDiscussionThread ctx tag (DiscussionThread.removeTag thread s ctx tag) thread true).toPlacement =
      s.toPlacement.untagThread tag thread := by
  have hmem' : thread ∈ s.tagThreads tag := (h.placed.tagThreads tag htag thread).2 ⟨ht, hmem⟩
  have hstays := ha.notAboutToBeDeleted thread ht
  rw [DiscussionTag.toPlacement_deleteDiscussionThread]
  simp [DiscussionThread.removeTag, DiscussionThread.setLatestVisibleChange, EntityCollection.modifyThread, hmem',
    hstays, Placement.untagThread]

theorem toPlacement_removeDiscussionTagFromThread (h : PlacementReady s) (ha : Authored s.toOwnership)
    {tag thread : IdType} (htag : tag ∈ s.tags) (ht : thread ∈ s.allThreads) (hmem : tag ∈ s.threadTags thread) :
    (removeDiscussionTagFromThread ctx s tag thread).2.toPlacement = s.toPlacement.untagThread tag thread := by
  unfold removeDiscussionTagFromThread
  rw [if_pos ⟨htag, ht⟩]
  simp only [hmem, decide_true, if_true, toPlacement_updateThreadLastUpdated]
  exact toPlacement_deleteDiscussionThread ctx h ha htag ht hmem

/-- In an exact placement a tag and a category know of each other. -/
theorem PlacementReady.mem_tagCategories (h : PlacementReady s) {tag category : IdType} (htag : tag ∈ s.tags)
    (hcategory : category ∈ s.categories) : category ∈ s.tagCategories tag ↔ tag ∈ s.categoryTags category := by
  rw [h.placed.tagCategories tag htag category]
  exact and_iff_right hcategory

theorem toPlacement_addDiscussionTagToCategory (h : PlacementReady s) {tag category : IdType} (htag : tag ∈ s.tags)
    (hcategory : category ∈ s.categories) (hnot : category ∉ s.tagCategories tag) :
    (addDiscussionTagToCategory ctx s tag category).2.toPlacement = s.toPlacement.takeTag tag category := by
  have hnot' : tag ∉ (DiscussionTag.addCategory tag s category).categoryTags category := fun hmem =>
    hnot ((h.mem_tagCategories htag hcategory).2 hmem)
  have hlist : (DiscussionTag.addCategory tag s category).iterateThreads (.tag tag) = s.iterateThreads (.tag tag) := rfl
  unfold addDiscussionTagToCategory
  rw [if_pos ⟨htag, hcategory⟩, if_neg hnot]
  dsimp only [updateCategoryLastUpdated, EntityCollection.modifyCategory]
  rw [DiscussionCategory.toPlacement_addTag, if_neg hnot', hlist, h.tagListing tag htag]
  rfl

theorem toPlacement_removeDiscussionTagFromCategory (h : PlacementReady s) (ha : Authored s.toOwnership)
    {tag category : IdType} (htag : tag ∈ s.tags) (hcategory : category ∈ s.categories)
    (hmem : category ∈ s.tagCategories tag) :
    (removeDiscussionTagFromCategory ctx s tag category).2.toPlacement = s.toPlacement.releaseTag tag category := by
  have hmem' : tag ∈ s.categoryTags category := (h.mem_tagCategories htag hcategory).1 hmem
  unfold removeDiscussionTagFromCategory
  rw [if_pos ⟨htag, hcategory⟩, if_pos hmem]
  dsimp only [updateCategoryLastUpdated, EntityCollection.modifyCategory]
  exact EntityCollection.toPlacement_removeTag ctx hmem' (h.tagListing tag htag) fun t ht =>
    ha.notAboutToBeDeleted t ((h.placed.tagThreads tag htag t).1 ht).1

theorem withoutHierarchy_changeDiscussionCategoryParent (id newParentId : IdType) :
    (changeDiscussionCategoryParent ctx s id newParentId).2.withoutHierarchy = s.withoutHierarchy := by
  unfold changeDiscussionCategoryParent
  dsimp only
  repeat' split
  all_goals
    first
      | rfl
      | exact withoutHierarchy_updateCategoryParent ctx _ _ _

/-- The children of a deleted category become roots first. -/
theorem withoutHierarchy_deleteDiscussionCategory (h : PlacementReady s) {id : IdType} (hid : id ∈ s.categories) :
    (deleteDiscussionCategory ctx s id).2.withoutHierarchy = (s.toPlacement.deleteCategory id).withoutHierarchy := by
  unfold deleteDiscussionCategory
  rw [if_pos hid]
  dsimp only
  have hloop : ((ascending (s.categoryChildren id)).foldl (fun s' child =>
      updateCategoryParent ctx s' child none (getCurrentUser ctx s)) s).withoutHierarchy = s.withoutHierarchy :=
    foldl_view (fun s : EntityCollection => s.withoutHierarchy) fun s' child _ =>
      withoutHierarchy_updateCategoryParent ctx child none _
  have hkept : CollectionKept (.category id) s ((ascending (s.categoryChildren id)).foldl (fun s' child =>
      updateCategoryParent ctx s' child none (getCurrentUser ctx s)) s) := by
    refine .foldl (fun s' child _ => ?_) (.refl _ s)
    exact collectionKept_updateCategoryParent ctx _ child none _
  generalize (ascending (s.categoryChildren id)).foldl (fun s' child =>
    updateCategoryParent ctx s' child none (getCurrentUser ctx s)) s = s' at hloop hkept
  have hcategories : s'.withoutHierarchy.categories = s.withoutHierarchy.categories := by rw [hloop]
  have hthreads : s'.categoryThreads id = s.categoryThreads id := hkept.threads
  refine (EntityCollection.withoutHierarchy_deleteDiscussionCategory ctx (hcategories.symm ▸ hid) ?_).trans ?_
  · rw [hkept.iterateThreads, hthreads]
    exact h.categoryListing id hid
  · exact congrArg (Placement.deleteCategory · id) hloop

theorem toPlacement_mergeDiscussionThreads (h : PlacementReady s) {fromId intoId : IdType} (hne : fromId ≠ intoId)
    (hfrom : fromId ∈ s.allThreads) (hinto : intoId ∈ s.allThreads) :
    (mergeDiscussionThreads ctx s fromId intoId).2.toPlacement = s.toPlacement.deleteThread fromId := by
  have hparent : ∀ (l : List IdType) (s : EntityCollection),
      (l.foldl (fun s message => DiscussionThreadMessage.setParentThread message s intoId) s).toPlacement = s.toPlacement ∧
        (l.foldl (fun s message => DiscussionThreadMessage.setParentThread message s intoId) s).allThreads =
          s.allThreads := fun l s =>
    ⟨toPlacement_foldl s fun _ _ _ => rfl, foldl_view (fun s : EntityCollection => s.allThreads) fun _ _ _ => rfl⟩
  have hsubscribe : ∀ (l : List IdType) (s : EntityCollection),
      (l.foldl (fun s user =>
        DiscussionThread.insertSubscribedUser intoId (s.threadsAdd (.subscribedBy user) intoId) user) s).toPlacement =
          s.toPlacement ∧
        (l.foldl (fun s user => DiscussionThread.insertSubscribedUser intoId (s.threadsAdd (.subscribedBy user) intoId)
          user) s).allThreads = s.allThreads := fun l s =>
    ⟨toPlacement_foldl s fun s user _ => by simp [DiscussionThread.insertSubscribedUser, Store.setThreads],
      foldl_view (fun s : EntityCollection => s.allThreads) fun s user _ => by
        simp [DiscussionThread.insertSubscribedUser, Store.setThreads]⟩
  unfold mergeDiscussionThreads
  rw [if_neg hne, if_pos ⟨hfrom, hinto⟩]
  extract_lets s₁ s₂ s₃ s₄ s₅ s₆
  have hplacement : s₆.toPlacement = s.toPlacement := by
    simp only [s₆, s₅, s₄, s₃, s₂, s₁, hsubscribe, toPlacement_updateMessageCounts, hparent,
      toPlacement_updateThreadLastUpdated, DiscussionThread.toStore_insertMessages]
  have hall : s₆.allThreads = s.allThreads := by
    simp only [s₆, s₅, s₄, s₃, s₂, s₁, hsubscribe, (ownershipKept_updateMessageCounts _ _ _).1, hparent,
      (ownershipKept_updateThreadLastUpdated _ _ _ _).1, DiscussionThread.toStore_insertMessages]
  clear_value s₆
  rw [EntityCollection.toPlacement_deleteDiscussionThread ctx (by rw [hall, hplacement]; exact h.placed)
    (by rw [hall, hplacement]; exact h.known) (hall ▸ hfrom) (fun hf => by cases hf) true, hplacement]

/-- An operation on a store with an exact placement is a step of it, but for the hierarchy of the categories. -/
theorem placementStep_perform (h : PlacementReady s) (ha : Authored s.toOwnership) (op : Operation)
    (hmerge : ∀ fromId intoId, op ≠ .mergeDiscussionTags fromId intoId) :
    ∃ p, PlacementStep s.allThreads s.toPlacement op (op.perform ctx s).2.allThreads p ∧
      (op.perform ctx s).2.withoutHierarchy = p.withoutHierarchy := by
  have hthreads := (ownershipStep_perform ctx s op).allThreads_eq
  by_cases hk : op.keepsPlacement
  · have hsame : (op.perform ctx s).2.allThreads = s.allThreads := hthreads
      (by rintro _ _ _ rfl; cases hk) (by rintro _ rfl; cases hk) (by rintro _ _ rfl; cases hk) (by rintro _ rfl; cases hk)
    refine ⟨_, ?_, congrArg _ (toPlacement_perform ctx s hk)⟩
    rw [hsame]
    exact .keep op
  cases op <;> simp only [Operation.keepsPlacement, not_true_eq_false, Bool.false_eq_true, not_false_eq_true] at hk
  case mergeDiscussionTags => exact absurd rfl (hmerge _ _)
  case addNewDiscussionThread id name approved =>
    refine ⟨_, ?_, congrArg _ (toPlacement_addNewDiscussionThread ctx id name approved)⟩
    have hall : (Operation.perform ctx s (.addNewDiscussionThread id name approved)).2.allThreads =
        insert id s.allThreads := congrArg Ownership.allThreads (toOwnership_addNewDiscussionThread ctx s id name approved)
    rw [hall]
    exact .addNewDiscussionThread
  case deleteDiscussionThread id =>
    by_cases hid : id ∈ s.allThreads
    · have heq : Operation.perform ctx s (.deleteDiscussionThread id) = (.ok, s.deleteDiscussionThread ctx id true true) :=
        if_pos hid
      rw [heq]
      refine ⟨s.toPlacement.deleteThread id, ?_, congrArg _ (EntityCollection.toPlacement_deleteDiscussionThread ctx
        h.placed h.known hid (fun _ m hm => ((ha.threadMessages id hid m).1 hm).2) true)⟩
      have hall : (s.deleteDiscussionThread ctx id true true).allThreads = s.allThreads.erase id := by
        rw [(EntityCollection.toOwnership_deleteDiscussionThread ctx s id true true).1]
        simp [Ownership.deleteThread, hid, Ownership.deleteMessages, Ownership.dropThread]
      rw [hall]
      exact .deleteDiscussionThread hid
    · have heq : Operation.perform ctx s (.deleteDiscussionThread id) = (.notFound, s) := if_neg hid
      rw [heq]
      exact ⟨_, .keep _, rfl⟩
  case mergeDiscussionThreads fromId intoId =>
    by_cases hne : fromId = intoId
    · have heq : Operation.perform ctx s (.mergeDiscussionThreads fromId intoId) = (.noEffect, s) := if_pos hne
      rw [heq]
      exact ⟨_, .keep _, rfl⟩
    · by_cases hknown : fromId ∈ s.allThreads ∧ intoId ∈ s.allThreads
      · refine ⟨_, ?_, congrArg _ (toPlacement_mergeDiscussionThreads ctx h hne hknown.1 hknown.2)⟩
        have hall : (Operation.perform ctx s (.mergeDiscussionThreads fromId intoId)).2.allThreads =
            s.allThreads.erase fromId := by
          rw [Operation.perform, toOwnership_mergeDiscussionThreads ctx s hne hknown.1 hknown.2]
          simp [Ownership.mergeThreads, Ownership.deleteThread, hknown.1, Ownership.dropThread]
        rw [hall]
        exact .mergeDiscussionThreads hknown.1
      · have heq : Operation.perform ctx s (.mergeDiscussionThreads fromId intoId) = (.notFound, s) :=
          (if_neg hne).trans (if_neg hknown)
        rw [heq]
        exact ⟨_, .keep _, rfl⟩
  case deleteUser id =>
    by_cases hid : id ∈ s.users
    · have heq : Operation.perform ctx s (.deleteUser id) = (.ok, s.deleteUser ctx id) := if_pos hid
      have hcreated := ha.userThreads id (.inr hid)
      rw [heq]
      refine ⟨_, ?_, congrArg _ (EntityCollection.toPlacement_deleteUser ctx h.placed h.known hid
        (fun t ht => ((hcreated t).1 ht).1) fun t ht m hm => ((ha.threadMessages t ht m).1 hm).2)⟩
      have hall : (s.deleteUser ctx id).allThreads = s.allThreads \ s.userThreads id := by
        rw [(EntityCollection.toOwnership_deleteUser ctx s id).1, ha.deleteUser_eq hid]
        rfl
      rw [hall]
      exact .deleteUser fun t ht => ((hcreated t).1 ht).1
    · have heq : Operation.perform ctx s (.deleteUser id) = (.notFound, s) := if_neg hid
      rw [heq]
      exact ⟨_, .keep _, rfl⟩
  all_goals
    have hsame : (Operation.perform ctx s _).2.allThreads = s.allThreads := hthreads
      (by rintro _ _ _ ⟨⟩) (by rintro _ ⟨⟩) (by rintro _ _ ⟨⟩) (by rintro _ ⟨⟩)
    rw [hsame]
    clear hthreads
  case addDiscussionTagToThread tag thread =>
    by_cases hknown : tag ∈ s.tags ∧ thread ∈ s.allThreads
    · by_cases hmem : tag ∈ s.threadTags thread
      · refine ⟨_, .keep _, congrArg _ ?_⟩
        simp [Operation.perform, addDiscussionTagToThread, hknown, hmem, DiscussionThread.addTag,
          DiscussionThread.setLatestVisibleChange, EntityCollection.modifyThread]
      · exact ⟨_, .addDiscussionTagToThread hknown.1 hknown.2,
          congrArg _ (toPlacement_addDiscussionTagToThread ctx h hknown.1 hknown.2 hmem)⟩
    · exact ⟨_, .keep _, by rw [Operation.perform, addDiscussionTagToThread, if_neg hknown]⟩
  case removeDiscussionTagFromThread tag thread =>
    by_cases hknown : tag ∈ s.tags ∧ thread ∈ s.allThreads
    · by_cases hmem : tag ∈ s.threadTags thread
      · exact ⟨_, .removeDiscussionTagFromThread hknown.1 hknown.2,
          congrArg _ (toPlacement_removeDiscussionTagFromThread ctx h ha hknown.1 hknown.2 hmem)⟩
      · refine ⟨_, .keep _, congrArg _ ?_⟩
        simp [Operation.perform, removeDiscussionTagFromThread, hknown, hmem, DiscussionThread.removeTag,
          DiscussionThread.setLatestVisibleChange, EntityCollection.modifyThread]
    · exact ⟨_, .keep _, by rw [Operation.perform, removeDiscussionTagFromThread, if_neg hknown]⟩
  case addDiscussionTagToCategory tag category =>
    by_cases hknown : tag ∈ s.tags ∧ category ∈ s.categories
    · by_cases hmem : category ∈ s.tagCategories tag
      · exact ⟨_, .keep _, by rw [Operation.perform, addDiscussionTagToCategory, if_pos hknown, if_pos hmem]⟩
      · exact ⟨_, .addDiscussionTagToCategory hknown.1 hknown.2,
          congrArg _ (toPlacement_addDiscussionTagToCategory ctx h hknown.1 hknown.2 hmem)⟩
    · exact ⟨_, .keep _, by rw [Operation.perform, addDiscussionTagToCategory, if_neg hknown]⟩
  case removeDiscussionTagFromCategory tag category =>
    by_cases hknown : tag ∈ s.tags ∧ category ∈ s.categories
    · by_cases hmem : category ∈ s.tagCategories tag
      · exact ⟨_, .removeDiscussionTagFromCategory hknown.1,
          congrArg _ (toPlacement_removeDiscussionTagFromCategory ctx h ha hknown.1 hknown.2 hmem)⟩
      · exact ⟨_, .keep _, by rw [Operation.perform, removeDiscussionTagFromCategory, if_pos hknown, if_neg hmem]⟩
    · exact ⟨_, .keep _, by rw [Operation.perform, removeDiscussionTagFromCategory, if_neg hknown]⟩
  case deleteDiscussionTag id =>
    by_cases hid : id ∈ s.tags
    · refine ⟨_, .deleteDiscussionTag hid, ?_⟩
      rw [Operation.perform, deleteDiscussionTag, if_pos hid]
      exact congrArg _ (EntityCollection.toPlacement_deleteDiscussionTag ctx h.placed hid (h.tagListing id hid)
        ha.notAboutToBeDeleted)
    · exact ⟨_, .keep _, by rw [Operation.perform, deleteDiscussionTag, if_neg hid]⟩
  case deleteDiscussionCategory id =>
    by_cases hid : id ∈ s.categories
    · exact ⟨_, .deleteDiscussionCategory hid, withoutHierarchy_deleteDiscussionCategory ctx h hid⟩
    · exact ⟨_, .keep _, by rw [Operation.perform, deleteDiscussionCategory, if_neg hid]⟩
  case changeDiscussionCategoryParent id newParentId =>
    exact ⟨_, .keep _, withoutHierarchy_changeDiscussionCategoryParent ctx id newParentId⟩
  case addNewDiscussionTag id name =>
    by_cases hname : s.uniqueContains .tagsByName (.text name)
    · exact ⟨_, .keep _, by rw [Operation.perform, addNewDiscussionTag, if_pos hname]⟩
    · refine ⟨_, .addNewDiscussionTag, congrArg _ ?_⟩
      rw [Operation.perform, addNewDiscussionTag, if_neg hname]
      simp [EntityCollection.createDiscussionTag, EntityCollection.construct, EntityCollection.modifyTag,
        Placement.construct]
  case addNewDiscussionCategory id name parentId =>
    by_cases hname : s.uniqueContains .categoriesByName (.text name)
    · exact ⟨_, .keep _, by rw [Operation.perform, addNewDiscussionCategory, if_pos hname]⟩
    · exact ⟨_, .addNewDiscussionCategory, withoutHierarchy_addNewDiscussionCategory ctx id name parentId hname⟩
  case addNewUser id name auth =>
    simp only [Operation.perform]
    unfold addNewUser
    split_ifs
    · exact ⟨_, .keep _, rfl⟩
    · exact ⟨_, .keep _, rfl⟩
    · refine ⟨_, .construct rfl, congrArg _ ?_⟩
      simp [EntityCollection.createUser, EntityCollection.construct, EntityCollection.modifyUser, User.updateAuth]
  case sendPrivateMessage id destination content =>
    simp only [Operation.perform]
    unfold sendPrivateMessage
    dsimp only
    split_ifs
    · exact ⟨_, .keep _, rfl⟩
    · refine ⟨_, .construct rfl, congrArg _ ?_⟩
      simp [EntityCollection.createPrivateMessage, EntityCollection.construct, EntityCollection.modifyUser]
    · exact ⟨_, .keep _, rfl⟩
  case addNewAttachment id name size approved =>
    refine ⟨_, .construct rfl, congrArg _ ?_⟩
    simp [Operation.perform, addNewAttachment, EntityCollection.createAttachment, EntityCollection.construct]
  case addNewDiscussionMessageInThread id thread approved content =>
    by_cases ht : thread ∈ s.allThreads
    · exact ⟨_, .construct rfl, congrArg _ (toPlacement_addNewDiscussionMessageInThread ctx ht approved content)⟩
    · exact ⟨_, .keep _, by rw [Operation.perform, addNewDiscussionMessageInThread, if_neg ht]⟩
  case addCommentToDiscussionThreadMessage id message content =>
    simp only [Operation.perform]
    unfold addCommentToDiscussionThreadMessage
    dsimp only
    split_ifs
    · refine ⟨_, .construct rfl, congrArg _ ?_⟩
      simp [EntityCollection.createMessageComment, EntityCollection.construct]
    · exact ⟨_, .keep _, rfl⟩

end Forum.Repository
