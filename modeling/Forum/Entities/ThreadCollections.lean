import Forum.Entities.Creation
import Forum.Entities.PlacementDeletion

/-!
# Thread collections beside the threads

What the functions of users, tags, categories, messages and attachments, and the creation of entities, leave of
a thread collection: the collections of others do not change, and the collections of a new entity are empty.
-/

namespace Forum.Entities

open Forum.Library EntityCollection

variable {s s' : EntityCollection} {r : ThreadCollectionRef}

/-! ### Functions that no thread collection notices -/

namespace CollectionKept

/-- The store changes in parts that no thread collection reads, and so do the indexes. -/
theorem of_indexes (ht : s'.threads r = s.threads r) (hk : s'.threadKey = s.threadKey)
    (hb : s'.batchInsertInProgress = s.batchInsertInProgress) (hindex : s'.index = s.index)
    (hit : s'.updateIt = s.updateIt) (hf : s'.assertFailed = s.assertFailed) : CollectionKept r s s' :=
  ⟨ht, fun t _ => by rw [hk], hb, fun _ => ⟨by rw [hindex], by rw [hit], by rw [hf]⟩⟩

theorem uniquePrepareUpdate (ref : UniqueIndexRef) (x : IdType) : CollectionKept r s (s.uniquePrepareUpdate ref x) :=
  .of_indexes (by cases r <;> rfl) rfl rfl rfl rfl rfl

theorem uniqueUpdate (ref : UniqueIndexRef) (x : IdType) : CollectionKept r s (s.uniqueUpdate ref x) :=
  .of_toStore (toStore_uniqueUpdate s ref x) fun _ => .uniqueUpdate ref x s

theorem modifyUser (user : IdType) (f : User → User) : CollectionKept r s (s.modifyUser user f) :=
  .of_store rfl (by cases r <;> rfl) rfl rfl

theorem modifyTag (tag : IdType) (f : DiscussionTag → DiscussionTag) : CollectionKept r s (s.modifyTag tag f) :=
  .of_store rfl (by cases r <;> rfl) rfl rfl

theorem modifyCategory (category : IdType) (f : DiscussionCategory → DiscussionCategory) :
    CollectionKept r s (s.modifyCategory category f) :=
  .of_store rfl (by cases r <;> rfl) rfl rfl

theorem modifyMessage (message : IdType) (f : DiscussionThreadMessage → DiscussionThreadMessage) :
    CollectionKept r s (s.modifyMessage message f) :=
  .of_store rfl (by cases r <;> rfl) rfl rfl

theorem updateLastSeen (user : IdType) (value : Timestamp) : CollectionKept r s (User.updateLastSeen user s value) := by
  unfold User.updateLastSeen
  split_ifs
  · exact .refl r s
  · exact (CollectionKept.finishUpdate _ (by simp) user).trans'
      ((CollectionKept.modifyUser user _).trans' (.prepareUpdate _ (by simp) user))

theorem updateUserName (user : IdType) (name : NameType) : CollectionKept r s (User.updateName user s name) :=
  (CollectionKept.uniqueUpdate _ user).trans'
    ((CollectionKept.modifyUser user _).trans' (.uniquePrepareUpdate _ user))

theorem updateAuth (user : IdType) (auth : String) : CollectionKept r s (User.updateAuth user s auth) :=
  (CollectionKept.uniqueUpdate _ user).trans'
    ((CollectionKept.modifyUser user _).trans' (.uniquePrepareUpdate _ user))

theorem updateTagName (tag : IdType) (name : NameType) : CollectionKept r s (DiscussionTag.updateName tag s name) :=
  (CollectionKept.uniqueUpdate _ tag).trans' ((CollectionKept.modifyTag tag _).trans' (.uniquePrepareUpdate _ tag))

theorem updateCategoryName (category : IdType) (name : NameType) :
    CollectionKept r s (DiscussionCategory.updateName category s name) :=
  (CollectionKept.uniqueUpdate _ category).trans'
    ((CollectionKept.modifyCategory category _).trans' (.uniquePrepareUpdate _ category))

theorem updateDisplayOrder (category : IdType) (value : ℤ) :
    CollectionKept r s (DiscussionCategory.updateDisplayOrder category s value) := by
  unfold DiscussionCategory.updateDisplayOrder
  split_ifs
  · exact .refl r s
  · exact (CollectionKept.finishUpdate _ (by simp) category).trans'
      ((CollectionKept.modifyCategory category _).trans' (.prepareUpdate _ (by simp) category))

/-- A field of an attachment changes between the announcements. -/
theorem changeAttachment (key : AttachmentKey) (id : IdType) (attachment : IdType → Attachment) :
    CollectionKept r s (({ s.onPrepareUpdateAttachment key id with attachment := attachment } :
      EntityCollection).onUpdateAttachment key id) := by
  have hprepare : CollectionKept r s (s.onPrepareUpdateAttachment key id) :=
    (CollectionKept.prepareUpdate _ (by simp) id).trans' (.prepareUpdate _ (by simp) id)
  refine (CollectionKept.finishUpdate _ (by simp) id).trans' ((CollectionKept.finishUpdate _ (by simp) id).trans' ?_)
  refine CollectionKept.trans' ?_ hprepare
  exact .of_store rfl (by cases r <;> rfl) rfl rfl

theorem setParentThread (message thread : IdType) :
    CollectionKept r s (DiscussionThreadMessage.setParentThread message s thread) :=
  .setOwnership rfl rfl rfl rfl

theorem insertSubscribedUser (thread user : IdType) :
    CollectionKept r s (DiscussionThread.insertSubscribedUser thread s user) :=
  .setOwnership rfl rfl rfl rfl

theorem eraseSubscribedUser (thread user : IdType) :
    CollectionKept r s (DiscussionThread.eraseSubscribedUser thread s user) :=
  .setOwnership rfl rfl rfl rfl

end CollectionKept

/-! ### New entities -/

instance Store.decidableLive (s : Store) : (r : ThreadCollectionRef) → Decidable (s.Live r)
  | .all => inferInstanceAs (Decidable True)
  | .createdBy user | .subscribedBy user => inferInstanceAs (Decidable (user ∈ s.users))
  | .tag tag => inferInstanceAs (Decidable (tag ∈ s.tags))
  | .category category => inferInstanceAs (Decidable (category ∈ s.categories))

/-- The collections of a new entity are empty. -/
theorem threads_construct_self {id : IdType} (hr : r.owner = some id) : (s.construct id).threads r = ∅ := by
  cases r with
  | all => cases hr
  | createdBy | subscribedBy | tag | category =>
    obtain rfl : _ = id := by simpa [ThreadCollectionRef.owner] using hr
    exact Function.update_self _ _ _

theorem threads_construct_of_ne {id : IdType} (hr : r.owner ≠ some id) : (s.construct id).threads r = s.threads r := by
  cases r with
  | all => rfl
  | createdBy u | subscribedBy u | tag u | category u =>
    have hne : u ≠ id := by simpa [ThreadCollectionRef.owner] using hr
    exact Function.update_of_ne hne _ _

/-- A collection is that of a new entity, and empty, or it does not change. -/
theorem CollectionSound.construct {id : IdType} (h : r.owner ≠ some id → CollectionSound s r ∧ id ∉ s.threads r) :
    CollectionSound (s.construct id) r := by
  by_cases hr : r.owner = some id
  · intro key _
    have hindex : (s.construct id).index (.threads r key) = [] := if_pos hr
    have hbyId : (s.construct id).byId (.threads r key) = ∅ := threads_construct_self hr
    refine ⟨fun _ => ?_, if_pos hr⟩
    rw [hindex, hbyId]
    exact indexes_nil
  · obtain ⟨hsound, hid⟩ := h hr
    refine hsound.kept ⟨threads_construct_of_ne hr, fun t ht => ?_, rfl, fun key => ⟨if_neg hr, rfl, if_neg hr⟩⟩
    have hne : t ≠ id := fun he => hid (he ▸ ht)
    exact Store.threadKey_congr rfl rfl rfl rfl (Function.update_of_ne hne _ _) (Function.update_of_ne hne _ _)

/-- Whether a change of a thread reaches a collection depends on ownership and placement. -/
theorem Held.congr {s s' : Store} {t : IdType} (held : Held s r t) (ho : s'.toOwnership = s.toOwnership)
    (hp : s'.toPlacement = s.toPlacement) : Held s' r t := by
  have hthreads : s'.threads r = s.threads r := by cases r <;> simp [Store.threads, ho, hp]
  have hholders : s'.threadHolders t = s.threadHolders t := by simp [Store.threadHolders, ho, hp]
  unfold Held
  rwa [hthreads, hholders]

/-- The collections that hold a thread still do. -/
theorem Held.construct {id t : IdType} (ht : t ≠ id) (held : r.owner ≠ some id → Held s.toStore r t) :
    Held (s.construct id).toStore r t := by
  intro hmem
  by_cases hr : r.owner = some id
  · rw [threads_construct_self hr] at hmem
    exact absurd hmem (Finset.notMem_empty t)
  · rw [threads_construct_of_ne hr] at hmem
    have hholders : (s.construct id).threadHolders t = s.threadHolders t := by
      simp [Store.threadHolders, EntityCollection.construct, Ownership.construct, Placement.construct, ht]
    rw [hholders]
    exact held hr hmem

end Forum.Entities
