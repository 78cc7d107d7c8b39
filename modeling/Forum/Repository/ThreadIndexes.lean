import Forum.Entities.ThreadCollections
import Forum.Repository.Lookups
import Forum.Repository.PlacementSteps
import Forum.Repository.Subscriptions

/-!
# The threads of users, tags and categories

In every run that merges no tags the placement is exact, and every thread collection of the store and of
its users, tags and categories is sound: outside a batch insert each of its indexes lists exactly the threads
of the collection in the order of their keys. A key of a thread changes in place, so this rests on the
placement and on the subscriptions, which lead from the thread to the collections that hold it.
-/

namespace Forum.Repository

open Forum.Entities Forum.Library EntityCollection

variable (ctx : Context) {s : EntityCollection} {r : ThreadCollectionRef}

/-! ### The collections that hold a thread -/

/-- What leads from a thread to the collections that hold it. -/
structure ThreadsLinked (s : Store) : Prop where
  placed : Placed s.allThreads s.toPlacement
  authored : Authored s.toOwnership
  subscriptions : SubscriptionInvariant False s.toOwnership

namespace ThreadsLinked

/-- The threads are placed anew. -/
theorem of_placed {s' : Store} (h : ThreadsLinked s.toStore) (ho : s'.toOwnership = s.toOwnership)
    (hp : Placed s'.allThreads s'.toPlacement) : ThreadsLinked s' :=
  ⟨hp, ho ▸ h.authored, ho ▸ h.subscriptions⟩

/-- The collections hold threads of the store. -/
theorem threads_subset (h : ThreadsLinked s.toStore) (hr : s.Live r) : s.threads r ⊆ s.allThreads := by
  intro t ht
  cases r with
  | all => exact ht
  | createdBy u => exact ((h.authored.userThreads u (.inr hr) t).1 ht).1
  | subscribedBy u => exact h.subscriptions.alive u (.inr hr) ht
  | tag g => exact ((h.placed.tagThreads g hr t).1 ht).1
  | category c => exact ((h.placed.categoryThreads c hr t).1 ht).1

theorem held (h : ThreadsLinked s.toStore) (hr : s.Live r) (thread : IdType) : Held s.toStore r thread := by
  intro ht
  have hthread := h.threads_subset hr ht
  unfold Store.threadHolders
  cases r with
  | all => simp
  | createdBy u =>
    obtain rfl := ((h.authored.userThreads u (.inr hr) thread).1 ht).2
    simp
  | subscribedBy u => simp [(h.subscriptions.symmetric u (.inr hr) thread hthread).1 ht]
  | tag g => simp [((h.placed.tagThreads g hr thread).1 ht).2]
  | category c => simp [(h.placed.threadCategories thread hthread c).2 ⟨hr, ht⟩]

end ThreadsLinked

theorem Live.congr {s s' : Store} (hr : s.Live r) (hu : s'.users = s.users) (ht : s'.tags = s.tags)
    (hc : s'.categories = s.categories) : s'.Live r := by
  cases r with
  | all => trivial
  | createdBy | subscribedBy | tag | category => simpa only [Store.Live, hu, ht, hc] using hr

/-! ### Functions of the repositories -/

theorem collectionKept_updateMessageCounts (thread : IdType) (difference : ℤ) :
    CollectionKept r s (updateMessageCounts s thread difference) := by
  refine .foldl (fun s category _ => DiscussionCategory.collectionKept_updateMessageCount difference) ?_
  exact .foldl (fun s tag _ => DiscussionTag.collectionKept_updateMessageCount difference) (.refl r s)

theorem collectionKept_updateThreadOnMoveMessage (thread : IdType) (delta : ℤ) :
    CollectionKept r s (updateThreadOnMoveMessage ctx s thread delta) :=
  (collectionKept_updateMessageCounts thread delta).trans'
    ((CollectionKept.setLatestVisibleChange thread ctx.currentTime).trans' (.resetVisitorsSinceLastEdit thread))

theorem collectionSound_updateThreadLastUpdated (h : CollectionSound s r) {thread : IdType}
    (held : Held s.toStore r thread) (user : IdType) :
    CollectionSound (updateThreadLastUpdated ctx thread user s) r := by
  have hvisible : CollectionSound (DiscussionThread.setLatestVisibleChange thread s ctx.currentTime) r :=
    h.kept (.setLatestVisibleChange thread ctx.currentTime)
  exact ((hvisible.updateLastUpdated held ctx.currentTime).kept
    (.updateLastUpdatedDetails thread ctx.visitDetails)).kept (.updateLastUpdatedBy thread user)

theorem collectionKept_updateTagLastUpdated (tag user : IdType) :
    CollectionKept r s (updateTagLastUpdated ctx tag user s) := .modifyTag tag _

theorem collectionKept_updateCategoryLastUpdated (category user : IdType) :
    CollectionKept r s (updateCategoryLastUpdated ctx category user s) := .modifyCategory category _

theorem collectionKept_receiveVote (user : IdType) (up down : ℤ) (entry : ReceivedVoteHistory) :
    CollectionKept r s (User.receiveVote user s up down entry) := .modifyUser user _

theorem collectionKept_voteDiscussionThreadMessage (id : IdType) (up : Bool) :
    CollectionKept r s (voteDiscussionThreadMessage ctx s id up).2 := by
  unfold voteDiscussionThreadMessage
  split
  next =>
    extract_lets user s₁ s₂ target
    split
    next => exact .refl r s
    next =>
      have h₂ : CollectionKept r s s₂ := by
        dsimp only [s₂]
        split_ifs <;> exact .of_store rfl (by cases r <;> rfl) rfl rfl
      exact (collectionKept_receiveVote target _ _ _).trans' h₂
  next => exact .refl r s

theorem collectionKept_resetVoteDiscussionThreadMessage (id : IdType) :
    CollectionKept r s (resetVoteDiscussionThreadMessage ctx s id).2 := by
  have hremove : ∀ user, CollectionKept r s (DiscussionThreadMessage.removeVote id s user).2 := by
    intro user
    unfold DiscussionThreadMessage.removeVote
    split_ifs
    · exact .setOwnership rfl rfl rfl rfl
    · exact .setOwnership rfl rfl rfl rfl
    · exact .refl r s
  unfold resetVoteDiscussionThreadMessage
  split
  next =>
    extract_lets user target entry
    have huser := hremove user
    generalize DiscussionThreadMessage.removeVote id s user = removed at huser
    rcases removed with ⟨status, s'⟩
    cases status
    · exact huser
    · exact (collectionKept_receiveVote target _ _ _).trans' huser
    · exact (collectionKept_receiveVote target _ _ _).trans' huser
  next => exact .refl r s

theorem collectionKept_changeDiscussionCategoryParent (id newParentId : IdType) :
    CollectionKept r s (changeDiscussionCategoryParent ctx s id newParentId).2 := by
  have hremove : ∀ parent : IdType, CollectionKept r s (DiscussionCategory.removeChild parent s id) := fun parent =>
    .of_store rfl (by cases r <;> rfl) rfl rfl
  unfold changeDiscussionCategoryParent
  dsimp only
  split
  next =>
    split
    next => exact .refl r s
    next =>
      cases s.categoryParent id with
      | none => exact collectionKept_updateCategoryParent ctx r id _ _
      | some parent =>
        dsimp only
        split
        next => exact .refl r s
        next => exact (collectionKept_updateCategoryParent ctx r id _ _).trans' (hremove parent)
  next => exact .refl r s

theorem collectionKept_deleteDiscussionCategory (id : IdType) :
    CollectionKept r s (deleteDiscussionCategory ctx s id).2 := by
  unfold deleteDiscussionCategory
  dsimp only
  split_ifs
  · refine (EntityCollection.collectionKept_deleteDiscussionCategory ctx id).trans' ?_
    exact .foldl (fun s' child _ => collectionKept_updateCategoryParent ctx r child none _) (.refl r s)
  · exact .refl r s

/-- The operations that no thread collection notices. -/
def Operation.keepsThreadCollections : Operation → Bool
  | .changeUserName .. | .changeUserInfo .. | .changeUserTitle .. | .changeUserSignature ..
  | .changeUserAttachmentQuota .. | .changeUserLogo .. | .deleteUserLogo .. | .updateUserLastSeen ..
  | .deletePrivateMessage .. | .changeAttachmentName .. | .changeAttachmentApproval .. | .deleteAttachment ..
  | .addAttachmentToDiscussionThreadMessage .. | .removeAttachmentFromDiscussionThreadMessage ..
  | .changeDiscussionThreadMessageContent .. | .changeDiscussionThreadMessageApproval ..
  | .upVoteDiscussionThreadMessage .. | .downVoteDiscussionThreadMessage .. | .resetVoteDiscussionThreadMessage ..
  | .setMessageCommentToSolved .. | .quoteUserInMessage .. | .changeDiscussionTagName ..
  | .changeDiscussionTagUiBlob .. | .changeDiscussionCategoryName .. | .changeDiscussionCategoryDescription ..
  | .changeDiscussionCategoryParent .. | .changeDiscussionCategoryDisplayOrder ..
  | .deleteDiscussionCategory .. => true
  | _ => false

theorem collectionKept_perform {op : Operation} (hop : op.keepsThreadCollections) :
    CollectionKept r s (op.perform ctx s).2 := by
  cases op <;> simp only [Operation.keepsThreadCollections, Bool.false_eq_true] at hop <;>
    simp only [Operation.perform]
  case upVoteDiscussionThreadMessage => exact collectionKept_voteDiscussionThreadMessage ctx _ true
  case downVoteDiscussionThreadMessage => exact collectionKept_voteDiscussionThreadMessage ctx _ false
  case resetVoteDiscussionThreadMessage => exact collectionKept_resetVoteDiscussionThreadMessage ctx _
  case changeDiscussionCategoryParent => exact collectionKept_changeDiscussionCategoryParent ctx _ _
  case deleteDiscussionCategory => exact collectionKept_deleteDiscussionCategory ctx _
  case changeUserName id name =>
    unfold changeUserName
    split_ifs
    · exact .refl r s
    · exact .updateUserName id name
    · exact .refl r s
  case updateUserLastSeen id value =>
    unfold updateUserLastSeen
    split_ifs
    · exact .updateLastSeen id value
    · exact .refl r s
  case deletePrivateMessage id =>
    unfold deletePrivateMessage
    split_ifs
    · exact collectionKept_deletePrivateMessage id true true
    · exact .refl r s
  case changeAttachmentName id name =>
    unfold changeAttachmentName
    split_ifs
    · exact .changeAttachment .name id _
    · exact .refl r s
  case changeAttachmentApproval id approved =>
    unfold changeAttachmentApproval
    split_ifs
    · exact .refl r s
    · exact .changeAttachment .approval id _
    · exact .refl r s
  case deleteAttachment id =>
    unfold deleteAttachment
    split_ifs
    · exact collectionKept_deleteAttachment id true
    · exact .refl r s
  case changeDiscussionThreadMessageContent id content reason =>
    unfold changeDiscussionThreadMessageContent
    dsimp only
    split
    next =>
      exact (CollectionKept.setLatestVisibleChange _ _).trans'
        ((CollectionKept.resetVisitorsSinceLastEdit _).trans' (.modifyMessage id _))
    next => exact .refl r s
  case changeDiscussionThreadMessageApproval id approved =>
    unfold changeDiscussionThreadMessageApproval
    split_ifs
    · exact .refl r s
    · exact (CollectionKept.resetVisitorsSinceLastEdit _).trans' (.modifyMessage id _)
    · exact .refl r s
  case changeDiscussionTagName id name =>
    unfold changeDiscussionTagName
    split_ifs
    · exact (collectionKept_updateTagLastUpdated ctx id _).trans' (.updateTagName id name)
    · exact .refl r s
  case changeDiscussionCategoryName id name =>
    unfold changeDiscussionCategoryName
    split_ifs
    · exact .refl r s
    · exact (collectionKept_updateCategoryLastUpdated ctx id _).trans' (.updateCategoryName id name)
    · exact .refl r s
  case changeDiscussionCategoryDescription id description =>
    unfold changeDiscussionCategoryDescription
    split_ifs
    · exact (collectionKept_updateCategoryLastUpdated ctx id _).trans' (.modifyCategory id _)
    · exact .refl r s
  case changeDiscussionCategoryDisplayOrder id value =>
    unfold changeDiscussionCategoryDisplayOrder
    split_ifs
    · exact (collectionKept_updateCategoryLastUpdated ctx id _).trans' (.updateDisplayOrder id value)
    · exact .refl r s
  all_goals
    simp only [changeUserInfo, changeUserTitle, changeUserSignature, changeUserAttachmentQuota, changeUserLogo,
      deleteUserLogo, changeUserField, addAttachmentToDiscussionThreadMessage,
      removeAttachmentFromDiscussionThreadMessage, setMessageCommentToSolved, quoteUserInMessage,
      changeDiscussionTagUiBlob]
    repeat' split
    all_goals
      first
        | exact .refl r s
        | exact .of_store rfl (by cases r <;> rfl) rfl rfl

/-! ### Operations that create an entity -/

/-- An operation fails or comes down, for the thread collections, to the construction of an entity. -/
theorem addNewUser_collections (id : IdType) (name : NameType) (auth : String) :
    (addNewUser ctx s id name auth).2 = s ∨ CollectionKept r (s.construct id) (addNewUser ctx s id name auth).2 := by
  unfold addNewUser
  split_ifs
  · exact .inl rfl
  · exact .inl rfl
  · exact .inr ((CollectionKept.usersAdd id).trans' ((CollectionKept.updateAuth id auth).trans' (.modifyUser id _)))

theorem sendPrivateMessage_collections (id destination : IdType) (content : String) :
    (sendPrivateMessage ctx s id destination content).2 = s ∨
      CollectionKept r (s.construct id) (sendPrivateMessage ctx s id destination content).2 := by
  unfold sendPrivateMessage
  extract_lets source s₁ s₂ s₃ s₄
  have h₁ : CollectionKept r (s.construct id) s₁ := .of_store rfl (by cases r <;> rfl) rfl rfl
  have h₄ : CollectionKept r s₁ s₄ := (CollectionKept.privateMessagesAdd id _).trans'
    ((CollectionKept.privateMessagesAdd id _).trans' (.privateMessagesAdd id _))
  clear_value s₄
  split_ifs
  · exact .inl rfl
  · dsimp only
    exact .inr ((CollectionKept.modifyUser destination _).trans' (h₄.trans' h₁))
  · exact .inl rfl

theorem addNewAttachment_collections (id : IdType) (name : NameType) (size : ℕ) (approved : Bool) :
    CollectionKept r (s.construct id) (addNewAttachment ctx s id name size approved).2 := by
  have hcreate : ∀ user, CollectionKept r (s.construct id)
      (s.createAttachment id user ctx.currentTime ctx.visitDetails name size approved) := fun user =>
    .of_store rfl (by cases r <;> rfl) rfl rfl
  exact (CollectionKept.attachmentsAdd id _).trans' ((CollectionKept.attachmentsAdd id _).trans' (hcreate _))

theorem addCommentToDiscussionThreadMessage_collections (id message : IdType) (content : String) :
    (addCommentToDiscussionThreadMessage ctx s id message content).2 = s ∨
      CollectionKept r (s.construct id) (addCommentToDiscussionThreadMessage ctx s id message content).2 := by
  have hcreate : ∀ user, CollectionKept r (s.construct id)
      (s.createMessageComment id message user ctx.currentTime ctx.visitDetails content) := fun user =>
    .of_store rfl (by cases r <;> rfl) rfl rfl
  unfold addCommentToDiscussionThreadMessage
  dsimp only
  split_ifs
  · exact .inr ((CollectionKept.commentsAdd id _).trans' ((CollectionKept.commentsAdd id _).trans'
      ((CollectionKept.commentsAdd id _).trans' (hcreate _))))
  · exact .inl rfl

theorem addNewDiscussionTag_collections (id : IdType) (name : NameType) :
    (addNewDiscussionTag ctx s id name).2 = s ∨
      CollectionKept r (s.construct id) (addNewDiscussionTag ctx s id name).2 := by
  unfold addNewDiscussionTag
  split_ifs
  · exact .inl rfl
  · exact .inr ((CollectionKept.tagsAdd id).trans' (.modifyTag id _))

theorem addNewDiscussionCategory_collections (id : IdType) (name : NameType) (parentId : IdType) :
    (addNewDiscussionCategory ctx s id name parentId).2 = s ∨
      CollectionKept r (s.construct id) (addNewDiscussionCategory ctx s id name parentId).2 := by
  have hcreate : CollectionKept r (s.construct id)
      (s.createDiscussionCategory id name ctx.currentTime ctx.visitDetails) := .modifyCategory id _
  unfold addNewDiscussionCategory
  dsimp only
  split_ifs
  · exact .inl rfl
  · refine .inr ((CollectionKept.categoriesAdd id).trans' (CollectionKept.trans' ?_ hcreate))
    exact .of_store rfl (by cases r <;> rfl) rfl rfl
  · exact .inr ((CollectionKept.categoriesAdd id).trans' hcreate)

/-- A new thread is in no collection before its keys are set. -/
theorem collectionSound_addNewDiscussionThread {id : IdType} (h : CollectionSound (s.construct id) r)
    (hid : id ∉ (s.construct id).threads r) (name : NameType) (approved : Bool) :
    CollectionSound (addNewDiscussionThread ctx s id name approved).2 r := by
  unfold addNewDiscussionThread
  extract_lets user s₁ s₂ s₃ s₄
  have hthreads : s₁.threads r = (s.construct id).threads r := by cases r <;> rfl
  have h₁ : CollectionSound s₁ r := by
    refine h.kept ⟨hthreads, fun t ht => ?_, rfl, fun _ => .of_toIndexes rfl⟩
    have hne : t ≠ id := fun he => hid (he ▸ ht)
    have hthread : s₁.thread t = s.thread t := Function.update_of_ne hne _ _
    exact Store.threadKey_congr (by rw [hthread]; rfl) (by rw [hthread]; rfl)
      (by unfold Properties.threadLastUpdated; rw [hthread]; rfl) (by rw [hthread]; rfl) rfl rfl
  have h₂ : CollectionSound s₂ r := h₁.kept (.setLatestVisibleChange id _)
  have held : Held s₂.toStore r id := by
    intro hmem
    have hthreads₂ : s₂.threads r = s₁.threads r := (CollectionKept.setLatestVisibleChange id _).threads
    rw [hthreads₂, hthreads] at hmem
    exact absurd hmem hid
  have h₃ : CollectionSound s₃ r := h₂.updateLastUpdated held _
  clear_value s₃
  exact (h₃.threadsAdd .all id).threadsAdd (.createdBy user) id

/-- A new message has an author, and a parent thread that its collections hold. -/
theorem collectionSound_addNewDiscussionMessageInThread {id thread : IdType} (h : CollectionSound (s.construct id) r)
    (held : Held (s.construct id).toStore r thread) (ht : thread ∈ s.allThreads) (approved : Bool) (content : MessageContent) :
    CollectionSound (addNewDiscussionMessageInThread ctx s id thread approved content).2 r := by
  unfold addNewDiscussionMessageInThread
  rw [if_pos ht]
  extract_lets user s₁ s₂
  have hk₁ : CollectionKept r (s.construct id) s₁ := .of_store rfl (by cases r <;> rfl) rfl rfl
  have hk₂ : CollectionKept r (s.construct id) s₂ := (CollectionKept.setParentThread id thread).trans' hk₁
  have h₂ : CollectionSound s₂ r := h.kept hk₂
  have held₂ : Held s₂.toStore r thread := by
    intro hmem
    rw [hk₂.threads] at hmem
    exact held hmem
  clear_value s₂
  split
  next => exact h₂
  all_goals
    extract_lets s₃ s₄ s₅ s₆ s₇ s₈ s₉ s₁₀
    have hk₄ : CollectionKept r s₂ s₄ := (CollectionKept.messagesAdd (by simp) id).trans' (.modifyMessage id _)
    have held₄ : Held s₄.toStore r thread := by
      have hholders : s₄.threadHolders thread = s₂.threadHolders thread := by
        simp only [s₄, toStore_messagesAdd, Store.threadHolders_setMessages]
        rfl
      intro hmem
      rw [hk₄.threads] at hmem
      exact hholders ▸ held₂ hmem
    have h₅ : CollectionSound s₅ r := (h₂.kept hk₄).insertMessage held₄ id
    have h₈ : CollectionSound s₈ r := by
      have h₇ : CollectionSound s₇ r := (h₅.kept (.resetVisitorsSinceLastEdit thread)).kept (.setLatestVisibleChange thread _)
      dsimp only [s₈]
      split_ifs
      · exact h₇
      · exact h₇.kept (.insertSubscribedUser thread user)
    have h₁₀ : CollectionSound s₁₀ r :=
      (h₈.kept (collectionKept_updateMessageCounts thread 1)).kept (.messagesAdd (by simp) id)
    clear_value s₁₀
    exact h₁₀.threadsAdd (.subscribedBy user) thread

/-! ### Operations on threads and their messages -/

/-- The messages of a thread move to one that the collection knows, and the thread is deleted. -/
theorem collectionSound_mergeDiscussionThreads (h : CollectionSound s r) (held : ∀ t, Held s.toStore r t)
    (fromId intoId : IdType) : CollectionSound (mergeDiscussionThreads ctx s fromId intoId).2 r := by
  unfold mergeDiscussionThreads
  split
  next => exact h
  split
  next =>
    extract_lets s₁ s₂ s₃ s₄ s₅ s₆
    have h₁ : CollectionSound s₁ r := collectionSound_updateThreadLastUpdated ctx h (held intoId) _
    have hkept₂ : CollectionKept r s₁ s₂ := .foldl (fun s m _ => .setParentThread m intoId) (.refl r s₁)
    have held₂ : Held s₂.toStore r intoId := by
      have hown₂ : s₂.threadHolders = s₁.threadHolders :=
        foldl_view (fun s : EntityCollection => s.threadHolders) fun _ _ _ => rfl
      have hthreads₁ : s₁.threads r = s.threads r := by
        cases r <;> simp [s₁, Store.threads]
      have hholders₁ : s₁.threadHolders intoId = s.threadHolders intoId := by
        simp [s₁, Store.threadHolders]
      intro hmem
      rw [hkept₂.threads, hthreads₁] at hmem
      rw [hown₂, hholders₁]
      exact held intoId hmem
    have h₃ : CollectionSound s₃ r := (h₁.kept hkept₂).insertMessages held₂ _
    have h₅ : CollectionSound s₅ r := (h₃.kept (collectionKept_updateMessageCounts fromId _)).kept
      (collectionKept_updateMessageCounts intoId _)
    have h₆ : CollectionSound s₆ r := foldl_keeps (P := fun s => CollectionSound s r) h₅ fun s user _ h =>
      (h.threadsAdd (.subscribedBy user) intoId).kept (.insertSubscribedUser intoId user)
    clear_value s₆
    exact collectionSound_deleteDiscussionThread ctx h₆ (fun hf => by cases hf) true
  next => exact h

theorem collectionSound_moveDiscussionThreadMessage (h : CollectionSound s r) (held : ∀ t, Held s.toStore r t)
    (message intoThread : IdType) : CollectionSound (moveDiscussionThreadMessage ctx s message intoThread).2 r := by
  unfold moveDiscussionThreadMessage
  split
  next =>
    extract_lets fromThread s₁ s₂ s₃ s₄
    split_ifs
    · exact h
    · have h₁ : CollectionSound s₁ r := h.insertMessage (held intoThread) message
      have h₂ : CollectionSound s₂ r := h₁.kept (collectionKept_updateThreadOnMoveMessage ctx intoThread 1)
      have held₂ : Held s₂.toStore r fromThread := by
        have hkept₂ : CollectionKept r s₁ s₂ := collectionKept_updateThreadOnMoveMessage ctx intoThread 1
        have hthreads₁ : s₁.threads r = s.threads r := by
          cases r <;> simp [s₁, Store.threads]
        have hholders₂ : s₂.threadHolders fromThread = s.threadHolders fromThread := by
          simp [s₂, s₁, Store.threadHolders]
        intro hmem
        rw [hkept₂.threads, hthreads₁] at hmem
        rw [hholders₂]
        exact held fromThread hmem
      have h₃ : CollectionSound s₃ r := h₂.deleteDiscussionThreadMessage held₂ message
      have h₄ : CollectionSound s₄ r := h₃.kept (collectionKept_updateThreadOnMoveMessage ctx fromThread (-1))
      exact h₄.kept (.setParentThread message intoThread)
  next => exact h

theorem collectionSound_addDiscussionTagToThread (h : CollectionSound s r) (hready : PlacementReady s)
    (hlinked : ThreadsLinked s.toStore) (hr : s.Live r) (tag thread : IdType) :
    CollectionSound (addDiscussionTagToThread ctx s tag thread).2 r := by
  unfold addDiscussionTagToThread
  split
  next hknown =>
    extract_lets user known s₁
    have h₁ : CollectionSound s₁ r := h.kept (.addTag ctx thread tag)
    by_cases hmem : tag ∈ s.threadTags thread
    · simpa [known, hmem] using h₁
    · have hp := toPlacement_insertDiscussionThread ctx hready hknown.1 hmem
      have ho : (DiscussionTag.insertDiscussionThread ctx tag s₁ thread).toOwnership = s.toOwnership :=
        (DiscussionTag.ownershipKept_insertDiscussionThread ctx s₁ tag thread).1
      have hlinked₂ : ThreadsLinked (DiscussionTag.insertDiscussionThread ctx tag s₁ thread).toStore := by
        refine hlinked.of_placed ho ?_
        rw [ho, hp]
        exact hready.placed.tagThread hknown.1 hknown.2
      have hr₂ : (DiscussionTag.insertDiscussionThread ctx tag s₁ thread).Live r :=
        Live.congr hr (by rw [ho]) (by rw [hp]; rfl) (by rw [hp]; rfl)
      have h₂ : CollectionSound (DiscussionTag.insertDiscussionThread ctx tag s₁ thread) r :=
        DiscussionTag.collectionSound_insertDiscussionThread ctx h₁
      simpa [known, hmem] using collectionSound_updateThreadLastUpdated ctx h₂ (hlinked₂.held hr₂ thread) user
  next => exact h

theorem collectionSound_removeDiscussionTagFromThread (h : CollectionSound s r) (hready : PlacementReady s)
    (hlinked : ThreadsLinked s.toStore) (hr : s.Live r) (tag thread : IdType) :
    CollectionSound (removeDiscussionTagFromThread ctx s tag thread).2 r := by
  unfold removeDiscussionTagFromThread
  split
  next hknown =>
    extract_lets user known s₁
    have h₁ : CollectionSound s₁ r := h.kept (.removeTag ctx thread tag)
    by_cases hmem : tag ∈ s.threadTags thread
    · have hp := toPlacement_deleteDiscussionThread ctx hready hlinked.authored hknown.1 hknown.2 hmem
      have ho : (DiscussionTag.deleteDiscussionThread ctx tag s₁ thread true).toOwnership = s.toOwnership :=
        (DiscussionTag.ownershipKept_deleteDiscussionThread ctx s₁ tag thread true).1
      have hlinked₂ : ThreadsLinked (DiscussionTag.deleteDiscussionThread ctx tag s₁ thread true).toStore := by
        refine hlinked.of_placed ho ?_
        rw [ho, hp]
        exact hready.placed.untagThread hknown.1 hknown.2
      have hr₂ : (DiscussionTag.deleteDiscussionThread ctx tag s₁ thread true).Live r :=
        Live.congr hr (by rw [ho]) (by rw [hp]; rfl) (by rw [hp]; rfl)
      have h₂ : CollectionSound (DiscussionTag.deleteDiscussionThread ctx tag s₁ thread true) r :=
        DiscussionTag.deleteDiscussionThread_keeps (P := fun s => CollectionSound s r) ctx (fun _ _ hk h => h.kept hk)
          (fun _ h => h.threadsRemove _ _) (fun _ _ h => h.threadsRemove _ _) true h₁
      simpa [known, hmem] using collectionSound_updateThreadLastUpdated ctx h₂ (hlinked₂.held hr₂ thread) user
    · simpa [known, hmem] using h₁
  next => exact h

theorem collectionSound_addDiscussionTagToCategory (h : CollectionSound s r) {tag : IdType}
    (htag : tag ∈ s.tags → CollectionSound s (.tag tag)) (category : IdType) :
    CollectionSound (addDiscussionTagToCategory ctx s tag category).2 r := by
  have hadd : ∀ r, CollectionKept r s (DiscussionTag.addCategory tag s category) := fun r =>
    .of_store rfl (by cases r <;> rfl) rfl rfl
  unfold addDiscussionTagToCategory
  split_ifs with hknown hmem
  · exact h
  · exact (DiscussionCategory.collectionSound_addTag ctx (h.kept (hadd r)) ((htag hknown.1).kept (hadd _))).kept
      (collectionKept_updateCategoryLastUpdated ctx category _)
  · exact h

theorem collectionSound_removeDiscussionTagFromCategory (h : CollectionSound s r) (tag category : IdType) :
    CollectionSound (removeDiscussionTagFromCategory ctx s tag category).2 r := by
  have hremove : CollectionKept r s (DiscussionTag.removeCategory tag s category) :=
    .of_store rfl (by cases r <;> rfl) rfl rfl
  unfold removeDiscussionTagFromCategory
  split_ifs
  · exact (DiscussionCategory.collectionSound_removeTag ctx (h.kept hremove)).kept
      (collectionKept_updateCategoryLastUpdated ctx category _)
  · exact h
  · exact h

theorem collectionSound_subscribeToDiscussionThread (h : CollectionSound s r) (id : IdType) :
    CollectionSound (subscribeToDiscussionThread ctx s id).2 r := by
  unfold subscribeToDiscussionThread
  dsimp only
  split_ifs
  · exact h
  · exact (h.kept (.insertSubscribedUser id _)).threadsAdd _ id
  · exact h

theorem collectionSound_unsubscribeFromDiscussionThread (h : CollectionSound s r) (id : IdType) :
    CollectionSound (unsubscribeFromDiscussionThread ctx s id).2 r := by
  unfold unsubscribeFromDiscussionThread
  dsimp only
  split_ifs
  · exact (h.kept (.eraseSubscribedUser id _)).threadsRemove _ id
  · exact h
  · exact h

/-! ### Runs -/

/-- The placement is exact, and the collections of the store and of its entities are sound. -/
structure ThreadsSound (s : EntityCollection) : Prop where
  placed : Placed s.allThreads s.toPlacement
  known : TagsKnown s.allThreads s.toPlacement
  sound : ∀ r, s.Live r → CollectionSound s r

/-- Users of the store were there before, or are new. -/
theorem OwnershipStep.mem_users {user u : IdType} {op : Operation} {o o' : Ownership}
    (hstep : OwnershipStep user op o o') (hu : u ∈ o'.users) : u ∈ o.users ∨ op.newId = some u := by
  cases hstep with
  | addNewUser =>
    rcases Finset.mem_insert.1 hu with rfl | hu
    · exact .inr rfl
    · exact .inl hu
  | deleteUser => exact .inl ((Shrinks.deleteUser _ _).users hu)
  | deleteDiscussionThread => exact .inl ((Shrinks.deleteThread _ _ _ _).users hu)
  | @mergeDiscussionThreads o fromId intoId =>
    have hsub : (o.mergeThreads fromId intoId).users ⊆ o.users := (Shrinks.deleteThread _ _ _ _).users
    exact .inl (hsub hu)
  | resetVoteDiscussionThreadMessage =>
    unfold Ownership.resetVote at hu
    split_ifs at hu <;> exact .inl hu
  | _ => exact .inl hu

namespace ThreadsSound

variable {op : Operation}

theorem ready (h : ThreadsSound s) : PlacementReady s :=
  ⟨h.placed, h.known, fun tag ht => (h.sound (.tag tag) ht).listing.2,
    fun category hc => (h.sound (.category category) hc).listing.2⟩

theorem empty : ThreadsSound .empty where
  placed := ⟨fun _ h => absurd h (Finset.notMem_empty _), fun _ h => absurd h (Finset.notMem_empty _),
    fun _ h => absurd h (Finset.notMem_empty _), fun _ h => absurd h (Finset.notMem_empty _)⟩
  known := ⟨fun _ h => absurd h (Finset.notMem_empty _), fun _ h => absurd h (Finset.notMem_empty _)⟩
  sound r hr := by
    cases r with
    | all => exact fun key _ => ⟨fun _ => indexes_nil, rfl⟩
    | createdBy | subscribedBy | tag | category => exact absurd hr (Finset.notMem_empty _)

/-- A collection of the store was there before, or is that of a new entity. -/
theorem live_perform (h : ThreadsSound s) (ha : Authored s.toOwnership)
    (hmerge : ∀ fromId intoId, op ≠ .mergeDiscussionTags fromId intoId) (hr : (op.perform ctx s).2.Live r) :
    s.Live r ∨ ∃ id, op.newId = some id ∧ r.owner = some id := by
  obtain ⟨p, hstep, hp⟩ := placementStep_perform ctx h.ready ha op hmerge
  have htags : (op.perform ctx s).2.withoutHierarchy.tags = p.withoutHierarchy.tags := by rw [hp]
  have hcategories : (op.perform ctx s).2.withoutHierarchy.categories = p.withoutHierarchy.categories := by rw [hp]
  cases r with
  | all => exact .inl trivial
  | createdBy u | subscribedBy u =>
    exact ((ownershipStep_perform ctx s op).mem_users hr).imp_right fun hid => ⟨u, hid, rfl⟩
  | tag g => exact (hstep.mem_tags.1 g (htags ▸ hr)).imp_right fun hid => ⟨g, hid, rfl⟩
  | category c => exact (hstep.mem_tags.2 c (hcategories ▸ hr)).imp_right fun hid => ⟨c, hid, rfl⟩

theorem collectionSound_perform (h : ThreadsSound s) (hl : ThreadsLinked s.toStore)
    (hnew : ∀ id, op.newId = some id → id ∉ s.allThreads)
    (hmerge : ∀ fromId intoId, op ≠ .mergeDiscussionTags fromId intoId) (hr : (op.perform ctx s).2.Live r) :
    CollectionSound (op.perform ctx s).2 r := by
  have hlive := h.live_perform ctx hl.authored hmerge hr
  by_cases hid : ∃ id, op.newId = some id
  · obtain ⟨id, hid⟩ := hid
    have hconstruct : r.owner ≠ some id → CollectionSound s r ∧ id ∉ s.threads r := fun howner => by
      have hr' : s.Live r := hlive.resolve_right fun ⟨id', hnewId, hid'⟩ => howner (by rw [hid', ← hnewId, hid])
      exact ⟨h.sound r hr', fun hmem => hnew id hid (hl.threads_subset hr' hmem)⟩
    have hsound : CollectionSound (s.construct id) r := .construct hconstruct
    have hthreads : id ∉ (s.construct id).threads r := by
      by_cases howner : r.owner = some id
      · rw [threads_construct_self howner]
        exact Finset.notMem_empty id
      · rw [threads_construct_of_ne howner]
        exact (hconstruct howner).2
    -- the operation failed, or a new entity was made
    have finish : ∀ s' : EntityCollection, s' = s ∨ CollectionKept r (s.construct id) s' → s'.Live r →
        CollectionSound s' r := by
      rintro s' (rfl | hk) hr
      · exact h.sound r hr
      · exact hsound.kept hk
    cases op <;> simp only [Operation.newId, Option.some.injEq, reduceCtorEq] at hid
    all_goals subst hid
    case addNewUser id name auth => exact finish _ (addNewUser_collections ctx id name auth) hr
    case sendPrivateMessage id destination content => exact finish _ (sendPrivateMessage_collections ctx id _ _) hr
    case addNewAttachment id name size approved => exact hsound.kept (addNewAttachment_collections ctx id name size approved)
    case addCommentToDiscussionThreadMessage id message content =>
      exact finish _ (addCommentToDiscussionThreadMessage_collections ctx id message content) hr
    case addNewDiscussionTag id name => exact finish _ (addNewDiscussionTag_collections ctx id name) hr
    case addNewDiscussionCategory id name parentId => exact finish _ (addNewDiscussionCategory_collections ctx id _ _) hr
    case addNewDiscussionThread id name approved =>
      exact collectionSound_addNewDiscussionThread ctx hsound hthreads name approved
    case addNewDiscussionMessageInThread id thread approved content =>
      by_cases ht : thread ∈ s.allThreads
      · have hne : thread ≠ id := fun he => hnew id rfl (he ▸ ht)
        refine collectionSound_addNewDiscussionMessageInThread ctx hsound (.construct hne fun howner => ?_) ht approved content
        exact hl.held (hlive.resolve_right fun ⟨id', hnewId, hid'⟩ => howner (by rw [hid', ← hnewId]; rfl)) thread
      · have heq : Operation.perform ctx s (.addNewDiscussionMessageInThread id thread approved content) =
            (.notFound, s) := if_neg ht
        rw [heq] at hr ⊢
        exact h.sound r hr
  · have hr' : s.Live r := hlive.resolve_right fun ⟨id, hnewId, _⟩ => hid ⟨id, hnewId⟩
    have hs := h.sound r hr'
    have held := hl.held hr'
    have hparent : ∀ t ∈ s.allThreads, ∀ m ∈ s.threadMessages t, s.messageParentThread m = t := fun t ht m hm =>
      ((hl.authored.threadMessages t ht m).1 hm).2
    by_cases hk : op.keepsThreadCollections
    · exact hs.kept (collectionKept_perform ctx hk)
    cases op <;> simp only [Operation.keepsThreadCollections, not_true_eq_false, Bool.false_eq_true,
      not_false_eq_true] at hk <;> simp only [Operation.perform] at hr ⊢
    all_goals try exact absurd ⟨_, rfl⟩ hid
    case mergeDiscussionTags => exact absurd rfl (hmerge _ _)
    case mergeDiscussionThreads fromId intoId => exact collectionSound_mergeDiscussionThreads ctx hs held fromId intoId
    case moveDiscussionThreadMessage message intoThread =>
      exact collectionSound_moveDiscussionThreadMessage ctx hs held message intoThread
    case subscribeToDiscussionThread id => exact collectionSound_subscribeToDiscussionThread ctx hs id
    case unsubscribeFromDiscussionThread id => exact collectionSound_unsubscribeFromDiscussionThread ctx hs id
    case addDiscussionTagToThread tag thread =>
      exact collectionSound_addDiscussionTagToThread ctx hs h.ready hl hr' tag thread
    case removeDiscussionTagFromThread tag thread =>
      exact collectionSound_removeDiscussionTagFromThread ctx hs h.ready hl hr' tag thread
    case addDiscussionTagToCategory tag category =>
      exact collectionSound_addDiscussionTagToCategory ctx hs (h.sound (.tag tag)) category
    case removeDiscussionTagFromCategory tag category =>
      exact collectionSound_removeDiscussionTagFromCategory ctx hs tag category
    case startBatchInsert => exact fun key hkey => ⟨fun hb => (by cases hb), (hs key hkey).noFailure⟩
    case stopBatchInsert => exact (CollectionListed.stopBatchInsert hs hr').sound
    case changeDiscussionThreadName id name =>
      unfold changeDiscussionThreadName
      split_ifs
      · refine collectionSound_updateThreadLastUpdated ctx (hs.updateName (held id) name) ?_ _
        rw [DiscussionThread.toStore_updateName]
        exact (held id).congr rfl rfl
      · exact hs
    case changeDiscussionThreadPinDisplayOrder id value =>
      unfold changeDiscussionThreadPinDisplayOrder
      split_ifs
      · refine collectionSound_updateThreadLastUpdated ctx (hs.updatePinDisplayOrder (held id) value) ?_ _
        rw [DiscussionThread.toStore_updatePinDisplayOrder]
        exact (held id).congr rfl rfl
      · exact hs
    case changeDiscussionThreadApproval id approved =>
      unfold changeDiscussionThreadApproval
      split_ifs
      · exact collectionSound_updateThreadLastUpdated ctx (hs.kept (.setApproved id approved)) (held id) _
      · exact hs
    case deleteDiscussionThread id =>
      unfold deleteDiscussionThread
      split_ifs with hid
      · exact collectionSound_deleteDiscussionThread ctx hs (fun _ => hparent id hid) true
      · exact hs
    case deleteDiscussionMessage id =>
      unfold deleteDiscussionMessage
      split_ifs
      · exact collectionSound_deleteDiscussionThreadMessage ctx hs (held _) true
      · exact hs
    case deleteDiscussionTag id =>
      unfold deleteDiscussionTag
      split_ifs
      · exact collectionSound_deleteDiscussionTag ctx hs id
      · exact hs
    case deleteUser id =>
      unfold deleteUser at hr ⊢
      split_ifs at hr ⊢ with hid
      · have hne : r ≠ .subscribedBy id := by
          rintro rfl
          have husers : (s.deleteUser ctx id).users = s.users.erase id := by
            rw [(EntityCollection.toOwnership_deleteUser ctx s id).1, hl.authored.deleteUser_eq hid]
            rfl
          exact Finset.notMem_erase id s.users (husers ▸ hr)
        exact EntityCollection.collectionSound_deleteUser ctx h.placed h.known hid
          (fun t ht => ((hl.authored.userThreads id (.inr hid) t).1 ht).1) hparent hne hs fun m _ => held _
      · exact hs

/-- An operation that merges no tags keeps the threads where they are, and their collections sound. -/
theorem step (h : ThreadsSound s) (hl : ThreadsLinked s.toStore)
    (hnew : ∀ id, op.newId = some id → id ∉ s.allThreads ∧ id ∉ s.tags ∧ id ∉ s.categories)
    (hmerge : ∀ fromId intoId, op ≠ .mergeDiscussionTags fromId intoId) : ThreadsSound (op.perform ctx s).2 := by
  obtain ⟨p, hstep, hp⟩ := placementStep_perform ctx h.ready hl.authored op hmerge
  obtain ⟨hplaced, hknown⟩ := hstep.placed h.placed h.known hnew
  exact ⟨hplaced.congr hp, hknown.congr hp, fun r hr =>
    h.collectionSound_perform ctx hl (fun id hid => (hnew id hid).1) hmerge hr⟩

end ThreadsSound

/-- In every run that merges no tags the threads are where they belong, and their collections are sound. -/
theorem Reachable.threadsSound (h : Reachable DoesNotMergeTags s) : ThreadsSound s := by
  induction h with
  | empty => exact .empty
  | step ctx op reached callable admitted ih =>
    refine ih.step ctx ⟨ih.placed, reached.authored, reached.registeredSubscriptions⟩ (fun id hid => ?_) admitted
    have hfresh := (callable.fresh id hid).2
    exact ⟨fun hm => hfresh (reached.issued.threads hm), fun hm => hfresh (reached.tags_issued hm),
      fun hm => hfresh (reached.hierarchySound.issued hm)⟩

/-- A list of callable operations, each of which is admissible in every state, is a run. -/
theorem Reachable.run_of_admissible {admissible : Context → EntityCollection → Operation → Prop}
    (h : Reachable admissible s) (ops : List (Context × Operation)) (hops : CallableRun ops s)
    (hadmissible : ∀ step ∈ ops, ∀ s, admissible step.1 s step.2) : Reachable admissible (Repository.run ops s) := by
  induction ops generalizing s with
  | nil => exact h
  | cons step ops ih =>
    exact ih (.step step.1 step.2 h hops.1 (hadmissible step List.mem_cons_self s)) hops.2
      fun step' hstep => hadmissible step' (List.mem_cons_of_mem _ hstep)

/-- In every run that merges no tags, a tag has exactly the threads that have the tag and a category those that
share a tag with it, each side of a relation knows the other, and threads and categories have tags of the
store only. -/
theorem placed_of_reachable (h : Reachable DoesNotMergeTags s) :
    Placed s.allThreads s.toPlacement ∧ TagsKnown s.allThreads s.toPlacement :=
  ⟨h.threadsSound.placed, h.threadsSound.known⟩

/-- A category shares a thread by two tags, one of which is deleted. -/
theorem placed_of_two_tags :
    let s := run
      [({ currentUserId := 0, currentTime := 1 }, .addNewDiscussionTag 1 { sortKey := [1] }),
        ({ currentUserId := 0, currentTime := 2 }, .addNewDiscussionTag 2 { sortKey := [2] }),
        ({ currentUserId := 0, currentTime := 3 }, .addNewDiscussionCategory 3 { sortKey := [3] } 0),
        ({ currentUserId := 0, currentTime := 4 }, .addNewDiscussionThread 4 { sortKey := [4] } true),
        ({ currentUserId := 0, currentTime := 5 }, .addDiscussionTagToThread 1 4),
        ({ currentUserId := 0, currentTime := 6 }, .addDiscussionTagToCategory 1 3),
        ({ currentUserId := 0, currentTime := 7 }, .addDiscussionTagToCategory 2 3),
        ({ currentUserId := 0, currentTime := 8 }, .addDiscussionTagToThread 2 4),
        ({ currentUserId := 0, currentTime := 9 }, .deleteDiscussionTag 1)] .empty
    Placed s.allThreads s.toPlacement ∧ TagsKnown s.allThreads s.toPlacement :=
  placed_of_reachable (Reachable.empty.run_of_admissible _ (by decide +kernel) (by simp [DoesNotMergeTags]))

set_option maxRecDepth 1024 in
/-- One of the two threads of a merged tag is in a category of the remaining tag already, and kept from the
other category. -/
theorem not_placed_of_mergeDiscussionTags : ¬∀ s, Reachable anyOperation s → Placed s.allThreads s.toPlacement := by
  intro h
  have hplaced := h _ (Reachable.empty.run
    [({ currentUserId := 0, currentTime := 1 }, .addNewDiscussionTag 1 { sortKey := [1] }),
      ({ currentUserId := 0, currentTime := 2 }, .addNewDiscussionTag 2 { sortKey := [2] }),
      ({ currentUserId := 0, currentTime := 3 }, .addNewDiscussionTag 3 { sortKey := [3] }),
      ({ currentUserId := 0, currentTime := 4 }, .addNewDiscussionCategory 4 { sortKey := [4] } 0),
      ({ currentUserId := 0, currentTime := 5 }, .addNewDiscussionCategory 5 { sortKey := [5] } 0),
      ({ currentUserId := 0, currentTime := 6 }, .addNewDiscussionThread 6 { sortKey := [6] } true),
      ({ currentUserId := 0, currentTime := 7 }, .addNewDiscussionThread 7 { sortKey := [7] } true),
      ({ currentUserId := 0, currentTime := 8 }, .addDiscussionTagToThread 1 6),
      ({ currentUserId := 0, currentTime := 9 }, .addDiscussionTagToThread 1 7),
      ({ currentUserId := 0, currentTime := 10 }, .addDiscussionTagToThread 3 6),
      ({ currentUserId := 0, currentTime := 11 }, .addDiscussionTagToCategory 3 4),
      ({ currentUserId := 0, currentTime := 12 }, .addDiscussionTagToCategory 2 4),
      ({ currentUserId := 0, currentTime := 13 }, .addDiscussionTagToCategory 2 5),
      ({ currentUserId := 0, currentTime := 14 }, .mergeDiscussionTags 1 2)] (by decide +kernel))
  exact absurd ((hplaced.categoryThreads 5 (by decide +kernel) 6).2 ⟨by decide +kernel, 2, by decide +kernel,
    by decide +kernel⟩) (by decide +kernel)

/-- In every run that merges no tags, outside a batch insert every index of every thread collection of the store
and of its users, tags and categories lists exactly the threads of the collection in the order of their
current keys; and no erase from one has failed to find its thread. -/
theorem threadIndexes_of_reachable (h : Reachable DoesNotMergeTags s) (hr : s.Live r) :
    (s.batchInsertInProgress = false → ∀ key ∈ r.keys,
      Library.Indexes (s.indexKey (.threads r key)) (s.index (.threads r key)) (s.threads r)) ∧
      ∀ key ∈ r.keys, s.assertFailed (.threads r key) = false :=
  ⟨fun hb key hkey => (h.threadsSound.sound r hr key hkey).exact' hb,
    fun key hkey => (h.threadsSound.sound r hr key hkey).noFailure⟩

/-- Two threads with a tag, one of which is renamed and the other one posted to. -/
theorem threadIndexes_of_renamed :
    let s := run
      [({ currentUserId := 0, currentTime := 1 }, .addNewUser 1 { sortKey := [1] } "auth"),
        ({ currentUserId := 1, currentTime := 2 }, .addNewDiscussionTag 2 { sortKey := [2] }),
        ({ currentUserId := 1, currentTime := 3 }, .addNewDiscussionThread 3 { sortKey := [3] } true),
        ({ currentUserId := 1, currentTime := 4 }, .addNewDiscussionThread 4 { sortKey := [4] } true),
        ({ currentUserId := 1, currentTime := 5 }, .addDiscussionTagToThread 2 3),
        ({ currentUserId := 1, currentTime := 6 }, .addDiscussionTagToThread 2 4),
        ({ currentUserId := 1, currentTime := 7 }, .changeDiscussionThreadName 3 { sortKey := [5] }),
        ({ currentUserId := 1, currentTime := 8 }, .addNewDiscussionMessageInThread 6 4 true (.text "message"))] .empty
    (s.batchInsertInProgress = false → ∀ key ∈ (ThreadCollectionRef.tag 2).keys,
      Library.Indexes (s.indexKey (.threads (.tag 2) key)) (s.index (.threads (.tag 2) key)) (s.threads (.tag 2))) ∧
      ∀ key ∈ (ThreadCollectionRef.tag 2).keys, s.assertFailed (.threads (.tag 2) key) = false :=
  threadIndexes_of_reachable (Reachable.empty.run_of_admissible _ (by decide +kernel) (by simp [DoesNotMergeTags]))
    (by decide +kernel)

end Forum.Repository
