import Forum.Entities.MessageCounts
import Forum.Repository.ThreadIndexes

/-!
# The message counts of tags and categories

In every run that merges no tags, the message count of each tag and each category of the store is the sum of the
message counts of its threads: by whatever way messages come, move and go, the tags and categories are told exactly
once.
-/

namespace Forum.Repository

open Forum.Entities Forum.Library EntityCollection

variable (ctx : Context) {s s' : EntityCollection} {r : CountingRef}

/-! ### Operations that count nothing -/

theorem messageCountOf_voteDiscussionThreadMessage (id : IdType) (up : Bool) :
    (voteDiscussionThreadMessage ctx s id up).2.messageCountOf r = s.messageCountOf r := by
  unfold voteDiscussionThreadMessage
  dsimp only
  split_ifs <;> cases r <;> rfl

theorem messageCountOf_resetVoteDiscussionThreadMessage (id : IdType) :
    (resetVoteDiscussionThreadMessage ctx s id).2.messageCountOf r = s.messageCountOf r := by
  unfold resetVoteDiscussionThreadMessage DiscussionThreadMessage.removeVote
  dsimp only
  split_ifs <;> cases r <;> rfl

theorem messageCountOf_updateCategoryParent (category : IdType) (newParent : Option IdType) (user : IdType) :
    (updateCategoryParent ctx s category newParent user).messageCountOf r = s.messageCountOf r := by
  have hremove : ∀ (parent : IdType) (s : EntityCollection), (DiscussionCategory.removeChild parent
      (DiscussionCategory.removeTotalsFromChild parent s category) category).messageCountOf r = s.messageCountOf r :=
    fun parent s => (DiscussionCategory.messageCountOf_removeChild category).trans
      (DiscussionCategory.messageCountOf_removeTotalsFromChild category)
  have hadd : ∀ (parent : IdType) (s : EntityCollection), (DiscussionCategory.addChild parent
      (DiscussionCategory.addTotalsFromChild parent s category) category).messageCountOf r = s.messageCountOf r :=
    fun parent s => (DiscussionCategory.messageCountOf_addChild category).trans
      (DiscussionCategory.messageCountOf_addTotalsFromChild category)
  have hparent : (updateCategoryLastUpdated ctx category user
      (DiscussionCategory.updateParent category s newParent)).messageCountOf r = s.messageCountOf r := by
    cases r <;> simp [updateCategoryLastUpdated, EntityCollection.modifyCategory, DiscussionCategory.updateParent,
      Store.messageCountOf]
  unfold updateCategoryParent
  cases s.categoryParent category <;> cases newParent
  · exact hparent
  · exact (hadd _ _).trans hparent
  · exact (hremove _ _).trans hparent
  · exact (hadd _ _).trans ((hremove _ _).trans hparent)

theorem messageCountOf_perform {op : Operation} (hop : op.keepsThreadCollections) :
    (op.perform ctx s).2.messageCountOf r = s.messageCountOf r := by
  cases op <;> simp only [Operation.keepsThreadCollections, Bool.false_eq_true] at hop <;>
    simp only [Operation.perform]
  case upVoteDiscussionThreadMessage => exact messageCountOf_voteDiscussionThreadMessage ctx _ true
  case downVoteDiscussionThreadMessage => exact messageCountOf_voteDiscussionThreadMessage ctx _ false
  case resetVoteDiscussionThreadMessage => exact messageCountOf_resetVoteDiscussionThreadMessage ctx _
  case changeDiscussionCategoryParent id newParentId =>
    unfold changeDiscussionCategoryParent
    dsimp only
    repeat' split
    all_goals
      first
        | rfl
        | exact messageCountOf_updateCategoryParent ctx _ _ _
  case deleteDiscussionCategory id =>
    unfold deleteDiscussionCategory
    dsimp only
    split_ifs
    · refine (messageCountOf_deleteDiscussionCategory ctx id).trans ?_
      exact foldl_view (fun s : EntityCollection => s.messageCountOf r) fun s' child _ =>
        messageCountOf_updateCategoryParent ctx child none _
    · rfl
  case deletePrivateMessage =>
    unfold deletePrivateMessage
    split_ifs
    · exact messageCountOf_deletePrivateMessage _ true true
    · rfl
  case deleteAttachment =>
    unfold deleteAttachment
    split_ifs
    · exact messageCountOf_deleteAttachment _ true
    · rfl
  case changeDiscussionCategoryDisplayOrder id value =>
    unfold changeDiscussionCategoryDisplayOrder DiscussionCategory.updateDisplayOrder
    split_ifs <;> cases r <;> simp [updateCategoryLastUpdated, EntityCollection.modifyCategory, Store.messageCountOf]
  all_goals
    simp only [changeUserName, changeUserInfo, changeUserTitle, changeUserSignature, changeUserAttachmentQuota,
      changeUserLogo, deleteUserLogo, changeUserField, updateUserLastSeen, User.updateLastSeen,
      changeAttachmentName, changeAttachmentApproval, addAttachmentToDiscussionThreadMessage,
      removeAttachmentFromDiscussionThreadMessage, changeDiscussionThreadMessageContent,
      changeDiscussionThreadMessageApproval, setMessageCommentToSolved, quoteUserInMessage, changeDiscussionTagName,
      changeDiscussionTagUiBlob, changeDiscussionCategoryName, changeDiscussionCategoryDescription,
      Store.messageCountOf]
    repeat' split
    all_goals
      simp [User.updateName, EntityCollection.modifyUser, EntityCollection.modifyThread,
        EntityCollection.modifyMessage, EntityCollection.modifyTag, EntityCollection.modifyCategory,
        DiscussionThread.resetVisitorsSinceLastEdit, DiscussionTag.updateName, DiscussionCategory.updateName,
        DiscussionThread.setLatestVisibleChange, DiscussionThreadMessage.changeSolvedCommentsCount,
        updateTagLastUpdated, updateCategoryLastUpdated,
        DiscussionThreadMessage.addAttachment, DiscussionThreadMessage.removeAttachment,
        EntityCollection.eraseAttachmentMessage]

/-! ### Functions of the repositories -/

theorem messageSurplus_updateThreadLastUpdated (thread user : IdType) :
    (updateThreadLastUpdated ctx thread user s).messageSurplus r = s.messageSurplus r := by
  have hstore : (updateThreadLastUpdated ctx thread user s).toOwnership = s.toOwnership ∧
      (updateThreadLastUpdated ctx thread user s).toPlacement = s.toPlacement ∧
        (updateThreadLastUpdated ctx thread user s).toCounters = s.toCounters := by
    simp [updateThreadLastUpdated, DiscussionThread.toStore_updateLastUpdated,
      DiscussionThread.setLatestVisibleChange, DiscussionThread.updateLastUpdatedDetails,
      DiscussionThread.updateLastUpdatedBy, EntityCollection.modifyThread]
  obtain ⟨ho, -, hc⟩ := hstore
  exact Store.messageSurplus_congr (by cases r <;> simp [Store.messageCountOf, hc])
    (by cases r <;> simp [Store.threads, CountingRef.collection]) fun t _ => by rw [ho]

theorem messageSurplus_updateCategoryLastUpdated (category user : IdType) :
    (updateCategoryLastUpdated ctx category user s).messageSurplus r = s.messageSurplus r := by
  cases r <;> rfl

/-- The tags and categories of a thread are told of messages. -/
theorem messageSurplus_updateMessageCounts (thread : IdType) (difference : ℤ) :
    (updateMessageCounts s thread difference).messageSurplus r =
      s.messageSurplus r + if s.Named thread r then difference else 0 := by
  have hcount : (updateMessageCounts s thread difference).messageCountOf r =
      s.messageCountOf r + if s.Named thread r then difference else 0 := by
    unfold updateMessageCounts
    rw [toStore_foldl_updateMessageCount_category _ _ _ (nodup_ascending _),
      toStore_foldl_updateMessageCount_tag _ _ (nodup_ascending _)]
    cases r with
    | tag g => by_cases hg : g ∈ s.threadTags thread <;> simp [Store.messageCountOf, Store.Named, hg]
    | category c => by_cases hc : c ∈ s.threadCategories thread <;> simp [Store.messageCountOf, Store.Named, hc]
  unfold Store.messageSurplus
  rw [hcount, surplus_add]
  have ho := (ownershipKept_updateMessageCounts s thread difference).1
  have hp := toPlacement_updateMessageCounts s thread difference
  cases r <;> simp only [Store.threads, CountingRef.collection, ho, hp]

theorem messageSurplus_updateThreadOnMoveMessage (thread : IdType) (delta : ℤ) :
    (updateThreadOnMoveMessage ctx s thread delta).messageSurplus r =
      s.messageSurplus r + if s.Named thread r then delta else 0 := by
  unfold updateThreadOnMoveMessage
  refine (messageSurplus_updateMessageCounts thread delta).trans ?_
  cases r <;> rfl

/-- The collections and what threads say about them depend on the placement. -/
theorem named_congr {s s' : Store} (h : s'.toPlacement = s.toPlacement) (thread : IdType) :
    (s'.Named thread r ↔ s.Named thread r) ∧ s'.threads r.collection = s.threads r.collection := by
  cases r <;> simp [Store.Named, Store.threads, CountingRef.collection, h]

/-! ### Operations that count -/

section

variable (h : ThreadsSound s) (ha : Authored s.toOwnership) (hr : s.Live r.collection)

include h ha hr

/-- The message joins the one thread before it leaves the other one. -/
theorem messageSurplus_moveDiscussionThreadMessage (message intoThread : IdType) :
    (moveDiscussionThreadMessage ctx s message intoThread).2.messageSurplus r = s.messageSurplus r := by
  unfold moveDiscussionThreadMessage
  split
  next hknown =>
    obtain ⟨hm, hinto⟩ := hknown
    extract_lets fromThread s₁ s₂ s₃ s₄
    split
    next => rfl
    next hne =>
      have hfrom : fromThread ∈ s.allThreads := ha.messageParent message hm
      have hin : message ∈ s.threadMessages fromThread := (ha.threadMessages _ hfrom message).2 ⟨hm, rfl⟩
      have hout : message ∉ s.threadMessages intoThread := fun hmem =>
        hne ((ha.threadMessages _ hinto message).1 hmem).2
      have hp₁ : s₁.toPlacement = s.toPlacement := by simp [s₁]
      have hp₂ : s₂.toPlacement = s.toPlacement := by simp [s₂, hp₁]
      have hp₃ : s₃.toPlacement = s.toPlacement := by simp [s₃, hp₂]
      have h₁ : s₁.messageSurplus r = s.messageSurplus r - if s.Named intoThread r then 1 else 0 := by
        simp only [named_iff h.placed hr hinto]
        exact DiscussionThread.messageSurplus_insertMessage hout
      have h₂ : s₂.messageSurplus r = s.messageSurplus r := by
        refine (messageSurplus_updateThreadOnMoveMessage ctx intoThread 1).trans ?_
        simp only [h₁, (named_congr hp₁ intoThread).1]
        exact sub_add_cancel _ _
      have hmessages₂ : s₂.threadMessages fromThread = s.threadMessages fromThread := by
        rw [(ownershipKept_updateThreadOnMoveMessage ctx s₁ intoThread 1).1]
        simp [s₁, Function.update_of_ne hne]
      clear_value s₂
      have hin₂ : message ∈ s₂.threadMessages fromThread := hmessages₂ ▸ hin
      have h₃ : s₃.messageSurplus r = s.messageSurplus r + if s.Named fromThread r then 1 else 0 := by
        refine (DiscussionThread.messageSurplus_deleteDiscussionThreadMessage hin₂).trans ?_
        simp only [h₂, (named_congr hp₂ fromThread).2, named_iff h.placed hr hfrom]
      clear_value s₃
      have h₄ : s₄.messageSurplus r = s.messageSurplus r := by
        refine (messageSurplus_updateThreadOnMoveMessage ctx fromThread (-1)).trans ?_
        simp only [h₃, (named_congr hp₃ fromThread).1]
        split_ifs <;> simp
      clear_value s₄
      refine Eq.trans ?_ h₄
      cases r <;> rfl
  next => rfl

/-- The messages are in both threads when the one they leave is deleted. -/
theorem messageSurplus_mergeDiscussionThreads (fromId intoId : IdType) :
    (mergeDiscussionThreads ctx s fromId intoId).2.messageSurplus r = s.messageSurplus r := by
  unfold mergeDiscussionThreads
  by_cases hne : fromId = intoId
  · rw [if_pos hne]
  rw [if_neg hne]
  by_cases hknown : fromId ∈ s.allThreads ∧ intoId ∈ s.allThreads
  · rw [if_pos hknown]
    obtain ⟨hfrom, hinto⟩ := hknown
    have hdisjoint : Disjoint (s.threadMessages intoId) (s.threadMessages fromId) :=
      Finset.disjoint_left.2 fun m hm hm' => hne <| by
        rw [← ((ha.threadMessages _ hfrom m).1 hm').2, ((ha.threadMessages _ hinto m).1 hm).2]
    extract_lets s₁ s₂ s₃ s₄ s₅ s₆
    -- the messages name their new thread
    have hstore₂ : s₂.toPlacement = s.toPlacement ∧ s₂.allThreads = s.allThreads ∧
        s₂.threadMessages = s.threadMessages ∧ s₂.messageSurplus r = s.messageSurplus r := by
      have hfold := foldl_view (f := fun s m => DiscussionThreadMessage.setParentThread m s intoId)
        (l := ascending (s₁.threadMessages fromId)) (s := s₁) (fun s : EntityCollection =>
          (s.toPlacement, s.allThreads, s.threadMessages, s.messageSurplus r)) fun _ _ _ => by cases r <;> rfl
      obtain ⟨hp, hall, hmessages, hsurplus⟩ : _ ∧ _ ∧ _ ∧ _ := by simpa only [Prod.mk.injEq] using hfold
      have ho₁ := (ownershipKept_updateThreadLastUpdated ctx s intoId (getCurrentUser ctx s)).1
      exact ⟨hp.trans (toPlacement_updateThreadLastUpdated ctx s _ _), hall.trans (congrArg Ownership.allThreads ho₁),
        hmessages.trans (congrArg Ownership.threadMessages ho₁),
        hsurplus.trans (messageSurplus_updateThreadLastUpdated ctx _ _)⟩
    obtain ⟨hp₂, hall₂, hmessages₂, hsurplus₂⟩ := hstore₂
    clear_value s₂
    have hp₃ : s₃.toPlacement = s.toPlacement := by simp [s₃, hp₂]
    have hall₃ : s₃.allThreads = s.allThreads := by simp [s₃, hall₂]
    have hmessages₃ : s₃.threadMessages fromId = s.threadMessages fromId := by simp [s₃, hmessages₂, hne]
    have hsurplus₃ : s₃.messageSurplus r =
        s.messageSurplus r - if s.Named intoId r then s.threadMessageCount fromId else 0 := by
      refine (DiscussionThread.messageSurplus_insertMessages (by rwa [hmessages₂])).trans ?_
      simp only [hsurplus₂, (named_congr hp₂ fromId).2, named_iff h.placed hr hinto, hmessages₂,
        Ownership.threadMessageCount]
    clear_value s₃
    have hcount₃ : s₃.threadMessageCount fromId = s.threadMessageCount fromId := by
      simp only [Ownership.threadMessageCount, hmessages₃]
    have ho₄ : s₄.toOwnership = s₃.toOwnership := (ownershipKept_updateMessageCounts s₃ _ _).1
    have hp₄ : s₄.toPlacement = s.toPlacement := (toPlacement_updateMessageCounts s₃ _ _).trans hp₃
    have hsurplus₄ : s₄.messageSurplus r =
        s₃.messageSurplus r + if s.Named fromId r then -s.threadMessageCount fromId else 0 := by
      refine (messageSurplus_updateMessageCounts fromId _).trans ?_
      simp only [hcount₃, (named_congr hp₃ fromId).1]
    clear_value s₄
    have hcount₄ : s₄.threadMessageCount fromId = s.threadMessageCount fromId := by rw [ho₄, hcount₃]
    have ho₅ : s₅.toOwnership = s₃.toOwnership := (ownershipKept_updateMessageCounts s₄ _ _).1.trans ho₄
    have hp₅ : s₅.toPlacement = s.toPlacement := (toPlacement_updateMessageCounts s₄ _ _).trans hp₄
    have hsurplus₅ : s₅.messageSurplus r =
        s.messageSurplus r - if s.Named fromId r then s.threadMessageCount fromId else 0 := by
      refine (messageSurplus_updateMessageCounts intoId _).trans ?_
      simp only [hsurplus₄, hsurplus₃, hcount₄, (named_congr hp₄ intoId).1]
      split_ifs <;> abel
    clear_value s₅
    have hstore₆ : s₆.toPlacement = s.toPlacement ∧ s₆.allThreads = s.allThreads ∧
        s₆.threadMessages fromId = s.threadMessages fromId ∧ s₆.messageSurplus r = s₅.messageSurplus r := by
      have hfold := foldl_view (f := fun s user =>
          DiscussionThread.insertSubscribedUser intoId (s.threadsAdd (.subscribedBy user) intoId) user)
        (l := ascending (s₅.threadSubscribedUsers fromId)) (s := s₅) (fun s : EntityCollection =>
          (s.toPlacement, s.allThreads, s.threadMessages, s.messageSurplus r)) fun s user _ => by
            cases r <;> simp [DiscussionThread.insertSubscribedUser, Store.setThreads] <;> rfl
      obtain ⟨hp, hall, hmessages, hsurplus⟩ : _ ∧ _ ∧ _ ∧ _ := by simpa only [Prod.mk.injEq] using hfold
      exact ⟨hp.trans hp₅, hall.trans (by rw [ho₅, hall₃]), (congrFun hmessages fromId).trans (by rw [ho₅, hmessages₃]),
        hsurplus⟩
    obtain ⟨hp₆, hall₆, hmessages₆, hsurplus₆⟩ := hstore₆
    clear_value s₆
    refine (messageSurplus_deleteDiscussionThread ctx ?_ (hall₆ ▸ hfrom) (fun hf => by cases hf) ?_ true).trans ?_
    · rw [(named_congr hp₆ fromId).1, (named_congr hp₆ fromId).2]
      exact named_iff h.placed hr hfrom
    · rw [hp₆]
      exact fun tag htag _ category hcategory => h.placed.shares h.known hfrom htag hcategory
    · simp only [hsurplus₆, hsurplus₅, (named_congr hp₆ fromId).2, named_iff h.placed hr hfrom, true_and,
        Ownership.threadMessageCount, hmessages₆]
      exact sub_add_cancel _ _
  · rw [if_neg hknown]

/-- What no operation that creates nothing and merges no tags changes about what is counted. -/
theorem messageSurplus_perform {op : Operation} (hid : op.newId = none)
    (hmerge : ∀ fromId intoId, op ≠ .mergeDiscussionTags fromId intoId) :
    (op.perform ctx s).2.messageSurplus r = s.messageSurplus r := by
  have hparent : ∀ t ∈ s.allThreads, ∀ m ∈ s.threadMessages t, s.messageParentThread m = t := fun t ht m hm =>
    ((ha.threadMessages t ht m).1 hm).2
  have hmem : ∀ m ∈ s.allMessages, m ∈ s.threadMessages (s.messageParentThread m) := fun m hm =>
    (ha.threadMessages _ (ha.messageParent m hm) m).2 ⟨hm, rfl⟩
  by_cases hk : op.keepsThreadCollections
  · exact messageSurplus_of_collectionKept (collectionKept_perform ctx hk) (messageCountOf_perform ctx hk)
  cases op <;> simp only [Operation.keepsThreadCollections, not_true_eq_false, Bool.false_eq_true,
    not_false_eq_true] at hk <;> simp only [Operation.newId, reduceCtorEq] at hid <;> simp only [Operation.perform]
  case mergeDiscussionTags => exact absurd rfl (hmerge _ _)
  case mergeDiscussionThreads fromId intoId => exact messageSurplus_mergeDiscussionThreads ctx h ha hr fromId intoId
  case moveDiscussionThreadMessage message intoThread =>
    exact messageSurplus_moveDiscussionThreadMessage ctx h ha hr message intoThread
  case subscribeToDiscussionThread id =>
    unfold subscribeToDiscussionThread
    dsimp only
    split_ifs <;> cases r <;> simp [DiscussionThread.insertSubscribedUser, Store.setThreads] <;> rfl
  case unsubscribeFromDiscussionThread id =>
    unfold unsubscribeFromDiscussionThread
    dsimp only
    split_ifs <;> cases r <;> simp [DiscussionThread.eraseSubscribedUser, Store.setThreads] <;> rfl
  case addDiscussionTagToThread tag thread =>
    unfold addDiscussionTagToThread
    dsimp only
    split_ifs
    · cases r <;> rfl
    · refine (messageSurplus_updateThreadLastUpdated ctx thread _).trans ?_
      refine (DiscussionTag.messageSurplus_insertDiscussionThread ctx).trans ?_
      cases r <;> rfl
    · rfl
  case removeDiscussionTagFromThread tag thread =>
    unfold removeDiscussionTagFromThread
    dsimp only
    split_ifs
    · refine (messageSurplus_updateThreadLastUpdated ctx thread _).trans ?_
      refine (DiscussionTag.messageSurplus_deleteDiscussionThread ctx).trans ?_
      cases r <;> rfl
    · cases r <;> rfl
    · rfl
  case addDiscussionTagToCategory tag category =>
    unfold addDiscussionTagToCategory
    dsimp only
    split_ifs with hknown
    · rfl
    · have hn : (s.iterateThreads (.tag tag)).Nodup := (h.sound (.tag tag) hknown.1).listing.1
      have hs : (DiscussionTag.addCategory tag s category).messageSurplus r = s.messageSurplus r := by cases r <;> rfl
      have hlist : (DiscussionTag.addCategory tag s category).iterateThreads (.tag tag) = s.iterateThreads (.tag tag) :=
        rfl
      rw [← hlist] at hn
      generalize DiscussionTag.addCategory tag s category = s₁ at hn hs
      exact (messageSurplus_updateCategoryLastUpdated ctx category _).trans
        ((DiscussionCategory.messageSurplus_addTag ctx hn).trans hs)
    · rfl
  case removeDiscussionTagFromCategory tag category =>
    unfold removeDiscussionTagFromCategory
    dsimp only
    split_ifs
    · refine (messageSurplus_updateCategoryLastUpdated ctx category _).trans ?_
      refine (DiscussionCategory.messageSurplus_removeTag ctx).trans ?_
      cases r <;> rfl
    · rfl
    · rfl
  case startBatchInsert => cases r <;> rfl
  case stopBatchInsert =>
    rw [toStore_stopBatchInsert]
    cases r <;> rfl
  case changeDiscussionThreadName id name =>
    unfold changeDiscussionThreadName
    split_ifs
    · refine (messageSurplus_updateThreadLastUpdated ctx id _).trans ?_
      rw [DiscussionThread.toStore_updateName]
      cases r <;> rfl
    · rfl
  case changeDiscussionThreadPinDisplayOrder id value =>
    unfold changeDiscussionThreadPinDisplayOrder
    split_ifs
    · refine (messageSurplus_updateThreadLastUpdated ctx id _).trans ?_
      rw [DiscussionThread.toStore_updatePinDisplayOrder]
      cases r <;> rfl
    · rfl
  case changeDiscussionThreadApproval id approved =>
    unfold changeDiscussionThreadApproval
    split_ifs
    · refine (messageSurplus_updateThreadLastUpdated ctx id _).trans ?_
      cases r <;> rfl
    · rfl
  case deleteDiscussionThread id =>
    unfold deleteDiscussionThread
    split_ifs with hid
    · refine (messageSurplus_deleteDiscussionThread ctx (named_iff h.placed hr hid) hid (fun _ => hparent id hid)
        (fun tag htag _ category hcategory => h.placed.shares h.known hid htag hcategory) true).trans ?_
      simp
    · rfl
  case deleteDiscussionMessage id =>
    unfold deleteDiscussionMessage
    split_ifs with hid
    · exact messageSurplus_deleteDiscussionThreadMessage ctx (named_iff h.placed hr (ha.messageParent id hid))
        (fun _ _ => hmem id hid) true
    · rfl
  case deleteDiscussionTag id =>
    unfold deleteDiscussionTag
    split_ifs
    · exact messageSurplus_deleteDiscussionTag ctx id
    · rfl
  case deleteUser id =>
    unfold deleteUser
    split_ifs with hid
    · exact messageSurplus_deleteUser ctx h.placed h.known hr hid
        (fun t ht => ((ha.userThreads id (.inr hid) t).1 ht).1)
        (fun m hm => ha.messageParent m ((ha.userMessages id (.inr hid) m).1 hm).1) hmem hparent
    · rfl

end

/-! ### Operations that create an entity -/

theorem messageSurplus_addNewDiscussionThread (id : IdType) (name : NameType) (approved : Bool) :
    (addNewDiscussionThread ctx s id name approved).2.messageSurplus r = (s.construct id).messageSurplus r := by
  have hp := toPlacement_addNewDiscussionThread ctx (s := s) id name approved
  have ho := toOwnership_addNewDiscussionThread ctx s id name approved
  refine Store.messageSurplus_congr ?_ ?_ fun t _ => ?_
  · cases r <;> simp [addNewDiscussionThread, EntityCollection.createDiscussionThread, EntityCollection.construct,
      EntityCollection.modifyThread, DiscussionThread.setLatestVisibleChange,
      DiscussionThread.toStore_updateLastUpdated, Store.setThreads, Store.messageCountOf]
  · cases r <;> simp only [Store.threads, CountingRef.collection, hp] <;> rfl
  · rw [ho]
    rfl

/-- A new message is one of its thread and is told of. -/
theorem messageSurplus_addNewDiscussionMessageInThread {id thread : IdType} (ht : thread ∈ s.allThreads)
    (hid : id ∉ s.threadMessages thread) (hne : thread ≠ id)
    (hnamed : (s.construct id).Named thread r ↔ thread ∈ (s.construct id).threads r.collection) (approved : Bool)
    (content : MessageContent) :
    (addNewDiscussionMessageInThread ctx s id thread approved content).2.messageSurplus r =
      (s.construct id).messageSurplus r := by
  unfold addNewDiscussionMessageInThread
  rw [if_pos ht]
  extract_lets user s₁ s₂
  have hs₂ : s₂.messageSurplus r = (s.construct id).messageSurplus r := by cases r <;> rfl
  have hp₂ : s₂.toPlacement = (s.construct id).toPlacement := rfl
  have hmessages₂ : s₂.threadMessages thread = s.threadMessages thread := Function.update_of_ne hne _ _
  clear_value s₂
  split
  next => exact hs₂
  all_goals
    extract_lets s₃ s₄ s₅ s₆ s₇ s₈ s₉ s₁₀
    have hs₄ : s₄.messageSurplus r = (s.construct id).messageSurplus r := by
      refine Eq.trans ?_ hs₂
      simp only [s₄, toStore_messagesAdd]
      cases r <;> rfl
    have hp₄ : s₄.toPlacement = (s.construct id).toPlacement := by
      simpa [s₄, s₃, EntityCollection.modifyMessage, Store.setMessages] using hp₂
    have hmessages₄ : s₄.threadMessages thread = s.threadMessages thread := by
      simpa [s₄, s₃, EntityCollection.modifyMessage, Store.setMessages] using hmessages₂
    clear_value s₄
    have hp₅ : s₅.toPlacement = (s.construct id).toPlacement := by simp [s₅, hp₄]
    have hs₅ : s₅.messageSurplus r =
        (s.construct id).messageSurplus r - if (s.construct id).Named thread r then 1 else 0 := by
      refine (DiscussionThread.messageSurplus_insertMessage (by rwa [hmessages₄])).trans ?_
      simp only [hs₄, (named_congr hp₄ thread).2, hnamed]
    clear_value s₅
    have hs₈ : s₈.messageSurplus r = s₅.messageSurplus r ∧ s₈.toPlacement = s₅.toPlacement := by
      simp only [s₈]
      split_ifs <;> cases r <;> exact ⟨rfl, rfl⟩
    clear_value s₈
    have hs₉ : s₉.messageSurplus r = (s.construct id).messageSurplus r := by
      refine (messageSurplus_updateMessageCounts thread 1).trans ?_
      simp only [hs₈.1, hs₅, (named_congr (hs₈.2.trans hp₅) thread).1]
      exact sub_add_cancel _ _
    clear_value s₉
    refine Eq.trans ?_ hs₉
    simp only [s₁₀, toStore_threadsAdd, toStore_messagesAdd]
    cases r <;> rfl

/-- The operations that create an entity but neither a thread nor a message have nothing to count. -/
theorem messageSurplus_perform_of_newId {op : Operation} {id : IdType} (hid : op.newId = some id)
    (hthread : ∀ id name approved, op ≠ .addNewDiscussionThread id name approved)
    (hmessage : ∀ id thread approved content, op ≠ .addNewDiscussionMessageInThread id thread approved content) :
    (op.perform ctx s).2 = s ∨ (op.perform ctx s).2.messageSurplus r = (s.construct id).messageSurplus r := by
  refine or_iff_not_imp_left.2 fun hne => ?_
  cases op <;> simp only [Operation.newId, Option.some.injEq, reduceCtorEq] at hid
  all_goals subst hid
  all_goals simp only [Operation.perform] at hne ⊢
  case addNewDiscussionThread => exact absurd rfl (hthread _ _ _)
  case addNewDiscussionMessageInThread => exact absurd rfl (hmessage _ _ _ _)
  case addNewUser id name auth =>
    refine messageSurplus_of_collectionKept ((addNewUser_collections ctx id name auth).resolve_left hne) ?_
    unfold addNewUser at hne ⊢
    split_ifs at hne ⊢
    · exact absurd rfl hne
    · exact absurd rfl hne
    · cases r <;>
        simp [EntityCollection.createUser, EntityCollection.modifyUser, User.updateAuth, Store.messageCountOf]
  case sendPrivateMessage id destination content =>
    refine messageSurplus_of_collectionKept
      ((sendPrivateMessage_collections ctx id destination content).resolve_left hne) ?_
    unfold sendPrivateMessage at hne ⊢
    dsimp only at hne ⊢
    split_ifs at hne ⊢
    · exact absurd rfl hne
    · cases r <;>
        simp [EntityCollection.createPrivateMessage, EntityCollection.modifyUser, Store.messageCountOf] <;> rfl
    · exact absurd rfl hne
  case addNewAttachment id name size approved =>
    refine messageSurplus_of_collectionKept (addNewAttachment_collections ctx id name size approved) ?_
    unfold addNewAttachment
    refine (messageCountOf_attachmentsAdd _ id).trans ((messageCountOf_attachmentsAdd _ id).trans ?_)
    cases r <;> rfl
  case addCommentToDiscussionThreadMessage id message content =>
    refine messageSurplus_of_collectionKept
      ((addCommentToDiscussionThreadMessage_collections ctx id message content).resolve_left hne) ?_
    unfold addCommentToDiscussionThreadMessage at hne ⊢
    dsimp only at hne ⊢
    split_ifs at hne ⊢
    · simp only [toStore_commentsAdd]
      cases r <;> rfl
    · exact absurd rfl hne
  case addNewDiscussionTag id name =>
    refine messageSurplus_of_collectionKept ((addNewDiscussionTag_collections ctx id name).resolve_left hne) ?_
    unfold addNewDiscussionTag at hne ⊢
    split_ifs at hne ⊢
    · exact absurd rfl hne
    · simp only [toStore_tagsAdd]
      cases r <;> rfl
  case addNewDiscussionCategory id name parentId =>
    refine messageSurplus_of_collectionKept
      ((addNewDiscussionCategory_collections ctx id name parentId).resolve_left hne) ?_
    unfold addNewDiscussionCategory at hne ⊢
    dsimp only at hne ⊢
    split_ifs at hne ⊢
    · exact absurd rfl hne
    all_goals
      simp only [toStore_categoriesAdd]
      cases r <;> rfl

/-! ### Runs -/

/-- Each tag and each category of the store counts the messages of its threads. -/
def Counted (s : Store) : Prop := ∀ r : CountingRef, s.Live r.collection → s.messageSurplus r = 0

theorem Counted.step (h : Counted s.toStore) (hs : ThreadsSound s) (hl : ThreadsLinked s.toStore) {op : Operation}
    (hnew : ∀ id, op.newId = some id → (id ∉ s.allThreads ∧ id ∉ s.allMessages) ∧ id ∉ s.tags ∧ id ∉ s.categories)
    (hmerge : ∀ fromId intoId, op ≠ .mergeDiscussionTags fromId intoId) : Counted (op.perform ctx s).2.toStore := by
  intro r hr
  have hlive := hs.live_perform ctx hl.authored hmerge hr
  by_cases hid : ∃ id, op.newId = some id
  · obtain ⟨id, hid⟩ := hid
    obtain ⟨⟨hthreads, hmessages⟩, htags, hcategories⟩ := hnew id hid
    have howner : r.collection.owner ≠ some id → s.Live r.collection := fun howner =>
      hlive.resolve_right fun ⟨id', hnewId, hid'⟩ => howner (by rw [hid', ← hnewId, hid])
    -- a new entity has nothing to count, and is of no collection
    have hconstruct : (s.construct id).messageSurplus r = 0 := by
      by_cases ho : r.collection.owner = some id
      · exact messageSurplus_construct_self ho
      · have hr' := howner ho
        exact (messageSurplus_construct_of_ne ho fun hmem => hthreads (hl.threads_subset hr' hmem)).trans (h r hr')
    by_cases hthread : ∃ id name approved, op = .addNewDiscussionThread id name approved
    · obtain ⟨id', name, approved, rfl⟩ := hthread
      obtain rfl : id' = id := by simpa [Operation.newId] using hid
      exact (messageSurplus_addNewDiscussionThread ctx id' name approved).trans hconstruct
    by_cases hmessage : ∃ id thread approved content, op = .addNewDiscussionMessageInThread id thread approved content
    · obtain ⟨id', thread, approved, content, rfl⟩ := hmessage
      obtain rfl : id' = id := by simpa [Operation.newId] using hid
      by_cases ht : thread ∈ s.allThreads
      · have hp : (addNewDiscussionMessageInThread ctx s id' thread approved content).2.toPlacement =
            (s.construct id').toPlacement := toPlacement_addNewDiscussionMessageInThread ctx ht approved content
        have hr' : (s.construct id').Live r.collection := (live_congr hp).1 hr
        have hplaced : Placed (s.construct id').allThreads (s.construct id').toPlacement :=
          hs.placed.construct hthreads htags hcategories
        have hne : thread ≠ id' := by
          rintro rfl
          exact hthreads ht
        refine (messageSurplus_addNewDiscussionMessageInThread ctx ht (fun hmem => ?_) hne (named_iff hplaced hr' ht)
          approved content).trans hconstruct
        exact hmessages ((hl.authored.threadMessages thread ht id').1 hmem).1
      · have heq : Operation.perform ctx s (.addNewDiscussionMessageInThread id' thread approved content) =
            (.notFound, s) := if_neg ht
        rw [heq] at hr ⊢
        exact h r hr
    rcases messageSurplus_perform_of_newId ctx (r := r) (s := s) hid (fun _ _ _ he => hthread ⟨_, _, _, he⟩)
      (fun _ _ _ _ he => hmessage ⟨_, _, _, _, he⟩) with heq | heq
    · rw [heq] at hr ⊢
      exact h r hr
    · exact heq.trans hconstruct
  · have hr' : s.Live r.collection := hlive.resolve_right fun ⟨id, hnewId, _⟩ => hid ⟨id, hnewId⟩
    have hnone : op.newId = none := Option.eq_none_iff_forall_ne_some.2 fun id hid' => hid ⟨id, hid'⟩
    exact (messageSurplus_perform ctx hs hl.authored hr' hnone hmerge).trans (h r hr')

theorem Reachable.counted (h : Reachable DoesNotMergeTags s) : Counted s.toStore := by
  induction h with
  | empty =>
    intro r hr
    cases r <;> exact absurd hr (Finset.notMem_empty _)
  | step ctx op reached callable admitted ih =>
    have hs := reached.threadsSound
    refine ih.step ctx hs ⟨hs.placed, reached.authored, reached.registeredSubscriptions⟩ (fun id hid => ?_) admitted
    have hfresh := (callable.fresh id hid).2
    exact ⟨⟨fun hm => hfresh (reached.issued.threads hm), fun hm => hfresh (reached.issued.messages hm)⟩,
      fun hm => hfresh (reached.tags_issued hm), fun hm => hfresh (reached.hierarchySound.issued hm)⟩

/-- In every run that merges no tags, the message count of a tag and of a category is the sum of the message counts
of its threads. -/
theorem messageCounts_of_reachable (h : Reachable DoesNotMergeTags s) :
    (∀ tag ∈ s.tags, s.tagMessageCount tag = ∑ thread ∈ s.tagThreads tag, s.threadMessageCount thread) ∧
      ∀ category ∈ s.categories,
        s.categoryMessageCount category = ∑ thread ∈ s.categoryThreads category, s.threadMessageCount thread :=
  ⟨fun tag htag => surplus_eq_zero.1 (h.counted (.tag tag) htag),
    fun category hcategory => surplus_eq_zero.1 (h.counted (.category category) hcategory)⟩

/-- Two threads share a tag, and one of them a category; a message moves to the other thread, which is merged into
the first one. -/
theorem messageCounts_of_merged :
    let s := run
      [({ currentUserId := 0, currentTime := 1 }, .addNewDiscussionTag 1 { sortKey := [1] }),
        ({ currentUserId := 0, currentTime := 2 }, .addNewDiscussionCategory 2 { sortKey := [2] } 0),
        ({ currentUserId := 0, currentTime := 3 }, .addNewDiscussionThread 3 { sortKey := [3] } true),
        ({ currentUserId := 0, currentTime := 4 }, .addNewDiscussionThread 4 { sortKey := [4] } true),
        ({ currentUserId := 0, currentTime := 5 }, .addNewDiscussionMessageInThread 5 3 true (.text "first")),
        ({ currentUserId := 0, currentTime := 6 }, .addDiscussionTagToThread 1 3),
        ({ currentUserId := 0, currentTime := 7 }, .addDiscussionTagToCategory 1 2),
        ({ currentUserId := 0, currentTime := 8 }, .addDiscussionTagToThread 1 4),
        ({ currentUserId := 0, currentTime := 9 }, .addNewDiscussionMessageInThread 6 3 true (.text "second")),
        ({ currentUserId := 0, currentTime := 10 }, .moveDiscussionThreadMessage 6 4),
        ({ currentUserId := 0, currentTime := 11 }, .mergeDiscussionThreads 4 3)] .empty
    (∀ tag ∈ s.tags, s.tagMessageCount tag = ∑ thread ∈ s.tagThreads tag, s.threadMessageCount thread) ∧
      ∀ category ∈ s.categories,
        s.categoryMessageCount category = ∑ thread ∈ s.categoryThreads category, s.threadMessageCount thread :=
  messageCounts_of_reachable (Reachable.empty.run_of_admissible _ (by decide +kernel) (by simp [DoesNotMergeTags]))

end Forum.Repository
