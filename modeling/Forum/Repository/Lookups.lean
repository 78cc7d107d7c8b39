import Forum.Entities.LookupCollections
import Forum.Repository.CategoryHierarchy

/-!
# Lookups by name and by auth string

Users, tags and categories are looked up by their names, users also by their auth strings, and listed in
the orders of their other indexes. An operation that adds one of them looks for its name first, as does
one that renames a user or a category. Two things go wrong: a tag may be renamed to the name of another
one, and a user may be added while another has an empty auth string, which the new user has too until
it is given its own; the index then replaces the other user by the new one.
-/

namespace Forum.Repository

open Forum.Entities Forum.Library

variable (ctx : Context) (s : EntityCollection)

/-! ### Functions of the repositories -/

theorem lookupsKept_updateThreadLastUpdated (thread user : IdType) :
    LookupsKept [] [] s (updateThreadLastUpdated ctx thread user s) := by
  unfold updateThreadLastUpdated
  refine LookupsKept.trans' (.modifyThread thread _ _) (LookupsKept.trans' (.modifyThread thread _ _) ?_)
  exact (DiscussionThread.lookupsKept_updateLastUpdated thread _ _).trans' (.modifyThread thread _ s)

theorem lookupsKept_updateTagLastUpdated (tag user : IdType) :
    LookupsKept [] [] s (updateTagLastUpdated ctx tag user s) := .modifyTag tag _ s fun _ => rfl

theorem lookupsKept_updateCategoryLastUpdated (category user : IdType) :
    LookupsKept [] [] s (updateCategoryLastUpdated ctx category user s) :=
  .modifyCategory category _ s fun _ => ⟨rfl, rfl⟩

theorem lookupsStep_updateMessageCounts (thread : IdType) (difference : ℤ) :
    LookupsStep s (updateMessageCounts s thread difference) := by
  refine .foldl (fun s category _ => .of_sound (by simp)
    (DiscussionCategory.lookupsSound_updateMessageCount category thread s difference)) ?_
  exact .foldl (fun s tag _ => DiscussionTag.lookupsStep_updateMessageCount tag s difference) (.refl s)

theorem lookupsStep_updateThreadOnMoveMessage (thread : IdType) (delta : ℤ) :
    LookupsStep s (updateThreadOnMoveMessage ctx s thread delta) :=
  (lookupsStep_updateMessageCounts _ thread delta).trans' (.of_kept_nil
    ((LookupsKept.modifyThread thread _ _).trans' (.modifyThread thread _ s)))

theorem lookupsStep_updateCategoryParent (category : IdType) (newParent : Option IdType) (user : IdType) :
    LookupsStep s (updateCategoryParent ctx s category newParent user) := by
  have hparent : LookupsStep s (updateCategoryLastUpdated ctx category user
      (DiscussionCategory.updateParent category s newParent)) :=
    (LookupsStep.of_kept_nil (lookupsKept_updateCategoryLastUpdated ctx _ category user)).trans'
      (DiscussionCategory.lookupsStep_updateParent category s newParent)
  have hremove : ∀ (parent : IdType) (s : EntityCollection), LookupsStep s (DiscussionCategory.removeChild parent
      (DiscussionCategory.removeTotalsFromChild parent s category) category) := fun parent s =>
    .of_kept_nil ((DiscussionCategory.lookupsKept_removeChild parent _ category).trans'
      (DiscussionCategory.lookupsKept_removeTotalsFromChild parent s category))
  have hadd : ∀ (parent : IdType) (s : EntityCollection), LookupsStep s (DiscussionCategory.addChild parent
      (DiscussionCategory.addTotalsFromChild parent s category) category) := fun parent s =>
    .of_kept_nil ((DiscussionCategory.lookupsKept_addChild parent _ category).trans'
      (DiscussionCategory.lookupsKept_addTotalsFromChild parent s category))
  unfold updateCategoryParent
  cases s.categoryParent category <;> cases newParent
  · exact hparent
  · exact (hadd _ _).trans' hparent
  · exact (hremove _ _).trans' hparent
  · exact (hadd _ _).trans' ((hremove _ _).trans' hparent)

/-! ### Users, private messages and attachments -/

variable (id : IdType)

theorem lookupsStep_changeUserField {f : User → User}
    (hf : ∀ u, (f u).name = u.name ∧ (f u).auth = u.auth ∧ (f u).created = u.created ∧ (f u).lastSeen = u.lastSeen) :
    LookupsStep s (changeUserField s id f).2 := by
  unfold changeUserField
  split_ifs
  · exact .of_kept_nil (.modifyUser id f s hf)
  · exact .refl s

theorem lookupsStep_updateUserLastSeen (value : Timestamp) : LookupsStep s (updateUserLastSeen s id value).2 := by
  unfold updateUserLastSeen User.updateLastSeen
  split_ifs
  · exact .refl s
  · refine .bracket (by simp) trivial ⟨⟨rfl, fun ref x _ => ?_, rfl⟩, fun ref href _ =>
      ⟨rfl, ?_, fun x _ hx => ?_, .of_toIndexes rfl⟩⟩
    · cases ref with
      | usersByName =>
        simp only [Store.uniqueKey]
        rw [modifyUser_view (g := User.name) rfl]
      | usersByAuth =>
        simp only [Store.uniqueKey]
        rw [modifyUser_view (g := User.auth) rfl]
      | tagsByName | categoriesByName => rfl
    · cases ref <;> rfl
    · cases ref with
      | users key =>
        cases key with
        | created =>
          simp only [Store.indexKey]
          rw [modifyUser_view (g := User.created) rfl]
        | lastSeen =>
          have hne : x ≠ id := by simpa using hx
          simp [Store.indexKey, EntityCollection.modifyUser, hne]
        | threadCount | messageCount => rfl
      | tags key | categories key => cases key <;> rfl
      | threads | messages | attachments | comments | privateMessages => exact href.elim
  · exact .refl s

theorem lookupsStep_deletePrivateMessage : LookupsStep s (deletePrivateMessage s id).2 := by
  unfold deletePrivateMessage
  split_ifs
  · exact .of_kept_nil (EntityCollection.lookupsKept_deletePrivateMessage s id true true)
  · exact .refl s

theorem lookupsStep_sendPrivateMessage (hid : ∀ ref, id ∉ s.uniqueById ref) (destination : IdType) (content : String) :
    LookupsStep s (sendPrivateMessage ctx s id destination content).2 := by
  unfold sendPrivateMessage
  dsimp only
  split_ifs
  · exact .refl s
  · have hread : ∀ s : EntityCollection, LookupsKept [] [] s (s.modifyUser destination fun u =>
        { u with privateMessagesNotRead := (u.privateMessagesNotRead + 1) % 2 ^ 16 }) := fun s =>
      .modifyUser destination _ s fun _ => ⟨rfl, rfl, rfl, rfl⟩
    refine .of_kept_nil ((hread _).trans' ?_)
    exact (LookupsKept.privateMessagesAdd id _ _).trans' ((LookupsKept.privateMessagesAdd id _ _).trans'
      ((LookupsKept.privateMessagesAdd id _ _).trans' (lookupsKept_createPrivateMessage hid _ _ _ _ _)))
  · exact .refl s

theorem lookupsStep_addNewAttachment (hid : ∀ ref, id ∉ s.uniqueById ref) (name : NameType) (size : ℕ) (approved : Bool) :
    LookupsStep s (addNewAttachment ctx s id name size approved).2 :=
  .of_kept_nil ((LookupsKept.attachmentsAdd id _ _).trans' ((LookupsKept.attachmentsAdd id _ _).trans'
    (lookupsKept_createAttachment hid _ _ _ _ _ _)))

/-- A field of an attachment changes between the announcements. -/
theorem lookupsKept_changeAttachment (key : AttachmentKey) (attachment : IdType → Attachment) :
    LookupsKept [] [] s (({ s.onPrepareUpdateAttachment key id with attachment := attachment } :
      EntityCollection).onUpdateAttachment key id) := by
  refine (LookupsKept.onUpdateAttachment id key _).trans' (LookupsKept.trans' ?_ (.onPrepareUpdateAttachment id key s))
  exact .of_lookupFields rfl rfl

theorem lookupsStep_changeAttachmentName (name : NameType) : LookupsStep s (changeAttachmentName s id name).2 := by
  unfold changeAttachmentName
  split_ifs
  · exact .of_kept_nil (lookupsKept_changeAttachment s id .name _)
  · exact .refl s

theorem lookupsStep_changeAttachmentApproval (approved : Bool) :
    LookupsStep s (changeAttachmentApproval s id approved).2 := by
  unfold changeAttachmentApproval
  split_ifs
  · exact .refl s
  · exact .of_kept_nil (lookupsKept_changeAttachment s id .approval _)
  · exact .refl s

theorem lookupsStep_deleteAttachment : LookupsStep s (deleteAttachment s id).2 := by
  unfold deleteAttachment
  split_ifs
  · exact .of_kept_nil (EntityCollection.lookupsKept_deleteAttachment s id true)
  · exact .refl s

theorem lookupsStep_addAttachmentToDiscussionThreadMessage (message : IdType) :
    LookupsStep s (addAttachmentToDiscussionThreadMessage s id message).2 := by
  unfold addAttachmentToDiscussionThreadMessage
  split_ifs
  · exact .refl s
  · exact .of_kept_nil (.of_lookupFields rfl rfl)
  · exact .refl s

theorem lookupsStep_removeAttachmentFromDiscussionThreadMessage (message : IdType) :
    LookupsStep s (removeAttachmentFromDiscussionThreadMessage s id message).2 := by
  unfold removeAttachmentFromDiscussionThreadMessage
  split_ifs
  · exact .of_kept_nil (.of_lookupFields rfl rfl)
  · exact .refl s
  · exact .refl s

/-! ### Threads -/

theorem lookupsStep_addNewDiscussionThread (hid : ∀ ref, id ∉ s.uniqueById ref) (name : NameType) (approved : Bool) :
    LookupsStep s (addNewDiscussionThread ctx s id name approved).2 := by
  refine (LookupsStep.threadsAdd id (by simp) _).trans' ((LookupsStep.threadsAdd id (by simp) _).trans' (.of_kept_nil ?_))
  refine (DiscussionThread.lookupsKept_updateLastUpdated id _ _).trans' (LookupsKept.trans' (.modifyThread id _ _) ?_)
  exact lookupsKept_createDiscussionThread hid _ _ _ _ _

theorem lookupsStep_changeDiscussionThreadName (name : NameType) :
    LookupsStep s (changeDiscussionThreadName ctx s id name).2 := by
  unfold changeDiscussionThreadName
  split_ifs
  · exact .of_kept_nil ((lookupsKept_updateThreadLastUpdated ctx _ id _).trans'
      (DiscussionThread.lookupsKept_updateName id s name))
  · exact .refl s

theorem lookupsStep_changeDiscussionThreadPinDisplayOrder (value : ℕ) :
    LookupsStep s (changeDiscussionThreadPinDisplayOrder ctx s id value).2 := by
  unfold changeDiscussionThreadPinDisplayOrder
  split_ifs
  · exact .of_kept_nil ((lookupsKept_updateThreadLastUpdated ctx _ id _).trans'
      (DiscussionThread.lookupsKept_updatePinDisplayOrder id s value))
  · exact .refl s

theorem lookupsStep_changeDiscussionThreadApproval (approved : Bool) :
    LookupsStep s (changeDiscussionThreadApproval ctx s id approved).2 := by
  unfold changeDiscussionThreadApproval
  split_ifs
  · exact .of_kept_nil ((lookupsKept_updateThreadLastUpdated ctx _ id _).trans' (.modifyThread id _ s))
  · exact .refl s

theorem lookupsStep_deleteDiscussionThread : LookupsStep s (deleteDiscussionThread ctx s id).2 := by
  unfold deleteDiscussionThread
  split_ifs
  · exact EntityCollection.lookupsStep_deleteDiscussionThread ctx s id true true
  · exact .refl s

theorem lookupsStep_mergeDiscussionThreads (intoId : IdType) :
    LookupsStep s (mergeDiscussionThreads ctx s id intoId).2 := by
  unfold mergeDiscussionThreads
  split
  next => exact .refl s
  split
  next =>
    extract_lets s₁ s₂ s₃ s₄ s₅ s₆
    have h₁ : LookupsStep s s₁ := .of_kept_nil (lookupsKept_updateThreadLastUpdated ctx s intoId _)
    have h₂ : LookupsStep s s₂ := LookupsStep.foldl (fun s m _ =>
      .of_kept_nil (DiscussionThread.lookupsKept_setParentThread intoId s m)) h₁
    have h₃ : LookupsStep s s₃ := (DiscussionThread.lookupsStep_insertMessages intoId s₂ _).trans' h₂
    have h₅ : LookupsStep s s₅ := (lookupsStep_updateMessageCounts s₄ intoId _).trans'
      ((lookupsStep_updateMessageCounts s₃ id _).trans' h₃)
    have h₆ : LookupsStep s s₆ := LookupsStep.foldl (fun s user _ =>
      (LookupsStep.of_kept_nil (DiscussionThread.lookupsKept_insertSubscribedUser intoId _ user)).trans'
        (.threadsAdd intoId (by simp) s)) h₅
    clear_value s₆
    exact (EntityCollection.lookupsStep_deleteDiscussionThread ctx s₆ id false true).trans' h₆
  next => exact .refl s

theorem lookupsStep_subscribeToDiscussionThread : LookupsStep s (subscribeToDiscussionThread ctx s id).2 := by
  unfold subscribeToDiscussionThread
  dsimp only
  split_ifs
  · exact .refl s
  · exact (LookupsStep.threadsAdd id (by simp) _).trans'
      (.of_kept_nil (DiscussionThread.lookupsKept_insertSubscribedUser id s _))
  · exact .refl s

theorem lookupsStep_unsubscribeFromDiscussionThread : LookupsStep s (unsubscribeFromDiscussionThread ctx s id).2 := by
  unfold unsubscribeFromDiscussionThread
  dsimp only
  split_ifs
  · exact (LookupsStep.threadsRemove id (by simp) _).trans'
      (.of_kept_nil (DiscussionThread.lookupsKept_eraseSubscribedUser id s _))
  · exact .refl s
  · exact .refl s

/-! ### Messages -/

theorem lookupsStep_addNewDiscussionMessageInThread (hid : ∀ ref, id ∉ s.uniqueById ref) (thread : IdType)
    (approved : Bool) (content : MessageContent) :
    LookupsStep s (addNewDiscussionMessageInThread ctx s id thread approved content).2 := by
  unfold addNewDiscussionMessageInThread
  split
  next =>
    extract_lets user s₁ s₂
    have h₂ : LookupsStep s s₂ := .of_kept_nil ((DiscussionThread.lookupsKept_setParentThread thread s₁ id).trans'
      (lookupsKept_createDiscussionThreadMessage hid _ _ _ _))
    clear_value s₂
    split
    next => exact h₂
    all_goals
      extract_lets s₃ s₄ s₅ s₆ s₇ s₈ s₉ s₁₀
      have h₅ : LookupsStep s s₅ := (DiscussionThread.lookupsStep_insertMessage thread s₄ id).trans'
        ((LookupsStep.messagesAdd id .all s₃).trans' ((LookupsStep.of_kept_nil (.modifyMessage id _ s₂)).trans' h₂))
      have h₇ : LookupsStep s s₇ := (LookupsStep.of_kept_nil ((DiscussionThread.lookupsKept_setLatestVisibleChange thread s₆ _).trans'
        (DiscussionThread.lookupsKept_resetVisitorsSinceLastEdit thread s₅))).trans' h₅
      have h₈ : LookupsStep s s₈ := by
        dsimp only [s₈]
        split_ifs
        · exact h₇
        · exact (LookupsStep.of_kept_nil (DiscussionThread.lookupsKept_insertSubscribedUser thread s₇ user)).trans' h₇
      have h₁₀ : LookupsStep s s₁₀ := (LookupsStep.messagesAdd id (.createdBy user) s₉).trans'
        ((lookupsStep_updateMessageCounts s₈ thread 1).trans' h₈)
      clear_value s₁₀
      exact (LookupsStep.threadsAdd thread (by simp) s₁₀).trans' h₁₀
  next => exact .refl s

theorem lookupsStep_deleteDiscussionMessage : LookupsStep s (deleteDiscussionMessage ctx s id).2 := by
  unfold deleteDiscussionMessage
  split_ifs
  · exact EntityCollection.lookupsStep_deleteDiscussionThreadMessage ctx s id true
  · exact .refl s

theorem lookupsStep_changeDiscussionThreadMessageContent (content reason : String) :
    LookupsStep s (changeDiscussionThreadMessageContent ctx s id content reason).2 := by
  unfold changeDiscussionThreadMessageContent
  dsimp only
  split
  next => exact .of_kept_nil ((DiscussionThread.lookupsKept_setLatestVisibleChange _ _ _).trans'
      ((DiscussionThread.lookupsKept_resetVisitorsSinceLastEdit _ _).trans' (.modifyMessage id _ s)))
  next => exact .refl s

theorem lookupsStep_changeDiscussionThreadMessageApproval (approved : Bool) :
    LookupsStep s (changeDiscussionThreadMessageApproval s id approved).2 := by
  unfold changeDiscussionThreadMessageApproval
  split_ifs
  · exact .refl s
  · exact .of_kept_nil ((DiscussionThread.lookupsKept_resetVisitorsSinceLastEdit _ _).trans' (.modifyMessage id _ s))
  · exact .refl s

theorem lookupsStep_moveDiscussionThreadMessage (intoThread : IdType) :
    LookupsStep s (moveDiscussionThreadMessage ctx s id intoThread).2 := by
  unfold moveDiscussionThreadMessage
  dsimp only
  split_ifs
  · exact .refl s
  · refine (LookupsStep.of_kept_nil (DiscussionThread.lookupsKept_setParentThread intoThread _ id)).trans' ?_
    exact (lookupsStep_updateThreadOnMoveMessage ctx _ _ (-1)).trans'
      ((DiscussionThread.lookupsStep_deleteDiscussionThreadMessage _ _ id).trans'
        ((lookupsStep_updateThreadOnMoveMessage ctx _ intoThread 1).trans'
          (DiscussionThread.lookupsStep_insertMessage intoThread s id)))
  · exact .refl s

/-! ### Votes, comments and quotes -/

theorem lookupsKept_receiveVote (user : IdType) (up down : ℤ) (entry : ReceivedVoteHistory) :
    LookupsKept [] [] s (User.receiveVote user s up down entry) :=
  .modifyUser user _ s fun _ => ⟨rfl, rfl, rfl, rfl⟩

theorem lookupsStep_voteDiscussionThreadMessage (up : Bool) :
    LookupsStep s (voteDiscussionThreadMessage ctx s id up).2 := by
  unfold voteDiscussionThreadMessage
  split
  next =>
    extract_lets user s₁ s₂ target
    split
    next => exact .refl s
    next =>
      have h₂ : LookupsKept [] [] s s₂ := by
        dsimp only [s₂]
        split_ifs <;> exact .of_lookupFields rfl rfl
      exact .of_kept_nil ((lookupsKept_receiveVote s₂ target _ _ _).trans' h₂)
  next => exact .refl s

theorem lookupsStep_resetVoteDiscussionThreadMessage :
    LookupsStep s (resetVoteDiscussionThreadMessage ctx s id).2 := by
  have hremove : ∀ user, LookupsKept [] [] s (DiscussionThreadMessage.removeVote id s user).2 := by
    intro user
    unfold DiscussionThreadMessage.removeVote
    split_ifs <;> exact .of_lookupFields rfl rfl
  unfold resetVoteDiscussionThreadMessage
  split
  next =>
    extract_lets user target entry
    have huser := hremove user
    generalize DiscussionThreadMessage.removeVote id s user = removed at huser
    rcases removed with ⟨status, s'⟩
    cases status
    · exact .of_kept_nil huser
    · exact .of_kept_nil ((lookupsKept_receiveVote s' target _ _ _).trans' huser)
    · exact .of_kept_nil ((lookupsKept_receiveVote s' target _ _ _).trans' huser)
  next => exact .refl s

theorem lookupsStep_addCommentToDiscussionThreadMessage (hid : ∀ ref, id ∉ s.uniqueById ref) (message : IdType)
    (content : String) : LookupsStep s (addCommentToDiscussionThreadMessage ctx s id message content).2 := by
  unfold addCommentToDiscussionThreadMessage
  split
  next =>
    exact .of_kept_nil ((LookupsKept.commentsAdd id _ _).trans' ((LookupsKept.commentsAdd id _ _).trans'
      ((LookupsKept.commentsAdd id _ _).trans' (lookupsKept_createMessageComment hid _ _ _ _ _))))
  next => exact .refl s

theorem lookupsStep_setMessageCommentToSolved : LookupsStep s (setMessageCommentToSolved s id).2 := by
  unfold setMessageCommentToSolved
  split_ifs
  · exact .refl s
  · exact .of_kept_nil (.of_lookupFields rfl rfl)
  · exact .refl s

theorem lookupsStep_quoteUserInMessage (user : IdType) : LookupsStep s (quoteUserInMessage s id user).2 := by
  unfold quoteUserInMessage
  split_ifs
  · dsimp only
    exact .of_kept_nil (.modifyUser user _ s fun _ => ⟨rfl, rfl, rfl, rfl⟩)
  · exact .refl s

/-! ### Tags -/

theorem lookupsStep_changeDiscussionTagUiBlob (blob : String) : LookupsStep s (changeDiscussionTagUiBlob s id blob).2 := by
  unfold changeDiscussionTagUiBlob
  split_ifs
  · dsimp only
    exact .of_kept_nil (.modifyTag id _ s fun _ => rfl)
  · exact .refl s

theorem lookupsStep_addDiscussionTagToThread (thread : IdType) :
    LookupsStep s (addDiscussionTagToThread ctx s id thread).2 := by
  unfold addDiscussionTagToThread
  split
  next =>
    extract_lets user known s₁
    have h₁ : LookupsStep s s₁ := .of_kept_nil (DiscussionThread.lookupsKept_addTag ctx thread s id)
    clear_value s₁
    split_ifs
    · exact h₁
    · exact (LookupsStep.of_kept_nil (lookupsKept_updateThreadLastUpdated ctx _ thread user)).trans'
        ((DiscussionTag.lookupsStep_insertDiscussionThreads ctx id s₁ [thread]).trans' h₁)
  next => exact .refl s

theorem lookupsStep_removeDiscussionTagFromThread (thread : IdType) :
    LookupsStep s (removeDiscussionTagFromThread ctx s id thread).2 := by
  unfold removeDiscussionTagFromThread
  split
  next =>
    extract_lets user known s₁
    have h₁ : LookupsStep s s₁ := .of_kept_nil (DiscussionThread.lookupsKept_removeTag ctx thread s id)
    clear_value s₁
    split_ifs
    · exact (LookupsStep.of_kept_nil (lookupsKept_updateThreadLastUpdated ctx _ thread user)).trans'
        ((DiscussionTag.lookupsStep_deleteDiscussionThread ctx id thread s₁ true).trans' h₁)
    · exact h₁
  next => exact .refl s

/-! ### Categories -/

theorem lookupsStep_changeDiscussionCategoryDescription (description : String) :
    LookupsStep s (changeDiscussionCategoryDescription ctx s id description).2 := by
  unfold changeDiscussionCategoryDescription
  split_ifs
  · exact .of_kept_nil ((lookupsKept_updateCategoryLastUpdated ctx _ id _).trans'
      (.modifyCategory id _ s fun _ => ⟨rfl, rfl⟩))
  · exact .refl s

theorem lookupsStep_changeDiscussionCategoryParent (newParentId : IdType) :
    LookupsStep s (changeDiscussionCategoryParent ctx s id newParentId).2 := by
  unfold changeDiscussionCategoryParent
  split
  next =>
    extract_lets newParent
    split
    next => exact .refl s
    split
    next => exact lookupsStep_updateCategoryParent ctx s id newParent _
    split
    next => exact .refl s
    next parent _ _ =>
      exact (lookupsStep_updateCategoryParent ctx _ id newParent _).trans'
        (.of_kept_nil (DiscussionCategory.lookupsKept_removeChild parent s id))
  next => exact .refl s

theorem lookupsStep_changeDiscussionCategoryDisplayOrder (displayOrder : ℤ) :
    LookupsStep s (changeDiscussionCategoryDisplayOrder ctx s id displayOrder).2 := by
  unfold changeDiscussionCategoryDisplayOrder
  split_ifs
  · exact (LookupsStep.of_kept_nil (lookupsKept_updateCategoryLastUpdated ctx _ id _)).trans'
      (DiscussionCategory.lookupsStep_updateDisplayOrder id s displayOrder)
  · exact .refl s

theorem lookupsStep_addDiscussionTagToCategory (category : IdType) :
    LookupsStep s (addDiscussionTagToCategory ctx s id category).2 := by
  unfold addDiscussionTagToCategory
  split_ifs
  · exact .refl s
  · refine (LookupsStep.of_kept_nil (lookupsKept_updateCategoryLastUpdated ctx _ category _)).trans'
      ((DiscussionCategory.lookupsStep_addTag ctx category id _).trans' (.of_kept_nil ?_))
    exact .of_lookupFields rfl rfl
  · exact .refl s

theorem lookupsStep_removeDiscussionTagFromCategory (category : IdType) :
    LookupsStep s (removeDiscussionTagFromCategory ctx s id category).2 := by
  unfold removeDiscussionTagFromCategory
  split_ifs
  · refine (LookupsStep.of_kept_nil (lookupsKept_updateCategoryLastUpdated ctx _ category _)).trans'
      ((DiscussionCategory.lookupsStep_removeTag ctx category id _).trans' (.of_kept_nil ?_))
    exact .of_lookupFields rfl rfl
  · exact .refl s
  · exact .refl s

/-- Merging tags is a step, and then the deletion of a tag. -/
theorem mergeDiscussionTags_lookups (fromId intoId : IdType) :
    (mergeDiscussionTags ctx s fromId intoId).2 = s ∨ ∃ s', LookupsStep s s' ∧ fromId ∈ s'.tags ∧
      (mergeDiscussionTags ctx s fromId intoId).2 = s'.deleteDiscussionTag ctx fromId := by
  unfold mergeDiscussionTags
  split
  next => exact .inl rfl
  split
  next hmem =>
    extract_lets user threads s₁ s₂ s₃ s₄
    have h₁ : LookupsStep s s₁ := .foldl (fun s t _ => .of_kept_nil (DiscussionThread.lookupsKept_addTag ctx t s intoId))
      (.refl s)
    have h₃ : LookupsStep s s₃ := .foldl (fun s c _ => DiscussionCategory.lookupsStep_addTag ctx c intoId s)
      ((DiscussionTag.lookupsStep_insertDiscussionThreads ctx intoId s₁ threads).trans' h₁)
    have h₄ : LookupsStep s s₄ := (LookupsStep.of_kept_nil (lookupsKept_updateTagLastUpdated ctx s₃ intoId user)).trans' h₃
    have htags : s₄.tags = s.tags := congrFun h₄.unique.uniqueById .tagsByName
    clear_value s₄
    exact .inr ⟨s₄, h₄, htags ▸ hmem.1, rfl⟩
  next => exact .inl rfl

/-- Deleting a category is a step, its children becoming roots, and then the deletion of the category. -/
theorem deleteDiscussionCategory_lookups :
    (deleteDiscussionCategory ctx s id).2 = s ∨ ∃ s', LookupsStep s s' ∧ id ∈ s'.categories ∧
      (deleteDiscussionCategory ctx s id).2 = s'.deleteDiscussionCategory ctx id := by
  unfold deleteDiscussionCategory
  split
  next hid =>
    extract_lets user s₁
    have h₁ : LookupsStep s s₁ :=
      .foldl (fun s child _ => lookupsStep_updateCategoryParent ctx s child none user) (.refl s)
    have hcategories : s₁.categories = s.categories := congrFun h₁.unique.uniqueById .categoriesByName
    clear_value s₁
    exact .inr ⟨s₁, h₁, hcategories ▸ hid, rfl⟩
  next => exact .inl rfl

/-! ### Users, tags and categories join and leave -/

section changes

variable {s} {ctx} (h : LookupInvariant s)
include h

/-- No element has a key that a lookup does not find. -/
theorem uniqueKey_ne_of_not_contains {ref : UniqueIndexRef} {k : IndexKey} (hk : ¬s.uniqueContains ref k) :
    ∀ x ∈ s.uniqueById ref, s.uniqueKey ref x ≠ k := fun x hx he =>
  hk (decide_eq_true ((h.unique ref).findKey_lt_iff.2 ⟨x, hx, he⟩))

theorem lookupInvariant_addNewUser {id : IdType} (hzero : 0 ∉ s.users) (hid : ∀ ref, id ∉ s.uniqueById ref) (name : NameType)
    (auth : String) (hauth : (addNewUser ctx s id name auth).1 = .ok → ∀ u ∈ s.users, (s.user u).auth ≠ "") :
    LookupInvariant (addNewUser ctx s id name auth).2 := by
  unfold addNewUser at hauth ⊢
  split
  next => exact h
  split
  next => exact h
  next hnewAuth hnewName =>
    rw [if_neg hnewAuth, if_neg hnewName] at hauth
    have hempty : ∀ u ∈ s.users, (s.user u).auth ≠ "" := hauth rfl
    clear hauth
    extract_lets s₁ s₂
    have h₁ : LookupsKept [] [] s s₁ := lookupsKept_createUser hid name _ _
    have hinv₁ : LookupInvariant s₁ := (LookupsStep.of_kept_nil h₁).invariant hzero h
    have husers₁ : s₁.users = s.users := (LookupsStep.of_kept_nil h₁).users
    have huser₁ : s₁.user id = { created := ctx.currentTime, creationDetails := ctx.visitDetails, name := name } :=
      Function.update_self _ _ _
    have hother : ∀ u ∈ s.users, u ≠ id := fun u hu he => hid .usersByName (he ▸ hu)
    have hothers : ∀ u ∈ s.users, s₁.user u = s.user u := fun u hu => Function.update_of_ne (hother u hu) _ _
    -- the new user has an empty auth string, like no other, and so the index by auth string does not change
    have h₂ : s₂ = (s₁.uniquePrepareUpdate .usersByAuth id).modifyUser id fun u => { u with auth := auth } := by
      have hend : ¬s₁.findUnique .usersByAuth (s₁.uniqueKey .usersByAuth id) < (s₁.uniqueIndex .usersByAuth).length := by
        intro hlt
        obtain ⟨u, hu, hkey⟩ := (hinv₁.unique .usersByAuth).findKey_lt_iff.1 hlt
        have hu : u ∈ s.users := husers₁ ▸ hu
        refine hempty u hu ?_
        simpa [Store.uniqueKey, huser₁, hothers u hu] using hkey
      exact if_neg fun hlt => hend (by simpa [EntityCollection.uniquePrepareUpdate, EntityCollection.modifyUser] using hlt.1)
    have hkept₂ : LookupsKept [] [] s₁ s₂ := by
      rw [h₂]
      refine (LookupsKept.modifyUser_of_not_mem ?_ _).trans' (.of_toStore rfl rfl fun _ _ _ => ⟨rfl, rfl, rfl⟩)
      exact fun hu => hid .usersByName (husers₁.subset hu)
    have hinv₂ : LookupInvariant s₂ := (LookupsStep.of_kept_nil hkept₂).invariant (husers₁ ▸ hzero) hinv₁
    have hstep₂ : LookupsStep s s₂ := .of_kept_nil (hkept₂.trans' h₁)
    have huser₂ : (s₂.user id).auth = auth ∧ (s₂.user id).name = name := by
      rw [h₂]
      simp [EntityCollection.modifyUser, EntityCollection.uniquePrepareUpdate, huser₁]
    refine hinv₂.usersAdd ?_ ?_ ?_
    · rw [hstep₂.users]
      exact hid .usersByName
    · rw [hstep₂.users]
      intro u hu
      rw [hstep₂.unique.uniqueKey .usersByAuth u hu]
      simpa [Store.uniqueKey, huser₂.1] using uniqueKey_ne_of_not_contains h hnewAuth u hu
    · rw [hstep₂.users]
      intro u hu
      rw [hstep₂.unique.uniqueKey .usersByName u hu]
      simpa [Store.uniqueKey, huser₂.2] using uniqueKey_ne_of_not_contains h hnewName u hu

theorem lookupInvariant_changeUserName (id : IdType) (name : NameType) : LookupInvariant (changeUserName s id name).2 := by
  unfold changeUserName
  split_ifs with hid hname
  · exact h
  · exact User.lookupInvariant_updateName h hid fun u hu _ => uniqueKey_ne_of_not_contains h hname u hu
  · exact h

theorem lookupInvariant_deleteUser (hzero : 0 ∉ s.users) (id : IdType) : LookupInvariant (deleteUser ctx s id).2 := by
  unfold deleteUser
  split_ifs with hid
  · refine (EntityCollection.lookupsStep_deleteUser ctx s hid).invariant ?_ (h.usersRemove id)
    simp [hzero]
  · exact h

theorem lookupInvariant_addNewDiscussionTag {id : IdType} (hzero : 0 ∉ s.users) (hid : ∀ ref, id ∉ s.uniqueById ref)
    (name : NameType) : LookupInvariant (addNewDiscussionTag ctx s id name).2 := by
  unfold addNewDiscussionTag
  split_ifs with hname
  · exact h
  · have hkept := lookupsKept_createDiscussionTag (s := s) hid name ctx.currentTime ctx.visitDetails
    have hnew : ((s.createDiscussionTag id name ctx.currentTime ctx.visitDetails).tag id).name = name := by
      simp [EntityCollection.createDiscussionTag, EntityCollection.modifyTag]
    have htags : (s.createDiscussionTag id name ctx.currentTime ctx.visitDetails).tags = s.tags :=
      congrFun hkept.unique.uniqueById .tagsByName
    refine ((LookupsStep.of_kept_nil hkept).invariant hzero h).tagsAdd (by rw [htags]; exact hid .tagsByName) ?_
    rw [htags]
    intro t ht
    rw [hkept.unique.uniqueKey .tagsByName t ht]
    simpa [Store.uniqueKey, hnew] using uniqueKey_ne_of_not_contains h hname t ht

theorem lookupInvariant_changeDiscussionTagName (hzero : 0 ∉ s.users) (id : IdType) (name : NameType)
    (hname : id ∈ s.tags → ∀ t ∈ s.tags, t ≠ id → s.uniqueKey .tagsByName t ≠ .text name) :
    LookupInvariant (changeDiscussionTagName ctx s id name).2 := by
  unfold changeDiscussionTagName
  split_ifs with hid
  · refine (LookupsStep.of_kept_nil (lookupsKept_updateTagLastUpdated ctx _ id _)).invariant ?_
      (DiscussionTag.lookupInvariant_updateName h hid (hname hid))
    have husers : (DiscussionTag.updateName id s name).users = s.users := by
      rw [DiscussionTag.updateName, EntityCollection.toStore_uniqueUpdate]
      rfl
    rwa [husers]
  · exact h

theorem lookupInvariant_deleteTag (hzero : 0 ∉ s.users) {tag : IdType} (htag : tag ∈ s.tags) :
    LookupInvariant (s.deleteDiscussionTag ctx tag) :=
  (EntityCollection.lookupsStep_deleteDiscussionTag ctx s htag).invariant (by simpa using hzero) (h.tagsRemove tag)

theorem lookupInvariant_deleteDiscussionTag (hzero : 0 ∉ s.users) (id : IdType) :
    LookupInvariant (deleteDiscussionTag ctx s id).2 := by
  unfold deleteDiscussionTag
  split_ifs with hid
  · exact lookupInvariant_deleteTag h hzero hid
  · exact h

theorem lookupInvariant_mergeDiscussionTags (hzero : 0 ∉ s.users) (fromId intoId : IdType) :
    LookupInvariant (mergeDiscussionTags ctx s fromId intoId).2 := by
  rcases mergeDiscussionTags_lookups ctx s fromId intoId with heq | ⟨s', hstep, htag, heq⟩
  · rwa [heq]
  · rw [heq]
    exact lookupInvariant_deleteTag (hstep.invariant hzero h) (hstep.users ▸ hzero) htag

theorem lookupInvariant_addNewDiscussionCategory {id : IdType} (hzero : 0 ∉ s.users) (hid : ∀ ref, id ∉ s.uniqueById ref)
    (name : NameType) (parentId : IdType) : LookupInvariant (addNewDiscussionCategory ctx s id name parentId).2 := by
  unfold addNewDiscussionCategory
  split
  next => exact h
  next hname =>
    extract_lets known s₁ s₂ s₃
    have h₁ : LookupsKept [] [] s s₁ := lookupsKept_createDiscussionCategory hid name _ _
    have hcategories₁ : s₁.categories = s.categories := congrFun h₁.unique.uniqueById .categoriesByName
    have hne : ∀ c ∈ s₁.categories, c ≠ id := fun c hc he =>
      hid .categoriesByName (hcategories₁.subset (he ▸ hc))
    -- the parent of the new category is set before the category joins the others
    have h₃ : LookupsKept [] [] s₁ s₃ := by
      dsimp only [s₃]
      split_ifs
      · refine LookupsKept.trans' ?_ (DiscussionCategory.lookupsKept_addChild parentId s₁ id)
        refine ⟨⟨rfl, fun _ _ _ => rfl, rfl⟩, fun ref href _ => ⟨rfl, ?_, fun x hx _ => ?_, .of_toIndexes rfl⟩⟩
        · cases ref <;> rfl
        · match ref with
          | .users key | .tags key => cases key <;> rfl
          | .categories .messageCount => rfl
          | .categories .displayOrderRootPriority =>
            have hparent : Function.update s₂.categoryParent id (some parentId) x = s₂.categoryParent x :=
              Function.update_of_ne (hne x hx) _ _
            simp only [Store.indexKey, Store.displayOrderWithRootPriority, hparent]
            rfl
      · exact .refl _ _ s₁
    have hstep : LookupsStep s s₃ := .of_kept_nil (h₃.trans' h₁)
    have hcategories : s₃.categories = s.categories := congrFun hstep.unique.uniqueById .categoriesByName
    have hnew : (s₃.category id).name = name := by
      have hcategory : s₃.category = s₁.category := by
        dsimp only [s₃]
        split_ifs <;> rfl
      have hself : s₁.category id =
          { created := ctx.currentTime, creationDetails := ctx.visitDetails, name := name } := Function.update_self _ _ _
      rw [hcategory, hself]
    refine (hstep.invariant hzero h).categoriesAdd (by rw [hcategories]; exact hid .categoriesByName) ?_
    rw [hcategories]
    intro c hc
    rw [hstep.unique.uniqueKey .categoriesByName c hc]
    simpa [Store.uniqueKey, hnew] using uniqueKey_ne_of_not_contains h hname c hc

theorem lookupInvariant_changeDiscussionCategoryName (hzero : 0 ∉ s.users) (id : IdType) (name : NameType) :
    LookupInvariant (changeDiscussionCategoryName ctx s id name).2 := by
  unfold changeDiscussionCategoryName
  split_ifs with hid hname
  · exact h
  · refine (LookupsStep.of_kept_nil (lookupsKept_updateCategoryLastUpdated ctx _ id _)).invariant ?_
      (DiscussionCategory.lookupInvariant_updateName h hid fun c hc _ => uniqueKey_ne_of_not_contains h hname c hc)
    have husers : (DiscussionCategory.updateName id s name).users = s.users := by
      rw [DiscussionCategory.updateName, EntityCollection.toStore_uniqueUpdate]
      rfl
    rwa [husers]
  · exact h

theorem lookupInvariant_deleteDiscussionCategory (hzero : 0 ∉ s.users) (id : IdType) :
    LookupInvariant (deleteDiscussionCategory ctx s id).2 := by
  rcases deleteDiscussionCategory_lookups ctx s id with heq | ⟨s', hstep, hcategory, heq⟩
  · rwa [heq]
  · rw [heq]
    refine (EntityCollection.lookupsStep_deleteDiscussionCategory ctx s' hcategory).invariant ?_
      ((hstep.invariant hzero h).categoriesRemove id)
    simpa [hstep.users] using hzero

end changes

/-! ### Runs -/

/-- An operation that keeps the lookups exact: a tag is not renamed to the name of another one, and no
user is added while another has an empty auth string. -/
def KeepsLookups (ctx : Context) (s : EntityCollection) : Operation → Prop
  | .changeDiscussionTagName id name =>
    id ∈ s.tags → ∀ tag ∈ s.tags, tag ≠ id → (s.tag tag).name.sortKey ≠ name.sortKey
  | .addNewUser id name auth =>
    (addNewUser ctx s id name auth).1 = .ok → ∀ user ∈ s.users, (s.user user).auth ≠ ""
  | _ => True

/-- The operations that add, rename or remove a user, a tag or a category, or start or stop a batch insert. -/
def Operation.changesLookups : Operation → Bool
  | .addNewUser .. | .changeUserName .. | .deleteUser .. | .addNewDiscussionTag .. | .changeDiscussionTagName ..
  | .deleteDiscussionTag .. | .mergeDiscussionTags .. | .addNewDiscussionCategory .. | .changeDiscussionCategoryName ..
  | .deleteDiscussionCategory .. | .startBatchInsert | .stopBatchInsert => true
  | _ => false

/-- The other operations are steps. -/
theorem lookupsStep_perform {op : Operation} (hop : op.changesLookups = false)
    (hid : ∀ id, op.newId = some id → ∀ ref, id ∉ s.uniqueById ref) : LookupsStep s (op.perform ctx s).2 := by
  cases op <;> simp only [Operation.changesLookups, Bool.true_eq_false] at hop
  case changeUserInfo | changeUserTitle | changeUserSignature | changeUserAttachmentQuota | changeUserLogo
      | deleteUserLogo => exact lookupsStep_changeUserField s _ fun _ => ⟨rfl, rfl, rfl, rfl⟩
  case updateUserLastSeen => exact lookupsStep_updateUserLastSeen s _ _
  case sendPrivateMessage => exact lookupsStep_sendPrivateMessage ctx s _ (hid _ rfl) _ _
  case deletePrivateMessage => exact lookupsStep_deletePrivateMessage s _
  case addNewAttachment => exact lookupsStep_addNewAttachment ctx s _ (hid _ rfl) _ _ _
  case changeAttachmentName => exact lookupsStep_changeAttachmentName s _ _
  case changeAttachmentApproval => exact lookupsStep_changeAttachmentApproval s _ _
  case deleteAttachment => exact lookupsStep_deleteAttachment s _
  case addAttachmentToDiscussionThreadMessage => exact lookupsStep_addAttachmentToDiscussionThreadMessage s _ _
  case removeAttachmentFromDiscussionThreadMessage => exact lookupsStep_removeAttachmentFromDiscussionThreadMessage s _ _
  case addNewDiscussionThread => exact lookupsStep_addNewDiscussionThread ctx s _ (hid _ rfl) _ _
  case changeDiscussionThreadName => exact lookupsStep_changeDiscussionThreadName ctx s _ _
  case changeDiscussionThreadPinDisplayOrder => exact lookupsStep_changeDiscussionThreadPinDisplayOrder ctx s _ _
  case changeDiscussionThreadApproval => exact lookupsStep_changeDiscussionThreadApproval ctx s _ _
  case deleteDiscussionThread => exact lookupsStep_deleteDiscussionThread ctx s _
  case mergeDiscussionThreads => exact lookupsStep_mergeDiscussionThreads ctx s _ _
  case subscribeToDiscussionThread => exact lookupsStep_subscribeToDiscussionThread ctx s _
  case unsubscribeFromDiscussionThread => exact lookupsStep_unsubscribeFromDiscussionThread ctx s _
  case addNewDiscussionMessageInThread => exact lookupsStep_addNewDiscussionMessageInThread ctx s _ (hid _ rfl) _ _ _
  case deleteDiscussionMessage => exact lookupsStep_deleteDiscussionMessage ctx s _
  case changeDiscussionThreadMessageContent => exact lookupsStep_changeDiscussionThreadMessageContent ctx s _ _ _
  case changeDiscussionThreadMessageApproval => exact lookupsStep_changeDiscussionThreadMessageApproval s _ _
  case moveDiscussionThreadMessage => exact lookupsStep_moveDiscussionThreadMessage ctx s _ _
  case upVoteDiscussionThreadMessage | downVoteDiscussionThreadMessage =>
    exact lookupsStep_voteDiscussionThreadMessage ctx s _ _
  case resetVoteDiscussionThreadMessage => exact lookupsStep_resetVoteDiscussionThreadMessage ctx s _
  case addCommentToDiscussionThreadMessage =>
    exact lookupsStep_addCommentToDiscussionThreadMessage ctx s _ (hid _ rfl) _ _
  case setMessageCommentToSolved => exact lookupsStep_setMessageCommentToSolved s _
  case quoteUserInMessage => exact lookupsStep_quoteUserInMessage s _ _
  case changeDiscussionTagUiBlob => exact lookupsStep_changeDiscussionTagUiBlob s _ _
  case addDiscussionTagToThread => exact lookupsStep_addDiscussionTagToThread ctx s _ _
  case removeDiscussionTagFromThread => exact lookupsStep_removeDiscussionTagFromThread ctx s _ _
  case changeDiscussionCategoryDescription => exact lookupsStep_changeDiscussionCategoryDescription ctx s _ _
  case changeDiscussionCategoryParent => exact lookupsStep_changeDiscussionCategoryParent ctx s _ _
  case changeDiscussionCategoryDisplayOrder => exact lookupsStep_changeDiscussionCategoryDisplayOrder ctx s _ _
  case addDiscussionTagToCategory => exact lookupsStep_addDiscussionTagToCategory ctx s _ _
  case removeDiscussionTagFromCategory => exact lookupsStep_removeDiscussionTagFromCategory ctx s _ _

theorem lookupInvariant_perform {op : Operation} (hzero : 0 ∉ s.users)
    (hid : ∀ id, op.newId = some id → ∀ ref, id ∉ s.uniqueById ref) (h : LookupInvariant s) (hop : KeepsLookups ctx s op) :
    LookupInvariant (op.perform ctx s).2 := by
  by_cases hstep : op.changesLookups = false
  · exact (lookupsStep_perform ctx s hstep hid).invariant hzero h
  cases op <;> simp only [Operation.changesLookups, not_true_eq_false, Bool.not_eq_false] at hstep
  case addNewUser => exact lookupInvariant_addNewUser h hzero (hid _ rfl) _ _ hop
  case changeUserName => exact lookupInvariant_changeUserName h _ _
  case deleteUser => exact lookupInvariant_deleteUser h hzero _
  case addNewDiscussionTag => exact lookupInvariant_addNewDiscussionTag h hzero (hid _ rfl) _
  case changeDiscussionTagName id name =>
    refine lookupInvariant_changeDiscussionTagName h hzero _ _ fun hid t ht hne => ?_
    simpa [Store.uniqueKey, IndexKey.text] using hop hid t ht hne
  case deleteDiscussionTag => exact lookupInvariant_deleteDiscussionTag h hzero _
  case mergeDiscussionTags => exact lookupInvariant_mergeDiscussionTags h hzero _ _
  case addNewDiscussionCategory => exact lookupInvariant_addNewDiscussionCategory h hzero (hid _ rfl) _ _
  case changeDiscussionCategoryName => exact lookupInvariant_changeDiscussionCategoryName h hzero _ _
  case deleteDiscussionCategory => exact lookupInvariant_deleteDiscussionCategory h hzero _
  case startBatchInsert => exact h.startBatchInsert
  case stopBatchInsert => exact h.stopBatchInsert

/-- Only one operation adds tags. -/
theorem tags_perform (op : Operation) (hop : op.changesLookups) (hadd : ∀ id name, op ≠ .addNewDiscussionTag id name) :
    (op.perform ctx s).2.tags ⊆ s.tags := by
  cases op <;> simp only [Operation.changesLookups, Bool.false_eq_true] at hop <;> simp only [Operation.perform]
  case addNewUser =>
    unfold addNewUser
    split_ifs <;> simp [User.updateAuth, EntityCollection.createUser, EntityCollection.modifyUser,
      EntityCollection.construct, Placement.construct, EntityCollection.uniquePrepareUpdate]
  case changeUserName =>
    unfold changeUserName
    split_ifs <;> simp [User.updateName, EntityCollection.modifyUser, EntityCollection.uniquePrepareUpdate]
  case deleteUser id =>
    unfold deleteUser
    split_ifs with hid
    · have htags := congrFun (EntityCollection.lookupsStep_deleteUser ctx s hid).unique.uniqueById .tagsByName
      exact htags.subset.trans (by simp [Store.uniqueById])
    · exact Finset.Subset.refl _
  case addNewDiscussionTag => exact absurd rfl (hadd _ _)
  case changeDiscussionTagName =>
    unfold changeDiscussionTagName
    split_ifs <;> simp [DiscussionTag.updateName, updateTagLastUpdated, EntityCollection.modifyTag,
      EntityCollection.uniquePrepareUpdate]
  case deleteDiscussionTag =>
    unfold deleteDiscussionTag
    split_ifs with hid
    · have htags := congrFun (EntityCollection.lookupsStep_deleteDiscussionTag ctx s hid).unique.uniqueById .tagsByName
      exact htags.subset.trans (by simp [Store.uniqueById, Finset.erase_subset])
    · exact Finset.Subset.refl _
  case mergeDiscussionTags fromId intoId =>
    rcases mergeDiscussionTags_lookups ctx s fromId intoId with heq | ⟨s', hstep, htag, heq⟩
    · rw [heq]
    · have htags := congrFun (EntityCollection.lookupsStep_deleteDiscussionTag ctx s' htag).unique.uniqueById .tagsByName
      have htags' := congrFun hstep.unique.uniqueById .tagsByName
      simp only [Store.uniqueById, EntityCollection.toStore_tagsRemove] at htags htags'
      rw [heq, htags, htags']
      exact Finset.erase_subset _ _
  case addNewDiscussionCategory =>
    unfold addNewDiscussionCategory
    dsimp only
    split_ifs <;> simp [DiscussionCategory.addChild, EntityCollection.createDiscussionCategory,
      EntityCollection.modifyCategory, EntityCollection.construct, Placement.construct]
  case changeDiscussionCategoryName =>
    unfold changeDiscussionCategoryName
    split_ifs <;> simp [DiscussionCategory.updateName, updateCategoryLastUpdated, EntityCollection.modifyCategory,
      EntityCollection.uniquePrepareUpdate]
  case deleteDiscussionCategory id =>
    rcases deleteDiscussionCategory_lookups ctx s id with heq | ⟨s', hstep, hcategory, heq⟩
    · rw [heq]
    · have htags := congrFun (EntityCollection.lookupsStep_deleteDiscussionCategory ctx s' hcategory).unique.uniqueById
        .tagsByName
      have htags' := congrFun hstep.unique.uniqueById .tagsByName
      simp only [Store.uniqueById, EntityCollection.toStore_categoriesRemove] at htags htags'
      rw [heq, htags, htags']
  case startBatchInsert => exact Finset.Subset.refl _
  case stopBatchInsert => simp

/-- A new id is none of a user, a tag or a category. -/
theorem Reachable.not_mem_uniqueById {admissible : Context → EntityCollection → Operation → Prop} {s : EntityCollection}
    {op : Operation} (h : Reachable admissible s) (htags : s.tags ⊆ s.issuedIds) (callable : Callable s op) :
    ∀ id, op.newId = some id → ∀ ref, id ∉ s.uniqueById ref := by
  intro id hid ref hmem
  refine (callable.fresh id hid).2 ?_
  cases ref with
  | usersByName | usersByAuth => exact h.issued.users hmem
  | tagsByName => exact htags hmem
  | categoriesByName => exact h.hierarchySound.issued hmem

/-- In every state reached, tags have ids that were given out. -/
theorem Reachable.tags_issued {admissible : Context → EntityCollection → Operation → Prop} {s : EntityCollection}
    (h : Reachable admissible s) : s.tags ⊆ s.issuedIds := by
  induction h with
  | empty => exact Finset.empty_subset _
  | @step s ctx op hreached callable admitted ih =>
    have hissued := ih.trans (issuedIds_perform ctx s op)
    by_cases hchanges : op.changesLookups
    · by_cases hadd : ∃ id name, op = .addNewDiscussionTag id name
      · obtain ⟨id, name, rfl⟩ := hadd
        simp only [Operation.perform, addNewDiscussionTag] at hissued ⊢
        split_ifs at hissued ⊢
        · exact ih
        · simpa [EntityCollection.createDiscussionTag, EntityCollection.modifyTag, EntityCollection.construct,
            Ownership.construct, Placement.construct] using Finset.insert_subset_insert id ih
      · exact (tags_perform ctx s op hchanges fun id name heq => hadd ⟨id, name, heq⟩).trans hissued
    · have hstep : LookupsStep s (op.perform ctx s).2 :=
        lookupsStep_perform ctx s (by simpa using hchanges) (hreached.not_mem_uniqueById ih callable)
      exact (congrFun hstep.unique.uniqueById .tagsByName).subset.trans hissued

theorem Reachable.zero_not_mem_users {admissible : Context → EntityCollection → Operation → Prop} {s : EntityCollection}
    (h : Reachable admissible s) : 0 ∉ s.users := fun hmem => h.issued.zero (h.issued.users hmem)

/-- In a run that keeps the lookups exact, the invariant holds. -/
theorem Reachable.lookupInvariant {s : EntityCollection} (h : Reachable KeepsLookups s) : LookupInvariant s := by
  induction h with
  | empty => exact .empty
  | @step s ctx op hreached callable admitted ih =>
    exact lookupInvariant_perform ctx s hreached.zero_not_mem_users
      (hreached.not_mem_uniqueById hreached.tags_issued callable) ih admitted

/-- The names of users, of tags and of categories are distinct, as are the auth strings of users; a lookup
finds exactly the element with the key; and outside a batch insert each index lists exactly the elements of
its collection in the order of their keys. No erase from an index has failed to find its element. -/
structure LookupsExact (s : EntityCollection) : Prop where
  userNames : ∀ u ∈ s.users, ∀ v ∈ s.users, (s.user u).name.sortKey = (s.user v).name.sortKey → u = v
  auths : ∀ u ∈ s.users, ∀ v ∈ s.users, (s.user u).auth = (s.user v).auth → u = v
  tagNames : ∀ t ∈ s.tags, ∀ t' ∈ s.tags, (s.tag t).name.sortKey = (s.tag t').name.sortKey → t = t'
  categoryNames : ∀ c ∈ s.categories, ∀ c' ∈ s.categories,
    (s.category c).name.sortKey = (s.category c').name.sortKey → c = c'
  lookup : ∀ ref k x, (s.uniqueIndex ref)[s.findUnique ref k]? = some x ↔ x ∈ s.uniqueById ref ∧ s.uniqueKey ref x = k
  indexes : s.batchInsertInProgress = false → ∀ ref, ref.OfEntities →
    Library.Indexes (s.indexKey ref) (s.index ref) (s.byId ref)
  noFailure : ∀ ref, ref.OfEntities → s.assertFailed ref = false

theorem LookupsExact.of_invariant {s : EntityCollection} (h : LookupInvariant s) : LookupsExact s where
  userNames u hu v hv heq := (h.unique .usersByName).distinct u hu v hv (by simp [Store.uniqueKey, IndexKey.text, heq])
  auths u hu v hv heq := (h.unique .usersByAuth).distinct u hu v hv (by simp [Store.uniqueKey, heq])
  tagNames t ht t' ht' heq := (h.unique .tagsByName).distinct t ht t' ht' (by simp [Store.uniqueKey, IndexKey.text, heq])
  categoryNames c hc c' hc' heq :=
    (h.unique .categoriesByName).distinct c hc c' hc' (by simp [Store.uniqueKey, IndexKey.text, heq])
  lookup ref _ _ := (h.unique ref).getElem?_findKey
  indexes hb ref href := (h.sound ref href).exact' hb
  noFailure ref href := (h.sound ref href).noFailure

/-- A user with an empty auth string is no longer found after another one was added. -/
theorem not_lookupsExact_addNewUser {s : EntityCollection} {ctx : Context} {id : IdType} {name : NameType} {auth : String}
    (h : LookupInvariant s) (hid : ∀ ref, id ∉ s.uniqueById ref) (hok : (addNewUser ctx s id name auth).1 = .ok)
    {u : IdType} (hu : u ∈ s.users) (hempty : (s.user u).auth = "") : ¬LookupsExact (addNewUser ctx s id name auth).2 := by
  have hne : u ≠ id := fun he => hid .usersByName (he ▸ hu)
  unfold addNewUser at hok ⊢
  split at hok
  next => cases hok
  next hnewAuth =>
  split at hok
  next => cases hok
  next hnewName =>
    rw [if_neg hnewAuth, if_neg hnewName]
    extract_lets s₁ s₂
    have h₁ : LookupsKept [] [] s s₁ := lookupsKept_createUser hid name _ _
    have hunique₁ : UniqueIndexes (s₁.uniqueKey .usersByAuth) (s₁.uniqueIndex .usersByAuth) s.users := by
      rw [h₁.unique.uniqueIndex]
      exact (h.unique .usersByAuth).congr (h₁.unique.uniqueKey .usersByAuth)
    have huser₁ : s₁.user id = { created := ctx.currentTime, creationDetails := ctx.visitDetails, name := name } :=
      Function.update_self _ _ _
    have hother : ∀ v ∈ s.users, v ≠ id := fun v hv he => hid .usersByName (he ▸ hv)
    have hothers : ∀ v ∈ s.users, s₁.user v = s.user v := fun v hv => Function.update_of_ne (hother v hv) _ _
    -- the new user is looked up by the auth string it does not have yet, and the other user found
    have hfound : s₁.uniqueKey .usersByAuth u = s₁.uniqueKey .usersByAuth id := by
      simp [Store.uniqueKey, huser₁, hothers u hu, hempty]
    have herase : (s₁.uniqueIndex .usersByAuth).eraseIdx (s₁.findUnique .usersByAuth (s₁.uniqueKey .usersByAuth id)) =
        (s₁.uniqueIndex .usersByAuth).erase u := by
      rw [EntityCollection.findUnique_eq, ← hfound]
      exact eraseIdx_eq_erase hunique₁.nodup (hunique₁.getElem?_findKey.2 ⟨hu, rfl⟩)
    have hmem : u ∉ s₂.uniqueIndex .usersByAuth := by
      let s' := (s₁.uniquePrepareUpdate .usersByAuth id).modifyUser id fun u => { u with auth := auth }
      have hit : s'.uniqueUpdateIt .usersByAuth = s₁.findUnique .usersByAuth (s₁.uniqueKey .usersByAuth id) := by
        simp [s', EntityCollection.modifyUser, EntityCollection.uniquePrepareUpdate]
      have hlt : s'.uniqueUpdateIt .usersByAuth < (s'.uniqueIndex .usersByAuth).length := by
        rw [hit, ← hfound]
        exact hunique₁.findKey_lt_iff.2 ⟨u, hu, rfl⟩
      have herase' : (s'.uniqueIndex .usersByAuth).eraseIdx (s'.uniqueUpdateIt .usersByAuth) =
          (s₁.uniqueIndex .usersByAuth).erase u := by
        rw [hit]
        exact herase
      have hnew : ∀ v ∈ (s₁.uniqueIndex .usersByAuth).erase u, s'.uniqueKey .usersByAuth v ≠ s'.uniqueKey .usersByAuth id := by
        intro v hv
        have hv : v ∈ s.users := (hunique₁.mem_iff v).1 (List.mem_of_mem_erase hv)
        have huserv : s'.user v = s.user v := (Function.update_of_ne (hother v hv) _ _).trans (hothers v hv)
        have huser : (s'.user id).auth = auth := by simp [s', EntityCollection.modifyUser]
        simpa [Store.uniqueKey, huserv, huser] using uniqueKey_ne_of_not_contains h hnewAuth v hv
      have hs₂ : s₂.uniqueIndex .usersByAuth =
          insertItem (s'.uniqueKey .usersByAuth) id ((s₁.uniqueIndex .usersByAuth).erase u) := by
        have hupdate : s₂ = s'.setUniqueIndex .usersByAuth (insertItem (s'.uniqueKey .usersByAuth) id
            ((s'.uniqueIndex .usersByAuth).eraseIdx (s'.uniqueUpdateIt .usersByAuth))) :=
          if_pos ⟨hlt, by rw [herase']; exact hnew⟩
        rw [hupdate, herase']
        simp [EntityCollection.setUniqueIndex]
      rw [hs₂, (perm_insertItem _ _ _).mem_iff, List.mem_cons]
      rintro (heq | hmem)
      · exact hne heq
      · exact hunique₁.nodup.not_mem_erase hmem
    intro hexact
    have husers : u ∈ (s₂.usersAdd id).users := by
      simp [s₂, s₁, User.updateAuth, EntityCollection.createUser, EntityCollection.modifyUser, EntityCollection.construct,
        Ownership.construct, EntityCollection.uniquePrepareUpdate, hu]
    have hlookup := (hexact.lookup .usersByAuth ((s₂.usersAdd id).uniqueKey .usersByAuth u) u).2 ⟨husers, rfl⟩
    exact hmem (mem_uniqueIndex_of_usersAdd hne (List.mem_of_getElem? hlookup))

/-- A step that is not one that keeps the lookups leaves them wrong. -/
theorem not_lookupsExact_perform {s : EntityCollection} {ctx : Context} {op : Operation} (h : LookupInvariant s)
    (hid : ∀ id, op.newId = some id → ∀ ref, id ∉ s.uniqueById ref) (hop : ¬KeepsLookups ctx s op) :
    ¬LookupsExact (op.perform ctx s).2 := by
  cases op
  case changeDiscussionTagName id name =>
    simp only [KeepsLookups, not_forall, not_not] at hop
    obtain ⟨hmem, tag, htag, hne, hname⟩ := hop
    intro hexact
    have hnames := hexact.tagNames
    have hother : (s.tag tag).name.sortKey = name.sortKey := hname
    simp only [Operation.perform, changeDiscussionTagName, if_pos hmem] at hnames
    refine hne (hnames tag ?_ id ?_ ?_)
    all_goals simp [updateTagLastUpdated, DiscussionTag.updateName, EntityCollection.modifyTag,
      EntityCollection.uniquePrepareUpdate, htag, hmem, hne, hother]
  case addNewUser id name auth =>
    simp only [KeepsLookups, not_forall, not_not] at hop
    obtain ⟨hok, u, hu, hempty⟩ := hop
    exact not_lookupsExact_addNewUser h (hid id rfl) hok hu hempty
  all_goals exact absurd trivial hop

/-- In every run that renames no tag to the name of another one and adds no user beside one with an empty
auth string, the lookups and the indexes are exact; and the next step keeps them so exactly if it does
neither. -/
theorem lookupsExact_of_reachable {s : EntityCollection} (h : Reachable KeepsLookups s) :
    LookupsExact s ∧ ∀ ctx op, Callable s op → (LookupsExact (op.perform ctx s).2 ↔ KeepsLookups ctx s op) := by
  refine ⟨.of_invariant h.lookupInvariant, fun ctx op callable => ⟨fun hexact => ?_, fun hop => ?_⟩⟩
  · by_contra hop
    exact not_lookupsExact_perform h.lookupInvariant (h.not_mem_uniqueById h.tags_issued callable) hop hexact
  · exact .of_invariant (Reachable.step ctx op h callable hop).lookupInvariant

/-- Two tags, one of them renamed to a third name. -/
theorem lookupsExact_of_rename :
    LookupsExact (run
      [({ currentUserId := 0, currentTime := 1 }, .addNewUser 1 { sortKey := [1] } "auth"),
        ({ currentUserId := 1, currentTime := 2 }, .addNewDiscussionTag 2 { sortKey := [2] }),
        ({ currentUserId := 1, currentTime := 3 }, .addNewDiscussionTag 3 { sortKey := [3] }),
        ({ currentUserId := 1, currentTime := 4 }, .changeDiscussionTagName 3 { sortKey := [4] })] .empty) := by
  refine (lookupsExact_of_reachable (.step _ _ (.step _ _ (.step _ _ (.step _ _ .empty ?_ ?_) ?_ ?_) ?_ ?_) ?_ ?_)).1
  case refine_1 | refine_3 | refine_5 | refine_7 => decide +kernel
  case refine_2 => exact fun _ u hu => absurd hu (Finset.notMem_empty u)
  case refine_4 | refine_6 => trivial
  case refine_8 => exact fun _ => by decide +kernel

/-- Any operation but a merge of two tags. -/
def DoesNotMergeTags (_ : Context) (_ : EntityCollection) (op : Operation) : Prop :=
  ∀ fromId intoId, op ≠ .mergeDiscussionTags fromId intoId

/-- Two tags, one of them renamed to the name of the other: both have that name, and only one is found. -/
theorem not_lookupsExact_of_rename : ¬∀ s, Reachable DoesNotMergeTags s → LookupsExact s := by
  intro h
  have hrun := h (run
      [({ currentUserId := 0, currentTime := 2 }, .addNewDiscussionTag 2 { sortKey := [2] }),
        ({ currentUserId := 0, currentTime := 3 }, .addNewDiscussionTag 3 { sortKey := [3] }),
        ({ currentUserId := 0, currentTime := 4 }, .changeDiscussionTagName 3 { sortKey := [2] })] .empty)
    (.step _ _ (.step _ _ (.step _ _ .empty (by decide +kernel) (by simp [DoesNotMergeTags])) (by decide +kernel)
      (by simp [DoesNotMergeTags])) (by decide +kernel) (by simp [DoesNotMergeTags]))
  exact absurd (hrun.tagNames 2 (by decide +kernel) 3 (by decide +kernel) (by decide +kernel)) (by decide)

end Forum.Repository
