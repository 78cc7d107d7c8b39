import Forum.Entities.OwnershipEffects

/-!
# Names of threads and contents of messages

Who reads the store from outside often reads texts: the name of a thread and the content of a message.
They are set when the entity is created and when they are edited, and by nothing else; a deletion leaves them
with the entity it releases.
-/

namespace Forum.Entities

open Forum.Library EntityCollection

/-- The names of the threads and the contents of the messages. -/
def Properties.texts (s : Properties) : (IdType → NameType) × (IdType → String) :=
  (fun thread => (s.thread thread).name, fun message => (s.message message).content)

variable (ctx : Context) (s : EntityCollection)

/-- A loop whose every step leaves the texts alone. -/
theorem texts_foldl {α : Type*} {f : EntityCollection → α → EntityCollection} {l : List α} {s : EntityCollection}
    (h : ∀ s, ∀ x ∈ l, (f s x).texts = s.texts) : (l.foldl f s).texts = s.texts :=
  foldl_view (fun s : EntityCollection => s.texts) h

/-! ### Collections -/

section

variable (store : Store) (x : Finset IdType)

@[simp] theorem texts_setThreads (c : ThreadCollectionRef) : (store.setThreads x c).texts = store.texts := by
  cases c <;> rfl

@[simp] theorem texts_setMessages (c : MessageCollectionRef) : (store.setMessages x c).texts = store.texts := by
  cases c <;> rfl

@[simp] theorem texts_setComments (c : CommentCollectionRef) : (store.setComments x c).texts = store.texts := by
  cases c <;> rfl

@[simp] theorem texts_setPrivateMessages (c : PrivateMessageCollectionRef) :
    (store.setPrivateMessages x c).texts = store.texts := by
  cases c <;> rfl

@[simp] theorem texts_setAttachments (c : AttachmentCollectionRef) :
    (store.setAttachments x c).texts = store.texts := by
  cases c <;> rfl

end

/-! ### Threads and messages -/

/-- A thread is changed but for its name. -/
theorem texts_modifyThread (thread : IdType) {f : DiscussionThread → DiscussionThread}
    (hf : (f (s.thread thread)).name = (s.thread thread).name) : (s.modifyThread thread f).texts = s.texts := by
  have hname : (fun t => ((s.modifyThread thread f).thread t).name) = fun t => (s.thread t).name := by
    funext t
    by_cases ht : t = thread
    · subst ht
      simpa [modifyThread] using hf
    · simp [modifyThread, ht]
  exact Prod.ext hname rfl

/-- A message is changed but for its content. -/
theorem texts_modifyMessage (message : IdType) {f : DiscussionThreadMessage → DiscussionThreadMessage}
    (hf : (f (s.message message)).content = (s.message message).content) :
    (s.modifyMessage message f).texts = s.texts := by
  have hcontent : (fun m => ((s.modifyMessage message f).message m).content) = fun m => (s.message m).content := by
    funext m
    by_cases hm : m = message
    · subst hm
      simpa [modifyMessage] using hf
    · simp [modifyMessage, hm]
  exact Prod.ext rfl hcontent

/-- The content of a message is replaced. -/
theorem texts_modifyMessage_content (message : IdType) {f : DiscussionThreadMessage → DiscussionThreadMessage}
    {content : String} (hf : (f (s.message message)).content = content) :
    (s.modifyMessage message f).texts = (s.texts.1, Function.update s.texts.2 message content) := by
  refine Prod.ext rfl (funext fun m => ?_)
  by_cases hm : m = message
  · subst hm
    simpa [Properties.texts, modifyMessage] using hf
  · simp [Properties.texts, modifyMessage, hm]

/-- The name of a thread is replaced. -/
theorem texts_modifyThread_name (thread : IdType) {f : DiscussionThread → DiscussionThread} {name : NameType}
    (hf : (f (s.thread thread)).name = name) :
    (s.modifyThread thread f).texts = (Function.update s.texts.1 thread name, s.texts.2) := by
  refine Prod.ext (funext fun t => ?_) rfl
  by_cases ht : t = thread
  · subst ht
    simpa [Properties.texts, modifyThread] using hf
  · simp [Properties.texts, modifyThread, ht]

theorem texts_createDiscussionThread (id createdBy : IdType) (name : NameType) (created : Timestamp)
    (details : VisitDetails) (approved : Bool) :
    (s.createDiscussionThread id createdBy name created details approved).texts =
      (Function.update s.texts.1 id name, s.texts.2) :=
  texts_modifyThread_name _ id rfl

/-- A new message has no content yet. -/
theorem texts_createDiscussionThreadMessage (id createdBy : IdType) (created : Timestamp) (details : VisitDetails)
    (approved : Bool) :
    (s.createDiscussionThreadMessage id createdBy created details approved).texts =
      (s.texts.1, Function.update s.texts.2 id "") :=
  texts_modifyMessage_content _ id rfl

namespace DiscussionThread

variable (thread : IdType)

@[simp] theorem texts_resetVisitorsSinceLastEdit : (resetVisitorsSinceLastEdit thread s).texts = s.texts :=
  texts_modifyThread s thread rfl

@[simp] theorem texts_setLatestVisibleChange (value : Timestamp) :
    (setLatestVisibleChange thread s value).texts = s.texts := texts_modifyThread s thread rfl

@[simp] theorem texts_setApproved (value : Bool) : (setApproved thread s value).texts = s.texts :=
  texts_modifyThread s thread rfl

@[simp] theorem texts_updateLastUpdatedDetails (details : VisitDetails) :
    (updateLastUpdatedDetails thread s details).texts = s.texts := texts_modifyThread s thread rfl

@[simp] theorem texts_updateLastUpdatedBy (user : IdType) : (updateLastUpdatedBy thread s user).texts = s.texts :=
  texts_modifyThread s thread rfl

@[simp] theorem texts_insertSubscribedUser (user : IdType) : (insertSubscribedUser thread s user).texts = s.texts :=
  rfl

@[simp] theorem texts_eraseSubscribedUser (user : IdType) : (eraseSubscribedUser thread s user).texts = s.texts := rfl

@[simp] theorem texts_setAboutToBeDeleted (value : Bool) : (setAboutToBeDeleted thread s value).texts = s.texts := rfl

@[simp] theorem texts_updateLastUpdated (value : Timestamp) : (updateLastUpdated thread s value).texts = s.texts := by
  unfold updateLastUpdated
  dsimp only
  split_ifs
  · exact texts_modifyThread s thread rfl
  · rw [toStore_onUpdateDiscussionThread, texts_modifyThread _ thread rfl, toStore_onPrepareUpdateDiscussionThread,
      texts_modifyThread s thread rfl]

@[simp] theorem texts_updatePinDisplayOrder (value : ℕ) : (updatePinDisplayOrder thread s value).texts = s.texts := by
  unfold updatePinDisplayOrder
  dsimp only
  rw [toStore_onUpdateDiscussionThread, texts_modifyThread _ thread rfl, toStore_onPrepareUpdateDiscussionThread]

theorem texts_updateName (name : NameType) :
    (updateName thread s name).texts = (Function.update s.texts.1 thread name, s.texts.2) := by
  unfold updateName
  dsimp only
  rw [toStore_onUpdateDiscussionThread, texts_modifyThread_name _ thread rfl, toStore_onPrepareUpdateDiscussionThread]

@[simp] theorem texts_insertMessage (message : IdType) : (insertMessage thread s message).texts = s.texts := by
  simp

@[simp] theorem texts_insertMessages (messages : Finset IdType) :
    (insertMessages thread s messages).texts = s.texts := by
  simp

@[simp] theorem texts_deleteDiscussionThreadMessage (message : IdType) :
    (deleteDiscussionThreadMessage thread s message).texts = s.texts := by
  simp

end DiscussionThread

namespace DiscussionThreadMessage

variable (message : IdType)

@[simp] theorem texts_setParentThread (thread : IdType) : (setParentThread message s thread).texts = s.texts := rfl

@[simp] theorem texts_changeSolvedCommentsCount (delta : ℤ) :
    (changeSolvedCommentsCount message s delta).texts = s.texts := texts_modifyMessage s message rfl

@[simp] theorem texts_removeAttachment (attachment : IdType) : (removeAttachment message s attachment).texts = s.texts :=
  rfl

@[simp] theorem texts_removeVote (user : IdType) : (removeVote message s user).2.texts = s.texts := by
  unfold removeVote
  split_ifs <;> rfl

end DiscussionThreadMessage

/-! ### Users, tags and categories -/

namespace User

variable (user : IdType)

@[simp] theorem texts_modifyUser (f : User → User) : (s.modifyUser user f).texts = s.texts := rfl

@[simp] theorem texts_removeVote (message : IdType) : (removeVote user s message).texts = s.texts := rfl

@[simp] theorem texts_updateLastSeen (value : Timestamp) : (updateLastSeen user s value).texts = s.texts := by
  unfold updateLastSeen
  split_ifs <;> simp

end User

namespace DiscussionCategory

variable (category thread : IdType)

@[simp] theorem texts_modifyTotals (f : TotalThreads → TotalThreads) : (s.modifyTotals category f).texts = s.texts := rfl

@[simp] theorem texts_addCategoryMessageCount (delta : ℤ) :
    (s.addCategoryMessageCount category delta).texts = s.texts := rfl

@[simp] theorem texts_updateMessageCount (delta : ℤ) :
    (updateMessageCount category s thread delta).texts = s.texts := by
  unfold updateMessageCount
  dsimp only
  rw [toStore_finishUpdate, texts_foldl fun s c _ => texts_modifyTotals s c _, texts_modifyTotals,
    texts_addCategoryMessageCount, toStore_prepareUpdate]

@[simp] theorem texts_deleteDiscussionThread (deleteMessages onlyThisCategory : Bool) :
    (deleteDiscussionThread ctx category s thread deleteMessages onlyThisCategory).texts = s.texts := by
  rw [toStore_deleteDiscussionThread]
  split_ifs
  all_goals first | rfl | exact texts_modifyThread s thread rfl

@[simp] theorem texts_deleteDiscussionThreadIfNoOtherTagsReferenceIt (deleteMessages : Bool) :
    (deleteDiscussionThreadIfNoOtherTagsReferenceIt ctx category s thread deleteMessages).texts = s.texts := by
  unfold deleteDiscussionThreadIfNoOtherTagsReferenceIt
  split_ifs
  · rfl
  · exact (texts_foldl fun s c _ => texts_modifyTotals s c _).trans
      (texts_deleteDiscussionThread ctx s category thread deleteMessages true)

end DiscussionCategory

namespace DiscussionTag

variable (tag thread : IdType)

@[simp] theorem texts_addTagMessageCount (delta : ℤ) : (s.addTagMessageCount tag delta).texts = s.texts := rfl

@[simp] theorem texts_updateMessageCount (delta : ℤ) : (updateMessageCount tag s delta).texts = s.texts := by
  unfold updateMessageCount
  dsimp only
  split_ifs
  · rfl
  · rw [toStore_finishUpdate, texts_addTagMessageCount, toStore_prepareUpdate]

@[simp] theorem texts_deleteDiscussionThread (deleteMessages : Bool) :
    (deleteDiscussionThread ctx tag s thread deleteMessages).texts = s.texts := by
  have hcategories : ∀ (categories : List IdType) (s : EntityCollection),
      (categories.foldl (fun s category => DiscussionCategory.deleteDiscussionThreadIfNoOtherTagsReferenceIt ctx category
        s thread deleteMessages) s).texts = s.texts := fun categories s => texts_foldl fun s category _ => by simp
  unfold deleteDiscussionThread
  dsimp only
  split_ifs <;> simp [hcategories]

end DiscussionTag

/-! ### Deletions -/

namespace EntityCollection

@[simp] theorem texts_eraseAttachmentMessage (attachment message : IdType) :
    (s.eraseAttachmentMessage attachment message).texts = s.texts := rfl

@[simp] theorem texts_deleteMessageComment (comment : IdType) : (s.deleteMessageComment comment).texts = s.texts := by
  unfold deleteMessageComment
  dsimp only
  split_ifs <;> simp

@[simp] theorem texts_deletePrivateMessage (message : IdType) (fromSource fromDestination : Bool) :
    (s.deletePrivateMessage message fromSource fromDestination).texts = s.texts := by
  unfold deletePrivateMessage
  dsimp only
  split_ifs <;> simp

theorem texts_attachmentsRemove (collection : AttachmentCollectionRef) (attachment : IdType) :
    (s.attachmentsRemove collection attachment).texts = s.texts := by
  by_cases h : attachment ∈ s.attachments collection
  · rw [toStore_attachmentsRemove s attachment collection h]
    exact texts_setAttachments s.toStore _ collection
  · simp [attachmentsRemove, h]

@[simp] theorem texts_deleteAttachment (attachment : IdType) (alsoFromUser : Bool) :
    (s.deleteAttachment attachment alsoFromUser).texts = s.texts := by
  unfold deleteAttachment
  dsimp only
  split_ifs
  · rw [texts_foldl fun s message _ => DiscussionThreadMessage.texts_removeAttachment s message attachment,
      texts_attachmentsRemove, texts_attachmentsRemove]
  · rw [texts_foldl fun s message _ => DiscussionThreadMessage.texts_removeAttachment s message attachment,
      texts_attachmentsRemove]
  · rfl

@[simp] theorem texts_detachMessageFromThread (message thread : IdType) :
    (detachMessageFromThread ctx s message thread).texts = s.texts := by
  unfold detachMessageFromThread
  dsimp only
  rw [texts_foldl fun s category _ => DiscussionCategory.texts_updateMessageCount s category thread (-1),
    texts_foldl fun s tag _ => DiscussionTag.texts_updateMessageCount s tag (-1),
    DiscussionThread.texts_setLatestVisibleChange, DiscussionThread.texts_resetVisitorsSinceLastEdit,
    DiscussionThread.texts_deleteDiscussionThreadMessage]

@[simp] theorem texts_deleteDiscussionThreadMessage (message : IdType) (alsoFromUser : Bool) :
    (s.deleteDiscussionThreadMessage ctx message alsoFromUser).texts = s.texts := by
  unfold deleteDiscussionThreadMessage
  split
  · extract_lets s₁ s₂ s₃ s₄ s₅ s₆
    have h₂ : s₂.texts = s.texts := by
      dsimp only [s₂, s₁]
      split_ifs <;> simp
    have h₃ : s₃.texts = s.texts := (texts_foldl fun s comment _ => texts_deleteMessageComment s comment).trans h₂
    have h₅ : s₅.texts = s.texts :=
      (texts_foldl fun s user _ => User.texts_removeVote s user message).trans
        ((texts_foldl fun s user _ => User.texts_removeVote s user message).trans h₃)
    have h₆ : s₆.texts = s.texts :=
      (texts_foldl fun s attachment _ => texts_eraseAttachmentMessage s attachment message).trans h₅
    clear_value s₆
    split_ifs
    · exact h₆
    · rw [texts_detachMessageFromThread, h₆]
  · rfl

@[simp] theorem texts_deleteDiscussionThread (thread : IdType) (deleteMessages alsoFromUser : Bool) :
    (s.deleteDiscussionThread ctx thread deleteMessages alsoFromUser).texts = s.texts := by
  unfold deleteDiscussionThread
  split
  · extract_lets s₁ s₂ s₃ s₄ s₅ s₆
    have h₃ : s₃.texts = s.texts := by
      dsimp only [s₃, s₂, s₁]
      split_ifs <;> simp
    have h₄ : s₄.texts = s.texts := (texts_foldl fun s category _ =>
      DiscussionCategory.texts_deleteDiscussionThread ctx s category thread deleteMessages false).trans h₃
    have h₅ : s₅.texts = s.texts := (texts_foldl fun s tag _ =>
      DiscussionTag.texts_deleteDiscussionThread ctx s tag thread deleteMessages).trans h₄
    have h₆ : s₆.texts = s.texts := (texts_foldl fun s user _ => by simp).trans h₅
    clear_value s₆
    split_ifs
    · exact (texts_foldl fun s m _ => texts_deleteDiscussionThreadMessage ctx s m true).trans h₆
    · exact h₆
  · rfl

theorem texts_detachComment (comment : IdType) : (s.detachComment comment).texts = s.texts := by
  unfold detachComment
  dsimp only
  split_ifs <;> simp

@[simp] theorem texts_deleteUser (user : IdType) : (s.deleteUser ctx user).texts = s.texts := by
  unfold deleteUser
  split
  · extract_lets s₁ s₂ s₃ s₄ s₅ s₆ s₇ s₈
    have h₁ : s₁.texts = s.texts := by simp [s₁]
    have h₂ : s₂.texts = s.texts :=
      (texts_foldl fun s message _ => DiscussionThreadMessage.texts_removeVote s message user).trans h₁
    have h₃ : s₃.texts = s.texts := (texts_foldl fun s comment _ => texts_detachComment s comment).trans h₂
    have h₄ : s₄.texts = s.texts :=
      (texts_foldl fun s thread _ => DiscussionThread.texts_eraseSubscribedUser s thread user).trans h₃
    clear_value s₄
    have h₅ : s₅.texts = s.texts :=
      (texts_foldl fun s m _ => texts_deleteDiscussionThreadMessage ctx s m false).trans h₄
    clear_value s₅
    have h₆ : s₆.texts = s.texts :=
      (texts_foldl fun s t _ => texts_deleteDiscussionThread ctx s t true false).trans h₅
    clear_value s₆
    have h₇ : s₇.texts = s.texts := (texts_foldl fun s m _ => texts_deletePrivateMessage s m true false).trans h₆
    have h₈ : s₈.texts = s.texts := (texts_foldl fun s m _ => texts_deletePrivateMessage s m false true).trans h₇
    exact (texts_foldl fun s a _ => texts_deleteAttachment s a false).trans h₈
  · rfl

end EntityCollection

end Forum.Entities
