import Forum.Entities.PlacementEffects

/-!
# What the operations do to the ownership relations

The functions of tags and categories leave the ownership of entities alone, as they leave alone
whether a batch insert is in progress. Deleting messages and threads changes it in a way that
depends neither on how threads are placed nor on any index: `Ownership.deleteMessages` and
`Ownership.deleteThread` say what is deleted with them, and the functions of the entity collection
are shown to do exactly that.
-/

namespace Forum.Entities

open Forum.Library

variable (ctx : Context) (s : EntityCollection)

/-! ### Leaving ownership alone -/

/-- `s'` has the ownership relations and the batch state of `s`. -/
@[simp] abbrev OwnershipKept (s s' : EntityCollection) : Prop :=
  s'.toOwnership = s.toOwnership ∧ s'.batchInsertInProgress = s.batchInsertInProgress

namespace OwnershipKept

variable {s s' s'' : EntityCollection}

theorem trans' (h' : OwnershipKept s' s'') (h : OwnershipKept s s') : OwnershipKept s s'' :=
  ⟨h'.1.trans h.1, h'.2.trans h.2⟩

/-- Then nothing but indexes change. -/
theorem of_toStore (hs : s''.toStore = s'.toStore) (h : OwnershipKept s s') : OwnershipKept s s'' := by
  simpa [hs] using h

/-- Then a loop whose every step leaves ownership alone. -/
theorem foldl {α : Type*} {f : EntityCollection → α → EntityCollection} {l : List α}
    (hf : ∀ s, ∀ x ∈ l, OwnershipKept s (f s x)) (h : OwnershipKept s s') : OwnershipKept s (l.foldl f s') :=
  foldl_keeps h fun s' x hx h => (hf s' x hx).trans' h

end OwnershipKept

/-! ### Categories and tags -/

namespace DiscussionCategory

variable (category thread tag : IdType)

@[simp] theorem ownershipKept_insertNewDiscussionThreads (threads : List IdType) :
    OwnershipKept s (insertNewDiscussionThreads ctx category s threads) := by
  simp [OwnershipKept, toStore_insertNewDiscussionThreads]

@[simp] theorem ownershipKept_insertDiscussionThreads (threads : List IdType) :
    OwnershipKept s (insertDiscussionThreads ctx category s threads) := by
  unfold insertDiscussionThreads
  dsimp only
  split_ifs <;> simp

@[simp] theorem ownershipKept_insertDiscussionThreadsOfTag :
    OwnershipKept s (insertDiscussionThreadsOfTag ctx category s tag) := by
  unfold insertDiscussionThreadsOfTag
  dsimp only
  split_ifs <;> simp

@[simp] theorem ownershipKept_deleteDiscussionThread (deleteMessages onlyThisCategory : Bool) :
    OwnershipKept s (deleteDiscussionThread ctx category s thread deleteMessages onlyThisCategory) := by
  unfold OwnershipKept
  rw [toStore_deleteDiscussionThread]
  split_ifs <;> simp

@[simp] theorem ownershipKept_deleteDiscussionThreadIfNoOtherTagsReferenceIt (deleteMessages : Bool) :
    OwnershipKept s (deleteDiscussionThreadIfNoOtherTagsReferenceIt ctx category s thread deleteMessages) := by
  unfold deleteDiscussionThreadIfNoOtherTagsReferenceIt
  split_ifs
  · simp
  · exact .foldl (fun _ _ _ => ⟨rfl, rfl⟩)
      (ownershipKept_deleteDiscussionThread ctx s category thread deleteMessages true)

@[simp] theorem ownershipKept_addTag : OwnershipKept s (addTag ctx category s tag) := by
  unfold addTag
  split_ifs <;> simp

@[simp] theorem ownershipKept_removeTag : OwnershipKept s (removeTag ctx category s tag) := by
  unfold removeTag
  split_ifs
  · refine .foldl (fun s thread _ =>
      ownershipKept_deleteDiscussionThreadIfNoOtherTagsReferenceIt ctx s category thread true) ?_
    simp
  · simp

@[simp] theorem ownershipKept_updateMessageCount (delta : ℤ) :
    OwnershipKept s (updateMessageCount category s thread delta) := by
  unfold updateMessageCount
  dsimp only
  refine .of_toStore (EntityCollection.toStore_finishUpdate _ _ _) (.foldl (fun _ _ _ => ⟨rfl, rfl⟩) ?_)
  simp [EntityCollection.modifyTotals, EntityCollection.addCategoryMessageCount]

@[simp] theorem ownershipKept_removeTotalsFromChild (child : IdType) :
    OwnershipKept s (removeTotalsFromChild category s child) :=
  .foldl (fun _ _ _ => ⟨rfl, rfl⟩) ⟨rfl, rfl⟩

@[simp] theorem ownershipKept_addTotalsFromChild (child : IdType) :
    OwnershipKept s (addTotalsFromChild category s child) :=
  .foldl (fun _ _ _ => ⟨rfl, rfl⟩) ⟨rfl, rfl⟩

@[simp] theorem ownershipKept_updateName (name : NameType) :
    OwnershipKept s (updateName category s name) := by
  simp [updateName, EntityCollection.modifyCategory]

@[simp] theorem ownershipKept_updateDisplayOrder (value : ℤ) :
    OwnershipKept s (updateDisplayOrder category s value) := by
  unfold updateDisplayOrder
  split_ifs <;> simp [EntityCollection.modifyCategory]

@[simp] theorem ownershipKept_updateParent (newParent : Option IdType) :
    OwnershipKept s (updateParent category s newParent) := by
  simp [updateParent]

end DiscussionCategory

namespace DiscussionTag

variable (tag thread : IdType)

@[simp] theorem ownershipKept_updateName (name : NameType) : OwnershipKept s (updateName tag s name) := by
  simp [updateName, EntityCollection.modifyTag]

@[simp] theorem ownershipKept_updateMessageCount (delta : ℤ) :
    OwnershipKept s (updateMessageCount tag s delta) := by
  unfold updateMessageCount
  dsimp only
  split_ifs
  · simp
  · simp [EntityCollection.addTagMessageCount]

/-- Handing an array on from category to category. -/
theorem ownershipKept_foldl_insertDiscussionThreads (categories threads : List IdType) :
    OwnershipKept s (categories.foldl (fun (acc : List IdType × EntityCollection) category =>
      (DiscussionCategory.compactThreads category acc.2 acc.1,
        DiscussionCategory.insertDiscussionThreads ctx category acc.2 acc.1)) (threads, s)).2 :=
  foldl_keeps (P := fun acc : List IdType × EntityCollection => OwnershipKept s acc.2) ⟨rfl, rfl⟩
    fun acc c _ h => (DiscussionCategory.ownershipKept_insertDiscussionThreads ctx acc.2 c acc.1).trans' h

@[simp] theorem ownershipKept_insertDiscussionThreads (threads : List IdType) :
    OwnershipKept s (insertDiscussionThreads ctx tag s threads) := by
  unfold insertDiscussionThreads
  dsimp only
  split_ifs
  · simp
  · refine .of_toStore (EntityCollection.toStore_finishUpdate _ _ _)
      (.of_toStore (EntityCollection.toStore_finishUpdate _ _ _) ?_)
    refine OwnershipKept.trans' (ownershipKept_foldl_insertDiscussionThreads ctx _ _ _) ?_
    refine .foldl (fun _ _ _ => ⟨rfl, rfl⟩) ?_
    simp [Store.setThreads]

@[simp] theorem ownershipKept_insertDiscussionThread :
    OwnershipKept s (insertDiscussionThread ctx tag s thread) :=
  ownershipKept_insertDiscussionThreads ctx s tag [thread]

@[simp] theorem ownershipKept_deleteDiscussionThread (deleteMessages : Bool) :
    OwnershipKept s (deleteDiscussionThread ctx tag s thread deleteMessages) := by
  unfold deleteDiscussionThread
  have loop : ∀ (deleteMessages : Bool) (categories : List IdType) (s' : EntityCollection), OwnershipKept s s' →
      OwnershipKept s (categories.foldl (fun s category =>
        DiscussionCategory.deleteDiscussionThreadIfNoOtherTagsReferenceIt ctx category s thread
          deleteMessages) s') := fun deleteMessages categories s' h =>
    .foldl (fun s category _ =>
      DiscussionCategory.ownershipKept_deleteDiscussionThreadIfNoOtherTagsReferenceIt ctx s category thread _) h
  cases deleteMessages
  · simp only [EntityCollection.toStore_prepareUpdate, if_false, Bool.false_eq_true]
    split_ifs
    · refine .of_toStore (EntityCollection.toStore_finishUpdate _ _ _) (loop _ _ _ ?_)
      simp [Store.setThreads]
    · simp
  · simp only [EntityCollection.toStore_prepareUpdate, if_true]
    split_ifs
    · refine .of_toStore (EntityCollection.toStore_finishUpdate _ _ _)
        (.of_toStore (EntityCollection.toStore_finishUpdate _ _ _) (loop _ _ _ ?_))
      simp [Store.setThreads, EntityCollection.addTagMessageCount]
    · simp

end DiscussionTag

/-! ### Deleting messages -/

/-- Messages are deleted: they leave every collection together with their comments, their votes
leave the users who cast them, and their attachments forget them. Their authors keep them when they
are about to be released themselves, as do threads that are. -/
def Ownership.deleteMessages (o : Ownership) (messages : Finset IdType) (alsoFromUser : Bool) : Ownership :=
  { o with
    allMessages := o.allMessages \ messages
    userMessages := fun user => (o.userMessages user).filter fun message =>
      ¬(alsoFromUser ∧ message ∈ messages ∩ o.allMessages ∧ o.messageCreatedBy message = user)
    threadMessages := fun thread => (o.threadMessages thread).filter fun message =>
      ¬(message ∈ messages ∩ o.allMessages ∧ o.messageParentThread message = thread ∧
        ¬o.threadAboutToBeDeleted thread)
    allComments := o.allComments.filter fun comment =>
      ¬∃ message ∈ messages ∩ o.allMessages, comment ∈ o.messageComments message
    userComments := fun user => (o.userComments user).filter fun comment =>
      ¬(comment ∈ o.allComments ∧ o.commentCreatedBy comment = user ∧
        ∃ message ∈ messages ∩ o.allMessages, comment ∈ o.messageComments message)
    userVotedMessages := fun user => (o.userVotedMessages user).filter fun message =>
      ¬(message ∈ messages ∩ o.allMessages ∧
        (user ∈ o.messageUpVotes message ∨ user ∈ o.messageDownVotes message))
    attachmentMessages := fun attachment => (o.attachmentMessages attachment).filter fun message =>
      ¬(message ∈ messages ∩ o.allMessages ∧ attachment ∈ o.messageAttachments message) }

theorem Ownership.deleteMessages_empty (o : Ownership) (alsoFromUser : Bool) :
    o.deleteMessages ∅ alsoFromUser = o := by
  simp [Ownership.deleteMessages]

/-- Deleting messages in two goes. -/
theorem Ownership.deleteMessages_deleteMessages (o : Ownership) (M N : Finset IdType) (alsoFromUser : Bool) :
    (o.deleteMessages M alsoFromUser).deleteMessages N alsoFromUser =
      o.deleteMessages (M ∪ N) alsoFromUser := by
  simp only [Ownership.deleteMessages, Ownership.mk.injEq, true_and, and_true]
  refine ⟨?_, ?_, ?_, ?_, ?_, ?_, ?_⟩
  · ext; simp; tauto
  · funext; ext; simp; tauto
  · funext; ext; simp; tauto
  · funext; ext; simp; grind
  · ext; simp; grind
  · funext; ext; simp; grind
  · funext; ext; simp; tauto

namespace EntityCollection

theorem toStore_foldl_deleteMessageComment (comments : List IdType) :
    (comments.foldl deleteMessageComment s).toStore =
      { s.toStore with
        allComments := s.allComments \ comments.toFinset
        userComments := fun user => (s.userComments user).filter fun comment =>
          ¬(comment ∈ comments ∧ comment ∈ s.allComments ∧ s.commentCreatedBy comment = user) } := by
  induction comments generalizing s with
  | nil => simp
  | cons comment comments ih =>
    rw [List.foldl_cons, ih]
    unfold deleteMessageComment
    split_ifs with h
    · simp only [toStore_commentsRemove, Store.setComments, Ownership.comments, Store.mk.injEq,
        Ownership.mk.injEq, true_and, and_true]
      refine ⟨?_, ?_⟩
      · ext; simp; tauto
      · funext user
        ext c
        by_cases hu : user = s.commentCreatedBy comment
        · subst hu; simp; grind
        · simp [hu]; grind
    · simp only [Store.mk.injEq, Ownership.mk.injEq, true_and, and_true]
      refine ⟨?_, ?_⟩
      · ext; simp; grind
      · funext user; ext c; simp; grind

/-- Users forget having voted on a message. -/
theorem toStore_foldl_removeVote (message : IdType) (users : List IdType) :
    (users.foldl (fun s user => User.removeVote user s message) s).toStore =
      { s.toStore with
        userVotedMessages := fun user => (s.userVotedMessages user).filter fun m =>
          ¬(m = message ∧ user ∈ users) } := by
  induction users generalizing s with
  | nil => simp
  | cons user users ih =>
    rw [List.foldl_cons, ih]
    simp only [User.removeVote, Store.mk.injEq, Ownership.mk.injEq, true_and, and_true]
    funext u
    ext m
    by_cases hu : u = user
    · subst hu; simp; tauto
    · simp [hu]

/-- Attachments forget a message. -/
theorem toStore_foldl_eraseAttachmentMessage (message : IdType) (attachments : List IdType) :
    (attachments.foldl (fun s attachment => s.eraseAttachmentMessage attachment message) s).toStore =
      { s.toStore with
        attachmentMessages := fun attachment => (s.attachmentMessages attachment).filter fun m =>
          ¬(m = message ∧ attachment ∈ attachments) } := by
  induction attachments generalizing s with
  | nil => simp
  | cons attachment attachments ih =>
    rw [List.foldl_cons, ih]
    simp only [eraseAttachmentMessage, Store.mk.injEq, Ownership.mk.injEq, true_and, and_true]
    funext a
    ext m
    by_cases ha : a = attachment
    · subst ha; simp; tauto
    · simp [ha]

theorem toOwnership_detachMessageFromThread (message thread : IdType) :
    (detachMessageFromThread ctx s message thread).toOwnership =
        { s.toOwnership with
          threadMessages := Function.update s.threadMessages thread ((s.threadMessages thread).erase message) } ∧
      (detachMessageFromThread ctx s message thread).batchInsertInProgress = s.batchInsertInProgress := by
  unfold detachMessageFromThread
  dsimp only
  have h : ∀ s' : EntityCollection, OwnershipKept s'
      ((ascending (s'.threadCategories thread)).foldl
        (fun s category => DiscussionCategory.updateMessageCount category s thread (-1)) s') :=
    fun s' => .foldl (fun s c _ => DiscussionCategory.ownershipKept_updateMessageCount s c thread (-1)) ⟨rfl, rfl⟩
  have h' : ∀ s' : EntityCollection, OwnershipKept s'
      ((ascending (s'.threadTags thread)).foldl (fun s tag => DiscussionTag.updateMessageCount tag s (-1)) s') :=
    fun s' => .foldl (fun s c _ => DiscussionTag.ownershipKept_updateMessageCount s c (-1)) ⟨rfl, rfl⟩
  have hk := (h _).trans' (h' (DiscussionThread.setLatestVisibleChange thread
    (DiscussionThread.resetVisitorsSinceLastEdit thread
      (DiscussionThread.deleteDiscussionThreadMessage thread s message)) ctx.currentTime))
  refine ⟨hk.1.trans ?_, hk.2.trans ?_⟩
  · simp [DiscussionThread.setLatestVisibleChange, DiscussionThread.resetVisitorsSinceLastEdit, modifyThread]
  · simp [DiscussionThread.setLatestVisibleChange, DiscussionThread.resetVisitorsSinceLastEdit, modifyThread]

/-- Deleting a message. -/
@[simp] theorem toOwnership_deleteDiscussionThreadMessage (message : IdType) (alsoDeleteMessagesFromUser : Bool) :
    (deleteDiscussionThreadMessage ctx s message alsoDeleteMessagesFromUser).toOwnership =
        s.toOwnership.deleteMessages {message} alsoDeleteMessagesFromUser ∧
      (deleteDiscussionThreadMessage ctx s message alsoDeleteMessagesFromUser).batchInsertInProgress =
        s.batchInsertInProgress := by
  by_cases hm : message ∈ s.allMessages
  · unfold deleteDiscussionThreadMessage
    cases alsoDeleteMessagesFromUser <;> cases hd : s.threadAboutToBeDeleted (s.messageParentThread message) <;>
      simp [hm, hd, toStore_foldl_eraseAttachmentMessage, toStore_foldl_removeVote,
        toStore_foldl_deleteMessageComment, toOwnership_detachMessageFromThread, Store.setMessages,
        Ownership.messages, Ownership.deleteMessages]
    all_goals
      and_intros
      all_goals
        ext y
        grind
  · unfold deleteDiscussionThreadMessage
    simp [hm, Ownership.deleteMessages, Finset.sdiff_singleton_eq_erase]

/-- Deleting messages one after the other. -/
theorem toOwnership_foldl_deleteDiscussionThreadMessage (messages : List IdType) (alsoDeleteMessagesFromUser : Bool) :
    (messages.foldl (fun s message => deleteDiscussionThreadMessage ctx s message alsoDeleteMessagesFromUser)
        s).toOwnership = s.toOwnership.deleteMessages messages.toFinset alsoDeleteMessagesFromUser ∧
      (messages.foldl (fun s message => deleteDiscussionThreadMessage ctx s message alsoDeleteMessagesFromUser)
        s).batchInsertInProgress = s.batchInsertInProgress := by
  induction messages generalizing s with
  | nil => simp [Ownership.deleteMessages_empty]
  | cons message messages ih =>
    obtain ⟨h, h'⟩ := ih (deleteDiscussionThreadMessage ctx s message alsoDeleteMessagesFromUser)
    refine ⟨h.trans ?_, h'.trans ?_⟩
    · rw [(toOwnership_deleteDiscussionThreadMessage ctx s message _).1, Ownership.deleteMessages_deleteMessages,
        List.toFinset_cons, Finset.insert_eq]
    · simp

end EntityCollection

/-! ### Deleting threads -/

/-- A thread leaves the store and the collections of its author, unless that is to be released, and
of its subscribers. -/
def Ownership.dropThread (o : Ownership) (thread : IdType) (alsoFromUser : Bool) : Ownership :=
  { o with
    allThreads := o.allThreads.erase thread
    threadAboutToBeDeleted := Function.update o.threadAboutToBeDeleted thread true
    userThreads := fun user => (o.userThreads user).filter fun t =>
      ¬(alsoFromUser ∧ t = thread ∧ user = o.threadCreatedBy thread)
    userSubscribedThreads := fun user => (o.userSubscribedThreads user).filter fun t =>
      ¬(t = thread ∧ user ∈ o.threadSubscribedUsers thread) }

/-- A thread of the store is deleted, and with it its messages, unless they were merged into another
thread. -/
def Ownership.deleteThread (o : Ownership) (thread : IdType) (deleteMessages alsoFromUser : Bool) : Ownership :=
  if thread ∈ o.allThreads then
    if deleteMessages then (o.dropThread thread alsoFromUser).deleteMessages (o.threadMessages thread) true
    else o.dropThread thread alsoFromUser
  else o

namespace EntityCollection

/-- A thread leaves the collections of its subscribers. -/
theorem toStore_foldl_threadsRemove_subscribedBy (thread : IdType) (users : List IdType) :
    (users.foldl (fun s user => s.threadsRemove (.subscribedBy user) thread) s).toStore =
      { s.toStore with
        userSubscribedThreads := fun user => (s.userSubscribedThreads user).filter fun t =>
          ¬(t = thread ∧ user ∈ users) } := by
  induction users generalizing s with
  | nil => simp
  | cons user users ih =>
    rw [List.foldl_cons, ih]
    simp only [toStore_threadsRemove, Store.setThreads, Store.threads, Store.mk.injEq, Ownership.mk.injEq,
      true_and, and_true]
    funext u
    ext t
    by_cases hu : u = user
    · subst hu; simp; tauto
    · simp [hu]

theorem ownershipKept_foldl_deleteDiscussionThread_category (thread : IdType) (deleteMessages : Bool)
    (categories : List IdType) :
    OwnershipKept s (categories.foldl (fun s category =>
      DiscussionCategory.deleteDiscussionThread ctx category s thread deleteMessages false) s) :=
  .foldl (fun s c _ => DiscussionCategory.ownershipKept_deleteDiscussionThread ctx s c thread _ _) ⟨rfl, rfl⟩

theorem ownershipKept_foldl_deleteDiscussionThread_tag (thread : IdType) (deleteMessages : Bool)
    (tags : List IdType) :
    OwnershipKept s (tags.foldl (fun s tag =>
      DiscussionTag.deleteDiscussionThread ctx tag s thread deleteMessages) s) :=
  .foldl (fun s g _ => DiscussionTag.ownershipKept_deleteDiscussionThread ctx s g thread _) ⟨rfl, rfl⟩

/-- Deleting a thread. -/
@[simp] theorem toOwnership_deleteDiscussionThread (thread : IdType) (deleteMessages alsoDeleteThreadsFromUser : Bool) :
    (deleteDiscussionThread ctx s thread deleteMessages alsoDeleteThreadsFromUser).toOwnership =
        s.toOwnership.deleteThread thread deleteMessages alsoDeleteThreadsFromUser ∧
      (deleteDiscussionThread ctx s thread deleteMessages alsoDeleteThreadsFromUser).batchInsertInProgress =
        s.batchInsertInProgress := by
  by_cases ht : thread ∈ s.allThreads
  · have hu : Function.update s.userThreads (s.threadCreatedBy thread)
        ((s.userThreads (s.threadCreatedBy thread)).erase thread) =
          fun user => (s.userThreads user).filter fun t => t = thread → ¬user = s.threadCreatedBy thread := by
      funext user
      ext t
      simp [mem_update_erase]
    unfold deleteDiscussionThread
    cases deleteMessages <;> cases alsoDeleteThreadsFromUser <;>
      simp [ht, hu, toOwnership_foldl_deleteDiscussionThreadMessage, toStore_foldl_threadsRemove_subscribedBy,
        ownershipKept_foldl_deleteDiscussionThread_tag, ownershipKept_foldl_deleteDiscussionThread_category,
        Store.setThreads, Store.threads, DiscussionThread.setAboutToBeDeleted, Ownership.deleteThread, Ownership.dropThread]
  · unfold deleteDiscussionThread
    simp [ht, Ownership.deleteThread]

/-! ### Deleting tags and categories -/

@[simp] theorem ownershipKept_deleteDiscussionTag (tag : IdType) :
    OwnershipKept s (deleteDiscussionTag ctx s tag) := by
  unfold deleteDiscussionTag
  dsimp only
  split_ifs
  · refine .foldl (fun _ _ _ => ⟨rfl, rfl⟩) (.foldl (fun s c _ =>
      DiscussionCategory.ownershipKept_removeTag ctx s c tag) ?_)
    simp
  · simp

@[simp] theorem ownershipKept_deleteDiscussionCategory (category : IdType) :
    OwnershipKept s (deleteDiscussionCategory ctx s category) := by
  have hloops : ∀ (tags threads : List IdType) (s' : EntityCollection), OwnershipKept s s' →
      OwnershipKept s (threads.foldl (fun s thread => DiscussionThread.removeCategory thread s ctx category)
        (tags.foldl (fun s tag => DiscussionTag.removeCategory tag s category) s')) :=
    fun tags threads s' h => .foldl (fun _ _ _ => ⟨rfl, rfl⟩) (.foldl (fun _ _ _ => ⟨rfl, rfl⟩) h)
  have hparent : ∀ (parent : IdType) (s' : EntityCollection), OwnershipKept s s' →
      OwnershipKept s (DiscussionCategory.removeChild parent
        (DiscussionCategory.removeTotalsFromChild parent s' category) category) :=
    fun parent s' h => (DiscussionCategory.ownershipKept_removeTotalsFromChild s' parent category).trans' h
  unfold deleteDiscussionCategory
  dsimp only
  split_ifs
  · split
    · exact hloops _ _ _ (by simp)
    · exact hparent _ _ (hloops _ _ _ (by simp))
  · simp

/-! ### Deleting private messages and attachments -/

end EntityCollection

/-- Private messages are deleted, from the collections of those of their users that stay. -/
def Ownership.deletePrivateMessages (o : Ownership) (messages : Finset IdType) (fromSource fromDestination : Bool) :
    Ownership :=
  { o with
    allPrivateMessages := o.allPrivateMessages \ messages
    userSentPrivateMessages := fun user => (o.userSentPrivateMessages user).filter fun message =>
      ¬(fromSource ∧ message ∈ messages ∩ o.allPrivateMessages ∧ o.privateMessageSource message = user)
    userReceivedPrivateMessages := fun user => (o.userReceivedPrivateMessages user).filter fun message =>
      ¬(fromDestination ∧ message ∈ messages ∩ o.allPrivateMessages ∧
        o.privateMessageDestination message = user) }

/-- Attachments are deleted, from the collections of the users that stay and from the messages they
are attached to. -/
def Ownership.deleteAttachments (o : Ownership) (attachments : Finset IdType) (alsoFromUser : Bool) : Ownership :=
  { o with
    allAttachments := o.allAttachments \ attachments
    userAttachments := fun user => (o.userAttachments user).filter fun attachment =>
      ¬(alsoFromUser ∧ attachment ∈ attachments ∩ o.allAttachments ∧ o.attachmentCreatedBy attachment = user)
    messageAttachments := fun message => (o.messageAttachments message).filter fun attachment =>
      ¬(attachment ∈ attachments ∩ o.allAttachments ∧ message ∈ o.attachmentMessages attachment) }

theorem Ownership.deletePrivateMessages_deletePrivateMessages (o : Ownership) (M N : Finset IdType)
    (fromSource fromDestination : Bool) :
    (o.deletePrivateMessages M fromSource fromDestination).deletePrivateMessages N fromSource fromDestination =
      o.deletePrivateMessages (M ∪ N) fromSource fromDestination := by
  simp only [Ownership.deletePrivateMessages, Ownership.mk.injEq, true_and, and_true]
  refine ⟨?_, ?_, ?_⟩
  · ext; simp; tauto
  · funext; ext; simp; tauto
  · funext; ext; simp; tauto

theorem Ownership.deleteAttachments_deleteAttachments (o : Ownership) (A B : Finset IdType) (alsoFromUser : Bool) :
    (o.deleteAttachments A alsoFromUser).deleteAttachments B alsoFromUser =
      o.deleteAttachments (A ∪ B) alsoFromUser := by
  simp only [Ownership.deleteAttachments, Ownership.mk.injEq, true_and, and_true]
  refine ⟨?_, ?_, ?_⟩
  · ext; simp; tauto
  · funext; ext; simp; tauto
  · funext; ext; simp; tauto

namespace EntityCollection

theorem toStore_deletePrivateMessage (message : IdType) (fromSource fromDestination : Bool) :
    (s.deletePrivateMessage message fromSource fromDestination).toStore =
      { s.toStore with
        toOwnership := s.toOwnership.deletePrivateMessages {message} fromSource fromDestination } := by
  by_cases hm : message ∈ s.allPrivateMessages
  · unfold deletePrivateMessage
    cases fromSource <;> cases fromDestination <;>
      simp [hm, Store.setPrivateMessages, Ownership.privateMessages, Ownership.deletePrivateMessages,
        Finset.sdiff_singleton_eq_erase]
    all_goals
      and_intros
      all_goals
        ext y
        grind
  · unfold deletePrivateMessage
    simp [hm, Ownership.deletePrivateMessages, Finset.sdiff_singleton_eq_erase]

theorem toStore_foldl_deletePrivateMessage (messages : List IdType) (fromSource fromDestination : Bool) :
    (messages.foldl (fun s message => s.deletePrivateMessage message fromSource fromDestination) s).toStore =
      { s.toStore with
        toOwnership :=
          s.toOwnership.deletePrivateMessages messages.toFinset fromSource fromDestination } := by
  induction messages generalizing s with
  | nil => simp [Ownership.deletePrivateMessages]
  | cons message messages ih =>
    rw [List.foldl_cons, ih, toStore_deletePrivateMessage, Ownership.deletePrivateMessages_deletePrivateMessages,
      List.toFinset_cons, Finset.insert_eq]

theorem toOwnership_attachmentsRemove (c : AttachmentCollectionRef) (attachment : IdType) :
    (s.attachmentsRemove c attachment).toOwnership =
        (s.toStore.setAttachments ((s.attachments c).erase attachment) c).toOwnership ∧
      (s.attachmentsRemove c attachment).batchInsertInProgress = s.batchInsertInProgress := by
  by_cases h : attachment ∈ s.attachments c
  · rw [toStore_attachmentsRemove _ _ _ h]
    cases c <;> simp [Store.setAttachments, Store.setAttachmentsTotalSize]
  · rw [Finset.erase_eq_of_notMem h, Store.setAttachments_attachments]
    simp [attachmentsRemove, h]

theorem toStore_foldl_removeAttachment (attachment : IdType) (messages : List IdType) :
    (messages.foldl (fun s message => DiscussionThreadMessage.removeAttachment message s attachment) s).toStore =
      { s.toStore with
        messageAttachments := fun message => (s.messageAttachments message).filter fun a =>
          ¬(a = attachment ∧ message ∈ messages) } := by
  induction messages generalizing s with
  | nil => simp
  | cons message messages ih =>
    rw [List.foldl_cons, ih]
    simp only [DiscussionThreadMessage.removeAttachment, Store.mk.injEq, Ownership.mk.injEq, true_and, and_true]
    funext m
    ext a
    by_cases hm : m = message
    · subst hm; simp; tauto
    · simp [hm]

theorem toOwnership_deleteAttachment (attachment : IdType) (alsoFromUser : Bool) :
    (s.deleteAttachment attachment alsoFromUser).toOwnership =
        s.toOwnership.deleteAttachments {attachment} alsoFromUser ∧
      (s.deleteAttachment attachment alsoFromUser).batchInsertInProgress = s.batchInsertInProgress := by
  by_cases ha : attachment ∈ s.allAttachments
  · unfold deleteAttachment
    cases alsoFromUser <;>
      simp [ha, toStore_foldl_removeAttachment, toOwnership_attachmentsRemove, Store.setAttachments,
        Ownership.attachments, Ownership.deleteAttachments]
    all_goals
      and_intros
      all_goals
        ext y
        grind
  · unfold deleteAttachment
    simp [ha, Ownership.deleteAttachments, Finset.sdiff_singleton_eq_erase]

theorem toOwnership_foldl_deleteAttachment (attachments : List IdType) (alsoFromUser : Bool) :
    (attachments.foldl (fun s attachment => s.deleteAttachment attachment alsoFromUser) s).toOwnership =
        s.toOwnership.deleteAttachments attachments.toFinset alsoFromUser ∧
      (attachments.foldl (fun s attachment => s.deleteAttachment attachment alsoFromUser) s).batchInsertInProgress =
        s.batchInsertInProgress := by
  induction attachments generalizing s with
  | nil => simp [Ownership.deleteAttachments]
  | cons attachment attachments ih =>
    obtain ⟨h, h'⟩ := ih (s.deleteAttachment attachment alsoFromUser)
    obtain ⟨ha, ha'⟩ := toOwnership_deleteAttachment s attachment alsoFromUser
    refine ⟨h.trans ?_, h'.trans ha'⟩
    rw [ha, Ownership.deleteAttachments_deleteAttachments, List.toFinset_cons, Finset.insert_eq]

end EntityCollection

/-! ### Deleting users -/

/-- What `deleteUser` does first: the user is not found any more, and the user's votes, comments and
subscriptions leave the messages and threads they were made on. -/
def Ownership.detachUser (o : Ownership) (user : IdType) : Ownership :=
  { o with
    users := o.users.erase user
    messageUpVotes := fun message => (o.messageUpVotes message).filter fun u =>
      ¬(u = user ∧ message ∈ o.userVotedMessages user)
    messageDownVotes := fun message => (o.messageDownVotes message).filter fun u =>
      ¬(u = user ∧ message ∈ o.userVotedMessages user ∧ user ∉ o.messageUpVotes message)
    messageComments := fun message => (o.messageComments message).filter fun comment =>
      ¬(comment ∈ o.userComments user ∧ o.commentParentMessage comment = message)
    threadSubscribedUsers := fun thread => (o.threadSubscribedUsers thread).filter fun u =>
      ¬(u = user ∧ thread ∈ o.userSubscribedThreads user) }

/-- A registered user is deleted, with everything the user created. -/
def Ownership.deleteUser (o : Ownership) (user : IdType) : Ownership :=
  if user ∈ o.users then
    let o := (o.detachUser user).deleteMessages (o.userMessages user) false
    let o := (ascending (o.userThreads user)).foldl (fun o thread => o.deleteThread thread true false) o
    let o := o.deletePrivateMessages (o.userReceivedPrivateMessages user) true false
    let o := o.deletePrivateMessages (o.userSentPrivateMessages user) false true
    o.deleteAttachments (o.userAttachments user) false
  else o

/-- A property that the user's detaching establishes and every further deletion keeps. -/
theorem Ownership.deleteUser_keeps {P : Ownership → Prop} {o : Ownership} {user : IdType} (h : P o)
    (detach : user ∈ o.users → P (o.detachUser user))
    (messages : ∀ o messages, P o → P (o.deleteMessages messages false))
    (thread : ∀ o thread, P o → P (o.deleteThread thread true false))
    (privateMessages : ∀ o messages fromSource fromDestination, P o →
      P (o.deletePrivateMessages messages fromSource fromDestination))
    (attachments : ∀ o attachments, P o → P (o.deleteAttachments attachments false)) : P (o.deleteUser user) := by
  have threads : ∀ (l : List IdType) (o : Ownership), P o →
      P (l.foldl (fun o thread => o.deleteThread thread true false) o) :=
    fun l o h => foldl_keeps h fun o t _ h => thread o t h
  unfold Ownership.deleteUser
  split_ifs with hu
  · refine attachments _ _ ?_
    refine privateMessages _ _ _ _ ?_
    refine privateMessages _ _ _ _ ?_
    refine threads _ _ ?_
    exact messages _ _ (detach hu)
  · exact h

namespace EntityCollection

theorem toStore_foldl_removeVote_message (user : IdType) (messages : List IdType) (hm : messages.Nodup) :
    (messages.foldl (fun s message => (DiscussionThreadMessage.removeVote message s user).2) s).toStore =
      { s.toStore with
        messageUpVotes := fun message => (s.messageUpVotes message).filter fun u =>
          ¬(u = user ∧ message ∈ messages)
        messageDownVotes := fun message => (s.messageDownVotes message).filter fun u =>
          ¬(u = user ∧ message ∈ messages ∧ user ∉ s.messageUpVotes message) } := by
  induction messages generalizing s with
  | nil => simp
  | cons message messages ih =>
    obtain ⟨hn, hm⟩ := List.nodup_cons.1 hm
    rw [List.foldl_cons, ih _ hm]
    unfold DiscussionThreadMessage.removeVote
    split_ifs with hu hd
    all_goals
      simp only [Store.mk.injEq, Ownership.mk.injEq, true_and, and_true]
      refine ⟨?_, ?_⟩
      all_goals
        funext m
        ext u
        grind

theorem toOwnership_foldl_detachComment (comments : List IdType) :
    (comments.foldl detachComment s).toOwnership =
        { s.toOwnership with
          messageComments := fun message => (s.messageComments message).filter fun comment =>
            ¬(comment ∈ comments ∧ s.commentParentMessage comment = message) } ∧
      (comments.foldl detachComment s).batchInsertInProgress = s.batchInsertInProgress := by
  induction comments generalizing s with
  | nil => simp
  | cons comment comments ih =>
    have hc : (s.detachComment comment).toOwnership =
          { s.toOwnership with
            messageComments := Function.update s.messageComments (s.commentParentMessage comment)
              ((s.messageComments (s.commentParentMessage comment)).erase comment) } ∧
        (s.detachComment comment).batchInsertInProgress = s.batchInsertInProgress := by
      unfold detachComment
      dsimp only
      split_ifs <;>
        simp [Store.setComments, Ownership.comments, DiscussionThreadMessage.changeSolvedCommentsCount,
          modifyMessage]
    obtain ⟨h, h'⟩ := ih (s.detachComment comment)
    refine ⟨h.trans ?_, h'.trans hc.2⟩
    rw [hc.1]
    simp only [Ownership.mk.injEq, true_and, and_true]
    funext m
    ext c
    grind

theorem toStore_foldl_eraseSubscribedUser (user : IdType) (threads : List IdType) :
    (threads.foldl (fun s thread => DiscussionThread.eraseSubscribedUser thread s user) s).toStore =
      { s.toStore with
        threadSubscribedUsers := fun thread => (s.threadSubscribedUsers thread).filter fun u =>
          ¬(u = user ∧ thread ∈ threads) } := by
  induction threads generalizing s with
  | nil => simp
  | cons thread threads ih =>
    rw [List.foldl_cons, ih]
    simp only [DiscussionThread.eraseSubscribedUser, Store.mk.injEq, Ownership.mk.injEq, true_and, and_true]
    funext t
    ext u
    grind

/-- Deleting a user. -/
@[simp] theorem toOwnership_deleteUser (user : IdType) :
    (s.deleteUser ctx user).toOwnership = s.toOwnership.deleteUser user ∧
      (s.deleteUser ctx user).batchInsertInProgress = s.batchInsertInProgress := by
  have hthreads : ∀ (l : List IdType) (s : EntityCollection),
      (l.foldl (fun s thread => deleteDiscussionThread ctx s thread true false) s).toOwnership =
        l.foldl (fun o thread => o.deleteThread thread true false) s.toOwnership := fun l s =>
    foldl_view_eq (fun s : EntityCollection => s.toOwnership) fun s t _ =>
      (toOwnership_deleteDiscussionThread ctx s t true false).1
  have hbatch : ∀ (l : List IdType) (s : EntityCollection),
      (l.foldl (fun s thread => deleteDiscussionThread ctx s thread true false) s).batchInsertInProgress =
        s.batchInsertInProgress := fun l s =>
    foldl_view (fun s : EntityCollection => s.batchInsertInProgress) fun s t _ =>
      (toOwnership_deleteDiscussionThread ctx s t true false).2
  unfold deleteUser
  by_cases hu : user ∈ s.users
  · simp [hu, toStore_foldl_removeVote_message, nodup_ascending, toOwnership_foldl_detachComment, toStore_foldl_eraseSubscribedUser,
      toOwnership_foldl_deleteDiscussionThreadMessage, hthreads, hbatch, toStore_foldl_deletePrivateMessage,
      toOwnership_foldl_deleteAttachment, Ownership.deleteUser, Ownership.detachUser]
  · simp [hu, Ownership.deleteUser]

end EntityCollection

end Forum.Entities
