import Forum.Entities.OwnershipEffects
import Forum.Repository.Runs

/-!
# Steps of the ownership relations

An abstract view of the store: only who exists, who created what and who holds it. `OwnershipStep`
lists what a direct write can do to these relations, each with its guard; the direct writes on tags
and categories, and those that change plain fields, do nothing. `ownershipStep_perform` is the
simulation: every operation on the store is such a step of its ownership relations, whatever the
indexes and counters hold. An invariant of the ownership relations is then proved by cases on the
steps.
-/

namespace Forum.Entities.Ownership

open Forum.Library

variable (o : Ownership)

/-- A thread comes into being. -/
def addThread (id user : IdType) : Ownership :=
  let o := o.construct id
  { o with
    threadCreatedBy := Function.update o.threadCreatedBy id user
    allThreads := insert id o.allThreads
    userThreads := Function.update o.userThreads user (insert id (o.userThreads user)) }

/-- A message object comes into being, in no collection yet. -/
def constructMessage (id thread user : IdType) : Ownership :=
  let o := o.construct id
  { o with
    messageCreatedBy := Function.update o.messageCreatedBy id user
    messageParentThread := Function.update o.messageParentThread id thread }

/-- A message is posted: it joins its collections, and its author subscribes to the thread. The
thread is told so only of a registered author. -/
def addMessage (id thread user : IdType) : Ownership :=
  let o := o.constructMessage id thread user
  { o with
    allMessages := insert id o.allMessages
    threadMessages := Function.update o.threadMessages thread (insert id (o.threadMessages thread))
    userMessages := Function.update o.userMessages user (insert id (o.userMessages user))
    threadSubscribedUsers :=
      if user = 0 then o.threadSubscribedUsers
      else Function.update o.threadSubscribedUsers thread (insert user (o.threadSubscribedUsers thread))
    userSubscribedThreads :=
      Function.update o.userSubscribedThreads user (insert thread (o.userSubscribedThreads user)) }

/-- The messages and subscribers of one thread join another; the thread is deleted without them. -/
def mergeThreads (fromId intoId : IdType) : Ownership :=
  let o : Ownership :=
    { o with
      messageParentThread := fun message =>
        if message ∈ o.threadMessages fromId then intoId else o.messageParentThread message
      threadMessages :=
        Function.update o.threadMessages intoId (o.threadMessages intoId ∪ o.threadMessages fromId)
      userSubscribedThreads := fun user =>
        if user ∈ o.threadSubscribedUsers fromId then insert intoId (o.userSubscribedThreads user)
        else o.userSubscribedThreads user
      threadSubscribedUsers := Function.update o.threadSubscribedUsers intoId
        (o.threadSubscribedUsers intoId ∪ o.threadSubscribedUsers fromId) }
  o.deleteThread fromId false true

/-- A message moves to another thread. -/
def moveMessage (message intoThread : IdType) : Ownership :=
  { o with
    threadMessages := fun thread =>
      if thread = o.messageParentThread message then (o.threadMessages thread).erase message
      else if thread = intoThread then insert message (o.threadMessages thread)
      else o.threadMessages thread
    messageParentThread := Function.update o.messageParentThread message intoThread }

/-- A user votes on a message. -/
def vote (message user : IdType) (up : Bool) : Ownership :=
  { o with
    userVotedMessages := Function.update o.userVotedMessages user (insert message (o.userVotedMessages user))
    messageUpVotes :=
      if up then Function.update o.messageUpVotes message (insert user (o.messageUpVotes message))
      else o.messageUpVotes
    messageDownVotes :=
      if up then o.messageDownVotes
      else Function.update o.messageDownVotes message (insert user (o.messageDownVotes message)) }

/-- A user takes a vote on a message back; the user's voted messages do not change. -/
def resetVote (message user : IdType) : Ownership :=
  if user ∈ o.messageUpVotes message then
    { o with
      messageUpVotes := Function.update o.messageUpVotes message ((o.messageUpVotes message).erase user) }
  else
    { o with
      messageDownVotes :=
        Function.update o.messageDownVotes message ((o.messageDownVotes message).erase user) }

/-- A comment on a message comes into being. -/
def addComment (id message user : IdType) : Ownership :=
  let o := o.construct id
  { o with
    commentParentMessage := Function.update o.commentParentMessage id message
    commentCreatedBy := Function.update o.commentCreatedBy id user
    allComments := insert id o.allComments
    messageComments := Function.update o.messageComments message (insert id (o.messageComments message))
    userComments := Function.update o.userComments user (insert id (o.userComments user)) }

/-- A private message comes into being. -/
def addPrivateMessage (id source destination : IdType) : Ownership :=
  let o := o.construct id
  { o with
    privateMessageSource := Function.update o.privateMessageSource id source
    privateMessageDestination := Function.update o.privateMessageDestination id destination
    allPrivateMessages := insert id o.allPrivateMessages
    userSentPrivateMessages :=
      Function.update o.userSentPrivateMessages source (insert id (o.userSentPrivateMessages source))
    userReceivedPrivateMessages := Function.update o.userReceivedPrivateMessages destination
      (insert id (o.userReceivedPrivateMessages destination)) }

/-- An attachment comes into being. -/
def addAttachment (id user : IdType) : Ownership :=
  let o := o.construct id
  { o with
    attachmentCreatedBy := Function.update o.attachmentCreatedBy id user
    allAttachments := insert id o.allAttachments
    userAttachments := Function.update o.userAttachments user (insert id (o.userAttachments user)) }

/-- An attachment is attached to a message. -/
def attach (attachment message : IdType) : Ownership :=
  { o with
    attachmentMessages :=
      Function.update o.attachmentMessages attachment (insert message (o.attachmentMessages attachment))
    messageAttachments :=
      Function.update o.messageAttachments message (insert attachment (o.messageAttachments message)) }

/-- An attachment is detached from a message. -/
def detach (attachment message : IdType) : Ownership :=
  { o with
    attachmentMessages :=
      Function.update o.attachmentMessages attachment ((o.attachmentMessages attachment).erase message)
    messageAttachments :=
      Function.update o.messageAttachments message ((o.messageAttachments message).erase attachment) }

end Forum.Entities.Ownership

namespace Forum.Repository

open Forum.Entities Forum.Library

/-- What an operation of `user` can do to the ownership relations. -/
inductive OwnershipStep (user : IdType) : Operation → Ownership → Ownership → Prop
  /-- Nothing. -/
  | keep {o} (op) : OwnershipStep user op o o
  | addNewUser {o id name auth} :
    OwnershipStep user (.addNewUser id name auth) o
      { o.construct id with users := insert id o.users }
  | deleteUser {o id} (known : id ∈ o.users) : OwnershipStep user (.deleteUser id) o (o.deleteUser id)
  | sendPrivateMessage {o id destination content} (known : destination ∈ o.users) :
    OwnershipStep user (.sendPrivateMessage id destination content) o
      (o.addPrivateMessage id user destination)
  | deletePrivateMessage {o id} :
    OwnershipStep user (.deletePrivateMessage id) o (o.deletePrivateMessages {id} true true)
  | addNewAttachment {o id name size approved} :
    OwnershipStep user (.addNewAttachment id name size approved) o (o.addAttachment id user)
  | deleteAttachment {o id} :
    OwnershipStep user (.deleteAttachment id) o (o.deleteAttachments {id} true)
  | addAttachmentToDiscussionThreadMessage {o attachment message} (known : attachment ∈ o.allAttachments)
      (messageKnown : message ∈ o.allMessages) :
    OwnershipStep user (.addAttachmentToDiscussionThreadMessage attachment message) o
      (o.attach attachment message)
  | removeAttachmentFromDiscussionThreadMessage {o attachment message} (known : attachment ∈ o.allAttachments)
      (messageKnown : message ∈ o.allMessages) :
    OwnershipStep user (.removeAttachmentFromDiscussionThreadMessage attachment message) o
      (o.detach attachment message)
  | addNewDiscussionThread {o id name approved} :
    OwnershipStep user (.addNewDiscussionThread id name approved) o (o.addThread id user)
  | deleteDiscussionThread {o id} (known : id ∈ o.allThreads) :
    OwnershipStep user (.deleteDiscussionThread id) o (o.deleteThread id true true)
  | mergeDiscussionThreads {o fromId intoId} (ne : fromId ≠ intoId) (known : fromId ∈ o.allThreads)
      (intoKnown : intoId ∈ o.allThreads) :
    OwnershipStep user (.mergeDiscussionThreads fromId intoId) o (o.mergeThreads fromId intoId)
  | subscribeToDiscussionThread {o id} (known : id ∈ o.allThreads) :
    OwnershipStep user (.subscribeToDiscussionThread id) o
      { o with
        threadSubscribedUsers :=
          Function.update o.threadSubscribedUsers id (insert user (o.threadSubscribedUsers id))
        userSubscribedThreads :=
          Function.update o.userSubscribedThreads user (insert id (o.userSubscribedThreads user)) }
  | unsubscribeFromDiscussionThread {o id} (known : id ∈ o.allThreads) :
    OwnershipStep user (.unsubscribeFromDiscussionThread id) o
      { o with
        threadSubscribedUsers :=
          Function.update o.threadSubscribedUsers id ((o.threadSubscribedUsers id).erase user)
        userSubscribedThreads :=
          Function.update o.userSubscribedThreads user ((o.userSubscribedThreads user).erase id) }
  /-- A message whose content is not found in the messages file is constructed and dropped. -/
  | constructMessage {o id thread approved content} :
    OwnershipStep user (.addNewDiscussionMessageInThread id thread approved content) o
      (o.constructMessage id thread user)
  | addNewDiscussionMessageInThread {o id thread approved content} (known : thread ∈ o.allThreads)
      (found : content ≠ .mapped none) :
    OwnershipStep user (.addNewDiscussionMessageInThread id thread approved content) o
      (o.addMessage id thread user)
  | deleteDiscussionMessage {o id} (known : id ∈ o.allMessages) :
    OwnershipStep user (.deleteDiscussionMessage id) o (o.deleteMessages {id} true)
  | moveDiscussionThreadMessage {o message intoThread} (known : message ∈ o.allMessages)
      (intoKnown : intoThread ∈ o.allThreads) (ne : o.messageParentThread message ≠ intoThread) :
    OwnershipStep user (.moveDiscussionThreadMessage message intoThread) o (o.moveMessage message intoThread)
  | upVoteDiscussionThreadMessage {o id} (known : id ∈ o.allMessages) (up : user ∉ o.messageUpVotes id)
      (down : user ∉ o.messageDownVotes id) :
    OwnershipStep user (.upVoteDiscussionThreadMessage id) o (o.vote id user true)
  | downVoteDiscussionThreadMessage {o id} (known : id ∈ o.allMessages) (up : user ∉ o.messageUpVotes id)
      (down : user ∉ o.messageDownVotes id) :
    OwnershipStep user (.downVoteDiscussionThreadMessage id) o (o.vote id user false)
  | resetVoteDiscussionThreadMessage {o id} (known : id ∈ o.allMessages)
      (voted : user ∈ o.messageUpVotes id ∨ user ∈ o.messageDownVotes id) :
    OwnershipStep user (.resetVoteDiscussionThreadMessage id) o (o.resetVote id user)
  | addCommentToDiscussionThreadMessage {o id message content} (known : message ∈ o.allMessages) :
    OwnershipStep user (.addCommentToDiscussionThreadMessage id message content) o
      (o.addComment id message user)
  | addNewDiscussionTag {o id name} :
    OwnershipStep user (.addNewDiscussionTag id name) o (o.construct id)
  | addNewDiscussionCategory {o id name parentId} :
    OwnershipStep user (.addNewDiscussionCategory id name parentId) o (o.construct id)

variable (ctx : Context) (s : EntityCollection)

/-! ### Helper functions of the repositories -/

@[simp] theorem ownershipKept_updateThreadLastUpdated (thread user : IdType) :
    OwnershipKept s (updateThreadLastUpdated ctx thread user s) := by
  simp [updateThreadLastUpdated, DiscussionThread.toStore_updateLastUpdated,
    DiscussionThread.setLatestVisibleChange, DiscussionThread.updateLastUpdatedDetails,
    DiscussionThread.updateLastUpdatedBy, EntityCollection.modifyThread]

@[simp] theorem ownershipKept_updateMessageCounts (thread : IdType) (difference : ℤ) :
    OwnershipKept s (updateMessageCounts s thread difference) :=
  .foldl (fun s c _ => DiscussionCategory.ownershipKept_updateMessageCount s c thread difference)
    (.foldl (fun s g _ => DiscussionTag.ownershipKept_updateMessageCount s g difference) ⟨rfl, rfl⟩)

@[simp] theorem ownershipKept_updateThreadOnMoveMessage (thread : IdType) (delta : ℤ) :
    OwnershipKept s (updateThreadOnMoveMessage ctx s thread delta) :=
  (ownershipKept_updateMessageCounts _ thread delta).trans' ⟨rfl, rfl⟩

@[simp] theorem ownershipKept_updateCategoryParent (category : IdType) (newParent : Option IdType)
    (user : IdType) : OwnershipKept s (updateCategoryParent ctx s category newParent user) := by
  unfold updateCategoryParent
  cases s.categoryParent category <;> cases newParent <;>
    simp [updateCategoryLastUpdated, EntityCollection.modifyCategory, DiscussionCategory.removeChild,
      DiscussionCategory.addChild]

theorem getCurrentUser_spec : getCurrentUser ctx s = 0 ∨ getCurrentUser ctx s ∈ s.users := by
  unfold getCurrentUser
  split_ifs with h
  · exact .inr h
  · exact .inl rfl

/-! ### The simulation -/

theorem OwnershipStep.of_kept {user : IdType} {op : Operation} {s s' : EntityCollection} (h : OwnershipKept s s') :
    OwnershipStep user op s.toOwnership s'.toOwnership := by
  rw [h.1]
  exact .keep op

theorem OwnershipStep.of_eq {user : IdType} {op : Operation} {o o' o'' : Ownership}
    (h : OwnershipStep user op o o') (ho : o'' = o') : OwnershipStep user op o o'' := ho ▸ h

/-- The operations that leave ownership alone. -/
def Operation.keepsOwnership : Operation → Bool
  | .changeUserName .. | .changeUserInfo .. | .changeUserTitle .. | .changeUserSignature ..
  | .changeUserAttachmentQuota .. | .changeUserLogo .. | .deleteUserLogo .. | .updateUserLastSeen ..
  | .changeAttachmentName .. | .changeAttachmentApproval .. | .changeDiscussionThreadName ..
  | .changeDiscussionThreadPinDisplayOrder .. | .changeDiscussionThreadApproval ..
  | .changeDiscussionThreadMessageContent .. | .changeDiscussionThreadMessageApproval ..
  | .setMessageCommentToSolved .. | .quoteUserInMessage .. | .changeDiscussionTagName ..
  | .changeDiscussionTagUiBlob .. | .deleteDiscussionTag .. | .addDiscussionTagToThread ..
  | .removeDiscussionTagFromThread .. | .mergeDiscussionTags .. | .changeDiscussionCategoryName ..
  | .changeDiscussionCategoryDescription .. | .changeDiscussionCategoryParent ..
  | .changeDiscussionCategoryDisplayOrder .. | .deleteDiscussionCategory ..
  | .addDiscussionTagToCategory .. | .removeDiscussionTagFromCategory .. => true
  | _ => false

theorem ownershipKept_mergeDiscussionTags (fromId intoId : IdType) :
    OwnershipKept s (mergeDiscussionTags ctx s fromId intoId).2 := by
  unfold mergeDiscussionTags
  dsimp only
  split_ifs
  · simp
  · refine (EntityCollection.ownershipKept_deleteDiscussionTag ctx _ fromId).trans' ?_
    have hadd : ∀ (l : List IdType) (s' : EntityCollection), OwnershipKept s s' →
        OwnershipKept s (l.foldl (fun s category => DiscussionCategory.addTag ctx category s intoId) s') :=
      fun l s' h => .foldl (fun s c _ => DiscussionCategory.ownershipKept_addTag ctx s c intoId) h
    refine hadd _ _ ((DiscussionTag.ownershipKept_insertDiscussionThreads ctx _ intoId _).trans' ?_)
    exact .foldl (fun _ _ _ => ⟨rfl, rfl⟩) ⟨rfl, rfl⟩
  · simp

theorem ownershipKept_deleteDiscussionCategory (id : IdType) :
    OwnershipKept s (deleteDiscussionCategory ctx s id).2 := by
  unfold deleteDiscussionCategory
  dsimp only
  split_ifs
  · refine (EntityCollection.ownershipKept_deleteDiscussionCategory ctx _ id).trans' ?_
    exact .foldl (fun s c _ => ownershipKept_updateCategoryParent ctx s c none _) ⟨rfl, rfl⟩
  · simp

theorem ownershipKept_perform {op : Operation} (hop : op.keepsOwnership) :
    OwnershipKept s (op.perform ctx s).2 := by
  cases op <;> simp only [Operation.keepsOwnership, Bool.false_eq_true] at hop <;>
    simp only [Operation.perform]
  case mergeDiscussionTags => exact ownershipKept_mergeDiscussionTags ctx s _ _
  case deleteDiscussionCategory => exact ownershipKept_deleteDiscussionCategory ctx s _
  all_goals
    simp only [changeUserName, changeUserInfo, changeUserTitle, changeUserSignature, changeUserAttachmentQuota,
      changeUserLogo, deleteUserLogo, changeUserField, updateUserLastSeen, User.updateLastSeen, changeAttachmentName,
      changeAttachmentApproval, changeDiscussionThreadName, changeDiscussionThreadPinDisplayOrder,
      changeDiscussionThreadApproval, changeDiscussionThreadMessageContent,
      changeDiscussionThreadMessageApproval, setMessageCommentToSolved, quoteUserInMessage,
      changeDiscussionTagName, changeDiscussionTagUiBlob, deleteDiscussionTag, addDiscussionTagToThread,
      removeDiscussionTagFromThread, changeDiscussionCategoryName, changeDiscussionCategoryDescription,
      changeDiscussionCategoryParent, changeDiscussionCategoryDisplayOrder, addDiscussionTagToCategory,
      removeDiscussionTagFromCategory]
    repeat' split
    all_goals
      simp [User.updateName, EntityCollection.modifyUser, EntityCollection.modifyThread,
        EntityCollection.modifyMessage, EntityCollection.modifyTag, EntityCollection.modifyCategory,
        DiscussionThread.toStore_updateName, DiscussionThread.toStore_updatePinDisplayOrder,
        DiscussionThread.setApproved, DiscussionThread.resetVisitorsSinceLastEdit,
        DiscussionThread.setLatestVisibleChange, DiscussionThreadMessage.changeSolvedCommentsCount,
        updateTagLastUpdated, updateCategoryLastUpdated, DiscussionThread.addTag, DiscussionThread.removeTag,
        DiscussionTag.addCategory, DiscussionTag.removeCategory, DiscussionCategory.removeChild]

theorem toOwnership_mergeDiscussionThreads {fromId intoId : IdType} (hne : fromId ≠ intoId)
    (hfrom : fromId ∈ s.allThreads) (hinto : intoId ∈ s.allThreads) :
    (mergeDiscussionThreads ctx s fromId intoId).2.toOwnership = s.toOwnership.mergeThreads fromId intoId := by
  have hparent : ∀ (l : List IdType) (s : EntityCollection),
      (l.foldl (fun s message => DiscussionThreadMessage.setParentThread message s intoId) s).toStore =
        { s.toStore with
          messageParentThread := fun message => if message ∈ l then intoId else s.messageParentThread message } := by
    intro l
    induction l with
    | nil => simp
    | cons message l ih =>
      intro s
      rw [List.foldl_cons, ih]
      simp only [DiscussionThreadMessage.setParentThread, Store.mk.injEq, Ownership.mk.injEq, true_and, and_true]
      funext m
      grind
  have hsubscribe : ∀ (l : List IdType) (s : EntityCollection),
      (l.foldl (fun s user =>
        DiscussionThread.insertSubscribedUser intoId (s.threadsAdd (.subscribedBy user) intoId) user) s).toStore =
        { s.toStore with
          userSubscribedThreads := fun user =>
            if user ∈ l then insert intoId (s.userSubscribedThreads user) else s.userSubscribedThreads user
          threadSubscribedUsers := Function.update s.threadSubscribedUsers intoId
            (s.threadSubscribedUsers intoId ∪ l.toFinset) } := by
    intro l
    induction l with
    | nil => simp
    | cons user l ih =>
      intro s
      rw [List.foldl_cons, ih]
      simp only [DiscussionThread.insertSubscribedUser, EntityCollection.toStore_threadsAdd, Store.setThreads,
        Store.threads, Store.mk.injEq, Ownership.mk.injEq, true_and, and_true]
      refine ⟨?_, ?_⟩
      · funext u
        grind
      · funext t
        ext u
        by_cases ht : t = intoId
        · subst ht; simp
        · simp [ht]
  unfold mergeDiscussionThreads Ownership.mergeThreads
  simp [hne, hfrom, hinto, hparent, hsubscribe]

theorem toOwnership_attachmentsAdd (c : AttachmentCollectionRef) (attachment : IdType) :
    (s.attachmentsAdd c attachment).toOwnership =
      (s.toStore.setAttachments (insert attachment (s.attachments c)) c).toOwnership := by
  by_cases h : attachment ∈ s.attachments c
  · rw [Finset.insert_eq_of_mem h, Store.setAttachments_attachments]
    simp [EntityCollection.attachmentsAdd, h]
  · rw [EntityCollection.toStore_attachmentsAdd _ _ _ h]
    rfl

theorem toOwnership_addNewDiscussionThread (id : IdType) (name : NameType) (approved : Bool) :
    (addNewDiscussionThread ctx s id name approved).2.toOwnership = s.toOwnership.addThread id (getCurrentUser ctx s) := by
  simp [addNewDiscussionThread, EntityCollection.createDiscussionThread, EntityCollection.construct,
    EntityCollection.modifyThread, DiscussionThread.setLatestVisibleChange,
    DiscussionThread.toStore_updateLastUpdated, Store.setThreads, Store.threads, Ownership.addThread]
  rfl

theorem toOwnership_addNewDiscussionMessageInThread (id : IdType) {thread : IdType} (h : thread ∈ s.allThreads)
    (approved : Bool) (content : String) :
    (addNewDiscussionMessageInThread ctx s id thread approved (.text content)).2.toOwnership =
        s.toOwnership.addMessage id thread (getCurrentUser ctx s) ∧
      (addNewDiscussionMessageInThread ctx s id thread approved (.mapped (some content))).2.toOwnership =
        s.toOwnership.addMessage id thread (getCurrentUser ctx s) := by
  by_cases hu : getCurrentUser ctx s = 0 <;>
    simp [addNewDiscussionMessageInThread, h, hu, anonymousUser, Ownership.addMessage, Ownership.constructMessage,
      EntityCollection.createDiscussionThreadMessage, EntityCollection.construct,
      EntityCollection.modifyMessage, DiscussionThreadMessage.setParentThread,
      DiscussionThread.resetVisitorsSinceLastEdit, DiscussionThread.setLatestVisibleChange,
      EntityCollection.modifyThread, DiscussionThread.insertSubscribedUser, Store.setMessages,
      Ownership.messages, Store.setThreads, Store.threads] <;> rfl

theorem toOwnership_moveDiscussionThreadMessage {message intoThread : IdType} (hm : message ∈ s.allMessages)
    (hinto : intoThread ∈ s.allThreads) (hne : s.messageParentThread message ≠ intoThread) :
    (moveDiscussionThreadMessage ctx s message intoThread).2.toOwnership =
      s.toOwnership.moveMessage message intoThread := by
  simp [moveDiscussionThreadMessage, hm, hinto, hne, DiscussionThreadMessage.setParentThread,
    Ownership.moveMessage]
  funext thread
  grind

theorem voteDiscussionThreadMessage_cases (id : IdType) (up : Bool) :
    (voteDiscussionThreadMessage ctx s id up).2 = s ∨
      id ∈ s.allMessages ∧ getCurrentUser ctx s ∉ s.messageUpVotes id ∧
        getCurrentUser ctx s ∉ s.messageDownVotes id ∧
        (voteDiscussionThreadMessage ctx s id up).2.toOwnership =
          s.toOwnership.vote id (getCurrentUser ctx s) up := by
  by_cases h : id ∈ s.allMessages
  · by_cases hv : DiscussionThreadMessage.hasVoted id s (getCurrentUser ctx s)
    · exact .inl (by simp [voteDiscussionThreadMessage, h, hv])
    · refine .inr ⟨h, ?_, ?_, ?_⟩
      · simp_all [DiscussionThreadMessage.hasVoted]
      · simp_all [DiscussionThreadMessage.hasVoted]
      · cases up <;>
          simp [voteDiscussionThreadMessage, h, hv, User.receiveVote, EntityCollection.modifyUser,
            User.registerVote, DiscussionThreadMessage.addUpVote, DiscussionThreadMessage.addDownVote,
            Ownership.vote]
  · exact .inl (by simp [voteDiscussionThreadMessage, h])

theorem toOwnership_resetVoteDiscussionThreadMessage {id : IdType} (h : id ∈ s.allMessages)
    (hv : getCurrentUser ctx s ∈ s.messageUpVotes id ∨ getCurrentUser ctx s ∈ s.messageDownVotes id) :
    (resetVoteDiscussionThreadMessage ctx s id).2.toOwnership =
      s.toOwnership.resetVote id (getCurrentUser ctx s) := by
  unfold resetVoteDiscussionThreadMessage DiscussionThreadMessage.removeVote
  by_cases hu : getCurrentUser ctx s ∈ s.messageUpVotes id
  · simp [h, hu, Ownership.resetVote, User.receiveVote, EntityCollection.modifyUser]
  · have hd := hv.resolve_left hu
    simp [h, hu, hd, Ownership.resetVote, User.receiveVote, EntityCollection.modifyUser]

/-- Every operation is a step of the ownership relations. -/
theorem ownershipStep_perform (op : Operation) :
    OwnershipStep (getCurrentUser ctx s) op s.toOwnership (op.perform ctx s).2.toOwnership := by
  by_cases hk : op.keepsOwnership
  · exact .of_kept (ownershipKept_perform ctx s hk)
  cases op <;> simp only [Operation.keepsOwnership, not_true_eq_false, Bool.false_eq_true, not_false_eq_true] at hk <;>
    simp only [Operation.perform]
  case mergeDiscussionThreads fromId intoId =>
    by_cases hne : fromId = intoId
    · simpa [mergeDiscussionThreads, hne] using .keep _
    · by_cases hknown : fromId ∈ s.allThreads ∧ intoId ∈ s.allThreads
      · exact .of_eq (.mergeDiscussionThreads hne hknown.1 hknown.2)
          (toOwnership_mergeDiscussionThreads ctx s hne hknown.1 hknown.2)
      · simpa [mergeDiscussionThreads, hne, hknown] using .keep _
  case addNewUser id name auth =>
    unfold addNewUser
    split_ifs
    · exact .keep _
    · exact .keep _
    · refine .of_eq .addNewUser ?_
      simp [EntityCollection.createUser, EntityCollection.construct, EntityCollection.modifyUser, User.updateAuth,
        Ownership.construct]
  case deleteUser id =>
    unfold deleteUser
    split_ifs with h
    · exact .of_eq (.deleteUser h) (by simp)
    · exact .keep _
  case sendPrivateMessage id destination content =>
    unfold sendPrivateMessage
    dsimp only
    split_ifs with h h'
    · exact .keep _
    · refine .of_eq (.sendPrivateMessage h') ?_
      simp [EntityCollection.createPrivateMessage, EntityCollection.construct, EntityCollection.modifyUser,
        Store.setPrivateMessages, Ownership.privateMessages, Ownership.addPrivateMessage]
    · exact .keep _
  case deletePrivateMessage id =>
    unfold deletePrivateMessage
    split_ifs with h
    · exact .of_eq .deletePrivateMessage (by rw [EntityCollection.toStore_deletePrivateMessage])
    · exact .keep _
  case addNewAttachment id name size approved =>
    refine .of_eq .addNewAttachment ?_
    simp [addNewAttachment, toOwnership_attachmentsAdd, EntityCollection.createAttachment,
      EntityCollection.construct, Store.setAttachments, Ownership.attachments, Ownership.addAttachment]
  case deleteAttachment id =>
    unfold deleteAttachment
    split_ifs with h
    · exact .of_eq .deleteAttachment (EntityCollection.toOwnership_deleteAttachment _ _ _).1
    · exact .keep _
  case addAttachmentToDiscussionThreadMessage attachment message =>
    unfold addAttachmentToDiscussionThreadMessage
    split_ifs with h h'
    · exact .keep _
    · exact .of_eq (.addAttachmentToDiscussionThreadMessage h.1 h.2) rfl
    · exact .keep _
  case removeAttachmentFromDiscussionThreadMessage attachment message =>
    unfold removeAttachmentFromDiscussionThreadMessage
    split_ifs with h h'
    · exact .of_eq (.removeAttachmentFromDiscussionThreadMessage h.1 h.2) rfl
    · exact .keep _
    · exact .keep _
  case addNewDiscussionThread id name approved =>
    exact .of_eq .addNewDiscussionThread (toOwnership_addNewDiscussionThread ctx s id name approved)
  case deleteDiscussionThread id =>
    unfold deleteDiscussionThread
    split_ifs with h
    · exact .of_eq (.deleteDiscussionThread h) (by simp)
    · exact .keep _
  case subscribeToDiscussionThread id =>
    unfold subscribeToDiscussionThread
    dsimp only
    split_ifs with h h'
    · exact .keep _
    · refine .of_eq (.subscribeToDiscussionThread h) ?_
      simp [DiscussionThread.insertSubscribedUser, Store.setThreads, Store.threads]
    · exact .keep _
  case unsubscribeFromDiscussionThread id =>
    unfold unsubscribeFromDiscussionThread
    dsimp only
    split_ifs with h h'
    · refine .of_eq (.unsubscribeFromDiscussionThread h) ?_
      simp [DiscussionThread.eraseSubscribedUser, Store.setThreads, Store.threads]
    · exact .keep _
    · exact .keep _
  case addNewDiscussionMessageInThread id thread approved content =>
    by_cases h : thread ∈ s.allThreads
    · rcases content with content | _ | content
      · exact .of_eq (.addNewDiscussionMessageInThread h (by simp))
          (toOwnership_addNewDiscussionMessageInThread ctx s id h approved content).1
      · refine .of_eq .constructMessage ?_
        simp [addNewDiscussionMessageInThread, h, EntityCollection.createDiscussionThreadMessage,
          EntityCollection.construct, EntityCollection.modifyMessage, DiscussionThreadMessage.setParentThread,
          Ownership.constructMessage]
        rfl
      · exact .of_eq (.addNewDiscussionMessageInThread h (by simp))
          (toOwnership_addNewDiscussionMessageInThread ctx s id h approved content).2
    · simpa [addNewDiscussionMessageInThread, h] using .keep _
  case deleteDiscussionMessage id =>
    unfold deleteDiscussionMessage
    split_ifs with h
    · exact .of_eq (.deleteDiscussionMessage h) (by simp)
    · exact .keep _
  case moveDiscussionThreadMessage message intoThread =>
    by_cases h : message ∈ s.allMessages ∧ intoThread ∈ s.allThreads
    · by_cases h' : s.messageParentThread message = intoThread
      · simpa [moveDiscussionThreadMessage, h, h'] using .keep _
      · exact .of_eq (.moveDiscussionThreadMessage h.1 h.2 h')
          (toOwnership_moveDiscussionThreadMessage ctx s h.1 h.2 h')
    · simpa [moveDiscussionThreadMessage, h] using .keep _
  case upVoteDiscussionThreadMessage id =>
    rcases voteDiscussionThreadMessage_cases ctx s id true with h | ⟨h, hu, hd, ho⟩
    · exact .of_eq (.keep _) (by rw [upVoteDiscussionThreadMessage, h])
    · exact .of_eq (.upVoteDiscussionThreadMessage h hu hd) ho
  case downVoteDiscussionThreadMessage id =>
    rcases voteDiscussionThreadMessage_cases ctx s id false with h | ⟨h, hu, hd, ho⟩
    · exact .of_eq (.keep _) (by rw [downVoteDiscussionThreadMessage, h])
    · exact .of_eq (.downVoteDiscussionThreadMessage h hu hd) ho
  case resetVoteDiscussionThreadMessage id =>
    by_cases h : id ∈ s.allMessages
    · by_cases hv : getCurrentUser ctx s ∈ s.messageUpVotes id ∨ getCurrentUser ctx s ∈ s.messageDownVotes id
      · exact .of_eq (.resetVoteDiscussionThreadMessage h hv)
          (toOwnership_resetVoteDiscussionThreadMessage ctx s h hv)
      · obtain ⟨hu, hd⟩ := not_or.1 hv
        refine .of_eq (.keep _) ?_
        simp [resetVoteDiscussionThreadMessage, h, DiscussionThreadMessage.removeVote, hu, hd]
    · simpa [resetVoteDiscussionThreadMessage, h] using .keep _
  case addCommentToDiscussionThreadMessage id message content =>
    unfold addCommentToDiscussionThreadMessage
    dsimp only
    split_ifs with h
    · refine .of_eq (.addCommentToDiscussionThreadMessage h) ?_
      simp [EntityCollection.createMessageComment, EntityCollection.construct, Store.setComments,
        Ownership.comments, Ownership.addComment]
    · exact .keep _
  case addNewDiscussionTag id name =>
    unfold addNewDiscussionTag
    split_ifs
    · exact .keep _
    · refine .of_eq .addNewDiscussionTag ?_
      simp [EntityCollection.createDiscussionTag, EntityCollection.construct, EntityCollection.modifyTag]
  case addNewDiscussionCategory id name parentId =>
    unfold addNewDiscussionCategory
    dsimp only
    split_ifs
    · exact .keep _
    all_goals
      refine .of_eq .addNewDiscussionCategory ?_
      simp [EntityCollection.createDiscussionCategory, EntityCollection.construct,
        EntityCollection.modifyCategory, DiscussionCategory.addChild]
  case startBatchInsert => exact .keep _
  case stopBatchInsert => exact .of_eq (.keep _) (by simp)

end Forum.Repository
