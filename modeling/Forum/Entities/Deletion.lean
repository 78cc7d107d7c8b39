import Forum.Entities.Categories

/-!
# Deleting entities

The `delete…` functions of `EntityCollection`, which detach an entity from everything that refers
to it, and with it what it owns.

The thread-local flags that keep `deleteUser` from taking entities out of the collections of the
user it is about to release are arguments here. An entity that is released keeps the last contents
of its fields; what matters is that nothing reachable leads to it.
-/

namespace Forum.Entities

open Forum.Library

namespace EntityCollection

variable (ctx : Context) (s : EntityCollection)

/-- `deleteMessageComment`. -/
def deleteMessageComment (comment : IdType) : EntityCollection :=
  if comment ∈ s.allComments then
    let s := s.commentsRemove .all comment
    s.commentsRemove (.createdBy (s.commentCreatedBy comment)) comment
  else s

/-- `deletePrivateMessage`. -/
def deletePrivateMessage (message : IdType)
    (deletePrivateMessageFromSource deletePrivateMessageFromDestination : Bool) : EntityCollection :=
  if message ∈ s.allPrivateMessages then
    let s := s.privateMessagesRemove .all message
    let s :=
      if deletePrivateMessageFromSource then
        s.privateMessagesRemove (.sentBy (s.privateMessageSource message)) message
      else s
    if deletePrivateMessageFromDestination then
      s.privateMessagesRemove (.receivedBy (s.privateMessageDestination message)) message
    else s
  else s

/-- `deleteAttachment`. -/
def deleteAttachment (attachment : IdType) (deleteAttachmentFromUser : Bool) : EntityCollection :=
  if attachment ∈ s.allAttachments then
    let s := s.attachmentsRemove .all attachment
    let s :=
      if deleteAttachmentFromUser then
        s.attachmentsRemove (.createdBy (s.attachmentCreatedBy attachment)) attachment
      else s
    (ascending (s.attachmentMessages attachment)).foldl (fun s message =>
      DiscussionThreadMessage.removeAttachment message s attachment) s
  else s

/-- `attachment->messages().erase(message)`. -/
def eraseAttachmentMessage (attachment message : IdType) : EntityCollection :=
  { s with
    attachmentMessages := Function.update s.attachmentMessages attachment
      ((s.attachmentMessages attachment).erase message) }

/-- What `deleteDiscussionThreadMessage` does to a parent thread that is not itself about to be
deleted. -/
def detachMessageFromThread (message thread : IdType) : EntityCollection :=
  let s := DiscussionThread.deleteDiscussionThreadMessage thread s message
  let s := DiscussionThread.resetVisitorsSinceLastEdit thread s
  let s := DiscussionThread.setLatestVisibleChange thread s ctx.currentTime
  let s := (ascending (s.threadTags thread)).foldl (fun s tag =>
    DiscussionTag.updateMessageCount tag s (-1)) s
  (ascending (s.threadCategories thread)).foldl (fun s category =>
    DiscussionCategory.updateMessageCount category s thread (-1)) s

/-- `deleteDiscussionThreadMessage`. -/
def deleteDiscussionThreadMessage (message : IdType) (alsoDeleteMessagesFromUser : Bool) :
    EntityCollection :=
  if message ∈ s.allMessages then
    let s := s.messagesRemove .all message
    let s :=
      if alsoDeleteMessagesFromUser then
        s.messagesRemove (.createdBy (s.messageCreatedBy message)) message
      else s
    let s := (ascending (s.messageComments message)).foldl deleteMessageComment s
    let s := (ascending (s.messageUpVotes message)).foldl (fun s user =>
      User.removeVote user s message) s
    let s := (ascending (s.messageDownVotes message)).foldl (fun s user =>
      User.removeVote user s message) s
    let s := (ascending (s.messageAttachments message)).foldl (fun s attachment =>
      s.eraseAttachmentMessage attachment message) s
    if s.threadAboutToBeDeleted (s.messageParentThread message) then s
    else detachMessageFromThread ctx s message (s.messageParentThread message)
  else s

/-- `deleteDiscussionThread`. -/
def deleteDiscussionThread (thread : IdType) (deleteMessages : Bool) (alsoDeleteThreadsFromUser : Bool) :
    EntityCollection :=
  if thread ∈ s.allThreads then
    let s := s.threadsRemove .all thread
    let s := DiscussionThread.setAboutToBeDeleted thread s true
    let s :=
      if alsoDeleteThreadsFromUser then s.threadsRemove (.createdBy (s.threadCreatedBy thread)) thread
      else s
    let s := (ascending (s.threadCategories thread)).foldl (fun s category =>
      DiscussionCategory.deleteDiscussionThread ctx category s thread deleteMessages false) s
    let s := (ascending (s.threadTags thread)).foldl (fun s tag =>
      DiscussionTag.deleteDiscussionThread ctx tag s thread deleteMessages) s
    let s := (ascending (s.threadSubscribedUsers thread)).foldl (fun s user =>
      s.threadsRemove (.subscribedBy user) thread) s
    if deleteMessages then
      -- at the end, so as not to change the message count the indexes use
      (ascending (s.threadMessages thread)).foldl (fun s message =>
        deleteDiscussionThreadMessage ctx s message true) s
    else s
  else s

/-- `deleteDiscussionTag`. -/
def deleteDiscussionTag (tag : IdType) : EntityCollection :=
  if tag ∈ s.tags then
    let s := s.tagsRemove tag
    let s := (ascending (s.tagCategories tag)).foldl (fun s category =>
      DiscussionCategory.removeTag ctx category s tag) s
    (s.iterateThreads (.tag tag)).foldl (fun s thread => DiscussionThread.removeTag thread s ctx tag) s
  else s

/-- `deleteDiscussionCategory`. -/
def deleteDiscussionCategory (category : IdType) : EntityCollection :=
  if category ∈ s.categories then
    let s := s.categoriesRemove category
    let s := (ascending (s.categoryTags category)).foldl (fun s tag =>
      DiscussionTag.removeCategory tag s category) s
    let s := (s.iterateThreads (.category category)).foldl (fun s thread =>
      DiscussionThread.removeCategory thread s ctx category) s
    match s.categoryParent category with
    | none => s
    | some parent =>
      let s := DiscussionCategory.removeTotalsFromChild parent s category
      DiscussionCategory.removeChild parent s category
  else s

/-- What `deleteUser` does with a comment of the user: it leaves the message it comments on. -/
def detachComment (comment : IdType) : EntityCollection :=
  let message := s.commentParentMessage comment
  let s :=
    if (s.comment comment).solved then DiscussionThreadMessage.changeSolvedCommentsCount message s (-1)
    else s
  s.commentsRemove (.ofMessage message) comment

/-- `deleteUser`. -/
def deleteUser (user : IdType) : EntityCollection :=
  if user ∈ s.users then
    let s := s.usersRemove user
    let s := (ascending (s.userVotedMessages user)).foldl (fun s message =>
      (DiscussionThreadMessage.removeVote message s user).2) s
    let s := (ascending (s.userComments user)).foldl detachComment s
    let s := (ascending (s.userSubscribedThreads user)).foldl (fun s thread =>
      DiscussionThread.eraseSubscribedUser thread s user) s
    let s := (ascending (s.userMessages user)).foldl (fun s message =>
      deleteDiscussionThreadMessage ctx s message false) s
    let s := (ascending (s.userThreads user)).foldl (fun s thread =>
      deleteDiscussionThread ctx s thread true false) s
    let s := (ascending (s.userReceivedPrivateMessages user)).foldl (fun s message =>
      s.deletePrivateMessage message true false) s
    let s := (ascending (s.userSentPrivateMessages user)).foldl (fun s message =>
      s.deletePrivateMessage message false true) s
    (ascending (s.userAttachments user)).foldl (fun s attachment =>
      s.deleteAttachment attachment false) s
  else s

/-! ### Batch inserts -/

/-- `startBatchInsert`. -/
def startBatchInsert : EntityCollection := { s with batchInsertInProgress := true }

/-- `stopBatchInsert`: rebuilds the indexes of every collection reached from a registered user, a
thread, a tag or a category, and of the global ones. The collections are disjoint, so the
concurrent rebuilds are taken one after the other. -/
def stopBatchInsert : EntityCollection :=
  let s := s.usersStopBatchInsert
  let s := (ascending s.users).foldl (fun s user => s.messagesStopBatchInsert (.createdBy user)) s
  let s := (s.iterateThreads .all).foldl (fun s thread => s.messagesStopBatchInsert (.ofThread thread)) s
  let s := (ascending s.users).foldl (fun s user => s.threadsStopBatchInsert (.createdBy user)) s
  let s := (ascending s.users).foldl (fun s user => s.threadsStopBatchInsert (.subscribedBy user)) s
  let s := (ascending s.users).foldl (fun s user => s.attachmentsStopBatchInsert (.createdBy user)) s
  let s := (ascending s.tags).foldl (fun s tag => s.threadsStopBatchInsert (.tag tag)) s
  let s := (ascending s.categories).foldl (fun s category =>
    s.threadsStopBatchInsert (.category category)) s
  let s := s.threadsStopBatchInsert .all
  let s := s.messagesStopBatchInsert .all
  let s := s.tagsStopBatchInsert
  let s := s.categoriesStopBatchInsert
  let s := s.attachmentsStopBatchInsert .all
  { s with batchInsertInProgress := false }

end EntityCollection

end Forum.Entities
