import Forum.Entities.IndexOperations

/-!
# The entity collections

Adding to and removing from the collections of the store. A collection keeps the set of its
elements (`byId`) and its secondary indexes; the thread collection of a registered user and the
message collections of threads and users also announce that their size is about to change and has
changed, so that indexes ordered by that size can follow.

Outside a batch insert every change updates the indexes. During one, the indexes are left alone
and rebuilt at its end, but for the few that are kept up to date throughout, and for the
message collections, whose `remove` erases from `byCreated` in any case.
-/

namespace Forum.Entities

open Forum.Library

/-! ### Setting `byId` -/

namespace Store

variable (s : Store) (x : Finset IdType)

/-- Set `byId` of a thread collection. -/
def setThreads : ThreadCollectionRef → Store
  | .all => { s with allThreads := x }
  | .createdBy user => { s with userThreads := Function.update s.userThreads user x }
  | .subscribedBy user =>
    { s with userSubscribedThreads := Function.update s.userSubscribedThreads user x }
  | .tag tag => { s with tagThreads := Function.update s.tagThreads tag x }
  | .category category => { s with categoryThreads := Function.update s.categoryThreads category x }

/-- Set `byId` of a message collection. -/
def setMessages : MessageCollectionRef → Store
  | .all => { s with allMessages := x }
  | .ofThread thread => { s with threadMessages := Function.update s.threadMessages thread x }
  | .createdBy user => { s with userMessages := Function.update s.userMessages user x }

/-- Set `byId` of a comment collection. -/
def setComments : CommentCollectionRef → Store
  | .all => { s with allComments := x }
  | .ofMessage message => { s with messageComments := Function.update s.messageComments message x }
  | .createdBy user => { s with userComments := Function.update s.userComments user x }

/-- Set `byId` of a private message collection. -/
def setPrivateMessages : PrivateMessageCollectionRef → Store
  | .all => { s with allPrivateMessages := x }
  | .sentBy user =>
    { s with userSentPrivateMessages := Function.update s.userSentPrivateMessages user x }
  | .receivedBy user =>
    { s with userReceivedPrivateMessages := Function.update s.userReceivedPrivateMessages user x }

/-- Set `byId` of an attachment collection. -/
def setAttachments : AttachmentCollectionRef → Store
  | .all => { s with allAttachments := x }
  | .createdBy user => { s with userAttachments := Function.update s.userAttachments user x }

/-- Set the total size of an attachment collection, an unsigned 64-bit number. -/
def setAttachmentsTotalSize (collection : AttachmentCollectionRef) (size : ℤ) : Store :=
  { s with
    attachmentsTotalSize :=
      Function.update s.attachmentsTotalSize collection (size % 2 ^ 64).toNat }

end Store

namespace EntityCollection

variable (s : EntityCollection)

/-- Change the store and leave the indexes as they are. -/
def setStore (store : Store) : EntityCollection := { s with toStore := store }

/-! ### Thread collections -/

/-- `prepareCountChange`: only the created threads of a registered user have a listener; the
anonymous user is constructed without. -/
def threadsPrepareCountChange : ThreadCollectionRef → EntityCollection
  | .createdBy user => if user = 0 then s else s.prepareUpdate (.users .threadCount) user
  | _ => s

/-- `finishCountChange`. -/
def threadsFinishCountChange : ThreadCollectionRef → EntityCollection
  | .createdBy user => if user = 0 then s else s.finishUpdate (.users .threadCount) user
  | _ => s

/-- `DiscussionThreadCollection…::add(thread)`. -/
def threadsAdd (collection : ThreadCollectionRef) (thread : IdType) : EntityCollection :=
  if thread ∈ s.threads collection then s
  else
    let s := s.threadsPrepareCountChange collection
    let s := s.setStore (s.setThreads (insert thread (s.threads collection)) collection)
    let s := s.unlessBatch fun s =>
      collection.keys.foldl (fun s key => s.indexInsert (.threads collection key) thread) s
    s.threadsFinishCountChange collection

/-- `DiscussionThreadCollection…::add(threads, threadCount)`. -/
def threadsAddRange (collection : ThreadCollectionRef) (threads : List IdType) : EntityCollection :=
  if threads = [] then s
  else
    let s := s.threadsPrepareCountChange collection
    let s := s.setStore (s.setThreads (s.threads collection ∪ threads.toFinset) collection)
    let s := s.unlessBatch fun s =>
      collection.keys.foldl (fun s key => s.indexInsertRange (.threads collection key) threads) s
    s.threadsFinishCountChange collection

/-- `DiscussionThreadCollection…::remove(thread)`. -/
def threadsRemove (collection : ThreadCollectionRef) (thread : IdType) : EntityCollection :=
  let s := s.threadsPrepareCountChange collection
  if thread ∈ s.threads collection then
    let s := s.setStore (s.setThreads ((s.threads collection).erase thread) collection)
    let s := s.unlessBatch fun s =>
      collection.keys.foldl (fun s key => s.indexErase (.threads collection key) thread) s
    s.threadsFinishCountChange collection
  else s.threadsFinishCountChange collection

/-- `DiscussionThreadCollection…::stopBatchInsert`. -/
def threadsStopBatchInsert (collection : ThreadCollectionRef) : EntityCollection :=
  if s.batchInsertInProgress then
    collection.keys.foldl (fun s key => s.indexRebuild (.threads collection key)) s
  else s

/-- The order in which `iterateThreads` visits a thread collection: by creation, or during a batch
insert in the order of `byId`. -/
def iterateThreads (collection : ThreadCollectionRef) : List IdType :=
  if s.batchInsertInProgress then ascending (s.threads collection)
  else s.index (.threads collection .created)

/-! ### Message collections -/

/-- `onPrepareCountChange` of a message collection. -/
def messagesPrepareCountChange : MessageCollectionRef → EntityCollection
  | .all => s
  | .ofThread thread => s.onPrepareUpdateDiscussionThread .messageCount thread
  | .createdBy user => if user = 0 then s else s.prepareUpdate (.users .messageCount) user

/-- `onCountChange` of a message collection. -/
def messagesCountChange : MessageCollectionRef → EntityCollection
  | .all => s
  | .ofThread thread => s.onUpdateDiscussionThread .messageCount thread
  | .createdBy user => if user = 0 then s else s.finishUpdate (.users .messageCount) user

/-- Put one message in `byId`, if it is not there, and outside a batch insert in `byCreated`. -/
def messagesInsert (collection : MessageCollectionRef) (message : IdType) : EntityCollection :=
  if message ∈ s.messages collection then s
  else
    let s := s.setStore (s.setMessages (insert message (s.messages collection)) collection)
    s.unlessBatch fun s => s.indexInsert (.messages collection) message

/-- `DiscussionThreadMessageCollection…::add(message)`. -/
def messagesAdd (collection : MessageCollectionRef) (message : IdType) : EntityCollection :=
  let s := s.messagesPrepareCountChange collection
  if message ∈ s.messages collection then s
  else (s.messagesInsert collection message).messagesCountChange collection

/-- `DiscussionThreadMessageCollection…::add(collection)`, with the messages to add. -/
def messagesAddAll (collection : MessageCollectionRef) (messages : Finset IdType) : EntityCollection :=
  let s := s.messagesPrepareCountChange collection
  let s := (ascending messages).foldl (fun s message => s.messagesInsert collection message) s
  s.messagesCountChange collection

/-- `DiscussionThreadMessageCollection…::remove(message)`: erases from `byCreated` also during a
batch insert. -/
def messagesRemove (collection : MessageCollectionRef) (message : IdType) : EntityCollection :=
  let s := s.messagesPrepareCountChange collection
  if message ∈ s.messages collection then
    let s := s.setStore (s.setMessages ((s.messages collection).erase message) collection)
    let s := s.indexErase (.messages collection) message
    s.messagesCountChange collection
  else s

/-- `DiscussionThreadMessageCollection…::stopBatchInsert`. -/
def messagesStopBatchInsert (collection : MessageCollectionRef) : EntityCollection :=
  if s.batchInsertInProgress then s.indexRebuild (.messages collection) else s

/-! ### Comment and private message collections -/

/-- `MessageCommentCollection…::add`. -/
def commentsAdd (collection : CommentCollectionRef) (comment : IdType) : EntityCollection :=
  if comment ∈ s.comments collection then s
  else
    let s := s.setStore (s.setComments (insert comment (s.comments collection)) collection)
    s.indexInsert (.comments collection) comment

/-- `MessageCommentCollection…::remove`. -/
def commentsRemove (collection : CommentCollectionRef) (comment : IdType) : EntityCollection :=
  if comment ∈ s.comments collection then
    let s := s.setStore (s.setComments ((s.comments collection).erase comment) collection)
    s.indexErase (.comments collection) comment
  else s

/-- `PrivateMessageCollection::add`; the global collection has no index. -/
def privateMessagesAdd (collection : PrivateMessageCollectionRef) (message : IdType) : EntityCollection :=
  if message ∈ s.privateMessages collection then s
  else
    let s := s.setStore (s.setPrivateMessages (insert message (s.privateMessages collection)) collection)
    if collection = .all then s else s.indexInsert (.privateMessages collection) message

/-- `PrivateMessageCollection::remove`. -/
def privateMessagesRemove (collection : PrivateMessageCollectionRef) (message : IdType) :
    EntityCollection :=
  if message ∈ s.privateMessages collection then
    let s := s.setStore (s.setPrivateMessages ((s.privateMessages collection).erase message) collection)
    if collection = .all then s else s.indexErase (.privateMessages collection) message
  else s

/-! ### Attachment collections -/

/-- `AttachmentCollection::add`. -/
def attachmentsAdd (collection : AttachmentCollectionRef) (attachment : IdType) : EntityCollection :=
  if attachment ∈ s.attachments collection then s
  else
    let s := s.setStore (s.setAttachments (insert attachment (s.attachments collection)) collection)
    let s := s.unlessBatch fun s => AttachmentCollectionRef.keys.foldl
      (fun s key => s.indexInsert (.attachments collection key) attachment) s
    s.setStore (s.setAttachmentsTotalSize collection
      (s.attachmentsTotalSize collection + (s.attachment attachment).size))

/-- `AttachmentCollection::remove`. -/
def attachmentsRemove (collection : AttachmentCollectionRef) (attachment : IdType) : EntityCollection :=
  if attachment ∈ s.attachments collection then
    let s := s.setStore (s.setAttachments ((s.attachments collection).erase attachment) collection)
    let s := s.unlessBatch fun s => AttachmentCollectionRef.keys.foldl
      (fun s key => s.indexErase (.attachments collection key) attachment) s
    s.setStore (s.setAttachmentsTotalSize collection
      (s.attachmentsTotalSize collection - (s.attachment attachment).size))
  else s

/-- `AttachmentCollection::stopBatchInsert`. -/
def attachmentsStopBatchInsert (collection : AttachmentCollectionRef) : EntityCollection :=
  if s.batchInsertInProgress then
    AttachmentCollectionRef.keys.foldl (fun s key => s.indexRebuild (.attachments collection key)) s
  else s

/-! ### Users, tags and categories -/

/-- The indexes of the user collection that a batch insert leaves alone. -/
def batchUserKeys : List UserKey := [.lastSeen, .threadCount, .messageCount]

/-- `UserCollection::add`. -/
def usersAdd (user : IdType) : EntityCollection :=
  if user ∈ s.users then s
  else
    let s := { s with users := insert user s.users }
    let s := (s.uniqueInsert .usersByAuth user).uniqueInsert .usersByName user
    let s := s.indexInsert (.users .created) user
    s.unlessBatch fun s => batchUserKeys.foldl (fun s key => s.indexInsert (.users key) user) s

/-- `UserCollection::remove`. -/
def usersRemove (user : IdType) : EntityCollection :=
  if user ∈ s.users then
    let s := { s with users := s.users.erase user }
    let s := (s.uniqueErase .usersByAuth user).uniqueErase .usersByName user
    let s := s.indexErase (.users .created) user
    s.unlessBatch fun s => batchUserKeys.foldl (fun s key => s.indexErase (.users key) user) s
  else s

/-- `UserCollection::stopBatchInsert`. -/
def usersStopBatchInsert : EntityCollection :=
  if s.batchInsertInProgress then batchUserKeys.foldl (fun s key => s.indexRebuild (.users key)) s
  else s

/-- The indexes of the tag collection that a batch insert leaves alone. -/
def batchTagKeys : List TagKey := [.threadCount, .messageCount]

/-- `DiscussionTagCollection::add`. -/
def tagsAdd (tag : IdType) : EntityCollection :=
  if tag ∈ s.tags then s
  else
    let s := { s with tags := insert tag s.tags }
    let s := s.uniqueInsert .tagsByName tag
    s.unlessBatch fun s => batchTagKeys.foldl (fun s key => s.indexInsert (.tags key) tag) s

/-- `DiscussionTagCollection::remove`. -/
def tagsRemove (tag : IdType) : EntityCollection :=
  if tag ∈ s.tags then
    let s := { s with tags := s.tags.erase tag }
    let s := s.uniqueErase .tagsByName tag
    s.unlessBatch fun s => batchTagKeys.foldl (fun s key => s.indexErase (.tags key) tag) s
  else s

/-- `DiscussionTagCollection::stopBatchInsert`. -/
def tagsStopBatchInsert : EntityCollection :=
  if s.batchInsertInProgress then batchTagKeys.foldl (fun s key => s.indexRebuild (.tags key)) s
  else s

/-- The indexes of the category collection that a batch insert leaves alone. -/
def batchCategoryKeys : List CategoryKey := [.messageCount, .displayOrderRootPriority]

/-- `DiscussionCategoryCollection::add`. -/
def categoriesAdd (category : IdType) : EntityCollection :=
  if category ∈ s.categories then s
  else
    let s := { s with categories := insert category s.categories }
    let s := s.uniqueInsert .categoriesByName category
    s.unlessBatch fun s =>
      batchCategoryKeys.foldl (fun s key => s.indexInsert (.categories key) category) s

/-- `DiscussionCategoryCollection::remove`. -/
def categoriesRemove (category : IdType) : EntityCollection :=
  if category ∈ s.categories then
    let s := { s with categories := s.categories.erase category }
    let s := s.uniqueErase .categoriesByName category
    s.unlessBatch fun s =>
      batchCategoryKeys.foldl (fun s key => s.indexErase (.categories key) category) s
  else s

/-- `DiscussionCategoryCollection::stopBatchInsert`. -/
def categoriesStopBatchInsert : EntityCollection :=
  if s.batchInsertInProgress then
    batchCategoryKeys.foldl (fun s key => s.indexRebuild (.categories key)) s
  else s

end EntityCollection

end Forum.Entities
