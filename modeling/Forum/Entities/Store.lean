import Mathlib.Data.Finmap
import Mathlib.Data.Finset.Card
import Mathlib.Data.Prod.Lex
import Mathlib.Data.Int.Order.Basic
import Mathlib.Data.Nat.Notation
import Mathlib.Logic.Function.Basic
import Forum.Library.Ascending
import Forum.Library.OrderedIndex

/-!
# The entity store

The data of `EntityCollection`: the users, threads, messages, tags, categories, comments, private
messages and attachments of a forum, the collections they are held in, and the secondary indexes
of those collections.

An entity is named by its id, which stands both for its uuid and for its address: two entities
never share one, and a flat set of pointers is iterated in ascending order of ids. The id `0` is
the empty uuid and names the anonymous user, an object that lives outside the user collection.

The members of the entities are kept by column. The collection is the product of five parts, in
the order in which they read one another:

* `Ownership`: users, threads, messages, comments, votes, private messages and attachments, with
  who created and who holds them;
* `Placement`: tags and categories, and the relations that place threads in them;
* `Counters`: the cached message counts, thread totals and times of latest messages;
* `Properties`: the plain fields of the entities (names, timestamps, texts, flags);
* `Indexes`: the secondary indexes.

The first four, with the batch insert flag, make up the `Store`; an index is a view of it.

Left out are the visit counters and the read-only statistics, the privileges, and the file the
message texts may be mapped from. Counts are unbounded integers; the bit-fields keep their width.
-/

namespace Forum.Entities

open Forum.Library

/-! ### Plain values -/

/-- The id of an entity; `0` is the empty id. -/
abbrev IdType := ℕ

/-- Seconds since the epoch. -/
abbrev Timestamp := ℤ

/-- Where a request came from. -/
structure VisitDetails where
  /-- The IP address. -/
  ip : String := ""
  deriving DecidableEq, Inhabited

/-- When, from where, why and by whom an entity was last updated. -/
structure LastUpdatedInfo where
  /-- The time of the update. -/
  at' : Timestamp := 0
  /-- From where. -/
  details : VisitDetails := {}
  /-- Why. -/
  reason : String := ""
  /-- By whom; nobody when the pointer is null. -/
  by' : Option IdType := none
  deriving DecidableEq, Inhabited

/-- A name with the sort key the collator gave it; names are compared by sort key. -/
structure NameType where
  /-- The text. -/
  string : String := ""
  /-- The collation key. -/
  sortKey : List ℕ := []
  deriving DecidableEq, Inhabited

/-- The kinds of votes in a user's vote history. -/
inductive ReceivedVoteHistoryEntryType
  | upVote | downVote | resetVote
  deriving DecidableEq

/-- One entry of a user's vote history. -/
structure ReceivedVoteHistory where
  /-- The message voted on. -/
  discussionThreadMessageId : IdType
  /-- When. -/
  at' : Timestamp
  /-- How. -/
  type : ReceivedVoteHistoryEntryType
  deriving DecidableEq

/-! ### The plain fields of the entities -/

/-- The plain fields of a user. -/
structure User where
  created : Timestamp := 0
  creationDetails : VisitDetails := {}
  auth : String := ""
  name : NameType := {}
  info : String := ""
  title : String := ""
  signature : String := ""
  logo : String := ""
  lastSeen : Timestamp := 0
  attachmentQuota : Option ℕ := none
  receivedUpVotes : ℤ := 0
  receivedDownVotes : ℤ := 0
  /-- The latest votes, oldest first, at most `MaxVotesInHistory` of them. -/
  voteHistory : List ReceivedVoteHistory := []
  voteHistoryNotRead : ℕ := 0
  /-- The latest messages that quote the user, oldest first. -/
  quoteHistory : List IdType := []
  quotesHistoryNotRead : ℕ := 0
  privateMessagesNotRead : ℕ := 0
  deriving Inhabited

/-- The plain fields of a thread. -/
structure DiscussionThread where
  created : Timestamp := 0
  creationDetails : VisitDetails := {}
  name : NameType := {}
  lastUpdated : Option LastUpdatedInfo := none
  latestVisibleChange : Timestamp := 0
  /-- A 14-bit field. -/
  pinDisplayOrder : ℕ := 0
  approved : Bool := false
  visitorsSinceLastEdit : Finset IdType := ∅
  deriving Inhabited

/-- The plain fields of a message. -/
structure DiscussionThreadMessage where
  /-- A signed 48-bit field. -/
  created : Timestamp := 0
  creationDetails : VisitDetails := {}
  content : String := ""
  /-- An unsigned 15-bit field. -/
  solvedCommentsCount : ℕ := 0
  approved : Bool := false
  lastUpdated : Option LastUpdatedInfo := none
  deriving Inhabited

/-- The plain fields of a tag. -/
structure DiscussionTag where
  created : Timestamp := 0
  creationDetails : VisitDetails := {}
  name : NameType := {}
  uiBlob : String := ""
  lastUpdated : Timestamp := 0
  lastUpdatedDetails : VisitDetails := {}
  lastUpdatedBy : Option IdType := none
  deriving Inhabited

/-- The plain fields of a category. -/
structure DiscussionCategory where
  created : Timestamp := 0
  creationDetails : VisitDetails := {}
  name : NameType := {}
  description : String := ""
  displayOrder : ℤ := 0
  lastUpdated : Timestamp := 0
  lastUpdatedDetails : VisitDetails := {}
  lastUpdatedBy : Option IdType := none
  deriving Inhabited

/-- The plain fields of a message comment. -/
structure MessageComment where
  created : Timestamp := 0
  creationDetails : VisitDetails := {}
  content : String := ""
  solved : Bool := false
  deriving Inhabited

/-- The plain fields of a private message. -/
structure PrivateMessage where
  created : Timestamp := 0
  creationDetails : VisitDetails := {}
  content : String := ""
  deriving Inhabited

/-- The plain fields of an attachment. -/
structure Attachment where
  created : Timestamp := 0
  creationDetails : VisitDetails := {}
  name : NameType := {}
  size : ℕ := 0
  approved : Bool := false
  deriving Inhabited

/-! ### The parts of the store -/

/-- Who exists, who created what, and who holds it. -/
structure Ownership where
  /-- The registered users. -/
  users : Finset IdType := ∅
  /-- The threads of the store. -/
  allThreads : Finset IdType := ∅
  /-- The threads in each user's created threads. -/
  userThreads : IdType → Finset IdType := fun _ => ∅
  /-- The threads each user is subscribed to. -/
  userSubscribedThreads : IdType → Finset IdType := fun _ => ∅
  /-- The users subscribed to each thread. -/
  threadSubscribedUsers : IdType → Finset IdType := fun _ => ∅
  threadCreatedBy : IdType → IdType := fun _ => 0
  threadAboutToBeDeleted : IdType → Bool := fun _ => false
  /-- The messages of the store. -/
  allMessages : Finset IdType := ∅
  /-- The messages in each thread. -/
  threadMessages : IdType → Finset IdType := fun _ => ∅
  /-- The messages in each user's created messages. -/
  userMessages : IdType → Finset IdType := fun _ => ∅
  messageCreatedBy : IdType → IdType := fun _ => 0
  messageParentThread : IdType → IdType := fun _ => 0
  /-- The users with an up vote on each message. -/
  messageUpVotes : IdType → Finset IdType := fun _ => ∅
  /-- The users with a down vote on each message. -/
  messageDownVotes : IdType → Finset IdType := fun _ => ∅
  /-- The messages each user has voted on. -/
  userVotedMessages : IdType → Finset IdType := fun _ => ∅
  /-- The message comments of the store. -/
  allComments : Finset IdType := ∅
  /-- The comments of each message. -/
  messageComments : IdType → Finset IdType := fun _ => ∅
  /-- The comments in each user's comments. -/
  userComments : IdType → Finset IdType := fun _ => ∅
  commentCreatedBy : IdType → IdType := fun _ => 0
  commentParentMessage : IdType → IdType := fun _ => 0
  /-- The private messages of the store. -/
  allPrivateMessages : Finset IdType := ∅
  userSentPrivateMessages : IdType → Finset IdType := fun _ => ∅
  userReceivedPrivateMessages : IdType → Finset IdType := fun _ => ∅
  privateMessageSource : IdType → IdType := fun _ => 0
  privateMessageDestination : IdType → IdType := fun _ => 0
  /-- The attachments of the store. -/
  allAttachments : Finset IdType := ∅
  userAttachments : IdType → Finset IdType := fun _ => ∅
  attachmentCreatedBy : IdType → IdType := fun _ => 0
  /-- The messages each attachment is attached to. -/
  attachmentMessages : IdType → Finset IdType := fun _ => ∅
  /-- The attachments of each message. -/
  messageAttachments : IdType → Finset IdType := fun _ => ∅
  /-- The ids given out so far: not data of the program, but what makes the next one fresh. -/
  issuedIds : Finset IdType := ∅

/-- Tags, categories, and how they place threads. -/
structure Placement where
  /-- The tags of the store. -/
  tags : Finset IdType := ∅
  /-- The categories of the store. -/
  categories : Finset IdType := ∅
  /-- The threads of each tag. -/
  tagThreads : IdType → Finset IdType := fun _ => ∅
  /-- The threads of each category. -/
  categoryThreads : IdType → Finset IdType := fun _ => ∅
  /-- The tags of each thread. -/
  threadTags : IdType → Finset IdType := fun _ => ∅
  /-- The categories of each thread. -/
  threadCategories : IdType → Finset IdType := fun _ => ∅
  /-- The categories of each tag. -/
  tagCategories : IdType → Finset IdType := fun _ => ∅
  /-- The tags of each category. -/
  categoryTags : IdType → Finset IdType := fun _ => ∅
  /-- The parent of each category; a root has none. -/
  categoryParent : IdType → Option IdType := fun _ => none
  categoryChildren : IdType → Finset IdType := fun _ => ∅

/-- `DiscussionThreadCollectionWithReferenceCountAndMessageCount`: the threads of a category and
its descendants, with how many of these categories hold each. -/
structure TotalThreads where
  /-- The threads counted. -/
  byId : Finset IdType := ∅
  /-- How many categories hold each thread. -/
  referenceCount : Finmap fun _ : IdType => ℤ := ∅
  /-- The number of messages in the threads counted. -/
  messageCount : ℤ := 0

/-- Which attachment collection: the global one or a user's. -/
inductive AttachmentCollectionRef
  | all
  | createdBy (user : IdType)
  deriving DecidableEq

/-- The cached counts and times. -/
structure Counters where
  tagMessageCount : IdType → ℤ := fun _ => 0
  categoryMessageCount : IdType → ℤ := fun _ => 0
  totalThreads : IdType → TotalThreads := fun _ => {}
  /-- Each thread's cached time of its latest message. -/
  latestMessageCreated : IdType → Timestamp := fun _ => 0
  /-- The total size of an attachment collection, an unsigned 64-bit number. -/
  attachmentsTotalSize : AttachmentCollectionRef → ℕ := fun _ => 0

/-- The plain fields of every entity. -/
structure Properties where
  user : IdType → User := fun _ => {}
  thread : IdType → DiscussionThread := fun _ => {}
  message : IdType → DiscussionThreadMessage := fun _ => {}
  tag : IdType → DiscussionTag := fun _ => {}
  category : IdType → DiscussionCategory := fun _ => {}
  comment : IdType → MessageComment := fun _ => {}
  privateMessage : IdType → PrivateMessage := fun _ => {}
  attachment : IdType → Attachment := fun _ => {}
  /-- When a user's vote on a message was cast, for the users in the vote collections. -/
  messageVotedAt : IdType → IdType → Timestamp := fun _ _ => 0

/-! ### Indexes -/

/-- The thread collections: the global one, the two of each user, and those of tags and
categories. -/
inductive ThreadCollectionRef
  | all
  | createdBy (user : IdType)
  | subscribedBy (user : IdType)
  | tag (tag : IdType)
  | category (category : IdType)
  deriving DecidableEq

/-- The message collections. -/
inductive MessageCollectionRef
  | all
  | ofThread (thread : IdType)
  | createdBy (user : IdType)
  deriving DecidableEq

/-- The comment collections. -/
inductive CommentCollectionRef
  | all
  | ofMessage (message : IdType)
  | createdBy (user : IdType)
  deriving DecidableEq

/-- The private message collections. -/
inductive PrivateMessageCollectionRef
  | all
  | sentBy (user : IdType)
  | receivedBy (user : IdType)
  deriving DecidableEq

/-- The orders a thread collection keeps. -/
inductive ThreadKey
  | name | created | lastUpdated | latestMessageCreated | messageCount | pinDisplayOrder
  deriving DecidableEq

/-- The non-unique orders the user collection keeps. -/
inductive UserKey
  | created | lastSeen | threadCount | messageCount
  deriving DecidableEq

/-- The non-unique orders the tag collection keeps. -/
inductive TagKey
  | threadCount | messageCount
  deriving DecidableEq

/-- The non-unique orders the category collection keeps. -/
inductive CategoryKey
  | messageCount | displayOrderRootPriority
  deriving DecidableEq

/-- The orders an attachment collection keeps. -/
inductive AttachmentKey
  | created | name | size | approval
  deriving DecidableEq

/-- The non-unique secondary indexes of the store. -/
inductive IndexRef
  | threads (collection : ThreadCollectionRef) (key : ThreadKey)
  /-- `byCreated` of a message collection. -/
  | messages (collection : MessageCollectionRef)
  | users (key : UserKey)
  | tags (key : TagKey)
  | categories (key : CategoryKey)
  | attachments (collection : AttachmentCollectionRef) (key : AttachmentKey)
  /-- `byCreated` of a comment collection. -/
  | comments (collection : CommentCollectionRef)
  /-- `byCreated` of a private message collection. -/
  | privateMessages (collection : PrivateMessageCollectionRef)
  deriving DecidableEq

/-- The unique secondary indexes of the store. -/
inductive UniqueIndexRef
  | usersByAuth | usersByName | tagsByName | categoriesByName
  deriving DecidableEq

/-- The secondary indexes of the store. -/
structure Indexes where
  /-- The content of each index. -/
  index : IndexRef → List IdType := fun _ => []
  /-- The iterator each index keeps between preparing and finishing an update. -/
  updateIt : IndexRef → ℕ := fun _ => 0
  /-- The content of each unique index. -/
  uniqueIndex : UniqueIndexRef → List IdType := fun _ => []
  /-- The iterator each unique index keeps between preparing and finishing an update. -/
  uniqueUpdateIt : UniqueIndexRef → ℕ := fun _ => 0
  /-- Has an erase from this index failed to find its element, an `assert(false)`? -/
  assertFailed : IndexRef → Bool := fun _ => false

/-- The entities with everything but the secondary indexes. -/
structure Store extends Ownership, Placement, Counters, Properties where
  /-- Is a batch insert in progress? -/
  batchInsertInProgress : Bool := false

/-- The entity collection. -/
structure EntityCollection extends Store, Indexes

/-- The entity collection with nothing in it. -/
def EntityCollection.empty : EntityCollection where
  toOwnership := {}
  toPlacement := {}
  toCounters := {}
  toProperties := {}
  toIndexes := {}

/-! ### Reading the store -/

namespace Ownership

variable (s : Ownership)

/-- `DiscussionThread::messageCount`. -/
def threadMessageCount (thread : IdType) : ℤ := (s.threadMessages thread).card

/-- `byId` of a message collection. -/
def messages : MessageCollectionRef → Finset IdType
  | .all => s.allMessages
  | .ofThread thread => s.threadMessages thread
  | .createdBy user => s.userMessages user

/-- `byId` of a comment collection. -/
def comments : CommentCollectionRef → Finset IdType
  | .all => s.allComments
  | .ofMessage message => s.messageComments message
  | .createdBy user => s.userComments user

/-- `byId` of a private message collection. -/
def privateMessages : PrivateMessageCollectionRef → Finset IdType
  | .all => s.allPrivateMessages
  | .sentBy user => s.userSentPrivateMessages user
  | .receivedBy user => s.userReceivedPrivateMessages user

/-- `byId` of an attachment collection. -/
def attachments : AttachmentCollectionRef → Finset IdType
  | .all => s.allAttachments
  | .createdBy user => s.userAttachments user

end Ownership

namespace Properties

variable (s : Properties)

/-- `DiscussionThread::lastUpdated`: the epoch when it was never updated. -/
def threadLastUpdated (thread : IdType) : Timestamp :=
  ((s.thread thread).lastUpdated.map LastUpdatedInfo.at').getD 0

/-- `DiscussionThread::lastUpdatedBy`. -/
def threadLastUpdatedBy (thread : IdType) : Option IdType := (s.thread thread).lastUpdated.bind LastUpdatedInfo.by'

/-- `DiscussionThreadMessage::lastUpdatedBy`. -/
def messageLastUpdatedBy (message : IdType) : Option IdType :=
  (s.message message).lastUpdated.bind LastUpdatedInfo.by'

end Properties

namespace Store

variable (s : Store)

/-- `byId` of a thread collection. -/
def threads : ThreadCollectionRef → Finset IdType
  | .all => s.allThreads
  | .createdBy user => s.userThreads user
  | .subscribedBy user => s.userSubscribedThreads user
  | .tag tag => s.tagThreads tag
  | .category category => s.categoryThreads category

/-- `byId` of the collection an index belongs to. -/
def byId : IndexRef → Finset IdType
  | .threads collection _ => s.threads collection
  | .messages collection => s.messages collection
  | .users _ => s.users
  | .tags _ => s.tags
  | .categories _ => s.categories
  | .attachments collection _ => s.attachments collection
  | .comments collection => s.comments collection
  | .privateMessages collection => s.privateMessages collection

end Store

end Forum.Entities
