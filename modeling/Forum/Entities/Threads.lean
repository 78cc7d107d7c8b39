import Forum.Entities.Collections

/-!
# Threads and messages

The member functions of `DiscussionThread` and `DiscussionThreadMessage`. A field that some index
is ordered by is changed between `onPrepareUpdate…` and `onUpdate…`; the other fields are set
directly.
-/

namespace Forum.Entities

open Forum.Library

/-- What a request runs under: the thread-local context of the program. -/
structure Context where
  currentUserId : IdType
  currentTime : Timestamp
  currentUserIpAddress : String := ""

/-- `{ Context::getCurrentUserIpAddress() }`. -/
def Context.visitDetails (ctx : Context) : VisitDetails := { ip := ctx.currentUserIpAddress }

namespace EntityCollection

variable (s : EntityCollection)

/-- Change the plain fields of a thread. -/
def modifyThread (thread : IdType) (f : DiscussionThread → DiscussionThread) : EntityCollection :=
  { s with thread := Function.update s.thread thread (f (s.thread thread)) }

/-- Change the plain fields of a message. -/
def modifyMessage (message : IdType) (f : DiscussionThreadMessage → DiscussionThreadMessage) :
    EntityCollection :=
  { s with message := Function.update s.message message (f (s.message message)) }

/-- Change the plain fields of a user. -/
def modifyUser (user : IdType) (f : User → User) : EntityCollection :=
  { s with user := Function.update s.user user (f (s.user user)) }

end EntityCollection

/-! ### Threads -/

namespace DiscussionThread

variable (thread : IdType) (s : EntityCollection)

/-- `DiscussionThread::updateName`. -/
def updateName (name : NameType) : EntityCollection :=
  let s := s.onPrepareUpdateDiscussionThread .name thread
  let s := s.modifyThread thread fun t => { t with name := name }
  s.onUpdateDiscussionThread .name thread

/-- `DiscussionThread::updateLastUpdated`: sets up `LastUpdatedInfo` the first time; nothing else
happens when the value does not change. -/
def updateLastUpdated (value : Timestamp) : EntityCollection :=
  let info := (s.thread thread).lastUpdated.getD {}
  let s := s.modifyThread thread fun t => { t with lastUpdated := some info }
  if info.at' = value then s
  else
    let s := s.onPrepareUpdateDiscussionThread .lastUpdated thread
    let s := s.modifyThread thread fun t => { t with lastUpdated := some { info with at' := value } }
    s.onUpdateDiscussionThread .lastUpdated thread

/-- `DiscussionThread::updateLastUpdatedDetails`. -/
def updateLastUpdatedDetails (details : VisitDetails) : EntityCollection :=
  s.modifyThread thread fun t =>
    { t with lastUpdated := some { t.lastUpdated.getD {} with details := details } }

/-- `DiscussionThread::updateLastUpdatedBy`. -/
def updateLastUpdatedBy (user : IdType) : EntityCollection :=
  s.modifyThread thread fun t =>
    { t with lastUpdated := some { t.lastUpdated.getD {} with by' := some user } }

/-- `DiscussionThread::setApproved`. -/
def setApproved (value : Bool) : EntityCollection :=
  s.modifyThread thread fun t => { t with approved := value }

/-- `DiscussionThread::setAboutToBeDeleted`. -/
def setAboutToBeDeleted (value : Bool) : EntityCollection :=
  { s with threadAboutToBeDeleted := Function.update s.threadAboutToBeDeleted thread value }

/-- `DiscussionThread::updatePinDisplayOrder`, into a 14-bit field. -/
def updatePinDisplayOrder (value : ℕ) : EntityCollection :=
  let s := s.onPrepareUpdateDiscussionThread .pinDisplayOrder thread
  let s := s.modifyThread thread fun t => { t with pinDisplayOrder := value % 2 ^ 14 }
  s.onUpdateDiscussionThread .pinDisplayOrder thread

/-- `DiscussionThread::updateLatestMessageCreated`. -/
def updateLatestMessageCreated (value : Timestamp) : EntityCollection :=
  let s := s.onPrepareUpdateDiscussionThread .latestMessageCreated thread
  let s := { s with latestMessageCreated := Function.update s.latestMessageCreated thread value }
  s.onUpdateDiscussionThread .latestMessageCreated thread

/-- `latestVisibleChange() = value`. -/
def setLatestVisibleChange (value : Timestamp) : EntityCollection :=
  s.modifyThread thread fun t => { t with latestVisibleChange := value }

/-- `DiscussionThread::resetVisitorsSinceLastEdit`. -/
def resetVisitorsSinceLastEdit : EntityCollection :=
  s.modifyThread thread fun t => { t with visitorsSinceLastEdit := ∅ }

/-- `DiscussionThread::insertMessage`. -/
def insertMessage (message : IdType) : EntityCollection :=
  let s := s.messagesAdd (.ofThread thread) message
  updateLatestMessageCreated thread s
    (max (s.latestMessageCreated thread) (s.message message).created)

/-- `DiscussionThread::insertMessages`, with the messages of the other thread. -/
def insertMessages (messages : Finset IdType) : EntityCollection :=
  let maxCreated := (ascending messages).foldl (fun m message => max m (s.message message).created) 0
  let s := s.messagesAddAll (.ofThread thread) messages
  updateLatestMessageCreated thread s (max (s.latestMessageCreated thread) maxCreated)

/-- When the last message in the thread's `byCreated` was created, `0` when the index is empty. -/
def lastCreated : Timestamp :=
  match (s.index (.messages (.ofThread thread))).getLast? with
  | none => 0
  | some message => (s.message message).created

/-- `DiscussionThread::refreshLatestMessageCreated`. -/
def refreshLatestMessageCreated : EntityCollection :=
  updateLatestMessageCreated thread s (lastCreated thread s)

/-- `DiscussionThread::deleteDiscussionThreadMessage`. -/
def deleteDiscussionThreadMessage (message : IdType) : EntityCollection :=
  refreshLatestMessageCreated thread (s.messagesRemove (.ofThread thread) message)

/-- `DiscussionThread::addTag`. -/
def addTag (ctx : Context) (tag : IdType) : EntityCollection :=
  let s := setLatestVisibleChange thread s ctx.currentTime
  { s with threadTags := Function.update s.threadTags thread (insert tag (s.threadTags thread)) }

/-- `DiscussionThread::removeTag`. -/
def removeTag (ctx : Context) (tag : IdType) : EntityCollection :=
  let s := setLatestVisibleChange thread s ctx.currentTime
  { s with threadTags := Function.update s.threadTags thread ((s.threadTags thread).erase tag) }

/-- `DiscussionThread::addCategory`. -/
def addCategory (ctx : Context) (category : IdType) : EntityCollection :=
  let s := setLatestVisibleChange thread s ctx.currentTime
  { s with
    threadCategories := Function.update s.threadCategories thread
      (insert category (s.threadCategories thread)) }

/-- `DiscussionThread::removeCategory`. -/
def removeCategory (ctx : Context) (category : IdType) : EntityCollection :=
  let s := setLatestVisibleChange thread s ctx.currentTime
  { s with
    threadCategories := Function.update s.threadCategories thread
      ((s.threadCategories thread).erase category) }

/-- `subscribedUsers().insert(user)`. -/
def insertSubscribedUser (user : IdType) : EntityCollection :=
  { s with
    threadSubscribedUsers := Function.update s.threadSubscribedUsers thread
      (insert user (s.threadSubscribedUsers thread)) }

/-- `subscribedUsers().erase(user)`. -/
def eraseSubscribedUser (user : IdType) : EntityCollection :=
  { s with
    threadSubscribedUsers := Function.update s.threadSubscribedUsers thread
      ((s.threadSubscribedUsers thread).erase user) }

end DiscussionThread

/-! ### Messages -/

namespace DiscussionThreadMessage

variable (message : IdType) (s : EntityCollection)

/-- `parentThread() = thread`. -/
def setParentThread (thread : IdType) : EntityCollection :=
  { s with messageParentThread := Function.update s.messageParentThread message thread }

/-- `DiscussionThreadMessage::hasVoted`. -/
def hasVoted (user : IdType) : Bool :=
  decide (user ∈ s.messageUpVotes message) || decide (user ∈ s.messageDownVotes message)

/-- `DiscussionThreadMessage::addUpVote`. -/
def addUpVote (user : IdType) (at' : Timestamp) : EntityCollection :=
  { s with
    messageUpVotes := Function.update s.messageUpVotes message (insert user (s.messageUpVotes message))
    messageVotedAt := Function.update s.messageVotedAt message
      (Function.update (s.messageVotedAt message) user at') }

/-- `DiscussionThreadMessage::addDownVote`. -/
def addDownVote (user : IdType) (at' : Timestamp) : EntityCollection :=
  { s with
    messageDownVotes :=
      Function.update s.messageDownVotes message (insert user (s.messageDownVotes message))
    messageVotedAt := Function.update s.messageVotedAt message
      (Function.update (s.messageVotedAt message) user at') }

/-- What `removeVote` found. -/
inductive RemoveVoteStatus
  | missing | wasUpVote | wasDownVote
  deriving DecidableEq

/-- `DiscussionThreadMessage::removeVote`: the up vote if there is one, else the down vote. -/
def removeVote (user : IdType) : RemoveVoteStatus × EntityCollection :=
  if user ∈ s.messageUpVotes message then
    (.wasUpVote, { s with
      messageUpVotes :=
        Function.update s.messageUpVotes message ((s.messageUpVotes message).erase user) })
  else if user ∈ s.messageDownVotes message then
    (.wasDownVote, { s with
      messageDownVotes :=
        Function.update s.messageDownVotes message ((s.messageDownVotes message).erase user) })
  else (.missing, s)

/-- `DiscussionThreadMessage::removeAttachment`. -/
def removeAttachment (attachment : IdType) : EntityCollection :=
  { s with
    messageAttachments := Function.update s.messageAttachments message
      ((s.messageAttachments message).erase attachment) }

/-- `DiscussionThreadMessage::addAttachment`. -/
def addAttachment (attachment : IdType) : EntityCollection :=
  { s with
    messageAttachments := Function.update s.messageAttachments message
      (insert attachment (s.messageAttachments message)) }

/-- `solvedCommentsCount_ += change`, in an unsigned 15-bit field. -/
def changeSolvedCommentsCount (change : ℤ) : EntityCollection :=
  s.modifyMessage message fun m =>
    { m with solvedCommentsCount := ((m.solvedCommentsCount + change) % 2 ^ 15).toNat }

end DiscussionThreadMessage

/-! ### Users -/

namespace User

variable (user : IdType) (s : EntityCollection)

/-- `User::registerVote`. -/
def registerVote (message : IdType) : EntityCollection :=
  { s with
    userVotedMessages :=
      Function.update s.userVotedMessages user (insert message (s.userVotedMessages user)) }

/-- `User::removeVote`. -/
def removeVote (message : IdType) : EntityCollection :=
  { s with
    userVotedMessages :=
      Function.update s.userVotedMessages user ((s.userVotedMessages user).erase message) }

/-- `User::updateAuth`. -/
def updateAuth (auth : String) : EntityCollection :=
  let s := s.uniquePrepareUpdate .usersByAuth user
  let s := s.modifyUser user fun u => { u with auth := auth }
  s.uniqueUpdate .usersByAuth user

/-- `User::updateName`. -/
def updateName (name : NameType) : EntityCollection :=
  let s := s.uniquePrepareUpdate .usersByName user
  let s := s.modifyUser user fun u => { u with name := name }
  s.uniqueUpdate .usersByName user

/-- `User::updateLastSeen`. -/
def updateLastSeen (value : Timestamp) : EntityCollection :=
  if (s.user user).lastSeen = value then s
  else
    let s := s.prepareUpdate (.users .lastSeen) user
    let s := s.modifyUser user fun u => { u with lastSeen := value }
    s.finishUpdate (.users .lastSeen) user

/-- The capacity of the two circular buffers of a user. -/
def MaxEntriesInHistory : ℕ := 16

/-- `CircularBuffer::push_back`: the oldest value leaves a full buffer. -/
def pushBack {α : Type} (l : List α) (x : α) : List α :=
  (l ++ [x]).drop ((l ++ [x]).length - MaxEntriesInHistory)

/-- What a vote does to the user whose message was voted on: one more, or one less, of a kind, and
an entry in the history. -/
def receiveVote (up down : ℤ) (entry : ReceivedVoteHistory) : EntityCollection :=
  s.modifyUser user fun u =>
    { u with
      receivedUpVotes := u.receivedUpVotes + up
      receivedDownVotes := u.receivedDownVotes + down
      voteHistory := pushBack u.voteHistory entry
      voteHistoryNotRead := (u.voteHistoryNotRead + 1) % 2 ^ 16 }

end User

end Forum.Entities
