import Forum.Repository.Common

/-!
# The thread and message repositories

The direct writes of `MemoryRepositoryDiscussionThread` and
`MemoryRepositoryDiscussionThreadMessage`.
-/

namespace Forum.Repository

open Forum.Entities Forum.Library

variable (ctx : Context) (s : EntityCollection)

/-! ### Threads -/

/-- `addNewDiscussionThread`. -/
def addNewDiscussionThread (id : IdType) (name : NameType) (approved : Bool) : Result :=
  let currentUser := getCurrentUser ctx s
  let s := s.createDiscussionThread id currentUser name ctx.currentTime ctx.visitDetails approved
  let s := DiscussionThread.setLatestVisibleChange id s (s.thread id).created
  let s := DiscussionThread.updateLastUpdated id s (s.thread id).created
  let s := s.threadsAdd .all id
  (.ok, s.threadsAdd (.createdBy currentUser) id)

/-- `changeDiscussionThreadName`. -/
def changeDiscussionThreadName (id : IdType) (name : NameType) : Result :=
  if id ∈ s.allThreads then
    (.ok, updateThreadLastUpdated ctx id (getCurrentUser ctx s) (DiscussionThread.updateName id s name))
  else (.notFound, s)

/-- `changeDiscussionThreadPinDisplayOrder`. -/
def changeDiscussionThreadPinDisplayOrder (id : IdType) (value : ℕ) : Result :=
  if id ∈ s.allThreads then
    (.ok, updateThreadLastUpdated ctx id (getCurrentUser ctx s)
      (DiscussionThread.updatePinDisplayOrder id s value))
  else (.notFound, s)

/-- `changeDiscussionThreadApproval`. -/
def changeDiscussionThreadApproval (id : IdType) (approved : Bool) : Result :=
  if id ∈ s.allThreads then
    (.ok, updateThreadLastUpdated ctx id (getCurrentUser ctx s) (DiscussionThread.setApproved id s approved))
  else (.notFound, s)

/-- `deleteDiscussionThread`. -/
def deleteDiscussionThread (id : IdType) : Result :=
  if id ∈ s.allThreads then (.ok, s.deleteDiscussionThread ctx id true true) else (.notFound, s)

/-- `updateMessageCounts`: tell the tags and categories of a thread. -/
def updateMessageCounts (thread : IdType) (difference : ℤ) : EntityCollection :=
  let s := (ascending (s.threadTags thread)).foldl (fun s tag =>
    DiscussionTag.updateMessageCount tag s difference) s
  (ascending (s.threadCategories thread)).foldl (fun s category =>
    DiscussionCategory.updateMessageCount category s thread difference) s

/-- `mergeDiscussionThreads`. -/
def mergeDiscussionThreads (fromId intoId : IdType) : Result :=
  if fromId = intoId then (.noEffect, s)
  else if fromId ∈ s.allThreads ∧ intoId ∈ s.allThreads then
    let s := updateThreadLastUpdated ctx intoId (getCurrentUser ctx s) s
    let s := (ascending (s.threadMessages fromId)).foldl (fun s message =>
      DiscussionThreadMessage.setParentThread message s intoId) s
    let s := DiscussionThread.insertMessages intoId s (s.threadMessages fromId)
    let s := updateMessageCounts s fromId (-s.threadMessageCount fromId)
    let s := updateMessageCounts s intoId (s.threadMessageCount fromId)
    let s := (ascending (s.threadSubscribedUsers fromId)).foldl (fun s user =>
      DiscussionThread.insertSubscribedUser intoId (s.threadsAdd (.subscribedBy user) intoId) user) s
    (.ok, s.deleteDiscussionThread ctx fromId false true)
  else (.notFound, s)

/-- `subscribeToDiscussionThread`. -/
def subscribeToDiscussionThread (id : IdType) : Result :=
  if id ∈ s.allThreads then
    let currentUser := getCurrentUser ctx s
    if currentUser ∈ s.threadSubscribedUsers id then (.noEffect, s)
    else
      let s := DiscussionThread.insertSubscribedUser id s currentUser
      (.ok, s.threadsAdd (.subscribedBy currentUser) id)
  else (.notFound, s)

/-- `unsubscribeFromDiscussionThread`. -/
def unsubscribeFromDiscussionThread (id : IdType) : Result :=
  if id ∈ s.allThreads then
    let currentUser := getCurrentUser ctx s
    if currentUser ∈ s.threadSubscribedUsers id then
      let s := DiscussionThread.eraseSubscribedUser id s currentUser
      (.ok, s.threadsRemove (.subscribedBy currentUser) id)
    else (.noEffect, s)
  else (.notFound, s)

/-! ### Messages -/

/-- The content of a new message: a text, or a place in the mapped messages file, with what
`getMessageContentPointer` finds there; it finds nothing outside the file. -/
inductive MessageContent
  | text (content : String)
  | mapped (content : Option String)

/-- `addNewDiscussionMessageInThread`. -/
def addNewDiscussionMessageInThread (id thread : IdType) (approved : Bool) (content : MessageContent) :
    Result :=
  if thread ∈ s.allThreads then
    let currentUser := getCurrentUser ctx s
    let s := s.createDiscussionThreadMessage id currentUser ctx.currentTime ctx.visitDetails approved
    let s := DiscussionThreadMessage.setParentThread id s thread
    match content with
    | .mapped none => (.invalidParameters, s)
    | .mapped (some content) | .text content =>
      let s := s.modifyMessage id fun m => { m with content := content }
      let s := s.messagesAdd .all id
      let s := DiscussionThread.insertMessage thread s id
      let s := DiscussionThread.resetVisitorsSinceLastEdit thread s
      let s := DiscussionThread.setLatestVisibleChange thread s (s.message id).created
      let s :=
        if currentUser = anonymousUser then s else DiscussionThread.insertSubscribedUser thread s currentUser
      let s := updateMessageCounts s thread 1
      let s := s.messagesAdd (.createdBy currentUser) id
      (.ok, s.threadsAdd (.subscribedBy currentUser) thread)
  else (.notFound, s)

/-- `deleteDiscussionMessage`. -/
def deleteDiscussionMessage (id : IdType) : Result :=
  if id ∈ s.allMessages then (.ok, s.deleteDiscussionThreadMessage ctx id true) else (.notFound, s)

/-- `changeDiscussionThreadMessageContent`: records who changed it unless it was the author. -/
def changeDiscussionThreadMessageContent (id : IdType) (content reason : String) : Result :=
  if id ∈ s.allMessages then
    let currentUser := getCurrentUser ctx s
    let author := s.messageCreatedBy id
    let s := s.modifyMessage id fun m =>
      { m with
        content := content
        lastUpdated := some
          { at' := ctx.currentTime, details := ctx.visitDetails, reason := reason
            by' := if author = currentUser then m.lastUpdated.bind LastUpdatedInfo.by' else some currentUser } }
    let thread := s.messageParentThread id
    let s := DiscussionThread.resetVisitorsSinceLastEdit thread s
    (.ok, DiscussionThread.setLatestVisibleChange thread s ctx.currentTime)
  else (.notFound, s)

/-- `changeDiscussionThreadMessageApproval`. -/
def changeDiscussionThreadMessageApproval (id : IdType) (approved : Bool) : Result :=
  if id ∈ s.allMessages then
    if (s.message id).approved = approved then (.noEffect, s)
    else
      let s := s.modifyMessage id fun m => { m with approved := approved }
      (.ok, DiscussionThread.resetVisitorsSinceLastEdit (s.messageParentThread id) s)
  else (.notFound, s)

/-- `updateThreadOnMoveMessage`. -/
def updateThreadOnMoveMessage (thread : IdType) (delta : ℤ) : EntityCollection :=
  let s := DiscussionThread.resetVisitorsSinceLastEdit thread s
  let s := DiscussionThread.setLatestVisibleChange thread s ctx.currentTime
  updateMessageCounts s thread delta

/-- `moveDiscussionThreadMessage`. -/
def moveDiscussionThreadMessage (message intoThread : IdType) : Result :=
  if message ∈ s.allMessages ∧ intoThread ∈ s.allThreads then
    let fromThread := s.messageParentThread message
    if fromThread = intoThread then (.noEffect, s)
    else
      let s := DiscussionThread.insertMessage intoThread s message
      let s := updateThreadOnMoveMessage ctx s intoThread 1
      let s := DiscussionThread.deleteDiscussionThreadMessage fromThread s message
      let s := updateThreadOnMoveMessage ctx s fromThread (-1)
      (.ok, DiscussionThreadMessage.setParentThread message s intoThread)
  else (.notFound, s)

/-! ### Votes -/

/-- `voteDiscussionThreadMessage`. -/
def voteDiscussionThreadMessage (id : IdType) (up : Bool) : Result :=
  if id ∈ s.allMessages then
    let currentUser := getCurrentUser ctx s
    if DiscussionThreadMessage.hasVoted id s currentUser then (.noEffect, s)
    else
      let s := User.registerVote currentUser s id
      let s :=
        if up then DiscussionThreadMessage.addUpVote id s currentUser ctx.currentTime
        else DiscussionThreadMessage.addDownVote id s currentUser ctx.currentTime
      let targetUser := s.messageCreatedBy id
      (.ok, User.receiveVote targetUser s (if up then 1 else 0) (if up then 0 else 1)
        { discussionThreadMessageId := id, at' := ctx.currentTime
          type := if up then .upVote else .downVote })
  else (.notFound, s)

/-- `upVoteDiscussionThreadMessage`. -/
def upVoteDiscussionThreadMessage (id : IdType) : Result := voteDiscussionThreadMessage ctx s id true

/-- `downVoteDiscussionThreadMessage`. -/
def downVoteDiscussionThreadMessage (id : IdType) : Result := voteDiscussionThreadMessage ctx s id false

/-- `resetVoteDiscussionThreadMessage`: the vote leaves the message; the user's voted messages are
not touched. -/
def resetVoteDiscussionThreadMessage (id : IdType) : Result :=
  if id ∈ s.allMessages then
    let currentUser := getCurrentUser ctx s
    let targetUser := s.messageCreatedBy id
    let entry : ReceivedVoteHistory :=
      { discussionThreadMessageId := id, at' := ctx.currentTime, type := .resetVote }
    match DiscussionThreadMessage.removeVote id s currentUser with
    | (.missing, s) => (.noEffect, s)
    | (.wasUpVote, s) => (.ok, User.receiveVote targetUser s (-1) 0 entry)
    | (.wasDownVote, s) => (.ok, User.receiveVote targetUser s 0 (-1) entry)
  else (.notFound, s)

/-! ### Comments and quotes -/

/-- `addCommentToDiscussionThreadMessage`. -/
def addCommentToDiscussionThreadMessage (id message : IdType) (content : String) : Result :=
  if message ∈ s.allMessages then
    let currentUser := getCurrentUser ctx s
    let s := s.createMessageComment id message currentUser ctx.currentTime ctx.visitDetails content
    let s := s.commentsAdd .all id
    let s := s.commentsAdd (.ofMessage message) id
    (.ok, s.commentsAdd (.createdBy currentUser) id)
  else (.notFound, s)

/-- `setMessageCommentToSolved`. -/
def setMessageCommentToSolved (id : IdType) : Result :=
  if id ∈ s.allComments then
    if (s.comment id).solved then (.noEffect, s)
    else
      let s := { s with comment := Function.update s.comment id { s.comment id with solved := true } }
      (.ok, DiscussionThreadMessage.changeSolvedCommentsCount (s.commentParentMessage id) s 1)
  else (.notFound, s)

/-- `quoteUserInMessage`. -/
def quoteUserInMessage (message user : IdType) : Result :=
  if user ∈ s.users then
    (.ok, s.modifyUser user fun u =>
      { u with
        quoteHistory := User.pushBack u.quoteHistory message
        quotesHistoryNotRead := (u.quotesHistoryNotRead + 1) % 2 ^ 16 })
  else (.notFound, s)

end Forum.Repository
