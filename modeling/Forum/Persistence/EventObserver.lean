import Forum.Persistence.EventImporter

/-!
# EventObserver

The blobs that `EventObserver.cpp` records, one function for each event of the repositories and one
for each counter that is written periodically. A function takes the fields of the entities it reads.
`Event.record` says which function records which event, an event being the direct write that it
stands for.
-/

namespace Forum.Persistence

open Forum.Library

/-- `BlobPart`: the first `size` bytes at an address, and whether their number is written before them. -/
structure BlobPart where
  address : List UInt8
  size : ℕ
  includeSizePrefix : Bool

/-- What `recordBlob` writes of a part. -/
def BlobPart.bytes (part : BlobPart) : List UInt8 :=
  (if part.includeSizePrefix then toBytes sizeofBlobSize part.size else []) ++ part.address.take part.size

/-- `ContextVersion`. -/
def ContextVersion : ℕ := 1

/-- `recordBlob`: the blob it enqueues. -/
def recordBlob (eventType : EventType) (version : ℕ) (parts : List BlobPart) : List UInt8 :=
  toBytes sizeofEventType eventType.ctorIdx ++ toBytes sizeofEventVersion version ++
    toBytes sizeofEventContextVersion ContextVersion ++ parts.flatMap BlobPart.bytes

/-- A part of a fixed size. -/
def fixedPart (bytes : List UInt8) : BlobPart := ⟨bytes, bytes.length, false⟩

/-- A part with a string. Its size is cast to `SizeType`. -/
def stringPart (value : StringView) : BlobPart := ⟨value, value.length % 2 ^ 32, true⟩

/-- A part with an id. -/
def uuidPart (id : UuidString) : BlobPart := fixedPart id.1

/-- A part with a `uint16_t`. -/
def uint16Part (value : UInt16) : BlobPart := fixedPart (toBytes 2 value.toNat)

/-- A part with a `uint32_t`. -/
def uint32Part (value : UInt32) : BlobPart := fixedPart (toBytes 4 value.toNat)

/-- A part with a `uint64_t`. -/
def uint64Part (value : UInt64) : BlobPart := fixedPart (toBytes 8 value.toNat)

/-- A part with an `int16_t`. -/
def int16Part (value : Int16) : BlobPart := fixedPart (intToBytes 2 value.toInt)

/-- A part with an `int64_t`. -/
def int64Part (value : Int64) : BlobPart := fixedPart (intToBytes 8 value.toInt)

/-- `approved` is recorded as a number of 32 bits. -/
def approvedPart (approved : Bool) : BlobPart := uint32Part (if approved then 1 else 0)

/-- A privilege is cast to `PersistentPrivilegeEnumType`. -/
def privilegePart (privilege : EnumIntType) : BlobPart := uint16Part privilege.toUInt16

/-- `ADD_CONTEXT_BLOB_PARTS`. -/
def contextParts (context : ObserverContext) : List BlobPart :=
  [int64Part context.timestamp, fixedPart context.performedBy.1, fixedPart context.ipAddress.1]

/-- The context of `ADD_EMPTY_CONTEXT_BLOB_PARTS`. -/
def emptyContext : ObserverContext := ⟨UuidString.empty, 0, IpAddress.zero⟩

namespace EventObserver

variable (context : ObserverContext)

/-- An event with its context. -/
def recordEvent (eventType : EventType) (version : ℕ) (parts : List BlobPart) : List UInt8 :=
  recordBlob eventType version (contextParts context ++ parts)

def onAddNewUser (id : UuidString) (auth userName : StringView) : List UInt8 :=
  recordEvent context .addNewUser 1 [uuidPart id, stringPart auth, stringPart userName]

def onChangeUserName (id : UuidString) (userName : StringView) : List UInt8 :=
  recordEvent context .changeUserName 1 [uuidPart id, stringPart userName]

def onChangeUserInfo (id : UuidString) (userInfo : StringView) : List UInt8 :=
  recordEvent context .changeUserInfo 1 [uuidPart id, stringPart userInfo]

def onChangeUserTitle (id : UuidString) (userTitle : StringView) : List UInt8 :=
  recordEvent context .changeUserTitle 1 [uuidPart id, stringPart userTitle]

def onChangeUserSignature (id : UuidString) (userSignature : StringView) : List UInt8 :=
  recordEvent context .changeUserSignature 1 [uuidPart id, stringPart userSignature]

def onChangeUserLogo (id : UuidString) (userLogo : StringView) : List UInt8 :=
  recordEvent context .changeUserLogo 1 [uuidPart id, stringPart userLogo]

def onChangeUserAttachmentQuota (id : UuidString) (attachmentQuota : Option UInt64) : List UInt8 :=
  recordEvent context .changeUserAttachmentQuota 1 [uuidPart id, uint64Part (attachmentQuota.getD 0)]

def onDeleteUser (id : UuidString) : List UInt8 :=
  recordEvent context .deleteUser 1 [uuidPart id]

def onSendPrivateMessage (id destination : UuidString) (content : StringView) : List UInt8 :=
  recordEvent context .sendPrivateMessage 1 [uuidPart id, uuidPart destination, stringPart content]

def onDeletePrivateMessage (id : UuidString) : List UInt8 :=
  recordEvent context .deletePrivateMessage 1 [uuidPart id]

def onAddNewDiscussionThread (id : UuidString) (threadName : StringView) (approved : Bool) : List UInt8 :=
  recordEvent context .addNewDiscussionThread 2 [uuidPart id, stringPart threadName, approvedPart approved]

def onChangeDiscussionThreadName (id : UuidString) (threadName : StringView) : List UInt8 :=
  recordEvent context .changeDiscussionThreadName 1 [uuidPart id, stringPart threadName]

def onChangeDiscussionThreadPinDisplayOrder (id : UuidString) (pinDisplayOrder : UInt16) : List UInt8 :=
  recordEvent context .changeDiscussionThreadPinDisplayOrder 1 [uuidPart id, uint16Part pinDisplayOrder]

def onChangeDiscussionThreadApproval (id : UuidString) (approved : Bool) : List UInt8 :=
  recordEvent context .changeDiscussionThreadApproval 1 [uuidPart id, approvedPart approved]

def onDeleteDiscussionThread (id : UuidString) : List UInt8 :=
  recordEvent context .deleteDiscussionThread 1 [uuidPart id]

def onMergeDiscussionThreads (fromThread toThread : UuidString) : List UInt8 :=
  recordEvent context .mergeDiscussionThreads 1 [uuidPart fromThread, uuidPart toThread]

def onMoveDiscussionThreadMessage (message intoThread : UuidString) : List UInt8 :=
  recordEvent context .moveDiscussionThreadMessage 1 [uuidPart message, uuidPart intoThread]

def onSubscribeToDiscussionThread (id : UuidString) : List UInt8 :=
  recordEvent context .subscribeToDiscussionThread 1 [uuidPart id]

def onUnsubscribeFromDiscussionThread (id : UuidString) : List UInt8 :=
  recordEvent context .unsubscribeFromDiscussionThread 1 [uuidPart id]

def onAddNewDiscussionThreadMessage (id parentThreadId : UuidString) (approved : Bool) (content : StringView)
    : List UInt8 :=
  recordEvent context .addNewDiscussionThreadMessage 3
    [uuidPart id, uuidPart parentThreadId, approvedPart approved, stringPart content]

def onChangeDiscussionThreadMessageContent (id : UuidString) (content lastUpdatedReason : StringView) : List UInt8 :=
  recordEvent context .changeDiscussionThreadMessageContent 1
    [uuidPart id, stringPart content, stringPart lastUpdatedReason]

def onChangeDiscussionThreadMessageApproval (id : UuidString) (approved : Bool) : List UInt8 :=
  recordEvent context .changeDiscussionThreadMessageApproval 1 [uuidPart id, approvedPart approved]

def onDeleteDiscussionThreadMessage (id : UuidString) : List UInt8 :=
  recordEvent context .deleteDiscussionThreadMessage 1 [uuidPart id]

def onDiscussionThreadMessageUpVote (id : UuidString) : List UInt8 :=
  recordEvent context .discussionThreadMessageUpVote 1 [uuidPart id]

def onDiscussionThreadMessageDownVote (id : UuidString) : List UInt8 :=
  recordEvent context .discussionThreadMessageDownVote 1 [uuidPart id]

def onDiscussionThreadMessageResetVote (id : UuidString) : List UInt8 :=
  recordEvent context .discussionThreadMessageResetVote 1 [uuidPart id]

def onAddCommentToDiscussionThreadMessage (id parentMessageId : UuidString) (content : StringView) : List UInt8 :=
  recordEvent context .addCommentToDiscussionThreadMessage 1
    [uuidPart id, uuidPart parentMessageId, stringPart content]

def onSolveDiscussionThreadMessageComment (id : UuidString) : List UInt8 :=
  recordEvent context .solveDiscussionThreadMessageComment 1 [uuidPart id]

def onQuoteUserInDiscussionThreadMessage (message userId : UuidString) : List UInt8 :=
  recordEvent context .quoteUserInDiscussionThreadMessage 1 [uuidPart message, uuidPart userId]

def onAddNewDiscussionTag (id : UuidString) (tagName : StringView) : List UInt8 :=
  recordEvent context .addNewDiscussionTag 1 [uuidPart id, stringPart tagName]

def onChangeDiscussionTagName (id : UuidString) (tagName : StringView) : List UInt8 :=
  recordEvent context .changeDiscussionTagName 1 [uuidPart id, stringPart tagName]

def onChangeDiscussionTagUIBlob (id : UuidString) (uiBlob : StringView) : List UInt8 :=
  recordEvent context .changeDiscussionTagUiBlob 1 [uuidPart id, stringPart uiBlob]

def onDeleteDiscussionTag (id : UuidString) : List UInt8 :=
  recordEvent context .deleteDiscussionTag 1 [uuidPart id]

def onAddDiscussionTagToThread (tag thread : UuidString) : List UInt8 :=
  recordEvent context .addDiscussionTagToThread 1 [uuidPart tag, uuidPart thread]

def onRemoveDiscussionTagFromThread (tag thread : UuidString) : List UInt8 :=
  recordEvent context .removeDiscussionTagFromThread 1 [uuidPart tag, uuidPart thread]

def onMergeDiscussionTags (fromTag toTag : UuidString) : List UInt8 :=
  recordEvent context .mergeDiscussionTags 1 [uuidPart fromTag, uuidPart toTag]

def onAddNewDiscussionCategory (id : UuidString) (parent : Option UuidString) (categoryName : StringView)
    : List UInt8 :=
  recordEvent context .addNewDiscussionCategory 1
    [uuidPart id, uuidPart (parent.getD UuidString.empty), stringPart categoryName]

def onChangeDiscussionCategoryName (id : UuidString) (categoryName : StringView) : List UInt8 :=
  recordEvent context .changeDiscussionCategoryName 1 [uuidPart id, stringPart categoryName]

def onChangeDiscussionCategoryDescription (id : UuidString) (description : StringView) : List UInt8 :=
  recordEvent context .changeDiscussionCategoryDescription 1 [uuidPart id, stringPart description]

/-- The display order is assigned to a variable of type `int16_t`. -/
def onChangeDiscussionCategoryDisplayOrder (id : UuidString) (displayOrder : IntFast16) : List UInt8 :=
  recordEvent context .changeDiscussionCategoryDisplayOrder 1 [uuidPart id, int16Part displayOrder.toInt16]

def onChangeDiscussionCategoryParent (id : UuidString) (parent : Option UuidString) : List UInt8 :=
  recordEvent context .changeDiscussionCategoryParent 1 [uuidPart id, uuidPart (parent.getD UuidString.empty)]

def onDeleteDiscussionCategory (id : UuidString) : List UInt8 :=
  recordEvent context .deleteDiscussionCategory 1 [uuidPart id]

def onAddDiscussionTagToCategory (tag category : UuidString) : List UInt8 :=
  recordEvent context .addDiscussionTagToCategory 1 [uuidPart tag, uuidPart category]

def onRemoveDiscussionTagFromCategory (tag category : UuidString) : List UInt8 :=
  recordEvent context .removeDiscussionTagFromCategory 1 [uuidPart tag, uuidPart category]

def onAddNewAttachment (id : UuidString) (name : StringView) (size : UInt64) (approved : Bool) : List UInt8 :=
  recordEvent context .addNewAttachment 1 [uuidPart id, stringPart name, uint64Part size, approvedPart approved]

def onChangeAttachmentName (id : UuidString) (attachmentName : StringView) : List UInt8 :=
  recordEvent context .changeAttachmentName 1 [uuidPart id, stringPart attachmentName]

def onChangeAttachmentApproval (id : UuidString) (approved : Bool) : List UInt8 :=
  recordEvent context .changeAttachmentApproval 1 [uuidPart id, approvedPart approved]

def onAddAttachmentToDiscussionThreadMessage (attachment message : UuidString) : List UInt8 :=
  recordEvent context .addAttachmentToDiscussionThreadMessage 1 [uuidPart attachment, uuidPart message]

def onRemoveAttachmentFromDiscussionThreadMessage (attachment message : UuidString) : List UInt8 :=
  recordEvent context .removeAttachmentFromDiscussionThreadMessage 1 [uuidPart attachment, uuidPart message]

def onDeleteAttachment (id : UuidString) : List UInt8 :=
  recordEvent context .deleteAttachment 1 [uuidPart id]

def changeDiscussionThreadMessageRequiredPrivilegeForThreadMessage (message : UuidString) (privilege : EnumIntType)
    (value : Int16) : List UInt8 :=
  recordEvent context .changeDiscussionThreadMessageRequiredPrivilegeForThreadMessage 1
    [uuidPart message, privilegePart privilege, int16Part value]

def changeDiscussionThreadMessageRequiredPrivilegeForThread (thread : UuidString) (privilege : EnumIntType)
    (value : Int16) : List UInt8 :=
  recordEvent context .changeDiscussionThreadMessageRequiredPrivilegeForThread 1
    [uuidPart thread, privilegePart privilege, int16Part value]

def changeDiscussionThreadMessageRequiredPrivilegeForTag (tag : UuidString) (privilege : EnumIntType)
    (value : Int16) : List UInt8 :=
  recordEvent context .changeDiscussionThreadMessageRequiredPrivilegeForTag 1
    [uuidPart tag, privilegePart privilege, int16Part value]

def changeDiscussionThreadRequiredPrivilegeForThread (thread : UuidString) (privilege : EnumIntType) (value : Int16)
    : List UInt8 :=
  recordEvent context .changeDiscussionThreadRequiredPrivilegeForThread 1
    [uuidPart thread, privilegePart privilege, int16Part value]

def changeDiscussionThreadRequiredPrivilegeForTag (tag : UuidString) (privilege : EnumIntType) (value : Int16)
    : List UInt8 :=
  recordEvent context .changeDiscussionThreadRequiredPrivilegeForTag 1
    [uuidPart tag, privilegePart privilege, int16Part value]

def changeDiscussionTagRequiredPrivilegeForTag (tag : UuidString) (privilege : EnumIntType) (value : Int16)
    : List UInt8 :=
  recordEvent context .changeDiscussionTagRequiredPrivilegeForTag 1
    [uuidPart tag, privilegePart privilege, int16Part value]

def changeDiscussionCategoryRequiredPrivilegeForCategory (category : UuidString) (privilege : EnumIntType)
    (value : Int16) : List UInt8 :=
  recordEvent context .changeDiscussionCategoryRequiredPrivilegeForCategory 1
    [uuidPart category, privilegePart privilege, int16Part value]

def changeDiscussionThreadMessageRequiredPrivilegeForumWide (privilege : EnumIntType) (value : Int16) : List UInt8 :=
  recordEvent context .changeDiscussionThreadMessageRequiredPrivilegeForumWide 1
    [privilegePart privilege, int16Part value]

def changeDiscussionThreadRequiredPrivilegeForumWide (privilege : EnumIntType) (value : Int16) : List UInt8 :=
  recordEvent context .changeDiscussionThreadRequiredPrivilegeForumWide 1 [privilegePart privilege, int16Part value]

def changeDiscussionTagRequiredPrivilegeForumWide (privilege : EnumIntType) (value : Int16) : List UInt8 :=
  recordEvent context .changeDiscussionTagRequiredPrivilegeForumWide 1 [privilegePart privilege, int16Part value]

def changeDiscussionCategoryRequiredPrivilegeForumWide (privilege : EnumIntType) (value : Int16) : List UInt8 :=
  recordEvent context .changeDiscussionCategoryRequiredPrivilegeForumWide 1
    [privilegePart privilege, int16Part value]

def changeForumWideRequiredPrivilege (privilege : EnumIntType) (value : Int16) : List UInt8 :=
  recordEvent context .changeForumWideRequiredPrivilege 1 [privilegePart privilege, int16Part value]

def changeForumWideDefaultPrivilegeLevel (privilegeDuration : EnumIntType) (value : Int16) (duration : Int64)
    : List UInt8 :=
  recordEvent context .changeForumWideDefaultPrivilegeLevel 1
    [privilegePart privilegeDuration, int16Part value, int64Part duration]

def assignDiscussionThreadMessagePrivilege (message user : UuidString) (value : Int16) (duration : Int64)
    : List UInt8 :=
  recordEvent context .assignDiscussionThreadMessagePrivilege 1
    [uuidPart message, uuidPart user, int16Part value, int64Part duration]

def assignDiscussionThreadPrivilege (thread user : UuidString) (value : Int16) (duration : Int64) : List UInt8 :=
  recordEvent context .assignDiscussionThreadPrivilege 1
    [uuidPart thread, uuidPart user, int16Part value, int64Part duration]

def assignDiscussionTagPrivilege (tag user : UuidString) (value : Int16) (duration : Int64) : List UInt8 :=
  recordEvent context .assignDiscussionTagPrivilege 1
    [uuidPart tag, uuidPart user, int16Part value, int64Part duration]

def assignDiscussionCategoryPrivilege (category user : UuidString) (value : Int16) (duration : Int64) : List UInt8 :=
  recordEvent context .assignDiscussionCategoryPrivilege 1
    [uuidPart category, uuidPart user, int16Part value, int64Part duration]

def assignForumWidePrivilege (user : UuidString) (value : Int16) (duration : Int64) : List UInt8 :=
  recordEvent context .assignForumWidePrivilege 1 [uuidPart user, int16Part value, int64Part duration]

/-! ### The counters that `updatePeriodicWrites` records -/

def recordNumberOfVisits (threadId : UuidString) (nrOfVisits : UInt32) : List UInt8 :=
  recordEvent emptyContext .incrementDiscussionThreadNumberOfVisits 1 [uuidPart threadId, uint32Part nrOfVisits]

def recordLatestVisitedPage (userId threadId : UuidString) (latestVisitedPage : UInt32) : List UInt8 :=
  recordEvent emptyContext .incrementUserLatestVisitedPage 1
    [uuidPart userId, uuidPart threadId, uint32Part latestVisitedPage]

def recordNumberOfGets (attachmentId : UuidString) (nrOfGets : UInt32) : List UInt8 :=
  recordEvent emptyContext .incrementAttachmentNumberOfGets 1 [uuidPart attachmentId, uint32Part nrOfGets]

end EventObserver

/-! ### Events -/

/-- What is recorded: a direct write, or one of the counters. -/
inductive Event
  | write (call : RepositoryCall)
  | numberOfVisits (threadId : UuidString) (nrOfVisits : UInt32)
  | latestVisitedPage (userId threadId : UuidString) (latestVisitedPage : UInt32)
  | numberOfGets (attachmentId : UuidString) (nrOfGets : UInt32)
  deriving DecidableEq

/-- The parent with an id; the empty id stands for none. -/
def parentOf (id : UuidString) : Option UuidString := if id = UuidString.empty then none else some id

/-- The blob of a direct write. A message whose content is in the messages file is not recorded as such. -/
def RepositoryCall.record (context : ObserverContext) : RepositoryCall → Option (List UInt8)
  | .addNewUser id name auth => some (EventObserver.onAddNewUser context id auth name)
  | .changeUserName id newName => some (EventObserver.onChangeUserName context id newName)
  | .changeUserInfo id newInfo => some (EventObserver.onChangeUserInfo context id newInfo)
  | .changeUserTitle id newTitle => some (EventObserver.onChangeUserTitle context id newTitle)
  | .changeUserSignature id newSignature => some (EventObserver.onChangeUserSignature context id newSignature)
  | .changeUserLogo id newLogo => some (EventObserver.onChangeUserLogo context id newLogo)
  | .changeUserAttachmentQuota id newQuota =>
    some (EventObserver.onChangeUserAttachmentQuota context id (some newQuota))
  | .deleteUser id => some (EventObserver.onDeleteUser context id)
  | .sendPrivateMessage id destination content =>
    some (EventObserver.onSendPrivateMessage context id destination content)
  | .deletePrivateMessage id => some (EventObserver.onDeletePrivateMessage context id)
  | .addNewDiscussionThread id name approved => some (EventObserver.onAddNewDiscussionThread context id name approved)
  | .changeDiscussionThreadName id newName => some (EventObserver.onChangeDiscussionThreadName context id newName)
  | .changeDiscussionThreadPinDisplayOrder id newValue =>
    some (EventObserver.onChangeDiscussionThreadPinDisplayOrder context id newValue)
  | .changeDiscussionThreadApproval id newApproval =>
    some (EventObserver.onChangeDiscussionThreadApproval context id newApproval)
  | .deleteDiscussionThread id => some (EventObserver.onDeleteDiscussionThread context id)
  | .mergeDiscussionThreads fromId intoId => some (EventObserver.onMergeDiscussionThreads context fromId intoId)
  | .subscribeToDiscussionThread id => some (EventObserver.onSubscribeToDiscussionThread context id)
  | .unsubscribeFromDiscussionThread id => some (EventObserver.onUnsubscribeFromDiscussionThread context id)
  | .addNewDiscussionMessageInThread messageId threadId approved content =>
    some (EventObserver.onAddNewDiscussionThreadMessage context messageId threadId approved content)
  | .addNewDiscussionMessageInThreadAt _ _ _ _ _ => none
  | .changeDiscussionThreadMessageContent id newContent changeReason =>
    some (EventObserver.onChangeDiscussionThreadMessageContent context id newContent changeReason)
  | .changeDiscussionThreadMessageApproval id newApproval =>
    some (EventObserver.onChangeDiscussionThreadMessageApproval context id newApproval)
  | .moveDiscussionThreadMessage messageId intoThreadId =>
    some (EventObserver.onMoveDiscussionThreadMessage context messageId intoThreadId)
  | .deleteDiscussionMessage id => some (EventObserver.onDeleteDiscussionThreadMessage context id)
  | .upVoteDiscussionThreadMessage id => some (EventObserver.onDiscussionThreadMessageUpVote context id)
  | .downVoteDiscussionThreadMessage id => some (EventObserver.onDiscussionThreadMessageDownVote context id)
  | .resetVoteDiscussionThreadMessage id => some (EventObserver.onDiscussionThreadMessageResetVote context id)
  | .addCommentToDiscussionThreadMessage commentId messageId content =>
    some (EventObserver.onAddCommentToDiscussionThreadMessage context commentId messageId content)
  | .setMessageCommentToSolved id => some (EventObserver.onSolveDiscussionThreadMessageComment context id)
  | .quoteUserInMessage messageId userId =>
    some (EventObserver.onQuoteUserInDiscussionThreadMessage context messageId userId)
  | .addNewDiscussionTag id name => some (EventObserver.onAddNewDiscussionTag context id name)
  | .changeDiscussionTagName id newName => some (EventObserver.onChangeDiscussionTagName context id newName)
  | .changeDiscussionTagUiBlob id blob => some (EventObserver.onChangeDiscussionTagUIBlob context id blob)
  | .deleteDiscussionTag id => some (EventObserver.onDeleteDiscussionTag context id)
  | .addDiscussionTagToThread tagId threadId => some (EventObserver.onAddDiscussionTagToThread context tagId threadId)
  | .removeDiscussionTagFromThread tagId threadId =>
    some (EventObserver.onRemoveDiscussionTagFromThread context tagId threadId)
  | .mergeDiscussionTags fromId intoId => some (EventObserver.onMergeDiscussionTags context fromId intoId)
  | .addNewDiscussionCategory id name parentId =>
    some (EventObserver.onAddNewDiscussionCategory context id (parentOf parentId) name)
  | .changeDiscussionCategoryName id newName => some (EventObserver.onChangeDiscussionCategoryName context id newName)
  | .changeDiscussionCategoryDescription id newDescription =>
    some (EventObserver.onChangeDiscussionCategoryDescription context id newDescription)
  | .changeDiscussionCategoryDisplayOrder id newDisplayOrder =>
    some (EventObserver.onChangeDiscussionCategoryDisplayOrder context id newDisplayOrder)
  | .changeDiscussionCategoryParent id newParentId =>
    some (EventObserver.onChangeDiscussionCategoryParent context id (parentOf newParentId))
  | .deleteDiscussionCategory id => some (EventObserver.onDeleteDiscussionCategory context id)
  | .addDiscussionTagToCategory tagId categoryId =>
    some (EventObserver.onAddDiscussionTagToCategory context tagId categoryId)
  | .removeDiscussionTagFromCategory tagId categoryId =>
    some (EventObserver.onRemoveDiscussionTagFromCategory context tagId categoryId)
  | .addNewAttachment id name size approved => some (EventObserver.onAddNewAttachment context id name size approved)
  | .changeAttachmentName id newName => some (EventObserver.onChangeAttachmentName context id newName)
  | .changeAttachmentApproval id newApproval => some (EventObserver.onChangeAttachmentApproval context id newApproval)
  | .addAttachmentToDiscussionThreadMessage attachmentId messageId =>
    some (EventObserver.onAddAttachmentToDiscussionThreadMessage context attachmentId messageId)
  | .removeAttachmentFromDiscussionThreadMessage attachmentId messageId =>
    some (EventObserver.onRemoveAttachmentFromDiscussionThreadMessage context attachmentId messageId)
  | .deleteAttachment id => some (EventObserver.onDeleteAttachment context id)
  | .changeDiscussionThreadMessageRequiredPrivilegeForThreadMessage messageId privilege value =>
    some (EventObserver.changeDiscussionThreadMessageRequiredPrivilegeForThreadMessage context messageId privilege value)
  | .changeDiscussionThreadMessageRequiredPrivilegeForThread threadId privilege value =>
    some (EventObserver.changeDiscussionThreadMessageRequiredPrivilegeForThread context threadId privilege value)
  | .changeDiscussionThreadMessageRequiredPrivilegeForTag tagId privilege value =>
    some (EventObserver.changeDiscussionThreadMessageRequiredPrivilegeForTag context tagId privilege value)
  | .changeDiscussionThreadMessageRequiredPrivilege privilege value =>
    some (EventObserver.changeDiscussionThreadMessageRequiredPrivilegeForumWide context privilege value)
  | .changeDiscussionThreadRequiredPrivilegeForThread threadId privilege value =>
    some (EventObserver.changeDiscussionThreadRequiredPrivilegeForThread context threadId privilege value)
  | .changeDiscussionThreadRequiredPrivilegeForTag tagId privilege value =>
    some (EventObserver.changeDiscussionThreadRequiredPrivilegeForTag context tagId privilege value)
  | .changeDiscussionThreadRequiredPrivilege privilege value =>
    some (EventObserver.changeDiscussionThreadRequiredPrivilegeForumWide context privilege value)
  | .changeDiscussionTagRequiredPrivilegeForTag tagId privilege value =>
    some (EventObserver.changeDiscussionTagRequiredPrivilegeForTag context tagId privilege value)
  | .changeDiscussionTagRequiredPrivilege privilege value =>
    some (EventObserver.changeDiscussionTagRequiredPrivilegeForumWide context privilege value)
  | .changeDiscussionCategoryRequiredPrivilegeForCategory categoryId privilege value =>
    some (EventObserver.changeDiscussionCategoryRequiredPrivilegeForCategory context categoryId privilege value)
  | .changeDiscussionCategoryRequiredPrivilege privilege value =>
    some (EventObserver.changeDiscussionCategoryRequiredPrivilegeForumWide context privilege value)
  | .changeForumWideRequiredPrivilege privilege value =>
    some (EventObserver.changeForumWideRequiredPrivilege context privilege value)
  | .changeForumWideDefaultPrivilegeLevel privilege value duration =>
    some (EventObserver.changeForumWideDefaultPrivilegeLevel context privilege value duration)
  | .assignDiscussionThreadMessagePrivilege messageId userId value duration =>
    some (EventObserver.assignDiscussionThreadMessagePrivilege context messageId userId value duration)
  | .assignDiscussionThreadPrivilege threadId userId value duration =>
    some (EventObserver.assignDiscussionThreadPrivilege context threadId userId value duration)
  | .assignDiscussionTagPrivilege tagId userId value duration =>
    some (EventObserver.assignDiscussionTagPrivilege context tagId userId value duration)
  | .assignDiscussionCategoryPrivilege categoryId userId value duration =>
    some (EventObserver.assignDiscussionCategoryPrivilege context categoryId userId value duration)
  | .assignForumWidePrivilege userId value duration =>
    some (EventObserver.assignForumWidePrivilege context userId value duration)

/-- The blob of an event. -/
def Event.record (context : ObserverContext) : Event → Option (List UInt8)
  | .write call => call.record context
  | .numberOfVisits threadId nrOfVisits => some (EventObserver.recordNumberOfVisits threadId nrOfVisits)
  | .latestVisitedPage userId threadId page => some (EventObserver.recordLatestVisitedPage userId threadId page)
  | .numberOfGets attachmentId nrOfGets => some (EventObserver.recordNumberOfGets attachmentId nrOfGets)

/-- The context an event is recorded under. -/
def Event.context (context : ObserverContext) : Event → ObserverContext
  | .write _ => context
  | _ => emptyContext

end Forum.Persistence
