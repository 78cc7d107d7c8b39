import Forum.Persistence.PersistenceFormat
import Forum.Repository.Common

/-!
# EventImporter

The importers of `EventImporter.cpp`, one for each type and version of event, and `processEvent`,
which selects among them. An importer reads its blob through a cursor and leaves at the first check
that fails; the macros of the source that read and check are the operations of a small monad here.
The repositories are a parameter: what a direct write returns and makes of the store.
-/

namespace Forum.Persistence

open Forum.Library
open Forum.Repository (StatusCode)

/-- The direct writes of the repositories that importers call, with the arguments they pass. -/
inductive RepositoryCall
  | addNewUser (id : UuidString) (name auth : StringView)
  | changeUserName (id : UuidString) (newName : StringView)
  | changeUserInfo (id : UuidString) (newInfo : StringView)
  | changeUserTitle (id : UuidString) (newTitle : StringView)
  | changeUserSignature (id : UuidString) (newSignature : StringView)
  | changeUserLogo (id : UuidString) (newLogo : StringView)
  | changeUserAttachmentQuota (id : UuidString) (newQuota : UInt64)
  | deleteUser (id : UuidString)
  | sendPrivateMessage (id destination : UuidString) (content : StringView)
  | deletePrivateMessage (id : UuidString)
  | addNewDiscussionThread (id : UuidString) (name : StringView) (approved : Bool)
  | changeDiscussionThreadName (id : UuidString) (newName : StringView)
  | changeDiscussionThreadPinDisplayOrder (id : UuidString) (newValue : UInt16)
  | changeDiscussionThreadApproval (id : UuidString) (newApproval : Bool)
  | deleteDiscussionThread (id : UuidString)
  | mergeDiscussionThreads (fromId intoId : UuidString)
  | subscribeToDiscussionThread (id : UuidString)
  | unsubscribeFromDiscussionThread (id : UuidString)
  | addNewDiscussionMessageInThread (messageId threadId : UuidString) (approved : Bool) (content : StringView)
  /-- The overload for a content in the messages file. -/
  | addNewDiscussionMessageInThreadAt (messageId threadId : UuidString) (approved : Bool)
      (contentSize contentOffset : UInt64)
  | changeDiscussionThreadMessageContent (id : UuidString) (newContent changeReason : StringView)
  | changeDiscussionThreadMessageApproval (id : UuidString) (newApproval : Bool)
  | moveDiscussionThreadMessage (messageId intoThreadId : UuidString)
  | deleteDiscussionMessage (id : UuidString)
  | upVoteDiscussionThreadMessage (id : UuidString)
  | downVoteDiscussionThreadMessage (id : UuidString)
  | resetVoteDiscussionThreadMessage (id : UuidString)
  | addCommentToDiscussionThreadMessage (commentId messageId : UuidString) (content : StringView)
  | setMessageCommentToSolved (id : UuidString)
  | quoteUserInMessage (messageId userId : UuidString)
  | addNewDiscussionTag (id : UuidString) (name : StringView)
  | changeDiscussionTagName (id : UuidString) (newName : StringView)
  | changeDiscussionTagUiBlob (id : UuidString) (blob : StringView)
  | deleteDiscussionTag (id : UuidString)
  | addDiscussionTagToThread (tagId threadId : UuidString)
  | removeDiscussionTagFromThread (tagId threadId : UuidString)
  | mergeDiscussionTags (fromId intoId : UuidString)
  | addNewDiscussionCategory (id : UuidString) (name : StringView) (parentId : UuidString)
  | changeDiscussionCategoryName (id : UuidString) (newName : StringView)
  | changeDiscussionCategoryDescription (id : UuidString) (newDescription : StringView)
  | changeDiscussionCategoryDisplayOrder (id : UuidString) (newDisplayOrder : IntFast16)
  | changeDiscussionCategoryParent (id newParentId : UuidString)
  | deleteDiscussionCategory (id : UuidString)
  | addDiscussionTagToCategory (tagId categoryId : UuidString)
  | removeDiscussionTagFromCategory (tagId categoryId : UuidString)
  | addNewAttachment (id : UuidString) (name : StringView) (size : UInt64) (approved : Bool)
  | changeAttachmentName (id : UuidString) (newName : StringView)
  | changeAttachmentApproval (id : UuidString) (newApproval : Bool)
  | addAttachmentToDiscussionThreadMessage (attachmentId messageId : UuidString)
  | removeAttachmentFromDiscussionThreadMessage (attachmentId messageId : UuidString)
  | deleteAttachment (id : UuidString)
  | changeDiscussionThreadMessageRequiredPrivilegeForThreadMessage (messageId : UuidString)
      (privilege : EnumIntType) (value : Int16)
  | changeDiscussionThreadMessageRequiredPrivilegeForThread (threadId : UuidString)
      (privilege : EnumIntType) (value : Int16)
  | changeDiscussionThreadMessageRequiredPrivilegeForTag (tagId : UuidString)
      (privilege : EnumIntType) (value : Int16)
  | changeDiscussionThreadMessageRequiredPrivilege (privilege : EnumIntType) (value : Int16)
  | changeDiscussionThreadRequiredPrivilegeForThread (threadId : UuidString)
      (privilege : EnumIntType) (value : Int16)
  | changeDiscussionThreadRequiredPrivilegeForTag (tagId : UuidString)
      (privilege : EnumIntType) (value : Int16)
  | changeDiscussionThreadRequiredPrivilege (privilege : EnumIntType) (value : Int16)
  | changeDiscussionTagRequiredPrivilegeForTag (tagId : UuidString) (privilege : EnumIntType) (value : Int16)
  | changeDiscussionTagRequiredPrivilege (privilege : EnumIntType) (value : Int16)
  | changeDiscussionCategoryRequiredPrivilegeForCategory (categoryId : UuidString)
      (privilege : EnumIntType) (value : Int16)
  | changeDiscussionCategoryRequiredPrivilege (privilege : EnumIntType) (value : Int16)
  | changeForumWideRequiredPrivilege (privilege : EnumIntType) (value : Int16)
  | changeForumWideDefaultPrivilegeLevel (privilege : EnumIntType) (value : Int16) (duration : Int64)
  | assignDiscussionThreadMessagePrivilege (messageId userId : UuidString) (value : Int16) (duration : Int64)
  | assignDiscussionThreadPrivilege (threadId userId : UuidString) (value : Int16) (duration : Int64)
  | assignDiscussionTagPrivilege (tagId userId : UuidString) (value : Int16) (duration : Int64)
  | assignDiscussionCategoryPrivilege (categoryId userId : UuidString) (value : Int16) (duration : Int64)
  | assignForumWidePrivilege (userId : UuidString) (value : Int16) (duration : Int64)
  deriving DecidableEq

/-- The members of the importer, and the store with it. The context is what the repositories see of it. -/
structure Importer (σ : Type*) where
  context : ObserverContext
  cachedNrOfThreadVisits : UuidString → Option UInt32
  latestThreadVisitedPage : UuidString → UuidString → Option UInt32
  cachedNrOfAttachmentGets : UuidString → Option UInt32
  usersLastSeen : UuidString → Option Int64
  store : σ

/-- What the importers are given: the memory with the files, and the repositories. -/
structure ImportEnvironment (σ : Type*) where
  memory : Memory
  /-- A direct write, under a context. -/
  perform : ObserverContext → RepositoryCall → σ → StatusCode × σ

/-- The cursor of an importer, and the importer. -/
structure ImportState (σ : Type*) where
  cursor : Cursor
  importer : Importer σ

/-- A piece of an importer: its result, or nothing once a check failed, and the state it leaves. -/
def Import (σ : Type*) (α : Type) := ImportEnvironment σ → ImportState σ → Option α × ImportState σ

namespace Import

variable {σ : Type*} {α β : Type}

instance : Monad (Import σ) where
  pure a := fun _ s => (some a, s)
  bind m k := fun env s =>
    match m env s with
    | (some a, s') => k a env s'
    | (none, s') => (none, s')

theorem bind_some {m : Import σ α} {k : α → Import σ β} {env : ImportEnvironment σ} {s s' : ImportState σ} {a : α}
    (h : m env s = (some a, s')) : (m >>= k) env s = k a env s' := by
  show (match m env s with
    | (some a, s') => k a env s'
    | (none, s') => (none, s')) = k a env s'
  rw [h]

theorem bind_none {m : Import σ α} {k : α → Import σ β} {env : ImportEnvironment σ} {s s' : ImportState σ}
    (h : m env s = (none, s')) : (m >>= k) env s = (none, s') := by
  show (match m env s with
    | (some a, s') => k a env s'
    | (none, s') => (none, s')) = (none, s')
  rw [h]

/-- `return false`. -/
def fail : Import σ α := fun _ s => (none, s)

/-- `CHECK_SIZE`. -/
def checkSize (expected : ℕ) : Import σ Unit := fun _ s => (if s.cursor.size < expected then none else some (), s)

/-- `memcpy` of `n` bytes and the step over them. -/
def readBytes (n : ℕ) : Import σ { bytes : List UInt8 // bytes.length = n } := fun env s =>
  (some ⟨env.memory.bytes s.cursor.data n, Memory.length_bytes _ _ _⟩,
    { s with cursor := (s.cursor.access n).advance n })

/-- `CHECK_SIZE` and `readAndIncrementBuffer` of something of `n` bytes. -/
def readChecked (n : ℕ) : Import σ { bytes : List UInt8 // bytes.length = n } := do
  checkSize n
  readBytes n

/-- `READ_UUID`. -/
def readUuid : Import σ UuidString := readChecked uuidBinarySize

/-- `READ_TYPE` of an unsigned type of `width` bytes. -/
def readUnsigned (width : ℕ) : Import σ ℕ := do return ofBytes (← readChecked width).1

/-- `READ_TYPE` of a signed type of `width` bytes. -/
def readSigned (width : ℕ) : Import σ ℤ := do return intOfBytes (← readChecked width).1

/-- `READ_TYPE` of a `uint16_t`. -/
def readUInt16 : Import σ UInt16 := do return UInt16.ofNat (← readUnsigned 2)

/-- `READ_TYPE` of a `uint32_t`. -/
def readUInt32 : Import σ UInt32 := do return UInt32.ofNat (← readUnsigned 4)

/-- `READ_TYPE` of a `uint64_t`. -/
def readUInt64 : Import σ UInt64 := do return UInt64.ofNat (← readUnsigned 8)

/-- `READ_TYPE` of an `int16_t`. -/
def readInt16 : Import σ Int16 := do return Int16.ofInt (← readSigned 2)

/-- `READ_TYPE` of an `int64_t`. -/
def readInt64 : Import σ Int64 := do return Int64.ofInt (← readSigned 8)

/-- The view of `readAndIncrementBuffer<StringView>` after the size of the string was read: empty when the string
is longer than what remains. The size is stepped over in any case. -/
def takeString (stringSize : ℕ) : Import σ StringView := fun env s =>
  if s.cursor.size < stringSize then (some [], { s with cursor := s.cursor.advance stringSize })
  else
    (some (env.memory.bytes s.cursor.data stringSize),
      { s with cursor := (s.cursor.access stringSize).advance stringSize })

/-- `READ_STRING`. -/
def readString : Import σ StringView := do takeString (← readUnsigned sizeofBlobSize)

/-- `READ_NONEMPTY_STRING`. -/
def readNonemptyString : Import σ StringView := do
  let value ← readString
  if value.isEmpty then fail else return value

/-- `CHECK_READ_ALL_DATA`. -/
def checkReadAllData : Import σ Unit := fun _ s => (if s.cursor.size = 0 then some () else none, s)

/-- A change of the importer. -/
def modify (f : Importer σ → Importer σ) : Import σ Unit := fun _ s =>
  (some (), { s with importer := f s.importer })

/-- Whether `CHECK_STATUS_CODE` accepts a status. -/
def accepts (status : StatusCode) : Bool := status == .ok || status == .noEffect

/-- `CHECK_STATUS_CODE` of a direct write. The message about a status that is not accepted evaluates the macro's
argument, and so the write, a second time. -/
def checkStatusCode (call : RepositoryCall) : Import σ Unit := fun env s =>
  let result := env.perform s.importer.context call s.importer.store
  if accepts result.1 then (some (), { s with importer := { s.importer with store := result.2 } })
  else
    let again := env.perform s.importer.context call result.2
    (none, { s with importer := { s.importer with store := again.2 } })

end Import

open Import

section Importers

variable {σ : Type*}

/-- `setUsersLastSeen`. -/
def Importer.setUsersLastSeen (importer : Importer σ) (id : UuidString) (at' : Int64) : Importer σ :=
  { importer with usersLastSeen := Function.update importer.usersLastSeen id (some at') }

/-- The importer under the context that was read. -/
def Importer.withContext (importer : Importer σ) (context : ObserverContext) : Importer σ :=
  { importer with context := context }.setUsersLastSeen context.performedBy context.timestamp

/-- An importer that has read nothing. -/
def freshImporter (store : σ) : Importer σ :=
  ⟨⟨UuidString.empty, 0, IpAddress.zero⟩, fun _ => none, fun _ _ => none, fun _ => none, fun _ => none, store⟩

/-- `processContext_v1`. -/
def processContextV1 : Import σ Unit := do
  checkSize (8 + uuidBinarySize + ipAddressBinarySize)
  let timestamp ← readBytes 8
  let currentUserId ← readBytes uuidBinarySize
  let currentUserIpAddress ← readBytes ipAddressBinarySize
  modify fun importer => importer.withContext
    { performedBy := currentUserId, timestamp := Int64.ofInt (intOfBytes timestamp.1),
      ipAddress := currentUserIpAddress }

/-- `processContext`. -/
def processContext (contextVersion : ℕ) : Import σ Unit :=
  if contextVersion ≠ 1 then fail else processContextV1

/-! ### Importers of one layout -/

/-- An id. -/
def importUuid (call : UuidString → RepositoryCall) (contextVersion : ℕ) : Import σ Unit := do
  processContext contextVersion
  let id ← readUuid
  checkReadAllData
  checkStatusCode (call id)

/-- Two ids. -/
def importTwoUuids (call : UuidString → UuidString → RepositoryCall) (contextVersion : ℕ) : Import σ Unit := do
  processContext contextVersion
  let first ← readUuid
  let second ← readUuid
  checkReadAllData
  checkStatusCode (call first second)

/-- An id and a string that must not be empty. -/
def importUuidNonemptyString (call : UuidString → StringView → RepositoryCall) (contextVersion : ℕ) :
    Import σ Unit := do
  processContext contextVersion
  let id ← readUuid
  let value ← readNonemptyString
  checkReadAllData
  checkStatusCode (call id value)

/-- An id and a string. -/
def importUuidString (call : UuidString → StringView → RepositoryCall) (contextVersion : ℕ) : Import σ Unit := do
  processContext contextVersion
  let id ← readUuid
  let value ← readString
  checkReadAllData
  checkStatusCode (call id value)

/-- Two ids and a string that must not be empty. -/
def importTwoUuidsNonemptyString (call : UuidString → UuidString → StringView → RepositoryCall)
    (contextVersion : ℕ) : Import σ Unit := do
  processContext contextVersion
  let first ← readUuid
  let second ← readUuid
  let value ← readNonemptyString
  checkReadAllData
  checkStatusCode (call first second value)

/-- An id and whether it is approved. -/
def importUuidApproval (call : UuidString → Bool → RepositoryCall) (contextVersion : ℕ) : Import σ Unit := do
  processContext contextVersion
  let id ← readUuid
  let approved ← readUInt32
  checkReadAllData
  checkStatusCode (call id (approved != 0))

/-- The privilege that an entity requires. -/
def importRequiredPrivilege (call : UuidString → EnumIntType → Int16 → RepositoryCall) (contextVersion : ℕ) :
    Import σ Unit := do
  processContext contextVersion
  let id ← readUuid
  let currentPrivilege ← readUInt16
  let currentPrivilegeValue ← readInt16
  checkReadAllData
  checkStatusCode (call id currentPrivilege.toUInt64 currentPrivilegeValue)

/-- A privilege that is required everywhere. -/
def importForumWideRequiredPrivilege (call : EnumIntType → Int16 → RepositoryCall) (contextVersion : ℕ) :
    Import σ Unit := do
  processContext contextVersion
  let currentPrivilege ← readUInt16
  let currentPrivilegeValue ← readInt16
  checkReadAllData
  checkStatusCode (call currentPrivilege.toUInt64 currentPrivilegeValue)

/-- The privilege that a user has on an entity. -/
def importAssignedPrivilege (call : UuidString → UuidString → Int16 → Int64 → RepositoryCall)
    (contextVersion : ℕ) : Import σ Unit := do
  processContext contextVersion
  let id ← readUuid
  let userId ← readUuid
  let currentPrivilegeValue ← readInt16
  let currentDurationValue ← readInt64
  checkReadAllData
  checkStatusCode (call id userId currentPrivilegeValue currentDurationValue)

/-! ### The importers -/

def importAddNewUserV1 (contextVersion : ℕ) : Import σ Unit := do
  processContext contextVersion
  let id ← readUuid
  let auth ← readNonemptyString
  let userName ← readNonemptyString
  checkReadAllData
  checkStatusCode (.addNewUser id userName auth)

def importChangeUserNameV1 : ℕ → Import σ Unit := importUuidNonemptyString .changeUserName

def importChangeUserInfoV1 : ℕ → Import σ Unit := importUuidString .changeUserInfo

def importChangeUserTitleV1 : ℕ → Import σ Unit := importUuidString .changeUserTitle

def importChangeUserSignatureV1 : ℕ → Import σ Unit := importUuidString .changeUserSignature

def importChangeUserLogoV1 : ℕ → Import σ Unit := importUuidString .changeUserLogo

def importChangeUserAttachmentQuotaV1 (contextVersion : ℕ) : Import σ Unit := do
  processContext contextVersion
  let id ← readUuid
  let newQuota ← readUInt64
  checkReadAllData
  checkStatusCode (.changeUserAttachmentQuota id newQuota)

def importDeleteUserV1 : ℕ → Import σ Unit := importUuid .deleteUser

def importSendPrivateMessageV1 : ℕ → Import σ Unit := importTwoUuidsNonemptyString .sendPrivateMessage

def importDeletePrivateMessageV1 : ℕ → Import σ Unit := importUuid .deletePrivateMessage

def importAddNewDiscussionThreadV1 : ℕ → Import σ Unit :=
  importUuidNonemptyString fun id threadName => .addNewDiscussionThread id threadName true

def importAddNewDiscussionThreadV2 (contextVersion : ℕ) : Import σ Unit := do
  processContext contextVersion
  let id ← readUuid
  let threadName ← readNonemptyString
  let approved ← readUInt32
  checkReadAllData
  checkStatusCode (.addNewDiscussionThread id threadName (approved != 0))

def importChangeDiscussionThreadNameV1 : ℕ → Import σ Unit := importUuidNonemptyString .changeDiscussionThreadName

def importChangeDiscussionThreadPinDisplayOrderV1 (contextVersion : ℕ) : Import σ Unit := do
  processContext contextVersion
  let id ← readUuid
  let pinDisplayOrder ← readUInt16
  checkReadAllData
  checkStatusCode (.changeDiscussionThreadPinDisplayOrder id pinDisplayOrder)

def importChangeDiscussionThreadApprovalV1 : ℕ → Import σ Unit := importUuidApproval .changeDiscussionThreadApproval

def importDeleteDiscussionThreadV1 : ℕ → Import σ Unit := importUuid .deleteDiscussionThread

def importMergeDiscussionThreadsV1 : ℕ → Import σ Unit := importTwoUuids .mergeDiscussionThreads

def importSubscribeToDiscussionThreadV1 : ℕ → Import σ Unit := importUuid .subscribeToDiscussionThread

def importUnsubscribeFromDiscussionThreadV1 : ℕ → Import σ Unit := importUuid .unsubscribeFromDiscussionThread

def importAddNewDiscussionThreadMessageV1 : ℕ → Import σ Unit :=
  importTwoUuidsNonemptyString fun messageId parentId message =>
    .addNewDiscussionMessageInThread messageId parentId true message

def importAddNewDiscussionThreadMessageV2 (contextVersion : ℕ) : Import σ Unit := do
  processContext contextVersion
  let messageId ← readUuid
  let parentId ← readUuid
  let messageSize ← readUInt32
  let messageOffset ← readUInt64
  checkReadAllData
  checkStatusCode (.addNewDiscussionMessageInThreadAt messageId parentId true messageSize.toUInt64 messageOffset)

def importAddNewDiscussionThreadMessageV3 (contextVersion : ℕ) : Import σ Unit := do
  processContext contextVersion
  let messageId ← readUuid
  let parentId ← readUuid
  let approved ← readUInt32
  let message ← readNonemptyString
  checkReadAllData
  checkStatusCode (.addNewDiscussionMessageInThread messageId parentId (approved != 0) message)

def importAddNewDiscussionThreadMessageV4 (contextVersion : ℕ) : Import σ Unit := do
  processContext contextVersion
  let messageId ← readUuid
  let parentId ← readUuid
  let approved ← readUInt32
  let messageSize ← readUInt32
  let messageOffset ← readUInt64
  checkReadAllData
  checkStatusCode (.addNewDiscussionMessageInThreadAt messageId parentId (approved != 0) messageSize.toUInt64
    messageOffset)

def importChangeDiscussionThreadMessageContentV1 (contextVersion : ℕ) : Import σ Unit := do
  processContext contextVersion
  let messageId ← readUuid
  let content ← readNonemptyString
  let lastUpdatedReason ← readString
  checkReadAllData
  checkStatusCode (.changeDiscussionThreadMessageContent messageId content lastUpdatedReason)

def importChangeDiscussionThreadMessageApprovalV1 : ℕ → Import σ Unit :=
  importUuidApproval .changeDiscussionThreadMessageApproval

/-- The write comes before the check that nothing is left. -/
def importMoveDiscussionThreadMessageV1 (contextVersion : ℕ) : Import σ Unit := do
  processContext contextVersion
  let messageId ← readUuid
  let threadId ← readUuid
  checkStatusCode (.moveDiscussionThreadMessage messageId threadId)
  checkReadAllData

def importDeleteDiscussionThreadMessageV1 : ℕ → Import σ Unit := importUuid .deleteDiscussionMessage

def importDiscussionThreadMessageUpVoteV1 : ℕ → Import σ Unit := importUuid .upVoteDiscussionThreadMessage

def importDiscussionThreadMessageDownVoteV1 : ℕ → Import σ Unit := importUuid .downVoteDiscussionThreadMessage

def importDiscussionThreadMessageResetVoteV1 : ℕ → Import σ Unit := importUuid .resetVoteDiscussionThreadMessage

def importAddCommentToDiscussionThreadMessageV1 : ℕ → Import σ Unit :=
  importTwoUuidsNonemptyString .addCommentToDiscussionThreadMessage

def importSolveDiscussionThreadMessageCommentV1 : ℕ → Import σ Unit := importUuid .setMessageCommentToSolved

def importQuoteUserInDiscussionThreadMessageV1 : ℕ → Import σ Unit := importTwoUuids .quoteUserInMessage

def importAddNewDiscussionTagV1 : ℕ → Import σ Unit := importUuidNonemptyString .addNewDiscussionTag

def importChangeDiscussionTagNameV1 : ℕ → Import σ Unit := importUuidNonemptyString .changeDiscussionTagName

def importChangeDiscussionTagUiBlobV1 : ℕ → Import σ Unit := importUuidString .changeDiscussionTagUiBlob

def importDeleteDiscussionTagV1 : ℕ → Import σ Unit := importUuid .deleteDiscussionTag

def importAddDiscussionTagToThreadV1 : ℕ → Import σ Unit := importTwoUuids .addDiscussionTagToThread

def importRemoveDiscussionTagFromThreadV1 : ℕ → Import σ Unit := importTwoUuids .removeDiscussionTagFromThread

def importMergeDiscussionTagsV1 : ℕ → Import σ Unit := importTwoUuids .mergeDiscussionTags

def importAddNewDiscussionCategoryV1 : ℕ → Import σ Unit :=
  importTwoUuidsNonemptyString fun categoryId parentId categoryName =>
    .addNewDiscussionCategory categoryId categoryName parentId

def importChangeDiscussionCategoryNameV1 : ℕ → Import σ Unit := importUuidNonemptyString .changeDiscussionCategoryName

def importChangeDiscussionCategoryDescriptionV1 : ℕ → Import σ Unit :=
  importUuidString .changeDiscussionCategoryDescription

def importChangeDiscussionCategoryDisplayOrderV1 (contextVersion : ℕ) : Import σ Unit := do
  processContext contextVersion
  let id ← readUuid
  let displayOrder ← readInt16
  checkReadAllData
  checkStatusCode (.changeDiscussionCategoryDisplayOrder id displayOrder.toInt64)

def importChangeDiscussionCategoryParentV1 : ℕ → Import σ Unit := importTwoUuids .changeDiscussionCategoryParent

def importDeleteDiscussionCategoryV1 : ℕ → Import σ Unit := importUuid .deleteDiscussionCategory

def importAddDiscussionTagToCategoryV1 : ℕ → Import σ Unit := importTwoUuids .addDiscussionTagToCategory

def importRemoveDiscussionTagFromCategoryV1 : ℕ → Import σ Unit := importTwoUuids .removeDiscussionTagFromCategory

def importAddNewAttachmentV1 (contextVersion : ℕ) : Import σ Unit := do
  processContext contextVersion
  let attachmentId ← readUuid
  let attachmentName ← readNonemptyString
  let attachmentSize ← readUInt64
  let attachmentApproved ← readUInt32
  checkReadAllData
  checkStatusCode (.addNewAttachment attachmentId attachmentName attachmentSize (attachmentApproved == 1))

def importChangeAttachmentNameV1 : ℕ → Import σ Unit := importUuidNonemptyString .changeAttachmentName

def importChangeAttachmentApprovalV1 : ℕ → Import σ Unit := importUuidApproval .changeAttachmentApproval

def importAddAttachmentToDiscussionThreadMessageV1 : ℕ → Import σ Unit :=
  importTwoUuids .addAttachmentToDiscussionThreadMessage

def importRemoveAttachmentFromDiscussionThreadMessageV1 : ℕ → Import σ Unit :=
  importTwoUuids .removeAttachmentFromDiscussionThreadMessage

def importDeleteAttachmentV1 : ℕ → Import σ Unit := importUuid .deleteAttachment

/-- `+=` on a cached counter of 32 bits, or a new entry for it. -/
def addCached (cached : UuidString → Option UInt32) (id : UuidString) (n : UInt32) : UuidString → Option UInt32 :=
  Function.update cached id (some (match cached id with | some m => m + n | none => n))

def importIncrementDiscussionThreadNumberOfVisitsV1 (contextVersion : ℕ) : Import σ Unit := do
  processContext contextVersion
  let threadId ← readUuid
  let nrOfVisits ← readUInt32
  checkReadAllData
  modify fun importer => { importer with
    cachedNrOfThreadVisits := addCached importer.cachedNrOfThreadVisits threadId nrOfVisits }

def importIncrementAttachmentNumberOfGetsV1 (contextVersion : ℕ) : Import σ Unit := do
  processContext contextVersion
  let attachmentId ← readUuid
  let nrOfVisits ← readUInt32
  checkReadAllData
  modify fun importer => { importer with
    cachedNrOfAttachmentGets := addCached importer.cachedNrOfAttachmentGets attachmentId nrOfVisits }

def importIncrementUserLatestVisitedPageV1 (contextVersion : ℕ) : Import σ Unit := do
  processContext contextVersion
  let userId ← readUuid
  let threadId ← readUuid
  let latestVisitedPage ← readUInt32
  checkReadAllData
  modify fun importer => { importer with
    latestThreadVisitedPage := Function.update importer.latestThreadVisitedPage userId
      (Function.update (importer.latestThreadVisitedPage userId) threadId (some latestVisitedPage)) }

def importChangeDiscussionThreadMessageRequiredPrivilegeForThreadMessageV1 : ℕ → Import σ Unit :=
  importRequiredPrivilege .changeDiscussionThreadMessageRequiredPrivilegeForThreadMessage

def importChangeDiscussionThreadMessageRequiredPrivilegeForThreadV1 : ℕ → Import σ Unit :=
  importRequiredPrivilege .changeDiscussionThreadMessageRequiredPrivilegeForThread

def importChangeDiscussionThreadMessageRequiredPrivilegeForTagV1 : ℕ → Import σ Unit :=
  importRequiredPrivilege .changeDiscussionThreadMessageRequiredPrivilegeForTag

def importChangeDiscussionThreadMessageRequiredPrivilegeForumWideV1 : ℕ → Import σ Unit :=
  importForumWideRequiredPrivilege .changeDiscussionThreadMessageRequiredPrivilege

def importChangeDiscussionThreadRequiredPrivilegeForThreadV1 : ℕ → Import σ Unit :=
  importRequiredPrivilege .changeDiscussionThreadRequiredPrivilegeForThread

def importChangeDiscussionThreadRequiredPrivilegeForTagV1 : ℕ → Import σ Unit :=
  importRequiredPrivilege .changeDiscussionThreadRequiredPrivilegeForTag

def importChangeDiscussionThreadRequiredPrivilegeForumWideV1 : ℕ → Import σ Unit :=
  importForumWideRequiredPrivilege .changeDiscussionThreadRequiredPrivilege

def importChangeDiscussionTagRequiredPrivilegeForTagV1 : ℕ → Import σ Unit :=
  importRequiredPrivilege .changeDiscussionTagRequiredPrivilegeForTag

def importChangeDiscussionTagRequiredPrivilegeForumWideV1 : ℕ → Import σ Unit :=
  importForumWideRequiredPrivilege .changeDiscussionTagRequiredPrivilege

def importChangeDiscussionCategoryRequiredPrivilegeForCategoryV1 : ℕ → Import σ Unit :=
  importRequiredPrivilege .changeDiscussionCategoryRequiredPrivilegeForCategory

def importChangeDiscussionCategoryRequiredPrivilegeForumWideV1 : ℕ → Import σ Unit :=
  importForumWideRequiredPrivilege .changeDiscussionCategoryRequiredPrivilege

def importChangeForumWideRequiredPrivilegeV1 : ℕ → Import σ Unit :=
  importForumWideRequiredPrivilege .changeForumWideRequiredPrivilege

def importChangeForumWideDefaultPrivilegeLevelV1 (contextVersion : ℕ) : Import σ Unit := do
  processContext contextVersion
  let currentPrivilegeDuration ← readUInt16
  let currentValue ← readInt16
  let currentDuration ← readInt64
  checkReadAllData
  checkStatusCode (.changeForumWideDefaultPrivilegeLevel currentPrivilegeDuration.toUInt64 currentValue
    currentDuration)

def importAssignDiscussionThreadMessagePrivilegeV1 : ℕ → Import σ Unit :=
  importAssignedPrivilege .assignDiscussionThreadMessagePrivilege

def importAssignDiscussionThreadPrivilegeV1 : ℕ → Import σ Unit :=
  importAssignedPrivilege .assignDiscussionThreadPrivilege

def importAssignDiscussionTagPrivilegeV1 : ℕ → Import σ Unit := importAssignedPrivilege .assignDiscussionTagPrivilege

def importAssignDiscussionCategoryPrivilegeV1 : ℕ → Import σ Unit :=
  importAssignedPrivilege .assignDiscussionCategoryPrivilege

def importAssignForumWidePrivilegeV1 (contextVersion : ℕ) : Import σ Unit := do
  processContext contextVersion
  let userId ← readUuid
  let currentPrivilegeValue ← readInt16
  let currentDurationValue ← readInt64
  checkReadAllData
  checkStatusCode (.assignForumWidePrivilege userId currentPrivilegeValue currentDurationValue)

/-- `importFunctions_`: for each type, in the order of `EventType`, its importers by version. -/
def importFunctions : List (List (Option (ℕ → Import σ Unit))) :=
  [ [], -- unknown
    [none, some importAddNewUserV1],
    [none, some importChangeUserNameV1],
    [none, some importChangeUserInfoV1],
    [none, some importChangeUserTitleV1],
    [none, some importChangeUserSignatureV1],
    [none, some importChangeUserLogoV1],
    [none, some importDeleteUserV1],
    [none, some importAddNewDiscussionThreadV1, some importAddNewDiscussionThreadV2],
    [none, some importChangeDiscussionThreadNameV1],
    [none, some importChangeDiscussionThreadPinDisplayOrderV1],
    [none, some importDeleteDiscussionThreadV1],
    [none, some importMergeDiscussionThreadsV1],
    [none, some importSubscribeToDiscussionThreadV1],
    [none, some importUnsubscribeFromDiscussionThreadV1],
    [none,
      some importAddNewDiscussionThreadMessageV1,
      some importAddNewDiscussionThreadMessageV2,
      some importAddNewDiscussionThreadMessageV3,
      some importAddNewDiscussionThreadMessageV4],
    [none, some importChangeDiscussionThreadMessageContentV1],
    [none, some importIncrementDiscussionThreadNumberOfVisitsV1],
    [none, some importMoveDiscussionThreadMessageV1],
    [none, some importDeleteDiscussionThreadMessageV1],
    [none, some importDiscussionThreadMessageUpVoteV1],
    [none, some importDiscussionThreadMessageDownVoteV1],
    [none, some importDiscussionThreadMessageResetVoteV1],
    [none, some importAddCommentToDiscussionThreadMessageV1],
    [none, some importSolveDiscussionThreadMessageCommentV1],
    [none, some importAddNewDiscussionTagV1],
    [none, some importChangeDiscussionTagNameV1],
    [none, some importChangeDiscussionTagUiBlobV1],
    [none, some importDeleteDiscussionTagV1],
    [none, some importAddDiscussionTagToThreadV1],
    [none, some importRemoveDiscussionTagFromThreadV1],
    [none, some importMergeDiscussionTagsV1],
    [none, some importAddNewDiscussionCategoryV1],
    [none, some importChangeDiscussionCategoryNameV1],
    [none, some importChangeDiscussionCategoryDescriptionV1],
    [none, some importChangeDiscussionCategoryDisplayOrderV1],
    [none, some importChangeDiscussionCategoryParentV1],
    [none, some importDeleteDiscussionCategoryV1],
    [none, some importAddDiscussionTagToCategoryV1],
    [none, some importRemoveDiscussionTagFromCategoryV1],
    [none, some importChangeDiscussionThreadMessageRequiredPrivilegeForThreadMessageV1],
    [none, some importChangeDiscussionThreadMessageRequiredPrivilegeForThreadV1],
    [none, some importChangeDiscussionThreadMessageRequiredPrivilegeForTagV1],
    [none, some importChangeDiscussionThreadMessageRequiredPrivilegeForumWideV1],
    [none, some importChangeDiscussionThreadRequiredPrivilegeForThreadV1],
    [none, some importChangeDiscussionThreadRequiredPrivilegeForTagV1],
    [none, some importChangeDiscussionThreadRequiredPrivilegeForumWideV1],
    [none, some importChangeDiscussionTagRequiredPrivilegeForTagV1],
    [none, some importChangeDiscussionTagRequiredPrivilegeForumWideV1],
    [none, some importChangeDiscussionCategoryRequiredPrivilegeForCategoryV1],
    [none, some importChangeDiscussionCategoryRequiredPrivilegeForumWideV1],
    [none, some importChangeForumWideRequiredPrivilegeV1],
    [none, some importChangeForumWideDefaultPrivilegeLevelV1],
    [none, some importAssignDiscussionThreadMessagePrivilegeV1],
    [none, some importAssignDiscussionThreadPrivilegeV1],
    [none, some importAssignDiscussionTagPrivilegeV1],
    [none, some importAssignDiscussionCategoryPrivilegeV1],
    [none, some importAssignForumWidePrivilegeV1],
    [none, some importQuoteUserInDiscussionThreadMessageV1],
    [none, some importChangeDiscussionThreadMessageApprovalV1],
    [none, some importIncrementUserLatestVisitedPageV1],
    [none, some importChangeDiscussionThreadApprovalV1],
    [none, some importSendPrivateMessageV1],
    [none, some importDeletePrivateMessageV1],
    [none, some importChangeUserAttachmentQuotaV1],
    [none, some importAddNewAttachmentV1],
    [none, some importChangeAttachmentNameV1],
    [none, some importChangeAttachmentApprovalV1],
    [none, some importAddAttachmentToDiscussionThreadMessageV1],
    [none, some importRemoveAttachmentFromDiscussionThreadMessageV1],
    [none, some importDeleteAttachmentV1],
    [none, some importIncrementAttachmentNumberOfGetsV1]]

/-- `processEvent` without its arguments, which are in the cursor. -/
def processEventBody : Import σ Unit := do
  checkSize EventHeaderSize
  let currentEventType ← readBytes sizeofEventType
  let version ← readBytes sizeofEventVersion
  let contextVersion ← readBytes sizeofEventContextVersion
  -- `UNKNOWN` is skipped
  if ofBytes currentEventType.1 = 0 then return ()
  else
    match importFunctions[ofBytes currentEventType.1]? with
    | none => fail
    | some importerVersions =>
      match importerVersions[ofBytes version.1]? with
      | some (some fn) => fn (ofBytes contextVersion.1)
      | _ => fail

/-- `processEvent`: whether the blob of `size` bytes at `data` was imported, and the importer after it. -/
def processEvent (env : ImportEnvironment σ) (data size : ℕ) (importer : Importer σ) : Bool × Importer σ :=
  let result := processEventBody env { cursor := { data := data, size := size, accesses := [] }, importer := importer }
  (result.1.isSome, result.2.importer)

end Importers

end Forum.Persistence
