import Forum.Library.Memory

/-!
# PersistenceFormat

The constants of `PersistenceFormat.h`, the types of events, and the values an event is made of.
-/

namespace Forum.Persistence

/-- `sizeof(MagicPrefixType)`. -/
def sizeofMagicPrefix : ℕ := 8

/-- `sizeof(BlobSizeType)`. -/
def sizeofBlobSize : ℕ := 4

/-- `sizeof(BlobChecksumSizeType)`. -/
def sizeofBlobChecksum : ℕ := 4

/-- What every blob in a file begins with. -/
def MagicPrefix : ℕ := 0xFFFFFFFFFFFFFFFF

/-- Blobs begin at multiples of so many bytes. -/
def BlobPaddingBytes : ℕ := 8

/-- The size of a blob without data. -/
def MinBlobSize : ℕ := sizeofMagicPrefix + sizeofBlobSize + sizeofBlobChecksum

/-- How many bytes bring a size to the next multiple of `BlobPaddingBytes`. -/
def blobPaddingRequired (size : ℕ) : ℕ :=
  let sizeMultiple := size / BlobPaddingBytes * BlobPaddingBytes
  if sizeMultiple < size then BlobPaddingBytes - (size - sizeMultiple) else 0

/-! ### Events -/

/-- `EventType`, in the order of the enumeration. The number of a type is its position. -/
inductive EventType
  | unknown
  | addNewUser
  | changeUserName
  | changeUserInfo
  | changeUserTitle
  | changeUserSignature
  | changeUserLogo
  | deleteUser
  | addNewDiscussionThread
  | changeDiscussionThreadName
  | changeDiscussionThreadPinDisplayOrder
  | deleteDiscussionThread
  | mergeDiscussionThreads
  | subscribeToDiscussionThread
  | unsubscribeFromDiscussionThread
  | addNewDiscussionThreadMessage
  | changeDiscussionThreadMessageContent
  | incrementDiscussionThreadNumberOfVisits
  | moveDiscussionThreadMessage
  | deleteDiscussionThreadMessage
  | discussionThreadMessageUpVote
  | discussionThreadMessageDownVote
  | discussionThreadMessageResetVote
  | addCommentToDiscussionThreadMessage
  | solveDiscussionThreadMessageComment
  | addNewDiscussionTag
  | changeDiscussionTagName
  | changeDiscussionTagUiBlob
  | deleteDiscussionTag
  | addDiscussionTagToThread
  | removeDiscussionTagFromThread
  | mergeDiscussionTags
  | addNewDiscussionCategory
  | changeDiscussionCategoryName
  | changeDiscussionCategoryDescription
  | changeDiscussionCategoryDisplayOrder
  | changeDiscussionCategoryParent
  | deleteDiscussionCategory
  | addDiscussionTagToCategory
  | removeDiscussionTagFromCategory
  | changeDiscussionThreadMessageRequiredPrivilegeForThreadMessage
  | changeDiscussionThreadMessageRequiredPrivilegeForThread
  | changeDiscussionThreadMessageRequiredPrivilegeForTag
  | changeDiscussionThreadMessageRequiredPrivilegeForumWide
  | changeDiscussionThreadRequiredPrivilegeForThread
  | changeDiscussionThreadRequiredPrivilegeForTag
  | changeDiscussionThreadRequiredPrivilegeForumWide
  | changeDiscussionTagRequiredPrivilegeForTag
  | changeDiscussionTagRequiredPrivilegeForumWide
  | changeDiscussionCategoryRequiredPrivilegeForCategory
  | changeDiscussionCategoryRequiredPrivilegeForumWide
  | changeForumWideRequiredPrivilege
  | changeForumWideDefaultPrivilegeLevel
  | assignDiscussionThreadMessagePrivilege
  | assignDiscussionThreadPrivilege
  | assignDiscussionTagPrivilege
  | assignDiscussionCategoryPrivilege
  | assignForumWidePrivilege
  | quoteUserInDiscussionThreadMessage
  | changeDiscussionThreadMessageApproval
  | incrementUserLatestVisitedPage
  | changeDiscussionThreadApproval
  | sendPrivateMessage
  | deletePrivateMessage
  | changeUserAttachmentQuota
  | addNewAttachment
  | changeAttachmentName
  | changeAttachmentApproval
  | addAttachmentToDiscussionThreadMessage
  | removeAttachmentFromDiscussionThreadMessage
  | deleteAttachment
  | incrementAttachmentNumberOfGets
  deriving DecidableEq, Repr

/-- `sizeof(EventType)`. -/
def sizeofEventType : ℕ := 4

/-- `sizeof(EventVersionType)`. -/
def sizeofEventVersion : ℕ := 2

/-- `sizeof(EventContextVersionType)`. -/
def sizeofEventContextVersion : ℕ := 2

/-- The size of what is in front of the data of an event. -/
def EventHeaderSize : ℕ := sizeofEventType + sizeofEventVersion + sizeofEventContextVersion

/-- The bytes of a uuid. -/
def uuidBinarySize : ℕ := 16

/-- `IpAddress::dataSize()`. -/
def ipAddressBinarySize : ℕ := 16

/-- A uuid in binary. -/
abbrev UuidString := { bytes : List UInt8 // bytes.length = uuidBinarySize }

/-- An address in binary, an IPv4 one in the first four bytes. -/
abbrev IpAddress := { bytes : List UInt8 // bytes.length = ipAddressBinarySize }

/-- `UuidString::empty`. -/
def UuidString.empty : UuidString := ⟨List.replicate uuidBinarySize 0, by decide⟩

/-- The default `IpAddress`. -/
def IpAddress.zero : IpAddress := ⟨List.replicate ipAddressBinarySize 0, by decide⟩

/-- The bytes of a string. -/
abbrev StringView := List UInt8

/-- The underlying type of the privilege enumerations, `uint_fast16_t`. -/
abbrev EnumIntType := UInt64

/-- `int_fast16_t`. -/
abbrev IntFast16 := Int64

/-- Under whom, when and from where an event happened. -/
structure ObserverContext where
  performedBy : UuidString
  timestamp : Int64
  ipAddress : IpAddress
  deriving DecidableEq

end Forum.Persistence
