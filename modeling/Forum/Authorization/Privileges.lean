import Forum.Entities.Store
import Forum.Library.Extremum

/-!
# Privileges

`AuthorizationPrivileges.h`: the kinds of privileges, their values, and the stores of the values
required for them. A message, thread, tag or category may require values of its own, and the forum
as a whole requires others; a value that is not set is taken from the next level up, which is what
the `get` functions of the entities do.

The required values of an entity are kept by its id. A thread's tags are passed along as the list in
which its flat set is iterated.
-/

namespace Forum.Authorization

open Forum.Library Forum.Entities

/-! ### Kinds of privileges -/

/-- What may be done with a message. -/
inductive DiscussionThreadMessagePrivilege
  | view | viewRequiredPrivileges | viewAssignedPrivileges | viewCreatorUser | viewIpAddress
  | viewVotes | upVote | downVote | resetVote | addComment | setCommentToSolved | getMessageComments
  | changeContent | delete | move | adjustPrivilege | viewUnapproved | changeApproval
  | viewAttachment | viewUnapprovedAttachment | addAttachment | removeAttachment
  deriving DecidableEq

/-- What may be done with a thread. -/
inductive DiscussionThreadPrivilege
  | view | viewRequiredPrivileges | viewAssignedPrivileges | getSubscribedUsers | subscribe
  | unsubscribe | addMessage | changeName | changePinDisplayOrder | addTag | removeTag | delete
  | merge | adjustPrivilege | autoApproveMessage | viewUnapproved | changeApproval
  deriving DecidableEq

/-- What may be done with a tag. -/
inductive DiscussionTagPrivilege
  | view | viewRequiredPrivileges | viewAssignedPrivileges | getDiscussionThreads | changeName
  | changeUiblob | delete | merge | adjustPrivilege
  deriving DecidableEq

/-- What may be done with a category. -/
inductive DiscussionCategoryPrivilege
  | view | viewRequiredPrivileges | viewAssignedPrivileges | getDiscussionThreads | changeName
  | changeDescription | changeParent | changeDisplayorder | addTag | removeTag | delete
  | adjustPrivilege
  deriving DecidableEq

/-- What may be done forum wide. -/
inductive ForumWidePrivilege
  | addUser | getEntitiesCount | getVersion | getAllUsers | getUserInfo | getDiscussionThreadsOfUser
  | getDiscussionThreadMessagesOfUser | getSubscribedDiscussionThreadsOfUser
  | getAllDiscussionCategories | getDiscussionCategoriesFromRoot | getAllDiscussionTags
  | getAllDiscussionThreads | getAllMessageComments | getMessageCommentsOfUser
  | addDiscussionCategory | addDiscussionTag | addDiscussionThread | changeOwnUserName
  | changeOwnUserInfo | changeAnyUserName | changeAnyUserInfo | deleteAnyUser
  | viewForumWideRequiredPrivileges | viewForumWideAssignedPrivileges | viewUserAssignedPrivileges
  | adjustForumWidePrivilege | changeOwnUserTitle | changeAnyUserTitle | changeOwnUserSignature
  | changeAnyUserSignature | changeOwnUserLogo | changeAnyUserLogo | deleteOwnUserLogo
  | deleteAnyUserLogo | noThrottling | autoApproveDiscussionThread | sendPrivateMessage
  | viewPrivateMessageIpAddress | createAttachment | deleteOwnAttachment | deleteAnyAttachment
  | getAllAttachments | getAttachmentsOfUser | viewAttachmentIpAddress | changeOwnAttachmentName
  | changeAnyAttachmentName | changeAnyAttachmentApproval | autoApproveAttachment
  | changeUserAttachmentQuota
  deriving DecidableEq

/-- What a user is granted a privilege for. -/
inductive ForumWideDefaultPrivilegeDuration
  | createDiscussionThread | createDiscussionThreadMessage
  deriving DecidableEq

/-! ### Values -/

/-- The value of a privilege: a 16-bit number. -/
abbrev PrivilegeValueIntType := Int16

/-- The value of a privilege, which need not be set. -/
abbrev PrivilegeValueType := Option PrivilegeValueIntType

/-- For how long a privilege is granted, in seconds. -/
abbrev PrivilegeDurationIntType := ℤ

/-- The value and duration of a grant that comes with creating something. -/
structure PrivilegeDefaultLevel where
  value : PrivilegeValueIntType
  duration : PrivilegeDurationIntType
  deriving DecidableEq

/-- The least value that may be required or granted. -/
def MinPrivilegeValue : PrivilegeValueIntType := -32000

/-- The greatest value that may be required or granted. -/
def MaxPrivilegeValue : PrivilegeValueIntType := 32000

/-- The duration of a grant that does not expire. -/
def UnlimitedDuration : PrivilegeDurationIntType := 0

/-- `isValidPrivilegeValue`: what every request checks that stores a value. -/
def isValidPrivilegeValue (value : PrivilegeValueIntType) : Bool :=
  MinPrivilegeValue ≤ value ∧ value ≤ MaxPrivilegeValue

/-- `optionalOrZero`. -/
def optionalOrZero (value : PrivilegeValueType) : PrivilegeValueIntType := value.getD 0

/-- `minimumPrivilegeValue`: a value that is missing does not count. -/
def minimumPrivilegeValue (first second : PrivilegeValueType) : PrivilegeValueType := first.merge min second

/-- `maximumPrivilegeValue`: a value that is missing does not count. -/
def maximumPrivilegeValue (first second : PrivilegeValueType) : PrivilegeValueType := first.merge max second

/-- `calculatePrivilegeExpires`: `0` stands for never. A duration of more than half the range is cut
short by `start`, so that the sum stays within 64 bits. -/
def calculatePrivilegeExpires (start duration : PrivilegeDurationIntType) : Timestamp :=
  if duration = UnlimitedDuration then 0
  else
    let maxHalf := (2 ^ 63 - 1) / 2
    start + if maxHalf ≤ duration then duration - start else duration

/-! ### Required values -/

/-- `DiscussionThreadMessagePrivilegeStore`. -/
structure DiscussionThreadMessagePrivilegeStore where
  discussionThreadMessagePrivileges : DiscussionThreadMessagePrivilege → PrivilegeValueType := fun _ => none

/-- `DiscussionThreadPrivilegeStore`. -/
structure DiscussionThreadPrivilegeStore extends DiscussionThreadMessagePrivilegeStore where
  discussionThreadPrivileges : DiscussionThreadPrivilege → PrivilegeValueType := fun _ => none

/-- `DiscussionTagPrivilegeStore`. -/
structure DiscussionTagPrivilegeStore extends DiscussionThreadPrivilegeStore where
  discussionTagPrivileges : DiscussionTagPrivilege → PrivilegeValueType := fun _ => none

/-- `DiscussionCategoryPrivilegeStore`. -/
structure DiscussionCategoryPrivilegeStore where
  discussionCategoryPrivileges : DiscussionCategoryPrivilege → PrivilegeValueType := fun _ => none

/-- `ForumWidePrivilegeStore`. -/
structure ForumWidePrivilegeStore extends DiscussionTagPrivilegeStore, DiscussionCategoryPrivilegeStore where
  forumWidePrivileges : ForumWidePrivilege → PrivilegeValueType := fun _ => none
  forumWideDefaultPrivilegeDuration : ForumWideDefaultPrivilegeDuration → Option PrivilegeDefaultLevel := fun _ => none

/-- The values required by every entity, and forum wide. -/
structure RequiredPrivileges where
  message : IdType → DiscussionThreadMessagePrivilegeStore := fun _ => {}
  thread : IdType → DiscussionThreadPrivilegeStore := fun _ => {}
  tag : IdType → DiscussionTagPrivilegeStore := fun _ => {}
  category : IdType → DiscussionCategoryPrivilegeStore := fun _ => {}
  forumWide : ForumWidePrivilegeStore := {}

section

variable (r : RequiredPrivileges)

/-- `DiscussionTag::getDiscussionThreadMessagePrivilege`. -/
def DiscussionTag.getDiscussionThreadMessagePrivilege (tag : IdType) (privilege : DiscussionThreadMessagePrivilege) :
    PrivilegeValueType :=
  ((r.tag tag).discussionThreadMessagePrivileges privilege).or (r.forumWide.discussionThreadMessagePrivileges privilege)

/-- `DiscussionTag::getDiscussionThreadPrivilege`. -/
def DiscussionTag.getDiscussionThreadPrivilege (tag : IdType) (privilege : DiscussionThreadPrivilege) :
    PrivilegeValueType :=
  ((r.tag tag).discussionThreadPrivileges privilege).or (r.forumWide.discussionThreadPrivileges privilege)

/-- `DiscussionTag::getDiscussionTagPrivilege`. -/
def DiscussionTag.getDiscussionTagPrivilege (tag : IdType) (privilege : DiscussionTagPrivilege) : PrivilegeValueType :=
  ((r.tag tag).discussionTagPrivileges privilege).or (r.forumWide.discussionTagPrivileges privilege)

/-- `DiscussionCategory::getDiscussionCategoryPrivilege`: the parents are not asked. -/
def DiscussionCategory.getDiscussionCategoryPrivilege (category : IdType) (privilege : DiscussionCategoryPrivilege) :
    PrivilegeValueType :=
  ((r.category category).discussionCategoryPrivileges privilege).or
    (r.forumWide.discussionCategoryPrivileges privilege)

/-- What a thread with these tags requires where it sets no value of its own: the greatest value of
its tags, or the value required forum wide when it has none. -/
def requiredByTags (tags : List IdType) (ofTag : IdType → PrivilegeValueType) (forumWide : PrivilegeValueType) :
    PrivilegeValueType :=
  if tags.isEmpty then forumWide
  else tags.foldl (fun result tag => maximumPrivilegeValue result (ofTag tag)) none

/-- `DiscussionThread::getDiscussionThreadMessagePrivilege`. -/
def DiscussionThread.getDiscussionThreadMessagePrivilege (thread : IdType) (tags : List IdType)
    (privilege : DiscussionThreadMessagePrivilege) : PrivilegeValueType :=
  ((r.thread thread).discussionThreadMessagePrivileges privilege).or
    (requiredByTags tags (DiscussionTag.getDiscussionThreadMessagePrivilege r · privilege)
      (r.forumWide.discussionThreadMessagePrivileges privilege))

/-- `DiscussionThread::getDiscussionThreadPrivilege`. -/
def DiscussionThread.getDiscussionThreadPrivilege (thread : IdType) (tags : List IdType)
    (privilege : DiscussionThreadPrivilege) : PrivilegeValueType :=
  ((r.thread thread).discussionThreadPrivileges privilege).or
    (requiredByTags tags (DiscussionTag.getDiscussionThreadPrivilege r · privilege)
      (r.forumWide.discussionThreadPrivileges privilege))

/-- `DiscussionThreadMessage::getDiscussionThreadMessagePrivilege`, given the value its thread requires. -/
def DiscussionThreadMessage.getDiscussionThreadMessagePrivilege (message : IdType)
    (privilege : DiscussionThreadMessagePrivilege) (discussionThreadLevelValue : PrivilegeValueType) :
    PrivilegeValueType :=
  ((r.message message).discussionThreadMessagePrivileges privilege).or discussionThreadLevelValue

end

end Forum.Authorization
