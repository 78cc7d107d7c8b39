import Forum.Authorization.DefaultAuthorization

/-!
# What is serialized for whom

`SerializationRestriction`: what a user gets to see of the entities that are written out. Unlike
authorization it counts nothing, and is asked about one entity after the other.
-/

namespace Forum.Authorization

open Forum.Library Forum.Entities

/-- `SerializationRestriction`: the viewer and the time. The privileges are those of the collection. -/
structure SerializationRestriction where
  userId : IdType
  now : Timestamp

namespace SerializationRestriction

variable (restriction : SerializationRestriction) (s : PrivilegedCollection)

/-- `isAllowed`. -/
def isAllowed (query : PrivilegeQuery) : Bool := (s.isAllowed restriction.userId query restriction.now).isSome

/-- `isAllowedToViewAnyAttachment`. -/
def isAllowedToViewAnyAttachment : Bool :=
  restriction.isAllowed s (.forumWide .getAllAttachments) || restriction.isAllowed s (.forumWide .getAttachmentsOfUser)

/-- `isAllowedToViewAttachment`. -/
def isAllowedToViewAttachment (attachment message : IdType) : Bool :=
  decide (s.messageCreatedBy message = restriction.userId) ||
    (decide (s.attachmentCreatedBy attachment = restriction.userId) ||
      ((s.attachment attachment).approved || restriction.isAllowed s (.message message .viewUnapprovedAttachment)))

/-- `isAllowedToViewMessageAttachments`. -/
def isAllowedToViewMessageAttachments (message : IdType) : Bool := restriction.isAllowed s (.message message .viewAttachment)

/-- `checkMessageAllowViewApproval`. -/
def checkMessageAllowViewApproval (message : IdType) : Bool :=
  (s.message message).approved ||
    (decide (s.messageCreatedBy message = restriction.userId) ||
      restriction.isAllowed s (.message message .viewUnapproved))

/-- `checkThreadAllowViewApproval`. -/
def checkThreadAllowViewApproval (thread : IdType) : Bool :=
  (s.thread thread).approved ||
    (decide (s.threadCreatedBy thread = restriction.userId) ||
      restriction.isAllowed s (.thread thread .viewUnapproved))

/-- `isAllowedToViewThread`. -/
def isAllowedToViewThread (thread : IdType) : Bool :=
  restriction.isAllowed s (.thread thread .view) && restriction.checkThreadAllowViewApproval s thread

/-- `isAllowedToViewMessage`. -/
def isAllowedToViewMessage (message : IdType) : Bool :=
  restriction.isAllowed s (.message message .view) && restriction.checkMessageAllowViewApproval s message &&
    restriction.isAllowedToViewThread s (s.messageParentThread message)

end SerializationRestriction

/-- Authorization and serialization agree on who may view a message. -/
theorem DefaultAuthorization.isAllowedToViewMessage_eq (s : PrivilegedCollection) (now : Timestamp) (user message : IdType) :
    DefaultAuthorization.isAllowedToViewMessage s now user message =
      SerializationRestriction.isAllowedToViewMessage ⟨user, now⟩ s message :=
  rfl

end Forum.Authorization
