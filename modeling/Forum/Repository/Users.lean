import Forum.Repository.Common

/-!
# The user and attachment repositories

The direct writes of `MemoryRepositoryUser` and `MemoryRepositoryAttachment`.
-/

namespace Forum.Repository

open Forum.Entities

variable (ctx : Context) (s : EntityCollection)

/-! ### Users -/

/-- `addNewUser`. -/
def addNewUser (id : IdType) (name : NameType) (auth : String) : Result :=
  if s.uniqueContains .usersByAuth (toLex (auth.toList.map Char.toNat, 0)) then
    (.userWithSameAuthAlreadyExists, s)
  else if s.uniqueContains .usersByName (.text name) then (.alreadyExists, s)
  else
    let s := s.createUser id name ctx.currentTime ctx.visitDetails
    let s := User.updateAuth id s auth
    (.ok, s.usersAdd id)

/-- `changeUserName`. -/
def changeUserName (id : IdType) (name : NameType) : Result :=
  if id ∈ s.users then
    if s.uniqueContains .usersByName (.text name) then (.alreadyExists, s)
    else (.ok, User.updateName id s name)
  else (.notFound, s)

/-- The writes that set one plain field of an existing user. -/
def changeUserField (id : IdType) (f : User → User) : Result :=
  if id ∈ s.users then (.ok, s.modifyUser id f) else (.notFound, s)

/-- `changeUserInfo`. -/
def changeUserInfo (id : IdType) (info : String) : Result := changeUserField s id fun u => { u with info := info }

/-- `changeUserTitle`. -/
def changeUserTitle (id : IdType) (title : String) : Result :=
  changeUserField s id fun u => { u with title := title }

/-- `changeUserSignature`. -/
def changeUserSignature (id : IdType) (signature : String) : Result :=
  changeUserField s id fun u => { u with signature := signature }

/-- `changeUserAttachmentQuota`. -/
def changeUserAttachmentQuota (id : IdType) (quota : ℕ) : Result :=
  changeUserField s id fun u => { u with attachmentQuota := some quota }

/-- `changeUserLogo`. -/
def changeUserLogo (id : IdType) (logo : String) : Result := changeUserField s id fun u => { u with logo := logo }

/-- `deleteUserLogo`. -/
def deleteUserLogo (id : IdType) : Result := changeUserField s id fun u => { u with logo := "" }

/-- `deleteUser`. -/
def deleteUser (id : IdType) : Result :=
  if id ∈ s.users then (.ok, s.deleteUser ctx id) else (.notFound, s)

/-- The update of a user's last seen time that a request or the import schedules, as it is applied
to the store: nothing happens when the user is gone by then. -/
def updateUserLastSeen (id : IdType) (value : Timestamp) : Result :=
  if id ∈ s.users then (.ok, User.updateLastSeen id s value) else (.notFound, s)

/-! ### Private messages -/

/-- `sendPrivateMessage`. -/
def sendPrivateMessage (id destination : IdType) (content : String) : Result :=
  let source := getCurrentUser ctx s
  if id ∈ s.allPrivateMessages then (.alreadyExists, s)
  else if destination ∈ s.users then
    let s := s.createPrivateMessage id source destination ctx.currentTime ctx.visitDetails content
    let s := s.privateMessagesAdd .all id
    let s := s.privateMessagesAdd (.sentBy source) id
    let s := s.privateMessagesAdd (.receivedBy destination) id
    (.ok, s.modifyUser destination fun u =>
      { u with privateMessagesNotRead := (u.privateMessagesNotRead + 1) % 2 ^ 16 })
  else (.notFound, s)

/-- `deletePrivateMessage`. -/
def deletePrivateMessage (id : IdType) : Result :=
  if id ∈ s.allPrivateMessages then (.ok, s.deletePrivateMessage id true true) else (.notFound, s)

/-! ### Attachments -/

/-- `addNewAttachment`. -/
def addNewAttachment (id : IdType) (name : NameType) (size : ℕ) (approved : Bool) : Result :=
  let currentUser := getCurrentUser ctx s
  let s := s.createAttachment id currentUser ctx.currentTime ctx.visitDetails name size approved
  let s := s.attachmentsAdd (.createdBy currentUser) id
  (.ok, s.attachmentsAdd .all id)

/-- `changeAttachmentName`, with `Attachment::updateName`. -/
def changeAttachmentName (id : IdType) (name : NameType) : Result :=
  if id ∈ s.allAttachments then
    let s := s.onPrepareUpdateAttachment .name id
    let s := { s with attachment := Function.update s.attachment id { s.attachment id with name := name } }
    (.ok, s.onUpdateAttachment .name id)
  else (.notFound, s)

/-- `changeAttachmentApproval`, with `Attachment::updateApproval`. -/
def changeAttachmentApproval (id : IdType) (approved : Bool) : Result :=
  if id ∈ s.allAttachments then
    if (s.attachment id).approved = approved then (.noEffect, s)
    else
      let s := s.onPrepareUpdateAttachment .approval id
      let s :=
        { s with attachment := Function.update s.attachment id { s.attachment id with approved := approved } }
      (.ok, s.onUpdateAttachment .approval id)
  else (.notFound, s)

/-- `deleteAttachment`. -/
def deleteAttachment (id : IdType) : Result :=
  if id ∈ s.allAttachments then (.ok, s.deleteAttachment id true) else (.notFound, s)

/-- `addAttachmentToDiscussionThreadMessage`. -/
def addAttachmentToDiscussionThreadMessage (attachment message : IdType) : Result :=
  if attachment ∈ s.allAttachments ∧ message ∈ s.allMessages then
    if message ∈ s.attachmentMessages attachment then (.alreadyExists, s)
    else
      let s :=
        { s with
          attachmentMessages := Function.update s.attachmentMessages attachment
            (insert message (s.attachmentMessages attachment)) }
      (.ok, DiscussionThreadMessage.addAttachment message s attachment)
  else (.notFound, s)

/-- `removeAttachmentFromDiscussionThreadMessage`. -/
def removeAttachmentFromDiscussionThreadMessage (attachment message : IdType) : Result :=
  if attachment ∈ s.allAttachments ∧ message ∈ s.allMessages then
    if message ∈ s.attachmentMessages attachment then
      let s := s.eraseAttachmentMessage attachment message
      (.ok, DiscussionThreadMessage.removeAttachment message s attachment)
    else (.noEffect, s)
  else (.notFound, s)

end Forum.Repository
