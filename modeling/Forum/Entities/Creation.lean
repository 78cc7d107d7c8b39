import Forum.Entities.Deletion

/-!
# Creating entities

The `create…` functions of `EntityCollection`. An entity is constructed under an id that
`generateUniqueId` has given out; its own collections and relations start empty.
-/

namespace Forum.Entities

/-- The entity a collection belongs to; the global collections belong to none. -/
def ThreadCollectionRef.owner : ThreadCollectionRef → Option IdType
  | .all => none
  | .createdBy id | .subscribedBy id | .tag id | .category id => some id

/-- The entity a collection belongs to. -/
def MessageCollectionRef.owner : MessageCollectionRef → Option IdType
  | .all => none
  | .ofThread id | .createdBy id => some id

/-- The entity a collection belongs to. -/
def CommentCollectionRef.owner : CommentCollectionRef → Option IdType
  | .all => none
  | .ofMessage id | .createdBy id => some id

/-- The entity a collection belongs to. -/
def PrivateMessageCollectionRef.owner : PrivateMessageCollectionRef → Option IdType
  | .all => none
  | .sentBy id | .receivedBy id => some id

/-- The entity a collection belongs to. -/
def AttachmentCollectionRef.owner : AttachmentCollectionRef → Option IdType
  | .all => none
  | .createdBy id => some id

/-- The entity whose collection the index is part of. -/
def IndexRef.owner : IndexRef → Option IdType
  | .threads collection _ => collection.owner
  | .messages collection => collection.owner
  | .users _ | .tags _ | .categories _ => none
  | .attachments collection _ => collection.owner
  | .comments collection => collection.owner
  | .privateMessages collection => collection.owner

/-- The relations of a new entity are empty. -/
def Ownership.construct (o : Ownership) (id : IdType) : Ownership :=
  { o with
    userThreads := Function.update o.userThreads id ∅
    userSubscribedThreads := Function.update o.userSubscribedThreads id ∅
    threadSubscribedUsers := Function.update o.threadSubscribedUsers id ∅
    threadAboutToBeDeleted := Function.update o.threadAboutToBeDeleted id false
    threadMessages := Function.update o.threadMessages id ∅
    userMessages := Function.update o.userMessages id ∅
    messageUpVotes := Function.update o.messageUpVotes id ∅
    messageDownVotes := Function.update o.messageDownVotes id ∅
    userVotedMessages := Function.update o.userVotedMessages id ∅
    messageComments := Function.update o.messageComments id ∅
    userComments := Function.update o.userComments id ∅
    userSentPrivateMessages := Function.update o.userSentPrivateMessages id ∅
    userReceivedPrivateMessages := Function.update o.userReceivedPrivateMessages id ∅
    userAttachments := Function.update o.userAttachments id ∅
    attachmentMessages := Function.update o.attachmentMessages id ∅
    messageAttachments := Function.update o.messageAttachments id ∅
    issuedIds := insert id o.issuedIds }

/-- The placement of a new entity is empty. -/
def Placement.construct (p : Placement) (id : IdType) : Placement :=
  { p with
    tagThreads := Function.update p.tagThreads id ∅
    categoryThreads := Function.update p.categoryThreads id ∅
    threadTags := Function.update p.threadTags id ∅
    threadCategories := Function.update p.threadCategories id ∅
    tagCategories := Function.update p.tagCategories id ∅
    categoryTags := Function.update p.categoryTags id ∅
    categoryParent := Function.update p.categoryParent id none
    categoryChildren := Function.update p.categoryChildren id ∅ }

/-- The counts of a new entity are zero. -/
def Counters.construct (c : Counters) (id : IdType) : Counters :=
  { tagMessageCount := Function.update c.tagMessageCount id 0
    categoryMessageCount := Function.update c.categoryMessageCount id 0
    totalThreads := Function.update c.totalThreads id {}
    latestMessageCreated := Function.update c.latestMessageCreated id 0
    attachmentsTotalSize := Function.update c.attachmentsTotalSize (.createdBy id) 0 }

/-- The indexes of a new entity's collections are empty, and nothing was erased from them yet. -/
def Indexes.construct (i : Indexes) (id : IdType) : Indexes :=
  { i with
    index := fun ref => if ref.owner = some id then [] else i.index ref
    assertFailed := fun ref => if ref.owner = some id then false else i.assertFailed ref }

namespace EntityCollection

variable (s : EntityCollection)

/-- Construct an entity under a new id. -/
def construct (id : IdType) : EntityCollection where
  toOwnership := s.toOwnership.construct id
  toPlacement := s.toPlacement.construct id
  toCounters := s.toCounters.construct id
  toProperties := s.toProperties
  batchInsertInProgress := s.batchInsertInProgress
  toIndexes := s.toIndexes.construct id

/-- `createUser`. -/
def createUser (id : IdType) (name : NameType) (created : Timestamp) (creationDetails : VisitDetails) :
    EntityCollection :=
  (s.construct id).modifyUser id fun _ =>
    { created := created, creationDetails := creationDetails, name := name }

/-- `createDiscussionThread`. -/
def createDiscussionThread (id createdBy : IdType) (name : NameType) (created : Timestamp)
    (creationDetails : VisitDetails) (approved : Bool) : EntityCollection :=
  let s := { s.construct id with threadCreatedBy := Function.update s.threadCreatedBy id createdBy }
  s.modifyThread id fun _ =>
    { created := created, creationDetails := creationDetails, name := name, approved := approved }

/-- A timestamp stored in a signed 48-bit field. -/
def timestamp48 (at' : Timestamp) : Timestamp := at'.bmod (2 ^ 48)

/-- `createDiscussionThreadMessage`. -/
def createDiscussionThreadMessage (id createdBy : IdType) (created : Timestamp)
    (creationDetails : VisitDetails) (approved : Bool) : EntityCollection :=
  let s := { s.construct id with messageCreatedBy := Function.update s.messageCreatedBy id createdBy }
  s.modifyMessage id fun _ =>
    { created := timestamp48 created, creationDetails := creationDetails, approved := approved }

/-- `createDiscussionTag`. -/
def createDiscussionTag (id : IdType) (name : NameType) (created : Timestamp)
    (creationDetails : VisitDetails) : EntityCollection :=
  (s.construct id).modifyTag id fun _ =>
    { created := created, creationDetails := creationDetails, name := name }

/-- `createDiscussionCategory`. -/
def createDiscussionCategory (id : IdType) (name : NameType) (created : Timestamp)
    (creationDetails : VisitDetails) : EntityCollection :=
  (s.construct id).modifyCategory id fun _ =>
    { created := created, creationDetails := creationDetails, name := name }

/-- `createMessageComment`. -/
def createMessageComment (id message createdBy : IdType) (created : Timestamp)
    (creationDetails : VisitDetails) (content : String) : EntityCollection :=
  let s := s.construct id
  { s with
    commentParentMessage := Function.update s.commentParentMessage id message
    commentCreatedBy := Function.update s.commentCreatedBy id createdBy
    comment := Function.update s.comment id
      { created := created, creationDetails := creationDetails, content := content } }

/-- `createPrivateMessage`. -/
def createPrivateMessage (id source destination : IdType) (created : Timestamp)
    (creationDetails : VisitDetails) (content : String) : EntityCollection :=
  let s := s.construct id
  { s with
    privateMessageSource := Function.update s.privateMessageSource id source
    privateMessageDestination := Function.update s.privateMessageDestination id destination
    privateMessage := Function.update s.privateMessage id
      { created := created, creationDetails := creationDetails, content := content } }

/-- `createAttachment`. -/
def createAttachment (id createdBy : IdType) (created : Timestamp) (creationDetails : VisitDetails)
    (name : NameType) (size : ℕ) (approved : Bool) : EntityCollection :=
  let s := s.construct id
  { s with
    attachmentCreatedBy := Function.update s.attachmentCreatedBy id createdBy
    attachment := Function.update s.attachment id
      { created := created, creationDetails := creationDetails, name := name, size := size
        approved := approved } }

end EntityCollection

end Forum.Entities
