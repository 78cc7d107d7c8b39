import Forum.Authorization.MessageVisibility
import Forum.Entities.CategoryHierarchy
import Forum.Serialization.Json

/-!
# Writing out entities

`EntitySerialization`: what is written of users, messages, comments, private messages, threads, tags,
categories and attachments, for a user who may not see everything.

The thread-local `serializationSettings` say what to leave out. A temporary changer alters them while an
entity within another one is written, so here they are passed along. The counter
`displayDiscussionCategoryParentRecursionDepth` is the only one left altered when an entity has been
written, and nothing reads it after that: a category writes its parent last.
-/

namespace Forum.Serialization

open Forum.Library Forum.Entities Forum.Authorization

/-- `SerializationSettings`. -/
structure SerializationSettings where
  hideDiscussionThreadCreatedBy : Bool := false
  hideDiscussionThreadMessages : Bool := false
  hideDiscussionThreadMessageCreatedBy : Bool := false
  hideDiscussionThreadMessageParentThread : Bool := false
  hideMessageCommentMessage : Bool := false
  hideMessageCommentUser : Bool := false
  hideVisitedThreadSinceLastChange : Bool := false
  visitedThreadSinceLastChange : Bool := false
  hideDiscussionCategoryTags : Bool := false
  hideDiscussionCategoryParent : Bool := false
  showDiscussionCategoryChildrenRecursionLeft : ℤ := 0
  hideDiscussionCategoriesOfTags : Bool := false
  displayDiscussionCategoryParentRecursionDepth : Option ℤ := none
  allowDisplayDiscussionThreadMessage : Option Bool := none
  allowDisplayDiscussionThreadMessageUser : Option Bool := none
  allowDisplayDiscussionThreadMessageVotes : Option Bool := none
  allowDisplayDiscussionThreadMessageIpAddress : Option Bool := none
  allowDisplayDiscussionThreadMessageComments : Option Bool := none
  currentUser : Option IdType := none
  hideLatestMessage : Bool := false
  hidePrivileges : Bool := false
  onlySendCategoryParentId : Bool := false
  allowDisplayPrivateMessageIpAddress : Bool := false
  hidePrivateMessageSource : Bool := false
  hidePrivateMessageDestination : Bool := false
  hideAttachmentCreatedBy : Bool := false
  allowDisplayAttachmentIpAddress : Bool := false

/-- `OptionalRevertToNoneChanger`: a setting that is there already is not changed. -/
def temporaryUnlessSet {α : Type} (setting : Option α) (value : α) : Option α := setting.or (some value)

namespace SerializationSettings

variable (settings : SerializationSettings)

/-- The settings for the categories of a tag. -/
def forCategoriesOfTag : SerializationSettings :=
  { settings with
    hideDiscussionCategoryTags := true
    hideDiscussionCategoryParent := true
    hidePrivileges := true }

/-- The settings for the tags of a category. -/
def forTagsOfCategory : SerializationSettings :=
  { settings with
    hideDiscussionCategoriesOfTags := true
    hidePrivileges := true
    hideLatestMessage := true }

/-- The settings for the children of a category: the last ones to be written are written without details. -/
def forChildren : SerializationSettings :=
  let hideDetails := decide (settings.showDiscussionCategoryChildrenRecursionLeft ≤ 1)
  { settings with
    showDiscussionCategoryChildrenRecursionLeft := settings.showDiscussionCategoryChildrenRecursionLeft - 1
    hideDiscussionCategoryParent := true
    hideDiscussionCategoryTags := hideDetails
    hideLatestMessage := hideDetails
    hidePrivileges := hideDetails }

/-- `depth` when the parent of a category is about to be written. -/
def parentRecursionDepth : ℤ := settings.displayDiscussionCategoryParentRecursionDepth.getD 0

/-- The settings for the parent of a category. -/
def forParent : SerializationSettings :=
  { settings with
    showDiscussionCategoryChildrenRecursionLeft := 0
    hidePrivileges := true
    displayDiscussionCategoryParentRecursionDepth := some (settings.parentRecursionDepth + 1) }

/-- What decreases when the categories within a category are written: first how far to go down, then how far
to go up. -/
def recursionMeasure (n : ℕ) : ℕ × ℕ × ℕ :=
  (settings.showDiscussionCategoryChildrenRecursionLeft.toNat, (10 - settings.parentRecursionDepth).toNat, n)

theorem forChildren_recursionMeasure_lt (h : 0 < settings.showDiscussionCategoryChildrenRecursionLeft) (n m : ℕ) :
    Prod.Lex (· < ·) (Prod.Lex (· < ·) (· < ·)) (settings.forChildren.recursionMeasure n)
      (settings.recursionMeasure m) := by
  refine .left _ _ ?_
  change (settings.showDiscussionCategoryChildrenRecursionLeft - 1).toNat < _
  omega

theorem forParent_recursionMeasure_lt (h : settings.parentRecursionDepth < 10) (n m : ℕ) :
    Prod.Lex (· < ·) (Prod.Lex (· < ·) (· < ·)) (settings.forParent.recursionMeasure n)
      (settings.recursionMeasure m) := by
  unfold recursionMeasure
  rcases Nat.eq_zero_or_pos settings.showDiscussionCategoryChildrenRecursionLeft.toNat with hzero | hpos
  · rw [hzero]
    refine .right _ (.left _ _ ?_)
    change (10 - (settings.parentRecursionDepth + 1)).toNat < _
    omega
  · exact .left _ _ hpos

/-- The settings for the thread of a message. -/
def forParentThread : SerializationSettings :=
  { settings with
    hideDiscussionThreadMessages := true
    hidePrivileges := true }

/-- The settings for the tags of a thread. -/
def forTagsOfThread : SerializationSettings :=
  { settings with
    hideDiscussionCategoriesOfTags := true
    hideLatestMessage := true
    hidePrivileges := true }

/-- The settings for the categories of a thread. -/
def forCategoriesOfThread : SerializationSettings :=
  { settings with
    hideDiscussionCategoryParent := true
    hideDiscussionCategoryTags := true
    hideLatestMessage := true
    hidePrivileges := true }

/-- The settings for a message of a page: what has been decided about it. -/
def forItem (item : DiscussionThreadMessagePrivilegeCheck) : SerializationSettings :=
  { settings with
    allowDisplayDiscussionThreadMessage :=
      temporaryUnlessSet settings.allowDisplayDiscussionThreadMessage item.allowedToShowMessage
    allowDisplayDiscussionThreadMessageUser :=
      temporaryUnlessSet settings.allowDisplayDiscussionThreadMessageUser item.allowedToShowUser
    allowDisplayDiscussionThreadMessageVotes :=
      temporaryUnlessSet settings.allowDisplayDiscussionThreadMessageVotes item.allowedToShowVotes
    allowDisplayDiscussionThreadMessageIpAddress :=
      temporaryUnlessSet settings.allowDisplayDiscussionThreadMessageIpAddress item.allowedToShowIpAddress
    allowDisplayDiscussionThreadMessageComments :=
      temporaryUnlessSet settings.allowDisplayDiscussionThreadMessageComments item.allowedToViewComments }

end SerializationSettings

/-- What readers of the forum change themselves. -/
structure ReadStatistics where
  userShowInOnlineUsers : IdType → Bool := fun _ => false
  /-- The latest page of a thread visited by a user. -/
  userLatestPageVisited : IdType → IdType → ℕ := fun _ _ => 0
  threadVisited : IdType → ℕ := fun _ => 0
  attachmentNrOfGetRequests : IdType → ℕ := fun _ => 0

/-- What is written out, for whom, and what the request and the configuration say about it. -/
structure SerializationContext where
  collection : PrivilegedCollection
  statistics : ReadStatistics := {}
  restriction : SerializationRestriction
  /-- `Context::getCurrentUserId`. -/
  currentUserId : IdType
  /-- `displayContext.pageNumber`. -/
  pageNumber : ℤ := 0
  /-- `discussionThreadMessage.maxMessagesPerPage` of the configuration. -/
  maxMessagesPerPage : ℕ := 20
  /-- How many bits an `int_fast32_t` has. -/
  intFast32Bits : ℕ := 64

/-! ### Privileges -/

/-- `DiscussionThreadMessagePrivilegeStrings`. -/
def discussionThreadMessagePrivilegeString : DiscussionThreadMessagePrivilege → String
  | .view => "view"
  | .viewRequiredPrivileges => "view_required_privileges"
  | .viewAssignedPrivileges => "view_assigned_privileges"
  | .viewCreatorUser => "view_creator_user"
  | .viewIpAddress => "view_ip_address"
  | .viewVotes => "view_votes"
  | .upVote => "up_vote"
  | .downVote => "down_vote"
  | .resetVote => "reset_vote"
  | .addComment => "add_comment"
  | .setCommentToSolved => "set_comment_to_solved"
  | .getMessageComments => "get_message_comments"
  | .changeContent => "change_content"
  | .delete => "delete"
  | .move => "move"
  | .adjustPrivilege => "adjust_privilege"
  | .viewUnapproved => "view_unapproved"
  | .changeApproval => "change_approval"
  | .viewAttachment => "view_attachment"
  | .viewUnapprovedAttachment => "view_unapproved_attachment"
  | .addAttachment => "add_attachment"
  | .removeAttachment => "remove_attachment"

/-- `DiscussionThreadMessagePrivilegesToSerialize`. -/
def discussionThreadMessagePrivilegesToSerialize : List DiscussionThreadMessagePrivilege :=
  [.viewRequiredPrivileges, .viewAssignedPrivileges, .upVote, .downVote, .resetVote, .addComment,
    .setCommentToSolved, .getMessageComments, .changeContent, .changeApproval, .delete, .move, .viewAttachment,
    .viewUnapprovedAttachment, .addAttachment, .removeAttachment, .adjustPrivilege]

/-- `DiscussionThreadPrivilegeStrings`. -/
def discussionThreadPrivilegeString : DiscussionThreadPrivilege → String
  | .view => "view"
  | .viewRequiredPrivileges => "view_required_privileges"
  | .viewAssignedPrivileges => "view_assigned_privileges"
  | .getSubscribedUsers => "get_subscribed_users"
  | .subscribe => "subscribe"
  | .unsubscribe => "unsubscribe"
  | .addMessage => "add_message"
  | .changeName => "change_name"
  | .changePinDisplayOrder => "change_pin_display_order"
  | .addTag => "add_tag"
  | .removeTag => "remove_tag"
  | .delete => "delete"
  | .merge => "merge"
  | .adjustPrivilege => "adjust_privilege"
  | .autoApproveMessage => "auto_approve_message"
  | .viewUnapproved => "view_unapproved"
  | .changeApproval => "change_approval"

/-- `DiscussionThreadPrivilegesToSerialize`. -/
def discussionThreadPrivilegesToSerialize : List DiscussionThreadPrivilege :=
  [.viewRequiredPrivileges, .viewAssignedPrivileges, .getSubscribedUsers, .subscribe, .unsubscribe, .addMessage,
    .changeName, .changePinDisplayOrder, .changeApproval, .addTag, .removeTag, .delete, .merge, .adjustPrivilege]

/-- `DiscussionTagPrivilegeStrings`. -/
def discussionTagPrivilegeString : DiscussionTagPrivilege → String
  | .view => "view"
  | .viewRequiredPrivileges => "view_required_privileges"
  | .viewAssignedPrivileges => "view_assigned_privileges"
  | .getDiscussionThreads => "get_discussion_threads"
  | .changeName => "change_name"
  | .changeUiblob => "change_uiblob"
  | .delete => "delete"
  | .merge => "merge"
  | .adjustPrivilege => "adjust_privilege"

/-- `DiscussionTagPrivilegesToSerialize`. -/
def discussionTagPrivilegesToSerialize : List DiscussionTagPrivilege :=
  [.viewRequiredPrivileges, .viewAssignedPrivileges, .changeName, .changeUiblob, .delete, .merge, .adjustPrivilege]

/-- `DiscussionCategoryPrivilegeStrings`. -/
def discussionCategoryPrivilegeString : DiscussionCategoryPrivilege → String
  | .view => "view"
  | .viewRequiredPrivileges => "view_required_privileges"
  | .viewAssignedPrivileges => "view_assigned_privileges"
  | .getDiscussionThreads => "get_discussion_threads"
  | .changeName => "change_name"
  | .changeDescription => "change_description"
  | .changeParent => "change_parent"
  | .changeDisplayorder => "change_displayorder"
  | .addTag => "add_tag"
  | .removeTag => "remove_tag"
  | .delete => "delete"
  | .adjustPrivilege => "adjust_privilege"

/-- `DiscussionCategoryPrivilegesToSerialize`. -/
def discussionCategoryPrivilegesToSerialize : List DiscussionCategoryPrivilege :=
  [.viewRequiredPrivileges, .viewAssignedPrivileges, .changeName, .changeDescription, .changeParent,
    .changeDisplayorder, .addTag, .removeTag, .delete, .adjustPrivilege]

namespace SerializationContext

variable (x : SerializationContext)

/-- `restriction.isAllowed`. -/
def isAllowed (query : PrivilegeQuery) : Bool := x.restriction.isAllowed x.collection query

/-- `writePrivileges`: those of the privileges that the user has on the entity. -/
def writePrivileges {α : Type} (query : α → PrivilegeQuery) (privileges : List α) (string : α → String) : Properties :=
  [("privileges", .array ((privileges.filter fun value => x.isAllowed (query value)).map fun value =>
    .string (string value)))]

/-! ### Entities that hold no messages -/

/-- `serialize` of a user. -/
def serializeUser (user : IdType) : Json :=
  let s := x.collection
  let sameUser := decide (x.currentUserId = user)
  .object <|
    [("id", .uuid user), ("name", .string (s.user user).name.string)] ++
    writeIf (sameUser || x.isAllowed (.forumWide .getUserInfo)) [("info", .string (s.user user).info)] ++
    writeIf (sameUser || x.isAllowed (.forumWide .getSubscribedDiscussionThreadsOfUser))
      [("subscribedThreadCount", .number (s.userSubscribedThreads user).card)] ++
    writeIf (sameUser || x.isAllowed (.forumWide .getAttachmentsOfUser))
      [("attachmentCount", .number (s.userAttachments user).card),
        ("attachmentTotalSize", .number (s.attachmentsTotalSize (.createdBy user)))] ++
    ((s.user user).attachmentQuota.elim [] fun quota =>
      writeIf (sameUser || x.isAllowed (.forumWide .changeUserAttachmentQuota)) [("attachmentQuota", .number quota)]) ++
    writeIf (decide ((s.user user).lastSeen = 0) || x.statistics.userShowInOnlineUsers user)
      [("lastSeen", .number (s.user user).lastSeen)] ++
    [("title", .string (s.user user).title), ("signature", .string (s.user user).signature),
      ("hasLogo", .bool !(s.user user).logo.isEmpty), ("created", .number (s.user user).created),
      ("threadCount", .number (s.userThreads user).card), ("messageCount", .number (s.userMessages user).card),
      ("receivedUpVotes", .number (s.user user).receivedUpVotes),
      ("receivedDownVotes", .number (s.user user).receivedDownVotes)]

/-- `writeVisitDetails`. -/
def writeVisitDetails (visitDetails : VisitDetails) : Properties := [("ip", .string visitDetails.ip)]

/-- `serialize` of an attachment. -/
def serializeAttachment (settings : SerializationSettings) (attachment : IdType) : Json :=
  let s := x.collection
  .object <|
    [("id", .uuid attachment), ("created", .number (s.attachment attachment).created),
      ("name", .string (s.attachment attachment).name.string), ("size", .number (s.attachment attachment).size),
      ("approved", .bool (s.attachment attachment).approved),
      ("nrOfMessagesAttached", .number (s.attachmentMessages attachment).card),
      ("nrOfGetRequests", .number (x.statistics.attachmentNrOfGetRequests attachment))] ++
    writeIf settings.allowDisplayAttachmentIpAddress (writeVisitDetails (s.attachment attachment).creationDetails) ++
    writeIf (!settings.hideAttachmentCreatedBy) [("createdBy", x.serializeUser (s.attachmentCreatedBy attachment))]

/-- `serialize` of a private message. -/
def serializePrivateMessage (settings : SerializationSettings) (message : IdType) : Json :=
  let s := x.collection
  .object <|
    [("id", .uuid message), ("created", .number (s.privateMessage message).created),
      ("content", .string (s.privateMessage message).content)] ++
    writeIf settings.allowDisplayPrivateMessageIpAddress (writeVisitDetails (s.privateMessage message).creationDetails) ++
    writeIf (!settings.hidePrivateMessageSource) [("source", x.serializeUser (s.privateMessageSource message))] ++
    writeIf (!settings.hidePrivateMessageDestination)
      [("destination", x.serializeUser (s.privateMessageDestination message))]

/-! ### The latest message -/

/-- `writeLatestMessage` of a message. -/
def writeLatestMessage (latestMessage : IdType) : Properties :=
  let s := x.collection
  let parentThread := s.messageParentThread latestMessage
  [("latestMessage",
    if x.restriction.isAllowedToViewMessage s latestMessage then
      .object <|
        [("id", .uuid latestMessage), ("created", .number (s.message latestMessage).created),
          ("approved", .bool (s.message latestMessage).approved), ("threadId", .uuid parentThread),
          ("threadName", .string (s.thread parentThread).name.string),
          ("content", .string (s.message latestMessage).content)] ++
        writeIf (x.isAllowed (.message latestMessage .viewCreatorUser))
          [("createdBy", x.serializeUser (s.messageCreatedBy latestMessage))]
    else .null)]

/-- `writeLatestMessage` of a collection of threads: the latest message of the thread that is last by
`byLatestMessageCreated`. -/
def writeLatestMessageOfThreads (threads : ThreadCollectionRef) : Properties :=
  let s := x.collection
  (s.index (.threads threads .latestMessageCreated)).getLast?.elim [] fun thread =>
    (s.index (.messages (.ofThread thread))).getLast?.elim [] x.writeLatestMessage

/-! ### Tags and categories -/

mutual

/-- `serialize` of a tag. -/
def serializeDiscussionTag (settings : SerializationSettings) (tag : IdType) : Json :=
  let s := x.collection
  if !x.isAllowed (.tag tag .view) then .null
  else
    .object <|
      [("id", .uuid tag), ("name", .string (s.tag tag).name.string), ("created", .number (s.tag tag).created),
        ("threadCount", .number (s.tagThreads tag).card), ("messageCount", .number (s.tagMessageCount tag))] ++
      writeIf (!settings.hideLatestMessage) (x.writeLatestMessageOfThreads (.tag tag)) ++
      (if settings.hideDiscussionCategoriesOfTags then []
      else
        [("categories",
          .array ((ascending (s.tagCategories tag)).map (serializeDiscussionCategory settings.forCategoriesOfTag)))]) ++
      writeIf (!settings.hidePrivileges)
        (x.writePrivileges (.tag tag) discussionTagPrivilegesToSerialize discussionTagPrivilegeString)
termination_by settings.recursionMeasure (if settings.hideDiscussionCategoriesOfTags then 0 else 2)
decreasing_by
  rename_i hcategories
  exact .right _ (.right _ (by rw [if_neg hcategories]; decide))

/-- `serialize` of a category. -/
def serializeDiscussionCategory (settings : SerializationSettings) (category : IdType) : Json :=
  let s := x.collection
  if !x.isAllowed (.category category .view) then .null
  else
    .object <|
      [("id", .uuid category), ("name", .string (s.category category).name.string),
        ("description", .string (s.category category).description),
        ("displayOrder", .number (s.category category).displayOrder),
        ("created", .number (s.category category).created),
        ("threadCount", .number (s.categoryThreads category).card),
        ("messageCount", .number (s.categoryMessageCount category)),
        ("threadTotalCount", .number (s.totalThreads category).byId.card),
        ("messageTotalCount", .number (s.totalThreads category).messageCount)] ++
      writeIf (!settings.hideLatestMessage)
        (((DiscussionCategory.latestMessage s.toEntityCollection s.categories.card category).getD none).elim []
          x.writeLatestMessage) ++
      (if settings.hideDiscussionCategoryTags then []
      else
        [("tags", .array ((ascending (s.categoryTags category)).map (serializeDiscussionTag settings.forTagsOfCategory)))]) ++
      (if 0 < settings.showDiscussionCategoryChildrenRecursionLeft then
        [("children",
          .array ((ascending (s.categoryChildren category)).map (serializeDiscussionCategory settings.forChildren)))]
      else []) ++
      (if settings.hideDiscussionCategoryParent then []
      else if settings.parentRecursionDepth < 10 then
        (s.categoryParent category).elim [] fun parent =>
          if settings.onlySendCategoryParentId then [("parentId", .uuid parent)]
          else [("parent", serializeDiscussionCategory settings.forParent parent)]
      else []) ++
      writeIf (!settings.hidePrivileges)
        (x.writePrivileges (.category category) discussionCategoryPrivilegesToSerialize
          discussionCategoryPrivilegeString)
termination_by settings.recursionMeasure 1
decreasing_by
  · exact .right _ (.right _ Nat.zero_lt_one)
  · exact settings.forChildren_recursionMeasure_lt ‹_› 1 1
  · exact settings.forParent_recursionMeasure_lt ‹_› 1 1

end

/-! ### Threads and messages -/

/-- The vote of the current user on a message: `1` up, `-1` down. -/
def voteStatus (settings : SerializationSettings) (message : IdType) : ℤ :=
  settings.currentUser.elim 0 fun currentUser =>
    if currentUser ∈ x.collection.messageDownVotes message then -1
    else if currentUser ∈ x.collection.messageUpVotes message then 1
    else 0

/-- `DiscussionThread::voteScore`: that of its first message. -/
def voteScore (thread : IdType) : ℤ :=
  let s := x.collection
  (s.index (.messages (.ofThread thread))).head?.elim 0 fun message =>
    (s.messageUpVotes message).card - (s.messageDownVotes message).card

/-- What `serialize` writes of the last update of a message. -/
def lastUpdatedOfMessage (allowViewUser allowViewIpAddress : Bool) (message : IdType) : Properties :=
  let s := x.collection
  let lastUpdated := (s.message message).lastUpdated.getD {}
  writeIf (decide (lastUpdated.at' ≠ 0))
    [("lastUpdated", .object <|
      (match lastUpdated.by' with
        | some by' =>
          if allowViewUser then
            [("userId", .uuid by'), ("userName", .string (s.user by').name.string), ("at", .number lastUpdated.at')]
          else [("at", .number lastUpdated.at')]
        | none => [("at", .number lastUpdated.at')]) ++
      [("reason", .string lastUpdated.reason)] ++
      writeIf allowViewIpAddress (writeVisitDetails lastUpdated.details))]

/-- What `serialize` writes of the attachments of a message. -/
def attachmentsOfMessage (settings : SerializationSettings) (message : IdType) : Properties :=
  let s := x.collection
  writeIf (decide (s.messageAttachments message ≠ ∅) && x.restriction.isAllowedToViewMessageAttachments s message)
    [("attachments", .array (((ascending (s.messageAttachments message)).filter fun attachment =>
      x.restriction.isAllowedToViewAnyAttachment s || x.restriction.isAllowedToViewAttachment s attachment message).map
        (x.serializeAttachment settings)))]

mutual

/-- `serialize` of a message. -/
def serializeDiscussionThreadMessage (settings : SerializationSettings) (message : IdType) : Json :=
  let s := x.collection
  let allowView := settings.allowDisplayDiscussionThreadMessage.elim (x.restriction.isAllowedToViewMessage s message)
    fun allowed => allowed && x.restriction.checkMessageAllowViewApproval s message &&
      x.restriction.checkThreadAllowViewApproval s (s.messageParentThread message)
  if !allowView then .null
  else
    let allowViewUser :=
      settings.allowDisplayDiscussionThreadMessageUser.getD (x.isAllowed (.message message .viewCreatorUser))
    let allowViewVotes := settings.allowDisplayDiscussionThreadMessageVotes.getD (x.isAllowed (.message message .viewVotes))
    let allowViewIpAddress :=
      settings.allowDisplayDiscussionThreadMessageIpAddress.getD (x.isAllowed (.message message .viewIpAddress))
    let allowViewCommentCount :=
      settings.allowDisplayDiscussionThreadMessageComments.getD (x.isAllowed (.message message .getMessageComments))
    .object <|
      [("id", .uuid message), ("created", .number (s.message message).created),
        ("approved", .bool (s.message message).approved)] ++
      writeIf allowViewCommentCount
        [("commentsCount", .number (s.messageComments message).card),
          ("solvedCommentsCount", .number (s.message message).solvedCommentsCount)] ++
      [("content", .string (s.message message).content)] ++
      writeIf (allowViewUser && !settings.hideDiscussionThreadMessageCreatedBy)
        [("createdBy", x.serializeUser (s.messageCreatedBy message))] ++
      (if settings.hideDiscussionThreadMessageParentThread then []
      else
        [("parentThread", serializeDiscussionThread settings.forParentThread (s.messageParentThread message))]) ++
      x.lastUpdatedOfMessage allowViewUser allowViewIpAddress message ++
      writeIf allowViewIpAddress (writeVisitDetails (s.message message).creationDetails) ++
      writeIf allowViewVotes
        [("nrOfUpVotes", .number (s.messageUpVotes message).card),
          ("nrOfDownVotes", .number (s.messageDownVotes message).card)] ++
      [("voteStatus", .number (x.voteStatus settings message))] ++
      x.attachmentsOfMessage settings message ++
      writeIf (!settings.hidePrivileges)
        (x.writePrivileges (.message message) discussionThreadMessagePrivilegesToSerialize
          discussionThreadMessagePrivilegeString)
termination_by 1
decreasing_by exact Nat.zero_lt_one

/-- `writeDiscussionThreadMessages`: the visibility of the messages of a page is decided for all of them, and
passed on in the settings. What a walk past the ends of the collection would lead to is left open: nothing is written of it. -/
def writeDiscussionThreadMessages (settings : SerializationSettings) (collection : List IdType) (pageNumber : ℤ)
    (pageSize : ℕ) (ascending : Bool) (propertyName : String) : Properties :=
  let s := x.collection
  let privilegeChecks := s.granted.computeDiscussionThreadMessageVisibilityAllowed s.required s.toStore
    (threadTagsInOrder s.toStore) x.restriction.userId x.restriction.now
    ((messagesToCheck x.intFast32Bits collection pageNumber pageSize ascending).getD [])
  [("totalCount", .number (intFast32 x.intFast32Bits collection.length)), ("pageSize", .number pageSize),
    ("page", .number pageNumber),
    (propertyName, .array ((privilegeChecks.filter fun item => item.allowedToShowMessage).map fun item =>
      serializeDiscussionThreadMessage (settings.forItem item) item.message))]
termination_by 2

/-- `serialize` of a thread. -/
def serializeDiscussionThread (settings : SerializationSettings) (thread : IdType) : Json :=
  let s := x.collection
  if !x.restriction.isAllowedToViewThread s thread then .null
  else
    let messagesIndex := s.index (.messages (.ofThread thread))
    .object <|
      [("id", .uuid thread), ("name", .string (s.thread thread).name.string),
        ("created", .number (s.thread thread).created), ("approved", .bool (s.thread thread).approved),
        ("latestVisibleChangeAt", .number (s.thread thread).latestVisibleChange),
        ("pinned", .bool (decide (0 < (s.thread thread).pinDisplayOrder))),
        ("pinDisplayOrder", .number (s.thread thread).pinDisplayOrder),
        ("subscribedUsersCount", .number (s.threadSubscribedUsers thread).card)] ++
      (settings.currentUser.elim [] fun currentUser =>
        ("subscribedToThread", .bool (decide (currentUser ∈ s.threadSubscribedUsers thread))) ::
        writeIf (decide (0 < x.statistics.userLatestPageVisited currentUser thread))
          [("latestVisitedPage", .number (x.statistics.userLatestPageVisited currentUser thread))]) ++
      writeIf (!settings.hideDiscussionThreadCreatedBy) [("createdBy", x.serializeUser (s.threadCreatedBy thread))] ++
      [("messageCount", .number messagesIndex.length)] ++
      writeIf (!settings.hideLatestMessage) (messagesIndex.getLast?.elim [] x.writeLatestMessage) ++
      (if settings.hideDiscussionThreadMessages then []
      else writeDiscussionThreadMessages settings messagesIndex x.pageNumber x.maxMessagesPerPage true "messages") ++
      writeIf (!settings.hideVisitedThreadSinceLastChange)
        [("visitedSinceLastChange", .bool settings.visitedThreadSinceLastChange)] ++
      [("tags", .array ((ascending (s.threadTags thread)).map (x.serializeDiscussionTag settings.forTagsOfThread))),
        ("categories",
          .array ((ascending (s.threadCategories thread)).map
            (x.serializeDiscussionCategory settings.forCategoriesOfThread))),
        ("lastUpdated", .number (s.threadLastUpdated thread)), ("visited", .number (x.statistics.threadVisited thread)),
        ("voteScore", .number (x.voteScore thread))] ++
      writeIf (!settings.hidePrivileges)
        (x.writePrivileges (.thread thread) discussionThreadPrivilegesToSerialize discussionThreadPrivilegeString)
termination_by if settings.hideDiscussionThreadMessages then 0 else 3
decreasing_by
  rename_i hmessages
  rw [if_neg hmessages]
  decide

end

/-- `serialize` of a message comment. -/
def serializeMessageComment (settings : SerializationSettings) (comment : IdType) : Json :=
  let s := x.collection
  .object <|
    [("id", .uuid comment), ("created", .number (s.comment comment).created),
      ("solved", .bool (s.comment comment).solved), ("content", .string (s.comment comment).content)] ++
    writeVisitDetails (s.comment comment).creationDetails ++
    writeIf (!settings.hideMessageCommentMessage)
      [("message", x.serializeDiscussionThreadMessage settings (s.commentParentMessage comment))] ++
    writeIf (!settings.hideMessageCommentUser) [("createdBy", x.serializeUser (s.commentCreatedBy comment))]

end SerializationContext

end Forum.Serialization
