import Forum.Authorization.SerializationRestriction
import Forum.Repository.Attachments
import Forum.Repository.Authors
import Forum.Serialization.MessagePages

/-!
# What visitors own

Many decisions let whoever created an entity see it, or change it. Creators are told by their ids, and all
visitors share the empty one, so a visitor passes for the creator of everything that any visitor has
created. Votes and subscriptions turn visitors away before they compare ids; the other decisions do not.

A visitor owns nothing in a store if no answer it gets, and nothing that is written for it, changes when
entities are said to have been created by registered users. `ownsNothing_iff` lists what it takes: wherever
a visitor passes for the creator, a privilege must give the same answer.
-/

namespace Forum.Authorization

open Forum.Library Forum.Entities Forum.Repository Forum.Serialization

/-! ### What is written -/

/-- What is written of a user for those who may see it, and for the user. The quota of attachments is written
likewise, but visitors have none. -/
inductive UserDetail
  | info | subscribedThreadCount | attachmentCount

/-- The privilege to see a detail of other users. -/
def UserDetail.privilege : UserDetail → ForumWidePrivilege
  | .info => .getUserInfo
  | .subscribedThreadCount => .getSubscribedDiscussionThreadsOfUser
  | .attachmentCount => .getAttachmentsOfUser

/-- The name under which a detail is written. -/
def UserDetail.property : UserDetail → String
  | .info => "info"
  | .subscribedThreadCount => "subscribedThreadCount"
  | .attachmentCount => "attachmentCount"

/-- What is written of an entity depending on who created it: the entity, or a detail of its creator. -/
inductive Written
  | thread (id : IdType)
  | message (id : IdType)
  | attachment (id inMessage : IdType)
  | threadCreator (id : IdType) (detail : UserDetail)
  | messageCreator (id : IdType) (detail : UserDetail)
  | attachmentCreator (id : IdType) (detail : UserDetail)
  | commentCreator (id : IdType) (detail : UserDetail)

/-- What is written is there to be written. -/
def Written.OfStore (s : Store) : Written → Prop
  | .thread id | .threadCreator id _ => id ∈ s.allThreads
  | .message id | .messageCreator id _ => id ∈ s.allMessages
  | .attachment id inMessage => inMessage ∈ s.allMessages ∧ id ∈ s.messageAttachments inMessage
  | .attachmentCreator id _ => id ∈ s.allAttachments
  | .commentCreator id _ => id ∈ s.allComments

namespace SerializationRestriction

variable (restriction : SerializationRestriction) (s : PrivilegedCollection)

/-- Is the detail of the user written? A user is told everything about itself: `sameUser`. -/
def writesDetail (user : IdType) (detail : UserDetail) : Bool :=
  decide (restriction.userId = user) || restriction.isAllowed s (.forumWide detail.privilege)

/-- Is it written by any request? Threads and messages are asked for without being allowed to, attachments by
whoever can get them, and comments by whoever may read all of them or those of the message. -/
def writes : Written → Bool
  | .thread thread => restriction.isAllowedToViewThread s thread
  | .message message => restriction.isAllowedToViewMessage s message
  | .attachment attachment message =>
    restriction.isAllowedToViewMessage s message && restriction.isAllowedToViewMessageAttachments s message &&
      (restriction.isAllowedToViewAnyAttachment s || restriction.isAllowedToViewAttachment s attachment message)
  | .threadCreator thread detail =>
    restriction.isAllowedToViewThread s thread && restriction.writesDetail s (s.threadCreatedBy thread) detail
  | .messageCreator message detail =>
    restriction.isAllowedToViewMessage s message && restriction.isAllowed s (.message message .viewCreatorUser) &&
      restriction.writesDetail s (s.messageCreatedBy message) detail
  | .attachmentCreator attachment detail =>
    DefaultAuthorization.canGetAttachment s restriction.now restriction.userId attachment &&
      restriction.writesDetail s (s.attachmentCreatedBy attachment) detail
  | .commentCreator comment detail =>
    (restriction.isAllowed s (.forumWide .getAllMessageComments) ||
        restriction.isAllowed s (.message (s.commentParentMessage comment) .getMessageComments)) &&
      restriction.writesDetail s (s.commentCreatedBy comment) detail

end SerializationRestriction

section

variable {x : SerializationContext}

/-- The details of a user are written as decided. -/
theorem mem_names_serializeUser (hx : x.currentUserId = x.restriction.userId) (user : IdType) (detail : UserDetail) :
    detail.property ∈ (x.serializeUser user).names ↔ x.restriction.writesDetail x.collection user detail := by
  have hquota : detail.property ∉ ((x.collection.user user).attachmentQuota.elim [] fun quota =>
      writeIf (decide (x.currentUserId = user) || x.isAllowed (.forumWide .changeUserAttachmentQuota))
        [("attachmentQuota", .number quota)]).map Prod.fst := by
    cases (x.collection.user user).attachmentQuota <;> cases detail <;> simp [writeIf, UserDetail.property]
  unfold SerializationContext.serializeUser SerializationRestriction.writesDetail
  simp only [Json.names, List.map_append, List.mem_append, mem_map_writeIf, hquota, or_false]
  rw [hx]
  cases detail <;> simp [UserDetail.property, UserDetail.privilege, SerializationContext.isAllowed]

/-- A thread is written exactly if it is decided to be. -/
theorem isNull_serializeDiscussionThread (settings : SerializationSettings) (thread : IdType) :
    (x.serializeDiscussionThread settings thread).isNull = !x.restriction.writes x.collection (.thread thread) := by
  rw [SerializationContext.serializeDiscussionThread]
  simp only [SerializationRestriction.writes]
  cases x.restriction.isAllowedToViewThread x.collection thread <;> rfl

end

/-! ### Replacing creators -/

/-- Who created the entities, and whom private messages are for. -/
structure Creators where
  message : IdType → IdType
  thread : IdType → IdType
  attachment : IdType → IdType
  comment : IdType → IdType
  privateMessageSource : IdType → IdType
  privateMessageDestination : IdType → IdType

/-- The store with other creators. -/
def PrivilegedCollection.recreate (s : PrivilegedCollection) (c : Creators) : PrivilegedCollection :=
  { s with
    messageCreatedBy := c.message
    threadCreatedBy := c.thread
    attachmentCreatedBy := c.attachment
    commentCreatedBy := c.comment
    privateMessageSource := c.privateMessageSource
    privateMessageDestination := c.privateMessageDestination }

/-- Some entities of the store are said to have been created by registered users. -/
def Registers (entities : Finset IdType) (old new : IdType → IdType) : Prop :=
  ∀ id, new id = old id ∨ id ∈ entities ∧ ¬isAnonymousUserId (new id)

/-- Creators of entities of the store are replaced by registered users. -/
structure Creators.Replaces (c : Creators) (s : PrivilegedCollection) : Prop where
  message : Registers s.allMessages s.messageCreatedBy c.message
  thread : Registers s.allThreads s.threadCreatedBy c.thread
  attachment : Registers s.allAttachments s.attachmentCreatedBy c.attachment
  comment : Registers s.allComments s.commentCreatedBy c.comment
  privateMessageSource : Registers s.allPrivateMessages s.privateMessageSource c.privateMessageSource
  privateMessageDestination : Registers s.allPrivateMessages s.privateMessageDestination c.privateMessageDestination

/-- The entities whose creators a question may depend on are in the store. -/
def AuthorizationQuestion.OfStore (s : Store) : AuthorizationQuestion → Prop
  | .canGetAttachment attachment | .changeAttachmentName attachment | .deleteAttachment attachment =>
    attachment ∈ s.allAttachments
  | .addAttachmentToDiscussionThreadMessage attachment message
  | .removeAttachmentFromDiscussionThreadMessage attachment message =>
    attachment ∈ s.allAttachments ∧ message ∈ s.allMessages
  | .deletePrivateMessage message => message ∈ s.allPrivateMessages
  | _ => True

/-- Two stores answer a user alike: no request is treated differently, and the same is written. -/
structure SameAnswers (s s' : PrivilegedCollection) (ctx : Context) (user : IdType) : Prop where
  authorize : ∀ (a : DefaultAuthorization) question, question.OfStore s.toStore →
    a.authorize s' ctx user question = a.authorize s ctx user question
  writes : ∀ written : Written, written.OfStore s.toStore →
    SerializationRestriction.writes ⟨user, ctx.currentTime⟩ s' written =
      SerializationRestriction.writes ⟨user, ctx.currentTime⟩ s written

/-- Visitors own nothing: no answer they get depends on what visitors have created. -/
def OwnsNothing (s : PrivilegedCollection) (ctx : Context) : Prop :=
  ∀ c : Creators, c.Replaces s → SameAnswers s (s.recreate c) ctx anonymousUser

@[simp]
theorem isAllowed_recreate (s : PrivilegedCollection) (c : Creators) (user : IdType) (query : PrivilegeQuery)
    (now : Timestamp) : (s.recreate c).isAllowed user query now = s.isAllowed user query now := by
  cases query <;> rfl

theorem DefaultAuthorization.isAllowed_recreate (s : PrivilegedCollection) (c : Creators) :
    DefaultAuthorization.isAllowed (s.recreate c) = DefaultAuthorization.isAllowed s := by
  funext now user query
  rw [DefaultAuthorization.isAllowed, Authorization.isAllowed_recreate, DefaultAuthorization.isAllowed]

/-- Questions that do not look at creators. -/
def AuthorizationQuestion.looksAtCreators : AuthorizationQuestion → Bool
  | .deletePrivateMessage _ | .upVoteDiscussionThreadMessage _ | .downVoteDiscussionThreadMessage _
  | .resetVoteDiscussionThreadMessage _ | .canGetAttachment _ | .changeAttachmentName _ | .deleteAttachment _
  | .addAttachmentToDiscussionThreadMessage _ _ | .removeAttachmentFromDiscussionThreadMessage _ _ => true
  | _ => false

theorem authorize_recreate (a : DefaultAuthorization) (s : PrivilegedCollection) (c : Creators) (ctx : Context)
    (user : IdType) {question : AuthorizationQuestion} (h : question.looksAtCreators = false) :
    a.authorize (s.recreate c) ctx user question = a.authorize s ctx user question := by
  cases question <;> first | rfl | nomatch h

/-! ### What privileges decide -/

section

variable (s : PrivilegedCollection) (now : Timestamp)

/-- May visitors do this, whoever created what? -/
def mayVisit (query : PrivilegeQuery) : Prop := DefaultAuthorization.isAllowed s now anonymousUser query

/-- Visitors may see unapproved messages, or the message is approved. -/
def MessageVisible (message : IdType) : Prop :=
  (s.message message).approved ∨ mayVisit s now (.message message .viewUnapproved)

/-- Visitors may see unapproved threads, or the thread is approved. -/
def ThreadVisible (thread : IdType) : Prop :=
  (s.thread thread).approved ∨ mayVisit s now (.thread thread .viewUnapproved)

/-- Visitors may see the thread. -/
def ThreadSeen (thread : IdType) : Prop := mayVisit s now (.thread thread .view) ∧ ThreadVisible s now thread

/-- Visitors may see the message. -/
def MessageSeen (message : IdType) : Prop :=
  (mayVisit s now (.message message .view) ∧ MessageVisible s now message) ∧ ThreadSeen s now (s.messageParentThread message)

/-- Visitors may get every attachment. -/
def EveryAttachmentSeen : Prop :=
  mayVisit s now (.forumWide .getAllAttachments) ∨ mayVisit s now (.forumWide .getAttachmentsOfUser)

/-- Visitors may see unapproved attachments of the message, or the attachment is approved. -/
def AttachmentVisible (attachment message : IdType) : Prop :=
  (s.attachment attachment).approved ∨ mayVisit s now (.message message .viewUnapprovedAttachment)

/-- Visitors may get the attachment: all of them, or this one with a message that they may see. -/
def AttachmentSeen (attachment : IdType) : Prop :=
  EveryAttachmentSeen s now ∨ ∃ message ∈ s.attachmentMessages attachment,
    mayVisit s now (.message message .viewAttachment) ∧ AttachmentVisible s now attachment message ∧
      MessageSeen s now message

/-- Visitors may read the comment, with all comments or with those of the message. -/
def CommentSeen (comment : IdType) : Prop :=
  mayVisit s now (.forumWide .getAllMessageComments) ∨
    mayVisit s now (.message (s.commentParentMessage comment) .getMessageComments)

/-- Visitors may see the detail of other users. -/
def DetailSeen (detail : UserDetail) : Prop := mayVisit s now (.forumWide detail.privilege)

/-- What is written for visitors, whoever created what. -/
def Seen : Written → Prop
  | .thread thread => ThreadSeen s now thread
  | .message message => MessageSeen s now message
  | .attachment attachment message =>
    (MessageSeen s now message ∧ mayVisit s now (.message message .viewAttachment)) ∧
      (EveryAttachmentSeen s now ∨ AttachmentVisible s now attachment message)
  | .threadCreator thread detail => ThreadSeen s now thread ∧ DetailSeen s now detail
  | .messageCreator message detail =>
    (MessageSeen s now message ∧ mayVisit s now (.message message .viewCreatorUser)) ∧ DetailSeen s now detail
  | .attachmentCreator attachment detail => AttachmentSeen s now attachment ∧ DetailSeen s now detail
  | .commentCreator comment detail => CommentSeen s now comment ∧ DetailSeen s now detail

/-- Wherever visitors pass for the creator, a privilege gives the answer that being the creator gives. -/
structure PrivilegesDecide : Prop where
  thread : ∀ thread ∈ s.allThreads, s.threadCreatedBy thread = anonymousUser →
    mayVisit s now (.thread thread .view) → ThreadVisible s now thread
  message : ∀ message ∈ s.allMessages, s.messageCreatedBy message = anonymousUser →
    mayVisit s now (.message message .view) → ThreadSeen s now (s.messageParentThread message) →
      MessageVisible s now message
  attachment : ∀ message ∈ s.allMessages, ∀ attachment ∈ s.messageAttachments message,
    s.messageCreatedBy message = anonymousUser ∨ s.attachmentCreatedBy attachment = anonymousUser →
      MessageSeen s now message → mayVisit s now (.message message .viewAttachment) →
        EveryAttachmentSeen s now ∨ AttachmentVisible s now attachment message
  threadCreator : ∀ thread ∈ s.allThreads, s.threadCreatedBy thread = anonymousUser → ThreadSeen s now thread →
    ∀ detail, DetailSeen s now detail
  messageCreator : ∀ message ∈ s.allMessages, s.messageCreatedBy message = anonymousUser →
    MessageSeen s now message → mayVisit s now (.message message .viewCreatorUser) → ∀ detail, DetailSeen s now detail
  attachmentCreator : ∀ attachment ∈ s.allAttachments, s.attachmentCreatedBy attachment = anonymousUser →
    ∀ detail, DetailSeen s now detail
  commentCreator : ∀ comment ∈ s.allComments, s.commentCreatedBy comment = anonymousUser →
    CommentSeen s now comment → ∀ detail, DetailSeen s now detail
  getAttachment : ∀ attachment ∈ s.allAttachments,
    (s.attachmentCreatedBy attachment = anonymousUser ∨
        ∃ message ∈ s.attachmentMessages attachment, s.messageCreatedBy message = anonymousUser) →
      AttachmentSeen s now attachment
  changeAttachmentName : ∀ attachment ∈ s.allAttachments, s.attachmentCreatedBy attachment = anonymousUser →
    (mayVisit s now (.forumWide .changeOwnAttachmentName) ↔ mayVisit s now (.forumWide .changeAnyAttachmentName))
  deleteAttachment : ∀ attachment ∈ s.allAttachments, s.attachmentCreatedBy attachment = anonymousUser →
    (mayVisit s now (.forumWide .deleteOwnAttachment) ↔ mayVisit s now (.forumWide .deleteAnyAttachment))
  addAttachment : ∀ attachment ∈ s.allAttachments, s.attachmentCreatedBy attachment = anonymousUser →
    ∀ message ∈ s.allMessages, ¬mayVisit s now (.message message .addAttachment)
  removeAttachment : ∀ attachment ∈ s.allAttachments, s.attachmentCreatedBy attachment = anonymousUser →
    ∀ message ∈ s.allMessages, mayVisit s now (.forumWide .deleteOwnAttachment) →
      mayVisit s now (.message message .removeAttachment) ∨ mayVisit s now (.forumWide .deleteAnyAttachment)
  privateMessage : ∀ message ∈ s.allPrivateMessages, s.privateMessageSource message ≠ anonymousUser ∧
    s.privateMessageDestination message ≠ anonymousUser

/-- What is asked about together is in the store together. -/
structure Linked : Prop where
  parentThread : ∀ message ∈ s.allMessages, s.messageParentThread message ∈ s.allThreads
  messages : ∀ attachment ∈ s.allAttachments, s.attachmentMessages attachment ⊆ s.allMessages
  attachments : ∀ message ∈ s.allMessages, s.messageAttachments message ⊆ s.allAttachments

end

section

variable {s : PrivilegedCollection} {now : Timestamp}

theorem linked_of_reachable (h : Reachable anyOperation s.toEntityCollection) : Linked s :=
  ⟨h.authored.messageParent, h.attachmentsSymmetric.messages, h.attachmentsSymmetric.attachments⟩

/-! ### What privileges do not decide -/

theorem isAllowedToViewThread_iff (thread : IdType) :
    SerializationRestriction.isAllowedToViewThread ⟨anonymousUser, now⟩ s thread ↔
      mayVisit s now (.thread thread .view) ∧ (s.threadCreatedBy thread = anonymousUser ∨ ThreadVisible s now thread) := by
  unfold SerializationRestriction.isAllowedToViewThread SerializationRestriction.checkThreadAllowViewApproval
  rw [Bool.and_eq_true, Bool.or_eq_true, Bool.or_eq_true, decide_eq_true_eq, or_left_comm]
  rfl

theorem isAllowedToViewMessage_iff (message : IdType) :
    SerializationRestriction.isAllowedToViewMessage ⟨anonymousUser, now⟩ s message ↔
      (mayVisit s now (.message message .view) ∧
        (s.messageCreatedBy message = anonymousUser ∨ MessageVisible s now message)) ∧
        SerializationRestriction.isAllowedToViewThread ⟨anonymousUser, now⟩ s (s.messageParentThread message) := by
  unfold SerializationRestriction.isAllowedToViewMessage SerializationRestriction.checkMessageAllowViewApproval
  rw [Bool.and_eq_true, Bool.and_eq_true, Bool.or_eq_true, Bool.or_eq_true, decide_eq_true_eq, or_left_comm]
  rfl

theorem isAllowedToViewAttachment_iff (attachment message : IdType) :
    SerializationRestriction.isAllowedToViewAttachment ⟨anonymousUser, now⟩ s attachment message ↔
      (s.messageCreatedBy message = anonymousUser ∨ s.attachmentCreatedBy attachment = anonymousUser) ∨
        AttachmentVisible s now attachment message := by
  unfold SerializationRestriction.isAllowedToViewAttachment
  rw [Bool.or_eq_true, Bool.or_eq_true, Bool.or_eq_true, decide_eq_true_eq, decide_eq_true_eq, or_assoc]
  rfl

theorem isAllowedToViewAnyAttachment_iff :
    SerializationRestriction.isAllowedToViewAnyAttachment ⟨anonymousUser, now⟩ s ↔ EveryAttachmentSeen s now :=
  Bool.or_eq_true_iff

theorem writesDetail_iff (user : IdType) (detail : UserDetail) :
    SerializationRestriction.writesDetail ⟨anonymousUser, now⟩ s user detail ↔
      user = anonymousUser ∨ DetailSeen s now detail := by
  unfold SerializationRestriction.writesDetail
  rw [Bool.or_eq_true, decide_eq_true_eq, eq_comm]
  rfl

/-- Who may get an attachment. -/
theorem canGetAttachment_iff (attachment : IdType) :
    DefaultAuthorization.canGetAttachment s now anonymousUser attachment ↔
      s.attachmentCreatedBy attachment = anonymousUser ∨ EveryAttachmentSeen s now ∨
        ∃ message ∈ s.attachmentMessages attachment, s.messageCreatedBy message = anonymousUser ∨
          mayVisit s now (.message message .viewAttachment) ∧ AttachmentVisible s now attachment message ∧
            SerializationRestriction.isAllowedToViewMessage ⟨anonymousUser, now⟩ s message := by
  unfold DefaultAuthorization.canGetAttachment EveryAttachmentSeen AttachmentVisible mayVisit
  simp only [Bool.or_eq_true, Bool.and_eq_true, decide_eq_true_eq, List.any_eq_true, mem_ascending, or_assoc, and_assoc,
    DefaultAuthorization.isAllowedToViewMessage_eq, eq_comm (a := anonymousUser)]

theorem ThreadSeen.isAllowedToViewThread {thread : IdType} (h : ThreadSeen s now thread) :
    SerializationRestriction.isAllowedToViewThread ⟨anonymousUser, now⟩ s thread :=
  (isAllowedToViewThread_iff thread).2 ⟨h.1, .inr h.2⟩

theorem MessageSeen.isAllowedToViewMessage {message : IdType} (h : MessageSeen s now message) :
    SerializationRestriction.isAllowedToViewMessage ⟨anonymousUser, now⟩ s message :=
  (isAllowedToViewMessage_iff message).2 ⟨⟨h.1.1, .inr h.1.2⟩, h.2.isAllowedToViewThread⟩

/-! ### Where privileges decide -/

/-- Visitors see no thread as its creator. -/
theorem PrivilegesDecide.isAllowedToViewThread_iff (h : PrivilegesDecide s now) {thread : IdType}
    (ht : thread ∈ s.allThreads) :
    SerializationRestriction.isAllowedToViewThread ⟨anonymousUser, now⟩ s thread ↔ ThreadSeen s now thread := by
  rw [Authorization.isAllowedToViewThread_iff]
  refine and_congr_right fun hview => ⟨?_, .inr⟩
  rintro (hown | hvisible)
  · exact h.thread thread ht hown hview
  · exact hvisible

/-- Visitors see no message as its creator, nor as the creator of its thread. -/
theorem PrivilegesDecide.isAllowedToViewMessage_iff (h : PrivilegesDecide s now) (hl : Linked s) {message : IdType}
    (hm : message ∈ s.allMessages) :
    SerializationRestriction.isAllowedToViewMessage ⟨anonymousUser, now⟩ s message ↔ MessageSeen s now message := by
  rw [Authorization.isAllowedToViewMessage_iff, h.isAllowedToViewThread_iff (hl.parentThread message hm)]
  refine and_congr_left fun hthread => and_congr_right fun hview => ⟨?_, .inr⟩
  rintro (hown | hvisible)
  · exact h.message message hm hown hview hthread
  · exact hvisible

/-- Visitors get no attachment as its creator, nor as the creator of its message. -/
theorem PrivilegesDecide.canGetAttachment_iff (h : PrivilegesDecide s now) (hl : Linked s) {attachment : IdType}
    (ha : attachment ∈ s.allAttachments) :
    DefaultAuthorization.canGetAttachment s now anonymousUser attachment ↔ AttachmentSeen s now attachment := by
  rw [Authorization.canGetAttachment_iff]
  constructor
  · rintro (hown | hall | ⟨message, hm, hown | ⟨hview, hvisible, hmessage⟩⟩)
    · exact h.getAttachment attachment ha (.inl hown)
    · exact .inl hall
    · exact h.getAttachment attachment ha (.inr ⟨message, hm, hown⟩)
    · exact .inr ⟨message, hm, hview, hvisible, (h.isAllowedToViewMessage_iff hl (hl.messages attachment ha hm)).1 hmessage⟩
  · rintro (hall | ⟨message, hm, hview, hvisible, hmessage⟩)
    · exact .inr (.inl hall)
    · exact .inr (.inr ⟨message, hm, .inr ⟨hview, hvisible,
        (h.isAllowedToViewMessage_iff hl (hl.messages attachment ha hm)).2 hmessage⟩⟩)

/-- Nothing is told about a creator that is not told about every user. -/
theorem and_writesDetail_iff {p q : Prop} (hpq : p ↔ q) {user : IdType} {detail : UserDetail}
    (h : user = anonymousUser → q → DetailSeen s now detail) :
    p ∧ SerializationRestriction.writesDetail ⟨anonymousUser, now⟩ s user detail = true ↔ q ∧ DetailSeen s now detail := by
  rw [writesDetail_iff, hpq]
  refine and_congr_right fun hq => ⟨?_, .inr⟩
  rintro (hown | hseen)
  · exact h hown hq
  · exact hseen

/-- What is written for visitors is what privileges let them see. -/
theorem PrivilegesDecide.writes_iff (h : PrivilegesDecide s now) (hl : Linked s) {written : Written}
    (hw : written.OfStore s.toStore) :
    SerializationRestriction.writes ⟨anonymousUser, now⟩ s written ↔ Seen s now written := by
  cases written with
  | thread thread => exact h.isAllowedToViewThread_iff hw
  | message message => exact h.isAllowedToViewMessage_iff hl hw
  | attachment attachment message =>
    obtain ⟨hm, ha⟩ := hw
    unfold SerializationRestriction.writes
    rw [Bool.and_eq_true, Bool.and_eq_true, Bool.or_eq_true, h.isAllowedToViewMessage_iff hl hm,
      isAllowedToViewAnyAttachment_iff, isAllowedToViewAttachment_iff]
    refine and_congr_right fun hseen => ⟨?_, Or.imp_right .inr⟩
    rintro (hall | hown | hvisible)
    · exact .inl hall
    · exact h.attachment message hm attachment ha hown hseen.1 hseen.2
    · exact .inr hvisible
  | threadCreator thread detail =>
    exact (Bool.and_eq_true_iff).trans (and_writesDetail_iff (h.isAllowedToViewThread_iff hw)
      fun hown hseen => h.threadCreator thread hw hown hseen detail)
  | messageCreator message detail =>
    refine (Bool.and_eq_true_iff).trans (and_writesDetail_iff ?_
      fun hown hseen => h.messageCreator message hw hown hseen.1 hseen.2 detail)
    exact (Bool.and_eq_true_iff).trans (and_congr_left' (h.isAllowedToViewMessage_iff hl hw))
  | attachmentCreator attachment detail =>
    exact (Bool.and_eq_true_iff).trans (and_writesDetail_iff (h.canGetAttachment_iff hl hw)
      fun hown _ => h.attachmentCreator attachment hw hown detail)
  | commentCreator comment detail =>
    exact (Bool.and_eq_true_iff).trans (and_writesDetail_iff Bool.or_eq_true_iff
      fun hown hseen => h.commentCreator comment hw hown hseen detail)

end

section

variable {s : PrivilegedCollection} {c : Creators} {entities : Finset IdType} {old new : IdType → IdType}
  {id : IdType} {now : Timestamp} {ctx : Context}

/-- Only registered users replace visitors. -/
theorem Registers.eq_of_eq (h : Registers entities old new) (hnew : new id = anonymousUser) : old id = anonymousUser := by
  rcases h id with heq | ⟨-, hne⟩
  · exact heq.symm.trans hnew
  · exact absurd (by simp [hnew, isAnonymousUserId, anonymousUser]) hne

/-- Two answers for the creator and everyone else are one where they have to be. -/
theorem Registers.ite_eq {α : Type} (h : Registers entities old new) {own any : α}
    (hb : id ∈ entities → old id = anonymousUser → own = any) :
    (if anonymousUser = new id then own else any) = if anonymousUser = old id then own else any := by
  rcases h id with heq | ⟨hmem, hne⟩
  · rw [heq]
  · have hnew : anonymousUser ≠ new id := fun heq => hne (by simp [← heq, isAnonymousUserId, anonymousUser])
    by_cases hold : anonymousUser = old id
    · rw [if_neg hnew, if_pos hold, hb hmem hold.symm]
    · rw [if_neg hnew, if_neg hold]

/-! ### With other creators -/

theorem mayVisit_recreate : mayVisit (s.recreate c) now = mayVisit s now := by
  funext query
  unfold mayVisit
  rw [DefaultAuthorization.isAllowed_recreate]

theorem ThreadVisible_recreate : ThreadVisible (s.recreate c) now = ThreadVisible s now := by
  funext thread
  unfold ThreadVisible
  rw [mayVisit_recreate]
  rfl

theorem MessageVisible_recreate : MessageVisible (s.recreate c) now = MessageVisible s now := by
  funext message
  unfold MessageVisible
  rw [mayVisit_recreate]
  rfl

theorem ThreadSeen_recreate : ThreadSeen (s.recreate c) now = ThreadSeen s now := by
  funext thread
  unfold ThreadSeen
  rw [mayVisit_recreate, ThreadVisible_recreate]

theorem MessageSeen_recreate : MessageSeen (s.recreate c) now = MessageSeen s now := by
  funext message
  unfold MessageSeen
  rw [mayVisit_recreate, MessageVisible_recreate, ThreadSeen_recreate]
  rfl

theorem EveryAttachmentSeen_recreate : EveryAttachmentSeen (s.recreate c) now = EveryAttachmentSeen s now := by
  unfold EveryAttachmentSeen
  rw [mayVisit_recreate]

theorem AttachmentVisible_recreate : AttachmentVisible (s.recreate c) now = AttachmentVisible s now := by
  funext attachment message
  unfold AttachmentVisible
  rw [mayVisit_recreate]
  rfl

theorem AttachmentSeen_recreate : AttachmentSeen (s.recreate c) now = AttachmentSeen s now := by
  funext attachment
  unfold AttachmentSeen
  rw [EveryAttachmentSeen_recreate, mayVisit_recreate, AttachmentVisible_recreate, MessageSeen_recreate]
  rfl

theorem CommentSeen_recreate : CommentSeen (s.recreate c) now = CommentSeen s now := by
  funext comment
  unfold CommentSeen
  rw [mayVisit_recreate]
  rfl

theorem DetailSeen_recreate : DetailSeen (s.recreate c) now = DetailSeen s now := by
  funext detail
  unfold DetailSeen
  rw [mayVisit_recreate]

/-- What privileges let visitors see does not depend on creators. -/
theorem Seen_recreate (written : Written) : Seen (s.recreate c) now written ↔ Seen s now written := by
  cases written <;> unfold Seen <;>
    simp only [mayVisit_recreate, ThreadSeen_recreate, MessageSeen_recreate, EveryAttachmentSeen_recreate,
      AttachmentVisible_recreate, AttachmentSeen_recreate, CommentSeen_recreate, DetailSeen_recreate]

theorem Linked.recreate (hl : Linked s) : Linked (s.recreate c) := ⟨hl.parentThread, hl.messages, hl.attachments⟩

/-- Privileges decide for the creators that are left. -/
theorem PrivilegesDecide.recreate (h : PrivilegesDecide s now) (hc : c.Replaces s) : PrivilegesDecide (s.recreate c) now := by
  have hmessage : ∀ {message}, c.message message = anonymousUser → s.messageCreatedBy message = anonymousUser :=
    hc.message.eq_of_eq
  have hattachment : ∀ {attachment}, c.attachment attachment = anonymousUser →
      s.attachmentCreatedBy attachment = anonymousUser :=
    hc.attachment.eq_of_eq
  constructor
  case privateMessage =>
    exact fun message hm => ⟨fun hown => (h.privateMessage message hm).1 (hc.privateMessageSource.eq_of_eq hown),
      fun hown => (h.privateMessage message hm).2 (hc.privateMessageDestination.eq_of_eq hown)⟩
  all_goals
    simp only [mayVisit_recreate, ThreadVisible_recreate, MessageVisible_recreate, ThreadSeen_recreate,
      MessageSeen_recreate, EveryAttachmentSeen_recreate, AttachmentVisible_recreate, AttachmentSeen_recreate,
      CommentSeen_recreate, DetailSeen_recreate]
  · exact fun thread ht hown => h.thread thread ht (hc.thread.eq_of_eq hown)
  · exact fun message hm hown => h.message message hm (hmessage hown)
  · exact fun message hm attachment ha hown => h.attachment message hm attachment ha (hown.imp hmessage hattachment)
  · exact fun thread ht hown => h.threadCreator thread ht (hc.thread.eq_of_eq hown)
  · exact fun message hm hown => h.messageCreator message hm (hmessage hown)
  · exact fun attachment ha hown => h.attachmentCreator attachment ha (hattachment hown)
  · exact fun comment hm hown => h.commentCreator comment hm (hc.comment.eq_of_eq hown)
  · exact fun attachment ha hown => h.getAttachment attachment ha
      (hown.imp hattachment fun ⟨message, hm, hown⟩ => ⟨message, hm, hmessage hown⟩)
  · exact fun attachment ha hown => h.changeAttachmentName attachment ha (hattachment hown)
  · exact fun attachment ha hown => h.deleteAttachment attachment ha (hattachment hown)
  · exact fun attachment ha hown => h.addAttachment attachment ha (hattachment hown)
  · exact fun attachment ha hown => h.removeAttachment attachment ha (hattachment hown)

/-! ### With registered creators only -/

/-- The creators that make everything of the store created by the registered user `1`. -/
def registered (s : PrivilegedCollection) : Creators where
  message id := if id ∈ s.allMessages then 1 else s.messageCreatedBy id
  thread id := if id ∈ s.allThreads then 1 else s.threadCreatedBy id
  attachment id := if id ∈ s.allAttachments then 1 else s.attachmentCreatedBy id
  comment id := if id ∈ s.allComments then 1 else s.commentCreatedBy id
  privateMessageSource id := if id ∈ s.allPrivateMessages then 1 else s.privateMessageSource id
  privateMessageDestination id := if id ∈ s.allPrivateMessages then 1 else s.privateMessageDestination id

theorem registers_ite (entities : Finset IdType) (old : IdType → IdType) :
    Registers entities old fun id => if id ∈ entities then 1 else old id := by
  intro id
  by_cases h : id ∈ entities
  · exact .inr ⟨h, by simp [h, isAnonymousUserId]⟩
  · exact .inl (if_neg h)

theorem registered_replaces (s : PrivilegedCollection) : (registered s).Replaces s where
  message := registers_ite _ _
  thread := registers_ite _ _
  attachment := registers_ite _ _
  comment := registers_ite _ _
  privateMessageSource := registers_ite _ _
  privateMessageDestination := registers_ite _ _

theorem registered_ne {entities : Finset IdType} {old : IdType → IdType} (h : id ∈ entities) :
    (if id ∈ entities then (1 : IdType) else old id) ≠ anonymousUser := by
  rw [if_pos h]
  exact Nat.one_ne_zero

theorem registered_message_ne {message : IdType} (hm : message ∈ s.allMessages) :
    (registered s).message message ≠ anonymousUser :=
  registered_ne hm

theorem registered_attachment_ne {attachment : IdType} (ha : attachment ∈ s.allAttachments) :
    (registered s).attachment attachment ≠ anonymousUser :=
  registered_ne ha

/-- Privileges decide where visitors have created nothing. -/
theorem privilegesDecide_registered (hl : Linked s) : PrivilegesDecide (s.recreate (registered s)) now where
  thread _ ht hown := absurd hown (registered_ne ht)
  message _ hm hown := absurd hown (registered_message_ne hm)
  attachment message hm attachment ha hown :=
    absurd hown (not_or_intro (registered_message_ne hm) (registered_attachment_ne (hl.attachments message hm ha)))
  threadCreator _ ht hown := absurd hown (registered_ne ht)
  messageCreator _ hm hown := absurd hown (registered_message_ne hm)
  attachmentCreator _ ha hown := absurd hown (registered_attachment_ne ha)
  commentCreator _ hc hown := absurd hown (registered_ne hc)
  getAttachment attachment ha hown := by
    rcases hown with hown | ⟨message, hm, hown⟩
    · exact absurd hown (registered_attachment_ne ha)
    · exact absurd hown (registered_message_ne (hl.messages attachment ha hm))
  changeAttachmentName _ ha hown := absurd hown (registered_attachment_ne ha)
  deleteAttachment _ ha hown := absurd hown (registered_attachment_ne ha)
  addAttachment _ ha hown := absurd hown (registered_attachment_ne ha)
  removeAttachment _ ha hown := absurd hown (registered_attachment_ne ha)
  privateMessage _ hm := ⟨registered_ne hm, registered_ne hm⟩

/-! ### Answers -/

theorem AuthorizationStatus.ofBool_inj {b b' : Bool} :
    AuthorizationStatus.ofBool b = AuthorizationStatus.ofBool b' ↔ (b ↔ b') := by
  cases b <;> cases b' <;> simp [AuthorizationStatus.ofBool]

theorem canGetAttachment_recreate (hl : Linked s) (h : PrivilegesDecide s now) (hc : c.Replaces s) {attachment : IdType}
    (ha : attachment ∈ s.allAttachments) :
    DefaultAuthorization.canGetAttachment (s.recreate c) now anonymousUser attachment =
      DefaultAuthorization.canGetAttachment s now anonymousUser attachment := by
  rw [Bool.eq_iff_iff, h.canGetAttachment_iff hl ha, (h.recreate hc).canGetAttachment_iff hl.recreate ha,
    AttachmentSeen_recreate]

theorem writes_recreate (hl : Linked s) (h : PrivilegesDecide s now) (hc : c.Replaces s) {written : Written}
    (hw : written.OfStore s.toStore) :
    SerializationRestriction.writes ⟨anonymousUser, now⟩ (s.recreate c) written =
      SerializationRestriction.writes ⟨anonymousUser, now⟩ s written := by
  have hw' : written.OfStore (s.recreate c).toStore := by cases written <;> exact hw
  rw [Bool.eq_iff_iff, h.writes_iff hl hw, (h.recreate hc).writes_iff hl.recreate hw', Seen_recreate]

/-- Where privileges decide, visitors are answered as if they had created nothing. -/
theorem PrivilegesDecide.authorize_eq (hl : Linked s)
    (h : PrivilegesDecide s ctx.currentTime) (hc : c.Replaces s) (a : DefaultAuthorization)
    {question : AuthorizationQuestion} (hquestion : question.OfStore s.toStore) :
    a.authorize (s.recreate c) ctx anonymousUser question = a.authorize s ctx anonymousUser question := by
  by_cases hlooks : question.looksAtCreators = false
  · exact authorize_recreate a s c ctx anonymousUser hlooks
  cases question <;> try exact absurd rfl hlooks
  case deletePrivateMessage message =>
    obtain ⟨hsource, hdestination⟩ := h.privateMessage message hquestion
    have hneither : ¬(anonymousUser = s.privateMessageSource message ∨
        anonymousUser = s.privateMessageDestination message) := by
      rintro (heq | heq)
      · exact hsource heq.symm
      · exact hdestination heq.symm
    have hneither' : ¬(anonymousUser = c.privateMessageSource message ∨
        anonymousUser = c.privateMessageDestination message) := by
      rintro (heq | heq)
      · exact hsource (hc.privateMessageSource.eq_of_eq heq.symm)
      · exact hdestination (hc.privateMessageDestination.eq_of_eq heq.symm)
    exact (if_neg hneither').trans (if_neg hneither).symm
  case upVoteDiscussionThreadMessage | downVoteDiscussionThreadMessage | resetVoteDiscussionThreadMessage =>
    exact (if_pos (.inr rfl)).trans (if_pos (.inr rfl)).symm
  case canGetAttachment attachment =>
    exact congrArg (fun allowed => (AuthorizationStatus.ofBool allowed, a)) (canGetAttachment_recreate hl h hc hquestion)
  case changeAttachmentName attachment =>
    refine congrArg (a.unlessThrottled s ctx anonymousUser .editContent) (hc.attachment.ite_eq fun ha hcreated => ?_)
    exact AuthorizationStatus.ofBool_inj.2 (h.changeAttachmentName attachment ha hcreated)
  case deleteAttachment attachment =>
    refine congrArg (a.unlessThrottled s ctx anonymousUser .editContent) (hc.attachment.ite_eq fun ha hcreated => ?_)
    exact AuthorizationStatus.ofBool_inj.2 (h.deleteAttachment attachment ha hcreated)
  case addAttachmentToDiscussionThreadMessage attachment message =>
    have hdenied : s.attachmentCreatedBy attachment = anonymousUser → AuthorizationStatus.ofBool
        (DefaultAuthorization.isAllowed s ctx.currentTime anonymousUser (.message message .addAttachment)) = .notAllowed :=
      fun hcreated => if_neg (h.addAttachment attachment hquestion.1 hcreated message hquestion.2)
    refine congrArg (·, a) ((ite_not _ _ _).trans ((hc.attachment.ite_eq fun _ => ?_).trans (ite_not _ _ _).symm))
    exact hdenied
  case removeAttachmentFromDiscussionThreadMessage attachment message =>
    refine congrArg (a.unlessThrottled s ctx anonymousUser .editContent) (AuthorizationStatus.ofBool_inj.2 ?_)
    unfold DefaultAuthorization.canRemoveAttachment
    rw [DefaultAuthorization.isAllowed_recreate]
    simp only [Bool.or_eq_true, Bool.and_eq_true, decide_eq_true_eq]
    constructor
    · rintro (hmay | ⟨hown, hmay⟩)
      · exact .inl hmay
      · exact .inr ⟨(hc.attachment.eq_of_eq hown.symm).symm, hmay⟩
    · rintro (hmay | ⟨hown, hmay⟩)
      · exact .inl hmay
      · exact .inl (h.removeAttachment attachment hquestion.1 hown.symm message hquestion.2 hmay)

/-- Where privileges decide, replacing creators changes nothing for visitors. -/
theorem PrivilegesDecide.sameAnswers (hl : Linked s) (h : PrivilegesDecide s ctx.currentTime) (hc : c.Replaces s) :
    SameAnswers s (s.recreate c) ctx anonymousUser where
  authorize a _ hquestion := h.authorize_eq hl hc a hquestion
  writes _ hw := writes_recreate hl h hc hw

/-- Nobody is throttled. -/
def unthrottled : DefaultAuthorization where
  disableThrottling := true
  throttling := { hashRange := fun _ => 0 }

/-- Throttling aside, an answer is the answer. -/
theorem unlessThrottled_disabled (s : PrivilegedCollection) (ctx : Context) (user : IdType)
    (action : UserActionThrottling) (answer : AuthorizationStatus) :
    (DefaultAuthorization.unlessThrottled unthrottled s ctx user action answer).1 = answer := by
  simp [DefaultAuthorization.unlessThrottled, DefaultAuthorization.isThrottled, unthrottled]

theorem ne_attachmentCreatedBy_registered {attachment : IdType} (ha : attachment ∈ s.allAttachments) :
    anonymousUser ≠ (s.recreate (registered s)).attachmentCreatedBy attachment :=
  (registered_attachment_ne ha).symm

/-- What is written for a visitor is written for those who have created nothing. -/
theorem SameAnswers.seen (hl : Linked s) (h : SameAnswers s (s.recreate (registered s)) ctx anonymousUser)
    (written : Written) (hw : written.OfStore s.toStore)
    (hwrites : SerializationRestriction.writes ⟨anonymousUser, ctx.currentTime⟩ s written) :
    Seen s ctx.currentTime written := by
  have hw' : written.OfStore (s.recreate (registered s)).toStore := by cases written <;> exact hw
  rw [← Seen_recreate (c := registered s), ← (privilegesDecide_registered hl).writes_iff hl.recreate hw', h.writes written hw]
  exact hwrites

/-- What visitors may see and do in any case. -/
theorem PrivilegesDecide.of_sameAnswers (hl : Linked s) (h : SameAnswers s (s.recreate (registered s)) ctx anonymousUser) :
    PrivilegesDecide s ctx.currentTime where
  thread thread ht hown hview :=
    (h.seen hl (.thread thread) ht ((Authorization.isAllowedToViewThread_iff thread).2 ⟨hview, .inl hown⟩)).2
  message message hm hown hview hthread :=
    (h.seen hl (.message message) hm ((Authorization.isAllowedToViewMessage_iff message).2
      ⟨⟨hview, .inl hown⟩, hthread.isAllowedToViewThread⟩)).1.2
  attachment message hm attachment ha hown hseen hview := by
    have hwrites : SerializationRestriction.writes ⟨anonymousUser, ctx.currentTime⟩ s (.attachment attachment message) := by
      unfold SerializationRestriction.writes
      rw [Bool.and_eq_true, Bool.and_eq_true, Bool.or_eq_true, isAllowedToViewAttachment_iff]
      exact ⟨⟨hseen.isAllowedToViewMessage, hview⟩, .inr (.inl hown)⟩
    exact (h.seen hl (.attachment attachment message) ⟨hm, ha⟩ hwrites).2
  threadCreator thread ht hown hseen detail :=
    (h.seen hl (.threadCreator thread detail) ht
      (Bool.and_eq_true_iff.2 ⟨hseen.isAllowedToViewThread, (writesDetail_iff _ _).2 (.inl hown)⟩)).2
  messageCreator message hm hown hseen hview detail :=
    (h.seen hl (.messageCreator message detail) hm (Bool.and_eq_true_iff.2
      ⟨Bool.and_eq_true_iff.2 ⟨hseen.isAllowedToViewMessage, hview⟩, (writesDetail_iff _ _).2 (.inl hown)⟩)).2
  attachmentCreator attachment ha hown detail :=
    (h.seen hl (.attachmentCreator attachment detail) ha (Bool.and_eq_true_iff.2
      ⟨(Authorization.canGetAttachment_iff attachment).2 (.inl hown), (writesDetail_iff _ _).2 (.inl hown)⟩)).2
  commentCreator comment hm hown hseen detail :=
    (h.seen hl (.commentCreator comment detail) hm
      (Bool.and_eq_true_iff.2 ⟨Bool.or_eq_true_iff.2 hseen, (writesDetail_iff _ _).2 (.inl hown)⟩)).2
  getAttachment attachment ha hown := by
    have hsame := congrArg Prod.fst (h.authorize unthrottled (.canGetAttachment attachment) ha)
    have hget : DefaultAuthorization.canGetAttachment s ctx.currentTime anonymousUser attachment := by
      rw [Authorization.canGetAttachment_iff]
      rcases hown with hown | ⟨message, hm, hown⟩
      · exact .inl hown
      · exact .inr (.inr ⟨message, hm, .inl hown⟩)
    rw [← AttachmentSeen_recreate (c := registered s),
      ← (privilegesDecide_registered hl).canGetAttachment_iff hl.recreate ha]
    exact (AuthorizationStatus.ofBool_inj.1 hsame).2 hget
  changeAttachmentName attachment ha hcreated := by
    have hsame := congrArg Prod.fst (h.authorize unthrottled (.changeAttachmentName attachment) ha)
    simp only [DefaultAuthorization.authorize, unlessThrottled_disabled] at hsame
    rw [if_neg (ne_attachmentCreatedBy_registered ha), if_pos hcreated.symm,
      DefaultAuthorization.isAllowed_recreate] at hsame
    exact (AuthorizationStatus.ofBool_inj.1 hsame).symm
  deleteAttachment attachment ha hcreated := by
    have hsame := congrArg Prod.fst (h.authorize unthrottled (.deleteAttachment attachment) ha)
    simp only [DefaultAuthorization.authorize, unlessThrottled_disabled] at hsame
    rw [if_neg (ne_attachmentCreatedBy_registered ha), if_pos hcreated.symm,
      DefaultAuthorization.isAllowed_recreate] at hsame
    exact (AuthorizationStatus.ofBool_inj.1 hsame).symm
  addAttachment attachment ha hcreated message hm hmay := by
    have hsame := congrArg Prod.fst
      (h.authorize unthrottled (.addAttachmentToDiscussionThreadMessage attachment message) ⟨ha, hm⟩)
    simp only [DefaultAuthorization.authorize] at hsame
    rw [if_pos (ne_attachmentCreatedBy_registered ha), if_neg (not_not.2 hcreated.symm)] at hsame
    exact nomatch hsame.trans (if_pos hmay)
  removeAttachment attachment ha hcreated message hm hmay := by
    have hsame := congrArg Prod.fst
      (h.authorize unthrottled (.removeAttachmentFromDiscussionThreadMessage attachment message) ⟨ha, hm⟩)
    simp only [DefaultAuthorization.authorize, unlessThrottled_disabled] at hsame
    have hremove := AuthorizationStatus.ofBool_inj.1 hsame
    unfold DefaultAuthorization.canRemoveAttachment at hremove
    simp only [Bool.or_eq_true, Bool.and_eq_true, decide_eq_true_eq, DefaultAuthorization.isAllowed_recreate] at hremove
    exact (hremove.2 (.inr ⟨hcreated.symm, hmay⟩)).resolve_right fun hown =>
      ne_attachmentCreatedBy_registered ha hown.1
  privateMessage message hm := by
    have hsame := congrArg Prod.fst (h.authorize unthrottled (.deletePrivateMessage message) hm)
    have hother : ¬(anonymousUser = (s.recreate (registered s)).privateMessageSource message ∨
        anonymousUser = (s.recreate (registered s)).privateMessageDestination message) := by
      rintro (heq | heq)
      · exact registered_ne hm heq.symm
      · exact registered_ne hm heq.symm
    simp only [DefaultAuthorization.authorize] at hsame
    rw [if_neg hother] at hsame
    constructor
    · intro hsource
      rw [if_pos (.inl hsource.symm)] at hsame
      cases hsame
    · intro hdestination
      rw [if_pos (.inr hdestination.symm)] at hsame
      cases hsame

end

/-- Visitors own nothing in a store of a run exactly if a privilege decides wherever they pass for the creator. -/
theorem ownsNothing_iff {s : PrivilegedCollection} {ctx : Context} (hs : Reachable anyOperation s.toEntityCollection) :
    OwnsNothing s ctx ↔ PrivilegesDecide s ctx.currentTime := by
  have hl := linked_of_reachable hs
  constructor
  · exact fun h => .of_sameAnswers hl (h _ (registered_replaces s))
  · exact fun h c hc => h.sameAnswers hl hc

/-- Unapproved content is seen with level `1` only. -/
def hidesUnapproved : RequiredPrivileges where
  forumWide :=
    { discussionThreadMessagePrivileges := fun
        | .viewUnapproved => some 1
        | _ => none
      discussionThreadPrivileges := fun
        | .viewUnapproved => some 1
        | _ => none }

/-- A registered user adds a thread and a message, neither of them approved, and a visitor a thread and a message that
are. -/
def contentOfUser : List (Context × Operation) :=
  [({ currentUserId := 0, currentTime := 1 }, .addNewUser 1 { sortKey := [1] } "auth"),
    ({ currentUserId := 1, currentTime := 2 }, .addNewDiscussionThread 2 { sortKey := [2] } false),
    ({ currentUserId := 1, currentTime := 3 }, .addNewDiscussionMessageInThread 3 2 false (.text "message")),
    ({ currentUserId := 0, currentTime := 4 }, .addNewDiscussionThread 4 { sortKey := [4] } true),
    ({ currentUserId := 0, currentTime := 5 }, .addNewDiscussionMessageInThread 5 4 true (.text "message"))]

set_option maxRecDepth 2000 in
theorem ownsNothing_contentOfUser :
    OwnsNothing { run contentOfUser .empty with required := hidesUnapproved } ⟨0, 6, ""⟩ := by
  refine (ownsNothing_iff (Reachable.empty.run contentOfUser (by decide +kernel))).2 ?_
  have hmessages : ∀ message ∈ (run contentOfUser .empty).allMessages,
      (run contentOfUser .empty).messageCreatedBy message = 0 →
        ((run contentOfUser .empty).message message).approved = true := by
    decide +kernel
  have hthreads : ∀ thread ∈ (run contentOfUser .empty).allThreads,
      (run contentOfUser .empty).threadCreatedBy thread = 0 →
        ((run contentOfUser .empty).thread thread).approved = true := by
    decide +kernel
  have hdetails : ∀ detail, DetailSeen { run contentOfUser .empty with required := hidesUnapproved } 6 detail := by
    intro detail
    show DefaultAuthorization.isAllowed _ _ _ _ = true
    cases detail <;> decide +kernel
  have hattachments : (run contentOfUser .empty).allAttachments = ∅ := by decide +kernel
  have hattached : ∀ message ∈ (run contentOfUser .empty).allMessages,
      (run contentOfUser .empty).messageAttachments message = ∅ := by
    decide +kernel
  have hprivate : (run contentOfUser .empty).allPrivateMessages = ∅ := by decide +kernel
  constructor
  · exact fun thread ht hown _ => .inl (hthreads thread ht hown)
  · exact fun message hm hown _ _ => .inl (hmessages message hm hown)
  · exact fun message hm attachment ha => absurd (hattached message hm ▸ ha) (Finset.notMem_empty _)
  · exact fun _ _ _ _ => hdetails
  · exact fun _ _ _ _ _ => hdetails
  · exact fun _ _ _ => hdetails
  · exact fun _ _ _ _ => hdetails
  · exact fun attachment ha => absurd (hattachments ▸ ha) (Finset.notMem_empty _)
  · exact fun attachment ha => absurd (hattachments ▸ ha) (Finset.notMem_empty _)
  · exact fun attachment ha => absurd (hattachments ▸ ha) (Finset.notMem_empty _)
  · exact fun attachment ha => absurd (hattachments ▸ ha) (Finset.notMem_empty _)
  · exact fun attachment ha => absurd (hattachments ▸ ha) (Finset.notMem_empty _)
  · exact fun message hm => absurd (hprivate ▸ hm) (Finset.notMem_empty _)

/-- A visitor adds a thread that is not approved. -/
def contentOfVisitor : List (Context × Operation) :=
  [({ currentUserId := 0, currentTime := 1 }, .addNewDiscussionThread 1 { sortKey := [1] } false)]

/-- Every visitor sees that thread, as its creator. -/
theorem not_ownsNothing_contentOfVisitor :
    ¬∀ (s : PrivilegedCollection) (ctx : Context), Reachable anyOperation s.toEntityCollection → OwnsNothing s ctx := by
  intro h
  have hrun := h { run contentOfVisitor .empty with required := hidesUnapproved } ⟨0, 2, ""⟩
    (Reachable.empty.run contentOfVisitor (by decide +kernel))
  have hsame := (hrun _ (registered_replaces _)).writes (.thread 1)
    (show 1 ∈ (run contentOfVisitor .empty).allThreads by decide +kernel)
  exact absurd hsame (by decide +kernel)

end Forum.Authorization
