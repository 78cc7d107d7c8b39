import Mathlib.Algebra.Order.Group.Unbundled.Int
import Forum.Authorization.GrantedPrivilegeStore
import Forum.Authorization.Throttling

/-!
# Default authorization

`DefaultAuthorization`: who may do what. Most questions come down to a privilege, of the entity they are
about or forum wide, asked for once the user has not been throttled. Some depend on who created an entity,
which is told by comparing ids, and some on what another user was granted.

Asking may count as an action of the user, so an answer comes with the authorization it leaves.
-/

namespace Forum.Authorization

open Forum.Library Forum.Entities

/-- The entity collection with the privileges required and granted. -/
structure PrivilegedCollection extends EntityCollection where
  required : RequiredPrivileges := {}
  granted : GrantedPrivilegeStore := {}

/-- `GrantedPrivilegeStore::isAllowed` for the store as it is. -/
def PrivilegedCollection.isAllowed (s : PrivilegedCollection) (user : IdType) (query : PrivilegeQuery)
    (now : Timestamp) : PrivilegeValueType :=
  s.granted.isAllowed s.required s.toStore (threadTagsInOrder s.toStore) user now query

/-- `AuthorizationStatus`. -/
inductive AuthorizationStatus
  | ok | notAllowed | throttled
  deriving DecidableEq

/-- `OK` or `NOT_ALLOWED`. -/
def AuthorizationStatus.ofBool (allowed : Bool) : AuthorizationStatus := if allowed then .ok else .notAllowed

/-- `DefaultAuthorization`. -/
structure DefaultAuthorization where
  disableThrottling : Bool := false
  throttling : DefaultThrottling
  /-- The address a text stands for. -/
  ipAddress : String → IpAddress := fun _ => {}

/-- The questions repositories ask, one for each method of the interfaces. -/
inductive AuthorizationQuestion
  | getUsers
  | getUserById (user : IdType)
  | getUserByName (user : IdType)
  | addNewUser
  | changeUserName (user : IdType)
  | changeUserInfo (user : IdType)
  | changeUserTitle (user : IdType)
  | changeUserSignature (user : IdType)
  | changeUserAttachmentQuota (user : IdType)
  | changeUserLogo (user : IdType)
  | deleteUserLogo (user : IdType)
  | deleteUser (user : IdType)
  | sendPrivateMessage (destinationUser : IdType)
  | deletePrivateMessage (message : IdType)
  | getDiscussionThreadRequiredPrivileges (thread : IdType)
  | getDiscussionThreadAssignedPrivileges (thread : IdType)
  | getDiscussionThreads
  | getDiscussionThreadById (thread : IdType)
  | getDiscussionThreadSubscribedUsers (thread : IdType)
  | getDiscussionThreadsOfUser (user : IdType)
  | getSubscribedDiscussionThreadsOfUser (user : IdType)
  | getDiscussionThreadsWithTag (tag : IdType)
  | getDiscussionThreadsOfCategory (category : IdType)
  | getAllowDiscussionThreadPrivilegeChange (thread : IdType)
  | addNewDiscussionThread
  | changeDiscussionThreadName (thread : IdType)
  | changeDiscussionThreadPinDisplayOrder (thread : IdType)
  | changeDiscussionThreadApproval (thread : IdType)
  | autoApproveDiscussionThread
  | deleteDiscussionThread (thread : IdType)
  | mergeDiscussionThreads (fromThread into : IdType)
  | subscribeToDiscussionThread (thread : IdType)
  | unsubscribeFromDiscussionThread (thread : IdType)
  | getDiscussionThreadMessageRequiredPrivileges (message : IdType)
  | getDiscussionThreadMessageAssignedPrivileges (message : IdType)
  | getDiscussionThreadMessageById (message : IdType)
  | getAllowDiscussionThreadMessagePrivilegeChange (message : IdType)
  | getDiscussionThreadMessagesOfUserByCreated (user : IdType)
  | getDiscussionThreadMessageRank (message : IdType)
  | getMessageComments
  | getMessageCommentsOfDiscussionThreadMessage (message : IdType)
  | getMessageCommentsOfUser (user : IdType)
  | addNewDiscussionMessageInThread (thread : IdType)
  | autoApproveDiscussionMessageInThread (thread : IdType)
  | deleteDiscussionMessage (message : IdType)
  | changeDiscussionThreadMessageContent (message : IdType)
  | changeDiscussionThreadMessageApproval (message : IdType)
  | moveDiscussionThreadMessage (message intoThread : IdType)
  | upVoteDiscussionThreadMessage (message : IdType)
  | downVoteDiscussionThreadMessage (message : IdType)
  | resetVoteDiscussionThreadMessage (message : IdType)
  | addCommentToDiscussionThreadMessage (message : IdType)
  | setMessageCommentToSolved (comment : IdType)
  | getDiscussionTagRequiredPrivileges (tag : IdType)
  | getDiscussionTagAssignedPrivileges (tag : IdType)
  | getDiscussionTagById (tag : IdType)
  | getDiscussionTags
  | getAllowDiscussionTagPrivilegeChange (tag : IdType)
  | addNewDiscussionTag
  | changeDiscussionTagName (tag : IdType)
  | changeDiscussionTagUiBlob (tag : IdType)
  | deleteDiscussionTag (tag : IdType)
  | addDiscussionTagToThread (tag thread : IdType)
  | removeDiscussionTagFromThread (tag thread : IdType)
  | mergeDiscussionTags (fromTag into : IdType)
  | getDiscussionCategoryRequiredPrivileges (category : IdType)
  | getDiscussionCategoryAssignedPrivileges (category : IdType)
  | getDiscussionCategoryById (category : IdType)
  | getDiscussionCategories
  | getDiscussionCategoriesFromRoot
  | getAllowDiscussionCategoryPrivilegeChange (category : IdType)
  | addNewDiscussionCategory
  | changeDiscussionCategoryName (category : IdType)
  | changeDiscussionCategoryDescription (category : IdType)
  | changeDiscussionCategoryParent (category : IdType)
  | changeDiscussionCategoryDisplayOrder (category : IdType)
  | deleteDiscussionCategory (category : IdType)
  | addDiscussionTagToCategory (tag category : IdType)
  | removeDiscussionTagFromCategory (tag category : IdType)
  | getAttachments
  | getAttachmentsOfUser (user : IdType)
  | canGetAttachment (attachment : IdType)
  | canAddAttachment
  | addNewAttachment
  | autoApproveAttachment
  | changeAttachmentName (attachment : IdType)
  | changeAttachmentApproval (attachment : IdType)
  | deleteAttachment (attachment : IdType)
  | addAttachmentToDiscussionThreadMessage (attachment message : IdType)
  | removeAttachmentFromDiscussionThreadMessage (attachment message : IdType)
  | getEntitiesCount
  | getVersion
  /-- The `update` methods: to change the value required for what the query names. -/
  | updatePrivilege (query : PrivilegeQuery) (oldValue : PrivilegeValueType) (newValue : PrivilegeValueIntType)
  | updateForumWideDefaultPrivilegeLevel (privilege : ForumWideDefaultPrivilegeDuration)
      (newValue : PrivilegeValueIntType) (newDuration : PrivilegeDurationIntType)
  | assignDiscussionThreadMessagePrivilege (message targetUser : IdType) (newValue : PrivilegeValueIntType)
  | assignDiscussionThreadPrivilege (thread targetUser : IdType) (newValue : PrivilegeValueIntType)
  | assignDiscussionTagPrivilege (tag targetUser : IdType) (newValue : PrivilegeValueIntType)
  | assignDiscussionCategoryPrivilege (category targetUser : IdType) (newValue : PrivilegeValueIntType)
  | assignForumWidePrivilege (targetUser : IdType) (newValue : PrivilegeValueIntType)
  | getForumWideRequiredPrivileges
  | getForumWideAssignedPrivileges
  | getUserAssignedPrivileges (targetUser : IdType)
  | getAllowForumWidePrivilegeChange

/-! ### Adjusting privileges -/

/-- The privilege to adjust privileges where the query asks for one. -/
def PrivilegeQuery.adjustPrivilege : PrivilegeQuery → PrivilegeQuery
  | .message id _ => .message id .adjustPrivilege
  | .threadMessages id _ => .threadMessages id .adjustPrivilege
  | .tagMessages id _ => .tagMessages id .adjustPrivilege
  | .thread id _ => .thread id .adjustPrivilege
  | .tagThreads id _ => .tagThreads id .adjustPrivilege
  | .tag id _ => .tag id .adjustPrivilege
  | .category id _ => .category id .adjustPrivilege
  | .forumWideMessages _ => .forumWideMessages .adjustPrivilege
  | .forumWideThreads _ => .forumWideThreads .adjustPrivilege
  | .forumWideTags _ => .forumWideTags .adjustPrivilege
  | .forumWideCategories _ => .forumWideCategories .adjustPrivilege
  | .forumWide _ => .forumWide .adjustForumWidePrivilege

/-- `allowPrivilegeUpdate`: the values are compared as `int`. -/
def allowPrivilegeUpdate (oldValue : PrivilegeValueType) (newValue : PrivilegeValueIntType)
    (currentPermissions : PrivilegeValueType) : Bool :=
  let currentPermissionsValue := (optionalOrZero currentPermissions).toInt
  (oldValue.all fun oldValue => |oldValue.toInt| ≤ currentPermissionsValue) ∧ |newValue.toInt| ≤ currentPermissionsValue

/-- `allowPrivilegeAssignment`: the values are compared as `int`. -/
def allowPrivilegeAssignment (oldValue : PrivilegeValueType) (newValue : PrivilegeValueIntType)
    (currentPermissions : PrivilegeValueType) : Bool :=
  let currentPermissionsValue := (optionalOrZero currentPermissions).toInt
  (oldValue.all fun oldValue => |oldValue.toInt| < currentPermissionsValue) ∧ |newValue.toInt| < currentPermissionsValue

/-- `absValue` of a 16-bit number. -/
def absValue (value : PrivilegeValueIntType) : PrivilegeValueIntType := if value < 0 then -value else value

/-- `computeOldValueForAssigningPrivileges`: the positive value is never missing when the negative one is
there. -/
def computeOldValueForAssigningPrivileges (old : PrivilegeValues) : PrivilegeValueType :=
  match old.negativeValue with
  | none => old.positiveValue
  | some negative => some (max (optionalOrZero old.positiveValue) (absValue negative))

/-! ### Answers -/

namespace DefaultAuthorization

section

variable (s : PrivilegedCollection) (now : Timestamp) (currentUser : IdType)

/-- `isAllowed`: may the user do what the query asks? -/
def isAllowed (query : PrivilegeQuery) : Bool := (s.isAllowed currentUser query now).isSome

/-- `isAllowed` with a target user: the performer needs more than what the target was granted forum wide. -/
def isAllowedOver (privilege : ForumWidePrivilege) (targetUser : IdType) : Bool :=
  (s.isAllowed currentUser (.forumWide privilege) now).any fun value =>
    optionalOrZero (s.granted.calculateForumWidePrivilege s.toStore targetUser now {}).positiveValue < value

/-- `checkMessageAllowViewApproval`. -/
def checkMessageAllowViewApproval (message : IdType) : Bool :=
  (s.message message).approved ||
    (decide (s.messageCreatedBy message = currentUser) || isAllowed s now currentUser (.message message .viewUnapproved))

/-- `checkThreadAllowViewApproval`. -/
def checkThreadAllowViewApproval (thread : IdType) : Bool :=
  (s.thread thread).approved ||
    (decide (s.threadCreatedBy thread = currentUser) || isAllowed s now currentUser (.thread thread .viewUnapproved))

/-- `isAllowedToViewThread`. -/
def isAllowedToViewThread (thread : IdType) : Bool :=
  isAllowed s now currentUser (.thread thread .view) && checkThreadAllowViewApproval s now currentUser thread

/-- `isAllowedToViewMessage`. -/
def isAllowedToViewMessage (message : IdType) : Bool :=
  isAllowed s now currentUser (.message message .view) && checkMessageAllowViewApproval s now currentUser message &&
    isAllowedToViewThread s now currentUser (s.messageParentThread message)

/-- `canGetAttachment`: the creator of a message may get what is attached to it. -/
def canGetAttachment (attachment : IdType) : Bool :=
  decide (currentUser = s.attachmentCreatedBy attachment) ||
    isAllowed s now currentUser (.forumWide .getAllAttachments) ||
    isAllowed s now currentUser (.forumWide .getAttachmentsOfUser) ||
    (ascending (s.attachmentMessages attachment)).any fun message =>
      decide (currentUser = s.messageCreatedBy message) ||
        isAllowed s now currentUser (.message message .viewAttachment) &&
          ((s.attachment attachment).approved ||
            isAllowed s now currentUser (.message message .viewUnapprovedAttachment)) &&
          isAllowedToViewMessage s now currentUser message

/-- `removeAttachmentFromDiscussionThreadMessage`, once not throttled. -/
def canRemoveAttachment (attachment message : IdType) : Bool :=
  isAllowed s now currentUser (.message message .removeAttachment) ||
    isAllowed s now currentUser (.forumWide .deleteAnyAttachment) ||
    decide (currentUser = s.attachmentCreatedBy attachment) &&
      isAllowed s now currentUser (.forumWide .deleteOwnAttachment)

/-- The `assign` methods: no one assigns privileges to itself, and whoever does so must be above both the old
and the new value. -/
def allowAssignment (adjust : PrivilegeQuery) (old : PrivilegeValues) (newValue : PrivilegeValueIntType) : Bool :=
  let currentPermissions := s.isAllowed currentUser adjust now
  currentPermissions.isSome &&
    allowPrivilegeAssignment (computeOldValueForAssigningPrivileges old) newValue currentPermissions

end

variable (a : DefaultAuthorization) (s : PrivilegedCollection) (ctx : Context) (currentUser : IdType)

/-- `isThrottled`: the call is counted unless throttling is disabled or does not concern the user. -/
def isThrottled (action : UserActionThrottling) : Bool × DefaultAuthorization :=
  if a.disableThrottling || isAllowed s ctx.currentTime currentUser (.forumWide .noThrottling) then (false, a)
  else
    let result := a.throttling.check ⟨action, ctx.currentTime, currentUser, a.ipAddress ctx.currentUserIpAddress⟩
    (result.1, { a with throttling := result.2 })

/-- `THROTTLED`, or else the given answer. -/
def unlessThrottled (action : UserActionThrottling) (answer : AuthorizationStatus) :
    AuthorizationStatus × DefaultAuthorization :=
  let result := a.isThrottled s ctx currentUser action
  (if result.1 then .throttled else answer, result.2)

/-- Answer a question of a user. -/
def authorize (question : AuthorizationQuestion) : AuthorizationStatus × DefaultAuthorization :=
  let now := ctx.currentTime
  let allow query := AuthorizationStatus.ofBool (isAllowed s now currentUser query)
  let allowBoth query query' :=
    AuthorizationStatus.ofBool (isAllowed s now currentUser query && isAllowed s now currentUser query')
  let allowOver privilege user := AuthorizationStatus.ofBool (isAllowedOver s now currentUser privilege user)
  let ownOrAny user own any := if currentUser = user then allow (.forumWide own) else allowOver any user
  let vote message privilege :=
    if currentUser = s.messageCreatedBy message ∨ isAnonymousUserId currentUser then (.notAllowed, a)
    else a.unlessThrottled s ctx currentUser .vote (allow (.message message privilege))
  let subscribe thread privilege :=
    if isAnonymousUserId currentUser then (.notAllowed, a)
    else a.unlessThrottled s ctx currentUser .subscribe (allow (.thread thread privilege))
  let add answer := a.unlessThrottled s ctx currentUser .newContent answer
  let edit answer := a.unlessThrottled s ctx currentUser .editContent answer
  let adjust answer := a.unlessThrottled s ctx currentUser .editPrivileges answer
  let assign targetUser query old newValue :=
    if currentUser = targetUser then (.notAllowed, a)
    else adjust (.ofBool (allowAssignment s now currentUser query old newValue))
  match question with
  | .getUsers => (allow (.forumWide .getAllUsers), a)
  | .getUserById _ | .getUserByName _ => (.ok, a)
  | .addNewUser => add (allow (.forumWide .addUser))
  | .changeUserName user => edit (ownOrAny user .changeOwnUserName .changeAnyUserName)
  | .changeUserInfo user => edit (ownOrAny user .changeOwnUserInfo .changeAnyUserInfo)
  | .changeUserTitle user => edit (ownOrAny user .changeOwnUserTitle .changeAnyUserTitle)
  | .changeUserSignature user => edit (ownOrAny user .changeOwnUserSignature .changeAnyUserSignature)
  | .changeUserAttachmentQuota user => edit (allowOver .changeUserAttachmentQuota user)
  | .changeUserLogo user => edit (ownOrAny user .changeOwnUserLogo .changeAnyUserLogo)
  | .deleteUserLogo user => edit (ownOrAny user .deleteOwnUserLogo .deleteAnyUserLogo)
  | .deleteUser user => edit (allowOver .deleteAnyUser user)
  | .sendPrivateMessage destinationUser =>
    add (if currentUser = destinationUser then .notAllowed else allow (.forumWide .sendPrivateMessage))
  | .deletePrivateMessage message =>
    if currentUser = s.privateMessageSource message ∨ currentUser = s.privateMessageDestination message then (.ok, a)
    else (.throttled, a)
  | .getDiscussionThreadRequiredPrivileges thread => (allow (.thread thread .viewRequiredPrivileges), a)
  | .getDiscussionThreadAssignedPrivileges thread => (allow (.thread thread .viewAssignedPrivileges), a)
  | .getDiscussionThreads => (allow (.forumWide .getAllDiscussionThreads), a)
  | .getDiscussionThreadById thread => (allow (.thread thread .view), a)
  | .getDiscussionThreadSubscribedUsers thread => (allow (.thread thread .getSubscribedUsers), a)
  | .getDiscussionThreadsOfUser user =>
    (if currentUser = user then .ok else allow (.forumWide .getDiscussionThreadsOfUser), a)
  | .getSubscribedDiscussionThreadsOfUser user =>
    (if currentUser = user then .ok else allow (.forumWide .getSubscribedDiscussionThreadsOfUser), a)
  | .getDiscussionThreadsWithTag tag => (allow (.tag tag .getDiscussionThreads), a)
  | .getDiscussionThreadsOfCategory category => (allow (.category category .getDiscussionThreads), a)
  | .getAllowDiscussionThreadPrivilegeChange thread => (allow (.thread thread .adjustPrivilege), a)
  | .addNewDiscussionThread => add (allow (.forumWide .addDiscussionThread))
  | .changeDiscussionThreadName thread => edit (allow (.thread thread .changeName))
  | .changeDiscussionThreadPinDisplayOrder thread => edit (allow (.thread thread .changePinDisplayOrder))
  | .changeDiscussionThreadApproval thread => edit (allow (.thread thread .changeApproval))
  | .autoApproveDiscussionThread => (allow (.forumWide .autoApproveDiscussionThread), a)
  | .deleteDiscussionThread thread => edit (allow (.thread thread .delete))
  | .mergeDiscussionThreads fromThread into => edit (allowBoth (.thread fromThread .merge) (.thread into .merge))
  | .subscribeToDiscussionThread thread => subscribe thread .subscribe
  | .unsubscribeFromDiscussionThread thread => subscribe thread .unsubscribe
  | .getDiscussionThreadMessageRequiredPrivileges message => (allow (.message message .viewRequiredPrivileges), a)
  | .getDiscussionThreadMessageAssignedPrivileges message => (allow (.message message .viewAssignedPrivileges), a)
  | .getDiscussionThreadMessageById message => (allow (.message message .view), a)
  | .getAllowDiscussionThreadMessagePrivilegeChange message => (allow (.message message .adjustPrivilege), a)
  | .getDiscussionThreadMessagesOfUserByCreated _ => (allow (.forumWide .getDiscussionThreadMessagesOfUser), a)
  | .getDiscussionThreadMessageRank message => (allow (.message message .view), a)
  | .getMessageComments => (allow (.forumWide .getAllMessageComments), a)
  | .getMessageCommentsOfDiscussionThreadMessage message => (allow (.message message .getMessageComments), a)
  | .getMessageCommentsOfUser _ => (allow (.forumWide .getMessageCommentsOfUser), a)
  | .addNewDiscussionMessageInThread thread =>
    -- the first message of a thread comes with the thread
    if s.threadMessages thread = ∅ then (allow (.thread thread .addMessage), a)
    else add (allow (.thread thread .addMessage))
  | .autoApproveDiscussionMessageInThread thread => (allow (.thread thread .autoApproveMessage), a)
  | .deleteDiscussionMessage message => edit (allow (.message message .delete))
  | .changeDiscussionThreadMessageContent message => edit (allow (.message message .changeContent))
  | .changeDiscussionThreadMessageApproval message => edit (allow (.message message .changeApproval))
  | .moveDiscussionThreadMessage message _ => edit (allow (.message message .move))
  | .upVoteDiscussionThreadMessage message => vote message .upVote
  | .downVoteDiscussionThreadMessage message => vote message .downVote
  | .resetVoteDiscussionThreadMessage message => vote message .resetVote
  | .addCommentToDiscussionThreadMessage message => add (allow (.message message .addComment))
  | .setMessageCommentToSolved comment => edit (allow (.message (s.commentParentMessage comment) .setCommentToSolved))
  | .getDiscussionTagRequiredPrivileges tag => (allow (.tag tag .viewRequiredPrivileges), a)
  | .getDiscussionTagAssignedPrivileges tag => (allow (.tag tag .viewAssignedPrivileges), a)
  | .getDiscussionTagById tag => (allow (.tag tag .view), a)
  | .getDiscussionTags => (allow (.forumWide .getAllDiscussionTags), a)
  | .getAllowDiscussionTagPrivilegeChange tag => (allow (.tag tag .adjustPrivilege), a)
  | .addNewDiscussionTag => add (allow (.forumWide .addDiscussionTag))
  | .changeDiscussionTagName tag => edit (allow (.tag tag .changeName))
  | .changeDiscussionTagUiBlob tag => edit (allow (.tag tag .changeUiblob))
  | .deleteDiscussionTag tag => edit (allow (.tag tag .delete))
  | .addDiscussionTagToThread tag thread =>
    if s.threadMessages thread = ∅ then (allowBoth (.tag tag .view) (.thread thread .addTag), a)
    else edit (allowBoth (.tag tag .view) (.thread thread .addTag))
  | .removeDiscussionTagFromThread tag thread => edit (allowBoth (.tag tag .view) (.thread thread .removeTag))
  | .mergeDiscussionTags fromTag into => edit (allowBoth (.tag fromTag .merge) (.tag into .merge))
  | .getDiscussionCategoryRequiredPrivileges category => (allow (.category category .viewRequiredPrivileges), a)
  | .getDiscussionCategoryAssignedPrivileges category => (allow (.category category .viewAssignedPrivileges), a)
  | .getDiscussionCategoryById category => (allow (.category category .view), a)
  | .getDiscussionCategories => (allow (.forumWide .getAllDiscussionCategories), a)
  | .getDiscussionCategoriesFromRoot => (allow (.forumWide .getDiscussionCategoriesFromRoot), a)
  | .getAllowDiscussionCategoryPrivilegeChange category => (allow (.category category .adjustPrivilege), a)
  | .addNewDiscussionCategory => add (allow (.forumWide .addDiscussionCategory))
  | .changeDiscussionCategoryName category => edit (allow (.category category .changeName))
  | .changeDiscussionCategoryDescription category => edit (allow (.category category .changeDescription))
  | .changeDiscussionCategoryParent category => edit (allow (.category category .changeParent))
  | .changeDiscussionCategoryDisplayOrder category => edit (allow (.category category .changeDisplayorder))
  | .deleteDiscussionCategory category => edit (allow (.category category .delete))
  | .addDiscussionTagToCategory tag category => edit (allowBoth (.tag tag .view) (.category category .addTag))
  | .removeDiscussionTagFromCategory tag category => edit (allowBoth (.tag tag .view) (.category category .removeTag))
  | .getAttachments => (allow (.forumWide .getAllAttachments), a)
  | .getAttachmentsOfUser user => (if currentUser = user then .ok else allow (.forumWide .getAttachmentsOfUser), a)
  | .canGetAttachment attachment => (.ofBool (canGetAttachment s now currentUser attachment), a)
  | .canAddAttachment | .addNewAttachment => add (allow (.forumWide .createAttachment))
  | .autoApproveAttachment => (allow (.forumWide .autoApproveAttachment), a)
  | .changeAttachmentName attachment =>
    edit (if currentUser = s.attachmentCreatedBy attachment then allow (.forumWide .changeOwnAttachmentName)
      else allow (.forumWide .changeAnyAttachmentName))
  | .changeAttachmentApproval _ => edit (allow (.forumWide .changeAnyAttachmentApproval))
  | .deleteAttachment attachment =>
    edit (if currentUser = s.attachmentCreatedBy attachment then allow (.forumWide .deleteOwnAttachment)
      else allow (.forumWide .deleteAnyAttachment))
  | .addAttachmentToDiscussionThreadMessage attachment message =>
    (if currentUser ≠ s.attachmentCreatedBy attachment then .notAllowed else allow (.message message .addAttachment), a)
  | .removeAttachmentFromDiscussionThreadMessage attachment message =>
    edit (.ofBool (canRemoveAttachment s now currentUser attachment message))
  | .getEntitiesCount => (allow (.forumWide .getEntitiesCount), a)
  | .getVersion => (allow (.forumWide .getVersion), a)
  | .updatePrivilege query oldValue newValue =>
    let currentPermissions := s.isAllowed currentUser query.adjustPrivilege now
    adjust (.ofBool (currentPermissions.isSome && allowPrivilegeUpdate oldValue newValue currentPermissions))
  | .updateForumWideDefaultPrivilegeLevel _ _ _ =>
    -- neither the value nor the duration is looked at
    adjust (allow (.forumWide .adjustForumWidePrivilege))
  | .assignDiscussionThreadMessagePrivilege message targetUser newValue =>
    assign targetUser (.message message .adjustPrivilege)
      (s.granted.calculateDiscussionThreadMessagePrivilege s.toStore targetUser now message {}) newValue
  | .assignDiscussionThreadPrivilege thread targetUser newValue =>
    assign targetUser (.thread thread .adjustPrivilege)
      (s.granted.calculateDiscussionThreadPrivilege s.toStore targetUser now thread {}) newValue
  | .assignDiscussionTagPrivilege tag targetUser newValue =>
    assign targetUser (.tag tag .adjustPrivilege)
      (s.granted.calculateDiscussionTagPrivilege s.toStore targetUser now tag {}) newValue
  | .assignDiscussionCategoryPrivilege category targetUser newValue =>
    assign targetUser (.category category .adjustPrivilege)
      (s.granted.calculateDiscussionCategoryPrivilege s.toStore targetUser now category {}) newValue
  | .assignForumWidePrivilege targetUser newValue =>
    assign targetUser (.forumWide .adjustForumWidePrivilege)
      (s.granted.calculateForumWidePrivilege s.toStore targetUser now {}) newValue
  | .getForumWideRequiredPrivileges => (allow (.forumWide .viewForumWideRequiredPrivileges), a)
  | .getForumWideAssignedPrivileges => (allow (.forumWide .viewForumWideAssignedPrivileges), a)
  | .getUserAssignedPrivileges targetUser =>
    (if currentUser = targetUser then .ok else allow (.forumWide .viewUserAssignedPrivileges), a)
  | .getAllowForumWidePrivilegeChange => (allow (.forumWide .adjustForumWidePrivilege), a)

end DefaultAuthorization

end Forum.Authorization
