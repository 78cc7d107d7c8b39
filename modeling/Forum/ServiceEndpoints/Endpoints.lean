import Forum.Http.HttpConnection
import Forum.Http.HttpRouter
import Forum.ServiceEndpoints.CommandHandler

/-!
# Endpoints

What each method of the endpoints hands to the command handler: the parts of the path behind the route and the body of
the request, in an order of its own, with its command or view. The methods for whole collections choose the view by the
order that a query asks for. Then the routes they are registered under.

`serve_spec`: whatever the path, the query and the body are, the longest route is run, no handler reads a parameter that
its endpoint did not hand to it, and a `GET` request is answered by a view.
-/

namespace Forum.ServiceEndpoints

open Library Http Commands

/-! ### Endpoints -/

/-- What a command handler is called for. -/
inductive Call
  | command (c : Command)
  | view (v : Commands.View)
  deriving DecidableEq, Repr

/-- The handler that a call executes. -/
def Call.handler : Call → Handler
  | .command c => c.handler
  | .view v => v.handler

/-- A parameter that is pushed. -/
inductive Parameter
  | extraPathPart (i : ℕ)
  | requestBody
  deriving DecidableEq, Repr

/-- A method of an endpoint: the parameters, the command or view, and the views for the orders that a query may ask for.
-/
structure Endpoint where
  parameters : List Parameter
  call : Call
  orders : List (String × String × Commands.View)
  deriving DecidableEq

/-- A request with the header buffer that its views show. -/
structure ReceivedRequest where
  request : HttpRequest
  headerBuffer : List UInt8

namespace ReceivedRequest

/-- The bytes of the path. -/
def path (r : ReceivedRequest) : List UInt8 := r.request.path.bytes r.headerBuffer

/-- The bytes of the query pairs. -/
def queryPairs (r : ReceivedRequest) : List (List UInt8 × List UInt8) :=
  r.request.queryPairs.map fun pair => (pair.1.bytes r.headerBuffer, pair.2.bytes r.headerBuffer)

end ReceivedRequest

/-- `getPointerToEntireRequestBody`. -/
def getPointerToEntireRequestBody (request : HttpRequest) : List UInt8 :=
  match request.requestContentBuffers with
  | [] => []
  | [buffer] => buffer
  | buffers => buffers.foldl (fun currentRequestContent buffer => currentRequestContent ++ buffer) []

namespace Endpoint

/-- What is pushed. Parts that the path does not have are empty. -/
def pushed (endpoint : Endpoint) (extraPathParts : List (List UInt8)) (request : HttpRequest) : List (List UInt8) :=
  endpoint.parameters.map fun
    | .extraPathPart i => extraPathParts.getD i []
    | .requestBody => getPointerToEntireRequestBody request

/-- The loop over the query pairs. -/
def chosen (endpoint : Endpoint) (queryPairs : List (List UInt8 × List UInt8)) : Call :=
  queryPairs.foldl (fun call pair =>
    if matchStringUpperOrLower pair.1 "orderby" "ORDERBY" then
      match endpoint.orders.find? fun order => matchStringUpperOrLower pair.2 order.1 order.2.1 with
      | some order => .view order.2.2
      | none => call
    else call) endpoint.call

/-- What it may call the command handler for. -/
def calls (endpoint : Endpoint) : List Call := endpoint.call :: endpoint.orders.map fun order => .view order.2.2

end Endpoint

namespace MetricsEndpoint

def getVersion : Endpoint := ⟨[], .view .SHOW_VERSION, []⟩

end MetricsEndpoint

namespace StatisticsEndpoint

def getEntitiesCount : Endpoint := ⟨[], .view .COUNT_ENTITIES, []⟩

end StatisticsEndpoint

namespace UsersEndpoint

def getAll : Endpoint := ⟨[], .view .GET_USERS_BY_NAME, [
  ("created", "CREATED", .GET_USERS_BY_CREATED),
  ("lastseen", "LASTSEEN", .GET_USERS_BY_LAST_SEEN),
  ("threadcount", "THREADCOUNT", .GET_USERS_BY_THREAD_COUNT),
  ("messagecount", "MESSAGECOUNT", .GET_USERS_BY_MESSAGE_COUNT)]⟩

def getCurrent : Endpoint := ⟨[], .view .GET_CURRENT_USER, []⟩

def getOnline : Endpoint := ⟨[], .view .GET_USERS_ONLINE, []⟩

def getUserById : Endpoint := ⟨[.extraPathPart 0], .view .GET_USER_BY_ID, []⟩

def getUserByName : Endpoint := ⟨[.extraPathPart 0], .view .GET_USER_BY_NAME, []⟩

def getMultipleUsersById : Endpoint := ⟨[.extraPathPart 0], .view .GET_MULTIPLE_USERS_BY_ID, []⟩

def getMultipleUsersByName : Endpoint := ⟨[.extraPathPart 0], .view .GET_MULTIPLE_USERS_BY_NAME, []⟩

def searchUsersByName : Endpoint := ⟨[.extraPathPart 0], .view .SEARCH_USERS_BY_NAME, []⟩

def getUserLogo : Endpoint := ⟨[.extraPathPart 0], .view .GET_USER_LOGO, []⟩

def getUserVoteHistory : Endpoint := ⟨[], .view .GET_USER_VOTE_HISTORY, []⟩

def getUserQuotedHistory : Endpoint := ⟨[], .view .GET_USER_QUOTED_HISTORY, []⟩

def getUsersSubscribedToThread : Endpoint := ⟨[.extraPathPart 0], .view .GET_USERS_SUBSCRIBED_TO_DISCUSSION_THREAD, []⟩

def add : Endpoint := ⟨[.requestBody], .command .ADD_USER, []⟩

def remove : Endpoint := ⟨[.extraPathPart 0], .command .DELETE_USER, []⟩

def changeName : Endpoint := ⟨[.extraPathPart 0, .requestBody], .command .CHANGE_USER_NAME, []⟩

def changeInfo : Endpoint := ⟨[.extraPathPart 0, .requestBody], .command .CHANGE_USER_INFO, []⟩

def changeTitle : Endpoint := ⟨[.extraPathPart 0, .requestBody], .command .CHANGE_USER_TITLE, []⟩

def changeSignature : Endpoint := ⟨[.extraPathPart 0, .requestBody], .command .CHANGE_USER_SIGNATURE, []⟩

def changeAttachmentQuota : Endpoint :=
  ⟨[.extraPathPart 0, .extraPathPart 1], .command .CHANGE_USER_ATTACHMENT_QUOTA, []⟩

def changeLogo : Endpoint := ⟨[.extraPathPart 0, .requestBody], .command .CHANGE_USER_LOGO, []⟩

def deleteLogo : Endpoint := ⟨[.extraPathPart 0], .command .DELETE_USER_LOGO, []⟩

def getReceivedPrivateMessages : Endpoint := ⟨[], .view .GET_USER_RECEIVED_PRIVATE_MESSAGES, []⟩

def getSentPrivateMessages : Endpoint := ⟨[], .view .GET_USER_SENT_PRIVATE_MESSAGES, []⟩

def sendPrivateMessage : Endpoint := ⟨[.extraPathPart 0, .requestBody], .command .SEND_PRIVATE_MESSAGE, []⟩

def deletePrivateMessage : Endpoint := ⟨[.extraPathPart 0], .command .DELETE_PRIVATE_MESSAGE, []⟩

end UsersEndpoint

namespace DiscussionThreadsEndpoint

def getAll : Endpoint := ⟨[], .view .GET_DISCUSSION_THREADS_BY_NAME, [
  ("created", "CREATED", .GET_DISCUSSION_THREADS_BY_CREATED),
  ("lastupdated", "LASTUPDATED", .GET_DISCUSSION_THREADS_BY_LAST_UPDATED),
  ("latestmessagecreated", "LATESTMESSAGECREATED", .GET_DISCUSSION_THREADS_BY_LATEST_MESSAGE_CREATED),
  ("messagecount", "MESSAGECOUNT", .GET_DISCUSSION_THREADS_BY_MESSAGE_COUNT)]⟩

def getThreadById : Endpoint := ⟨[.extraPathPart 0], .view .GET_DISCUSSION_THREAD_BY_ID, []⟩

def getMultipleThreadsById : Endpoint := ⟨[.extraPathPart 0], .view .GET_MULTIPLE_DISCUSSION_THREADS_BY_ID, []⟩

def getThreadsOfUser : Endpoint := ⟨[.extraPathPart 0], .view .GET_DISCUSSION_THREADS_OF_USER_BY_NAME, [
  ("created", "CREATED", .GET_DISCUSSION_THREADS_OF_USER_BY_CREATED),
  ("lastupdated", "LASTUPDATED", .GET_DISCUSSION_THREADS_OF_USER_BY_LAST_UPDATED),
  ("latestmessagecreated", "LATESTMESSAGECREATED", .GET_DISCUSSION_THREADS_OF_USER_BY_LATEST_MESSAGE_CREATED),
  ("messagecount", "MESSAGECOUNT", .GET_DISCUSSION_THREADS_OF_USER_BY_MESSAGE_COUNT)]⟩

def getThreadsWithTag : Endpoint := ⟨[.extraPathPart 0], .view .GET_DISCUSSION_THREADS_WITH_TAG_BY_NAME, [
  ("created", "CREATED", .GET_DISCUSSION_THREADS_WITH_TAG_BY_CREATED),
  ("lastupdated", "LASTUPDATED", .GET_DISCUSSION_THREADS_WITH_TAG_BY_LAST_UPDATED),
  ("latestmessagecreated", "LATESTMESSAGECREATED", .GET_DISCUSSION_THREADS_WITH_TAG_BY_LATEST_MESSAGE_CREATED),
  ("messagecount", "MESSAGECOUNT", .GET_DISCUSSION_THREADS_WITH_TAG_BY_MESSAGE_COUNT)]⟩

def getThreadsOfCategory : Endpoint := ⟨[.extraPathPart 0], .view .GET_DISCUSSION_THREADS_OF_CATEGORY_BY_NAME, [
  ("created", "CREATED", .GET_DISCUSSION_THREADS_OF_CATEGORY_BY_CREATED),
  ("lastupdated", "LASTUPDATED", .GET_DISCUSSION_THREADS_OF_CATEGORY_BY_LAST_UPDATED),
  ("latestmessagecreated", "LATESTMESSAGECREATED", .GET_DISCUSSION_THREADS_OF_CATEGORY_BY_LATEST_MESSAGE_CREATED),
  ("messagecount", "MESSAGECOUNT", .GET_DISCUSSION_THREADS_OF_CATEGORY_BY_MESSAGE_COUNT)]⟩

def searchThreadsByName : Endpoint := ⟨[.extraPathPart 0], .view .SEARCH_DISCUSSION_THREADS_BY_NAME, []⟩

def getSubscribedThreadsOfUser : Endpoint :=
  ⟨[.extraPathPart 0], .view .GET_SUBSCRIBED_DISCUSSION_THREADS_OF_USER_BY_NAME, [
  ("created", "CREATED", .GET_SUBSCRIBED_DISCUSSION_THREADS_OF_USER_BY_CREATED),
  ("lastupdated", "LASTUPDATED", .GET_SUBSCRIBED_DISCUSSION_THREADS_OF_USER_BY_LAST_UPDATED),
  ("latestmessagecreated", "LATESTMESSAGECREATED", .GET_SUBSCRIBED_DISCUSSION_THREADS_OF_USER_BY_LATEST_MESSAGE_CREATED),
  ("messagecount", "MESSAGECOUNT", .GET_SUBSCRIBED_DISCUSSION_THREADS_OF_USER_BY_MESSAGE_COUNT)]⟩

def add : Endpoint := ⟨[.requestBody], .command .ADD_DISCUSSION_THREAD, []⟩

def remove : Endpoint := ⟨[.extraPathPart 0], .command .DELETE_DISCUSSION_THREAD, []⟩

def changeName : Endpoint := ⟨[.extraPathPart 0, .requestBody], .command .CHANGE_DISCUSSION_THREAD_NAME, []⟩

def changePinDisplayOrder : Endpoint :=
  ⟨[.extraPathPart 0, .requestBody], .command .CHANGE_DISCUSSION_THREAD_PIN_DISPLAY_ORDER, []⟩

def changeApproval : Endpoint := ⟨[.extraPathPart 0, .extraPathPart 1], .command .CHANGE_DISCUSSION_THREAD_APPROVAL, []⟩

def merge : Endpoint := ⟨[.extraPathPart 0, .extraPathPart 1], .command .MERGE_DISCUSSION_THREADS, []⟩

def subscribe : Endpoint := ⟨[.extraPathPart 0], .command .SUBSCRIBE_TO_THREAD, []⟩

def unsubscribe : Endpoint := ⟨[.extraPathPart 0], .command .UNSUBSCRIBE_FROM_THREAD, []⟩

def addTag : Endpoint := ⟨[.extraPathPart 1, .extraPathPart 0], .command .ADD_DISCUSSION_TAG_TO_THREAD, []⟩

def removeTag : Endpoint := ⟨[.extraPathPart 1, .extraPathPart 0], .command .REMOVE_DISCUSSION_TAG_FROM_THREAD, []⟩

end DiscussionThreadsEndpoint

namespace DiscussionThreadMessagesEndpoint

def getMultipleThreadMessagesById : Endpoint :=
  ⟨[.extraPathPart 0], .view .GET_MULTIPLE_DISCUSSION_THREAD_MESSAGES_BY_ID, []⟩

def getThreadMessagesOfUser : Endpoint :=
  ⟨[.extraPathPart 0], .view .GET_DISCUSSION_THREAD_MESSAGES_OF_USER_BY_CREATED, []⟩

def getLatestThreadMessages : Endpoint := ⟨[], .view .GET_LATEST_DISCUSSION_THREAD_MESSAGES, []⟩

def getRankOfMessage : Endpoint := ⟨[.extraPathPart 0], .view .GET_DISCUSSION_THREAD_MESSAGE_RANK, []⟩

def getAllComments : Endpoint := ⟨[], .view .GET_MESSAGE_COMMENTS, []⟩

def getCommentsOfMessage : Endpoint :=
  ⟨[.extraPathPart 0], .view .GET_MESSAGE_COMMENTS_OF_DISCUSSION_THREAD_MESSAGE, []⟩

def getCommentsOfUser : Endpoint := ⟨[.extraPathPart 0], .view .GET_MESSAGE_COMMENTS_OF_USER, []⟩

def add : Endpoint := ⟨[.extraPathPart 0, .requestBody], .command .ADD_DISCUSSION_THREAD_MESSAGE, []⟩

def remove : Endpoint := ⟨[.extraPathPart 0], .command .DELETE_DISCUSSION_THREAD_MESSAGE, []⟩

def changeContent : Endpoint :=
  ⟨[.extraPathPart 0, .requestBody, .extraPathPart 1], .command .CHANGE_DISCUSSION_THREAD_MESSAGE_CONTENT, []⟩

def changeApproval : Endpoint :=
  ⟨[.extraPathPart 0, .extraPathPart 1], .command .CHANGE_DISCUSSION_THREAD_MESSAGE_APPROVAL, []⟩

def move : Endpoint := ⟨[.extraPathPart 0, .extraPathPart 1], .command .MOVE_DISCUSSION_THREAD_MESSAGE, []⟩

def upVote : Endpoint := ⟨[.extraPathPart 0], .command .UP_VOTE_DISCUSSION_THREAD_MESSAGE, []⟩

def downVote : Endpoint := ⟨[.extraPathPart 0], .command .DOWN_VOTE_DISCUSSION_THREAD_MESSAGE, []⟩

def resetVote : Endpoint := ⟨[.extraPathPart 0], .command .RESET_VOTE_DISCUSSION_THREAD_MESSAGE, []⟩

def addComment : Endpoint := ⟨[.extraPathPart 0, .requestBody], .command .ADD_COMMENT_TO_DISCUSSION_THREAD_MESSAGE, []⟩

def setCommentSolved : Endpoint := ⟨[.extraPathPart 0], .command .SET_MESSAGE_COMMENT_SOLVED, []⟩

end DiscussionThreadMessagesEndpoint

namespace DiscussionTagsEndpoint

def getAll : Endpoint := ⟨[], .view .GET_DISCUSSION_TAGS_BY_NAME, [
  ("threadcount", "THREADCOUNT", .GET_DISCUSSION_TAGS_BY_THREAD_COUNT),
  ("messagecount", "MESSAGECOUNT", .GET_DISCUSSION_TAGS_BY_MESSAGE_COUNT)]⟩

def add : Endpoint := ⟨[.requestBody], .command .ADD_DISCUSSION_TAG, []⟩

def remove : Endpoint := ⟨[.extraPathPart 0], .command .DELETE_DISCUSSION_TAG, []⟩

def changeName : Endpoint := ⟨[.extraPathPart 0, .requestBody], .command .CHANGE_DISCUSSION_TAG_NAME, []⟩

def changeUiBlob : Endpoint := ⟨[.extraPathPart 0, .requestBody], .command .CHANGE_DISCUSSION_TAG_UI_BLOB, []⟩

def merge : Endpoint := ⟨[.extraPathPart 0, .extraPathPart 1], .command .MERGE_DISCUSSION_TAG_INTO_OTHER_TAG, []⟩

end DiscussionTagsEndpoint

namespace DiscussionCategoriesEndpoint

def getAll : Endpoint := ⟨[], .view .GET_DISCUSSION_CATEGORIES_BY_NAME, [
  ("messagecount", "MESSAGECOUNT", .GET_DISCUSSION_CATEGORIES_BY_MESSAGE_COUNT)]⟩

def getRootCategories : Endpoint := ⟨[], .view .GET_DISCUSSION_CATEGORIES_FROM_ROOT, []⟩

def getCategoryById : Endpoint := ⟨[.extraPathPart 0], .view .GET_DISCUSSION_CATEGORY_BY_ID, []⟩

def add : Endpoint := ⟨[.requestBody, .extraPathPart 0], .command .ADD_DISCUSSION_CATEGORY, []⟩

def remove : Endpoint := ⟨[.extraPathPart 0], .command .DELETE_DISCUSSION_CATEGORY, []⟩

def changeName : Endpoint := ⟨[.extraPathPart 0, .requestBody], .command .CHANGE_DISCUSSION_CATEGORY_NAME, []⟩

def changeDescription : Endpoint :=
  ⟨[.extraPathPart 0, .requestBody], .command .CHANGE_DISCUSSION_CATEGORY_DESCRIPTION, []⟩

def changeParent : Endpoint := ⟨[.extraPathPart 0, .requestBody], .command .CHANGE_DISCUSSION_CATEGORY_PARENT, []⟩

def changeDisplayOrder : Endpoint :=
  ⟨[.extraPathPart 0, .requestBody], .command .CHANGE_DISCUSSION_CATEGORY_DISPLAY_ORDER, []⟩

def addTag : Endpoint := ⟨[.extraPathPart 1, .extraPathPart 0], .command .ADD_DISCUSSION_TAG_TO_CATEGORY, []⟩

def removeTag : Endpoint := ⟨[.extraPathPart 1, .extraPathPart 0], .command .REMOVE_DISCUSSION_TAG_FROM_CATEGORY, []⟩

end DiscussionCategoriesEndpoint

namespace AttachmentsEndpoint

def getAll : Endpoint := ⟨[], .view .GET_ATTACHMENTS_BY_CREATED, [
  ("name", "NAME", .GET_ATTACHMENTS_BY_NAME),
  ("size", "SIZE", .GET_ATTACHMENTS_BY_SIZE),
  ("approval", "APPROVAL", .GET_ATTACHMENTS_BY_APPROVAL)]⟩

def getOfUser : Endpoint := ⟨[.extraPathPart 0], .view .GET_ATTACHMENTS_OF_USER_BY_CREATED, [
  ("name", "NAME", .GET_ATTACHMENTS_OF_USER_BY_NAME),
  ("size", "SIZE", .GET_ATTACHMENTS_OF_USER_BY_SIZE),
  ("approval", "APPROVAL", .GET_ATTACHMENTS_OF_USER_BY_APPROVAL)]⟩

def canGet : Endpoint := ⟨[.extraPathPart 0], .view .CAN_GET_ATTACHMENT, []⟩

def get : Endpoint := ⟨[.extraPathPart 0], .view .GET_ATTACHMENT, []⟩

def add : Endpoint := ⟨[.extraPathPart 0, .extraPathPart 1], .command .ADD_ATTACHMENT, []⟩

def canAdd : Endpoint := ⟨[], .view .CAN_ADD_ATTACHMENT, []⟩

def remove : Endpoint := ⟨[.extraPathPart 0], .command .DELETE_ATTACHMENT, []⟩

def changeName : Endpoint := ⟨[.extraPathPart 0, .extraPathPart 1], .command .CHANGE_ATTACHMENT_NAME, []⟩

def changeApproval : Endpoint := ⟨[.extraPathPart 0, .extraPathPart 1], .command .CHANGE_ATTACHMENT_APPROVAL, []⟩

def addToMessage : Endpoint :=
  ⟨[.extraPathPart 0, .extraPathPart 1], .command .ADD_ATTACHMENT_TO_DISCUSSION_THREAD_MESSAGE, []⟩

def removeFromMessage : Endpoint :=
  ⟨[.extraPathPart 0, .extraPathPart 1], .command .REMOVE_ATTACHMENT_FROM_DISCUSSION_THREAD_MESSAGE, []⟩

end AttachmentsEndpoint

namespace AuthorizationEndpoint

def getRequiredPrivilegesForThreadMessage : Endpoint :=
  ⟨[.extraPathPart 0], .view .GET_REQUIRED_PRIVILEGES_FOR_THREAD_MESSAGE, []⟩

def getAssignedPrivilegesForThreadMessage : Endpoint :=
  ⟨[.extraPathPart 0], .view .GET_ASSIGNED_PRIVILEGES_FOR_THREAD_MESSAGE, []⟩

def getRequiredPrivilegesForThread : Endpoint := ⟨[.extraPathPart 0], .view .GET_REQUIRED_PRIVILEGES_FOR_THREAD, []⟩

def getAssignedPrivilegesForThread : Endpoint := ⟨[.extraPathPart 0], .view .GET_ASSIGNED_PRIVILEGES_FOR_THREAD, []⟩

def getRequiredPrivilegesForTag : Endpoint := ⟨[.extraPathPart 0], .view .GET_REQUIRED_PRIVILEGES_FOR_TAG, []⟩

def getAssignedPrivilegesForTag : Endpoint := ⟨[.extraPathPart 0], .view .GET_ASSIGNED_PRIVILEGES_FOR_TAG, []⟩

def getRequiredPrivilegesForCategory : Endpoint := ⟨[.extraPathPart 0], .view .GET_REQUIRED_PRIVILEGES_FOR_CATEGORY, []⟩

def getAssignedPrivilegesForCategory : Endpoint := ⟨[.extraPathPart 0], .view .GET_ASSIGNED_PRIVILEGES_FOR_CATEGORY, []⟩

def getForumWideCurrentUserPrivileges : Endpoint := ⟨[], .view .GET_FORUM_WIDE_CURRENT_USER_PRIVILEGES, []⟩

def getForumWideRequiredPrivileges : Endpoint := ⟨[], .view .GET_FORUM_WIDE_REQUIRED_PRIVILEGES, []⟩

def getForumWideDefaultPrivilegeLevels : Endpoint := ⟨[], .view .GET_FORUM_WIDE_DEFAULT_PRIVILEGE_LEVELS, []⟩

def getForumWideAssignedPrivileges : Endpoint := ⟨[], .view .GET_FORUM_WIDE_ASSIGNED_PRIVILEGES, []⟩

def getAssignedPrivilegesForUser : Endpoint := ⟨[.extraPathPart 0], .view .GET_ASSIGNED_PRIVILEGES_FOR_USER, []⟩

def changeDiscussionThreadMessageRequiredPrivilegeForThreadMessage : Endpoint :=
  ⟨[.extraPathPart 0, .extraPathPart 1, .extraPathPart 2],
    .command .CHANGE_DISCUSSION_THREAD_MESSAGE_REQUIRED_PRIVILEGE_FOR_THREAD_MESSAGE, []⟩

def changeDiscussionThreadMessageRequiredPrivilegeForThread : Endpoint :=
  ⟨[.extraPathPart 0, .extraPathPart 1, .extraPathPart 2],
    .command .CHANGE_DISCUSSION_THREAD_MESSAGE_REQUIRED_PRIVILEGE_FOR_THREAD, []⟩

def changeDiscussionThreadRequiredPrivilegeForThread : Endpoint :=
  ⟨[.extraPathPart 0, .extraPathPart 1, .extraPathPart 2],
    .command .CHANGE_DISCUSSION_THREAD_REQUIRED_PRIVILEGE_FOR_THREAD, []⟩

def changeDiscussionThreadMessageRequiredPrivilegeForTag : Endpoint :=
  ⟨[.extraPathPart 0, .extraPathPart 1, .extraPathPart 2],
    .command .CHANGE_DISCUSSION_THREAD_MESSAGE_REQUIRED_PRIVILEGE_FOR_TAG, []⟩

def changeDiscussionThreadRequiredPrivilegeForTag : Endpoint :=
  ⟨[.extraPathPart 0, .extraPathPart 1, .extraPathPart 2],
    .command .CHANGE_DISCUSSION_THREAD_REQUIRED_PRIVILEGE_FOR_TAG, []⟩

def changeDiscussionTagRequiredPrivilegeForTag : Endpoint :=
  ⟨[.extraPathPart 0, .extraPathPart 1, .extraPathPart 2],
    .command .CHANGE_DISCUSSION_TAG_REQUIRED_PRIVILEGE_FOR_TAG, []⟩

def changeDiscussionCategoryRequiredPrivilegeForCategory : Endpoint :=
  ⟨[.extraPathPart 0, .extraPathPart 1, .extraPathPart 2],
    .command .CHANGE_DISCUSSION_CATEGORY_REQUIRED_PRIVILEGE_FOR_CATEGORY, []⟩

def changeDiscussionThreadMessageRequiredPrivilege : Endpoint :=
  ⟨[.extraPathPart 0, .extraPathPart 1], .command .CHANGE_DISCUSSION_THREAD_MESSAGE_REQUIRED_PRIVILEGE, []⟩

def changeDiscussionThreadRequiredPrivilege : Endpoint :=
  ⟨[.extraPathPart 0, .extraPathPart 1], .command .CHANGE_DISCUSSION_THREAD_REQUIRED_PRIVILEGE, []⟩

def changeDiscussionTagRequiredPrivilege : Endpoint :=
  ⟨[.extraPathPart 0, .extraPathPart 1], .command .CHANGE_DISCUSSION_TAG_REQUIRED_PRIVILEGE, []⟩

def changeDiscussionCategoryRequiredPrivilege : Endpoint :=
  ⟨[.extraPathPart 0, .extraPathPart 1], .command .CHANGE_DISCUSSION_CATEGORY_REQUIRED_PRIVILEGE, []⟩

def changeForumWideRequiredPrivilege : Endpoint :=
  ⟨[.extraPathPart 0, .extraPathPart 1], .command .CHANGE_FORUM_WIDE_REQUIRED_PRIVILEGE, []⟩

def changeForumWideDefaultPrivilegeLevel : Endpoint :=
  ⟨[.extraPathPart 0, .extraPathPart 1, .extraPathPart 2], .command .CHANGE_FORUM_WIDE_DEFAULT_PRIVILEGE_LEVEL, []⟩

def assignDiscussionThreadMessagePrivilege : Endpoint :=
  ⟨[.extraPathPart 0, .extraPathPart 1, .extraPathPart 2, .extraPathPart 3],
    .command .ASSIGN_DISCUSSION_THREAD_MESSAGE_PRIVILEGE, []⟩

def assignDiscussionThreadPrivilege : Endpoint :=
  ⟨[.extraPathPart 0, .extraPathPart 1, .extraPathPart 2, .extraPathPart 3],
    .command .ASSIGN_DISCUSSION_THREAD_PRIVILEGE, []⟩

def assignDiscussionTagPrivilege : Endpoint :=
  ⟨[.extraPathPart 0, .extraPathPart 1, .extraPathPart 2, .extraPathPart 3],
    .command .ASSIGN_DISCUSSION_TAG_PRIVILEGE, []⟩

def assignDiscussionCategoryPrivilege : Endpoint :=
  ⟨[.extraPathPart 0, .extraPathPart 1, .extraPathPart 2, .extraPathPart 3],
    .command .ASSIGN_DISCUSSION_CATEGORY_PRIVILEGE, []⟩

def assignForumWidePrivilege : Endpoint :=
  ⟨[.extraPathPart 0, .extraPathPart 1, .extraPathPart 2], .command .ASSIGN_FORUM_WIDE_PRIVILEGE, []⟩

end AuthorizationEndpoint

/-! ### Routes -/

/-- The routes that `registerRoutes` adds, in its order. -/
def routes : List (Route Endpoint) :=
  [⟨asciiBytes "metrics/version", .GET, MetricsEndpoint.getVersion⟩,
   ⟨asciiBytes "statistics/entitycount", .GET, StatisticsEndpoint.getEntitiesCount⟩,
   ⟨asciiBytes "users", .GET, UsersEndpoint.getAll⟩,
   ⟨asciiBytes "users/current", .GET, UsersEndpoint.getCurrent⟩,
   ⟨asciiBytes "users/online", .GET, UsersEndpoint.getOnline⟩,
   ⟨asciiBytes "users/id", .GET, UsersEndpoint.getUserById⟩,
   ⟨asciiBytes "users/name", .GET, UsersEndpoint.getUserByName⟩,
   ⟨asciiBytes "users/multiple/ids", .GET, UsersEndpoint.getMultipleUsersById⟩,
   ⟨asciiBytes "users/multiple/names", .GET, UsersEndpoint.getMultipleUsersByName⟩,
   ⟨asciiBytes "users/search", .GET, UsersEndpoint.searchUsersByName⟩,
   ⟨asciiBytes "users", .POST, UsersEndpoint.add⟩,
   ⟨asciiBytes "users", .DELETE, UsersEndpoint.remove⟩,
   ⟨asciiBytes "users/name", .PUT, UsersEndpoint.changeName⟩,
   ⟨asciiBytes "users/info", .PUT, UsersEndpoint.changeInfo⟩,
   ⟨asciiBytes "users/title", .PUT, UsersEndpoint.changeTitle⟩,
   ⟨asciiBytes "users/signature", .PUT, UsersEndpoint.changeSignature⟩,
   ⟨asciiBytes "users/attachment_quota", .PUT, UsersEndpoint.changeAttachmentQuota⟩,
   ⟨asciiBytes "users/logo", .GET, UsersEndpoint.getUserLogo⟩,
   ⟨asciiBytes "users/logo", .PUT, UsersEndpoint.changeLogo⟩,
   ⟨asciiBytes "users/logo", .DELETE, UsersEndpoint.deleteLogo⟩,
   ⟨asciiBytes "users/votehistory", .GET, UsersEndpoint.getUserVoteHistory⟩,
   ⟨asciiBytes "users/quotedhistory", .GET, UsersEndpoint.getUserQuotedHistory⟩,
   ⟨asciiBytes "users/subscribed/thread", .GET, UsersEndpoint.getUsersSubscribedToThread⟩,
   ⟨asciiBytes "threads", .GET, DiscussionThreadsEndpoint.getAll⟩,
   ⟨asciiBytes "threads/id", .GET, DiscussionThreadsEndpoint.getThreadById⟩,
   ⟨asciiBytes "threads/multiple", .GET, DiscussionThreadsEndpoint.getMultipleThreadsById⟩,
   ⟨asciiBytes "threads/user", .GET, DiscussionThreadsEndpoint.getThreadsOfUser⟩,
   ⟨asciiBytes "threads/subscribed/user", .GET, DiscussionThreadsEndpoint.getSubscribedThreadsOfUser⟩,
   ⟨asciiBytes "threads/tag", .GET, DiscussionThreadsEndpoint.getThreadsWithTag⟩,
   ⟨asciiBytes "threads/category", .GET, DiscussionThreadsEndpoint.getThreadsOfCategory⟩,
   ⟨asciiBytes "threads/search", .GET, DiscussionThreadsEndpoint.searchThreadsByName⟩,
   ⟨asciiBytes "threads", .POST, DiscussionThreadsEndpoint.add⟩,
   ⟨asciiBytes "threads", .DELETE, DiscussionThreadsEndpoint.remove⟩,
   ⟨asciiBytes "threads/name", .PUT, DiscussionThreadsEndpoint.changeName⟩,
   ⟨asciiBytes "threads/pindisplayorder", .PUT, DiscussionThreadsEndpoint.changePinDisplayOrder⟩,
   ⟨asciiBytes "threads/approval", .PUT, DiscussionThreadsEndpoint.changeApproval⟩,
   ⟨asciiBytes "threads/merge", .POST, DiscussionThreadsEndpoint.merge⟩,
   ⟨asciiBytes "threads/subscribe", .POST, DiscussionThreadsEndpoint.subscribe⟩,
   ⟨asciiBytes "threads/unsubscribe", .POST, DiscussionThreadsEndpoint.unsubscribe⟩,
   ⟨asciiBytes "threads/tag", .POST, DiscussionThreadsEndpoint.addTag⟩,
   ⟨asciiBytes "threads/tag", .DELETE, DiscussionThreadsEndpoint.removeTag⟩,
   ⟨asciiBytes "thread_messages/multiple", .GET, DiscussionThreadMessagesEndpoint.getMultipleThreadMessagesById⟩,
   ⟨asciiBytes "thread_messages/user", .GET, DiscussionThreadMessagesEndpoint.getThreadMessagesOfUser⟩,
   ⟨asciiBytes "thread_messages/latest", .GET, DiscussionThreadMessagesEndpoint.getLatestThreadMessages⟩,
   ⟨asciiBytes "thread_messages/allcomments", .GET, DiscussionThreadMessagesEndpoint.getAllComments⟩,
   ⟨asciiBytes "thread_messages/comments", .GET, DiscussionThreadMessagesEndpoint.getCommentsOfMessage⟩,
   ⟨asciiBytes "thread_messages/comments/user", .GET, DiscussionThreadMessagesEndpoint.getCommentsOfUser⟩,
   ⟨asciiBytes "thread_messages/rank", .GET, DiscussionThreadMessagesEndpoint.getRankOfMessage⟩,
   ⟨asciiBytes "thread_messages", .POST, DiscussionThreadMessagesEndpoint.add⟩,
   ⟨asciiBytes "thread_messages", .DELETE, DiscussionThreadMessagesEndpoint.remove⟩,
   ⟨asciiBytes "thread_messages/content", .PUT, DiscussionThreadMessagesEndpoint.changeContent⟩,
   ⟨asciiBytes "thread_messages/approval", .PUT, DiscussionThreadMessagesEndpoint.changeApproval⟩,
   ⟨asciiBytes "thread_messages/move", .POST, DiscussionThreadMessagesEndpoint.move⟩,
   ⟨asciiBytes "thread_messages/upvote", .POST, DiscussionThreadMessagesEndpoint.upVote⟩,
   ⟨asciiBytes "thread_messages/downvote", .POST, DiscussionThreadMessagesEndpoint.downVote⟩,
   ⟨asciiBytes "thread_messages/resetvote", .POST, DiscussionThreadMessagesEndpoint.resetVote⟩,
   ⟨asciiBytes "thread_messages/comment", .POST, DiscussionThreadMessagesEndpoint.addComment⟩,
   ⟨asciiBytes "thread_messages/comment/solved", .PUT, DiscussionThreadMessagesEndpoint.setCommentSolved⟩,
   ⟨asciiBytes "private_messages/received", .GET, UsersEndpoint.getReceivedPrivateMessages⟩,
   ⟨asciiBytes "private_messages/sent", .GET, UsersEndpoint.getSentPrivateMessages⟩,
   ⟨asciiBytes "private_messages", .POST, UsersEndpoint.sendPrivateMessage⟩,
   ⟨asciiBytes "private_messages", .DELETE, UsersEndpoint.deletePrivateMessage⟩,
   ⟨asciiBytes "tags", .GET, DiscussionTagsEndpoint.getAll⟩,
   ⟨asciiBytes "tags", .POST, DiscussionTagsEndpoint.add⟩,
   ⟨asciiBytes "tags", .DELETE, DiscussionTagsEndpoint.remove⟩,
   ⟨asciiBytes "tags/name", .PUT, DiscussionTagsEndpoint.changeName⟩,
   ⟨asciiBytes "tags/uiblob", .PUT, DiscussionTagsEndpoint.changeUiBlob⟩,
   ⟨asciiBytes "tags/merge", .POST, DiscussionTagsEndpoint.merge⟩,
   ⟨asciiBytes "categories", .GET, DiscussionCategoriesEndpoint.getAll⟩,
   ⟨asciiBytes "categories/root", .GET, DiscussionCategoriesEndpoint.getRootCategories⟩,
   ⟨asciiBytes "category", .GET, DiscussionCategoriesEndpoint.getCategoryById⟩,
   ⟨asciiBytes "categories", .POST, DiscussionCategoriesEndpoint.add⟩,
   ⟨asciiBytes "categories", .DELETE, DiscussionCategoriesEndpoint.remove⟩,
   ⟨asciiBytes "categories/name", .PUT, DiscussionCategoriesEndpoint.changeName⟩,
   ⟨asciiBytes "categories/description", .PUT, DiscussionCategoriesEndpoint.changeDescription⟩,
   ⟨asciiBytes "categories/parent", .PUT, DiscussionCategoriesEndpoint.changeParent⟩,
   ⟨asciiBytes "categories/displayorder", .PUT, DiscussionCategoriesEndpoint.changeDisplayOrder⟩,
   ⟨asciiBytes "categories/tag", .POST, DiscussionCategoriesEndpoint.addTag⟩,
   ⟨asciiBytes "categories/tag", .DELETE, DiscussionCategoriesEndpoint.removeTag⟩,
   ⟨asciiBytes "attachments", .GET, AttachmentsEndpoint.getAll⟩,
   ⟨asciiBytes "attachments/user", .GET, AttachmentsEndpoint.getOfUser⟩,
   ⟨asciiBytes "attachments/try", .GET, AttachmentsEndpoint.canGet⟩,
   ⟨asciiBytes "attachment", .GET, AttachmentsEndpoint.get⟩,
   ⟨asciiBytes "attachments/can_add", .POST, AttachmentsEndpoint.canAdd⟩,
   ⟨asciiBytes "attachments", .POST, AttachmentsEndpoint.add⟩,
   ⟨asciiBytes "attachments", .DELETE, AttachmentsEndpoint.remove⟩,
   ⟨asciiBytes "attachments/name", .PUT, AttachmentsEndpoint.changeName⟩,
   ⟨asciiBytes "attachments/approval", .PUT, AttachmentsEndpoint.changeApproval⟩,
   ⟨asciiBytes "attachments/message", .POST, AttachmentsEndpoint.addToMessage⟩,
   ⟨asciiBytes "attachments/message", .DELETE, AttachmentsEndpoint.removeFromMessage⟩,
   ⟨asciiBytes "privileges/required/thread_message", .GET,
     AuthorizationEndpoint.getRequiredPrivilegesForThreadMessage⟩,
   ⟨asciiBytes "privileges/assigned/thread_message", .GET,
     AuthorizationEndpoint.getAssignedPrivilegesForThreadMessage⟩,
   ⟨asciiBytes "privileges/required/thread", .GET, AuthorizationEndpoint.getRequiredPrivilegesForThread⟩,
   ⟨asciiBytes "privileges/assigned/thread", .GET, AuthorizationEndpoint.getAssignedPrivilegesForThread⟩,
   ⟨asciiBytes "privileges/required/tag", .GET, AuthorizationEndpoint.getRequiredPrivilegesForTag⟩,
   ⟨asciiBytes "privileges/assigned/tag", .GET, AuthorizationEndpoint.getAssignedPrivilegesForTag⟩,
   ⟨asciiBytes "privileges/required/category", .GET, AuthorizationEndpoint.getRequiredPrivilegesForCategory⟩,
   ⟨asciiBytes "privileges/assigned/category", .GET, AuthorizationEndpoint.getAssignedPrivilegesForCategory⟩,
   ⟨asciiBytes "privileges/forum_wide/current_user", .GET, AuthorizationEndpoint.getForumWideCurrentUserPrivileges⟩,
   ⟨asciiBytes "privileges/required/forum_wide", .GET, AuthorizationEndpoint.getForumWideRequiredPrivileges⟩,
   ⟨asciiBytes "privileges/defaults/forum_wide", .GET, AuthorizationEndpoint.getForumWideDefaultPrivilegeLevels⟩,
   ⟨asciiBytes "privileges/assigned/forum_wide", .GET, AuthorizationEndpoint.getForumWideAssignedPrivileges⟩,
   ⟨asciiBytes "privileges/assigned/user", .GET, AuthorizationEndpoint.getAssignedPrivilegesForUser⟩,
   ⟨asciiBytes "privileges/thread_message/required/thread_message", .POST,
     AuthorizationEndpoint.changeDiscussionThreadMessageRequiredPrivilegeForThreadMessage⟩,
   ⟨asciiBytes "privileges/thread_message/required/thread", .POST,
     AuthorizationEndpoint.changeDiscussionThreadMessageRequiredPrivilegeForThread⟩,
   ⟨asciiBytes "privileges/thread/required/thread", .POST,
     AuthorizationEndpoint.changeDiscussionThreadRequiredPrivilegeForThread⟩,
   ⟨asciiBytes "privileges/thread_message/required/tag", .POST,
     AuthorizationEndpoint.changeDiscussionThreadMessageRequiredPrivilegeForTag⟩,
   ⟨asciiBytes "privileges/thread/required/tag", .POST,
     AuthorizationEndpoint.changeDiscussionThreadRequiredPrivilegeForTag⟩,
   ⟨asciiBytes "privileges/tag/required/tag", .POST,
     AuthorizationEndpoint.changeDiscussionTagRequiredPrivilegeForTag⟩,
   ⟨asciiBytes "privileges/category/required/category", .POST,
     AuthorizationEndpoint.changeDiscussionCategoryRequiredPrivilegeForCategory⟩,
   ⟨asciiBytes "privileges/thread_message/required/forum_wide", .POST,
     AuthorizationEndpoint.changeDiscussionThreadMessageRequiredPrivilege⟩,
   ⟨asciiBytes "privileges/thread/required/forum_wide", .POST,
     AuthorizationEndpoint.changeDiscussionThreadRequiredPrivilege⟩,
   ⟨asciiBytes "privileges/tag/required/forum_wide", .POST,
     AuthorizationEndpoint.changeDiscussionTagRequiredPrivilege⟩,
   ⟨asciiBytes "privileges/category/required/forum_wide", .POST,
     AuthorizationEndpoint.changeDiscussionCategoryRequiredPrivilege⟩,
   ⟨asciiBytes "privileges/forum_wide/required/forum_wide", .POST,
     AuthorizationEndpoint.changeForumWideRequiredPrivilege⟩,
   ⟨asciiBytes "privileges/forum_wide/defaults/forum_wide", .POST,
     AuthorizationEndpoint.changeForumWideDefaultPrivilegeLevel⟩,
   ⟨asciiBytes "privileges/thread_message/assign", .POST,
     AuthorizationEndpoint.assignDiscussionThreadMessagePrivilege⟩,
   ⟨asciiBytes "privileges/thread/assign", .POST, AuthorizationEndpoint.assignDiscussionThreadPrivilege⟩,
   ⟨asciiBytes "privileges/tag/assign", .POST, AuthorizationEndpoint.assignDiscussionTagPrivilege⟩,
   ⟨asciiBytes "privileges/category/assign", .POST, AuthorizationEndpoint.assignDiscussionCategoryPrivilege⟩,
   ⟨asciiBytes "privileges/forum_wide/assign", .POST, AuthorizationEndpoint.assignForumWidePrivilege⟩]

/-! ### Serving -/

/-- What comes of a request: nothing was found, or a handler was called and has read its parameters. -/
inductive Served
  | notFound
  | called (call : Call) (read : ParametersRead)
  deriving DecidableEq

/-- A request is forwarded to an endpoint, and the handler that this calls reads what was pushed. -/
def serve (r : ReceivedRequest) : Option Served :=
  ((HttpRouter.ofRoutes routes none).forward r.request.verb r.path).bind fun
    | .notFound => some .notFound
    | .handled endpoint extraPathParts =>
      let call := endpoint.chosen r.queryPairs
      (call.handler.read (endpoint.pushed extraPathParts r.request)).map (.called call)

/-- What is to come of a request: the longest route is run, its handler reads all that was pushed when it counts the
parameters exactly, and then none is empty; and under `GET` it is that of a view. -/
def IsServed (r : ReceivedRequest) : Served → Prop
  | .notFound => ∀ route, ¬ IsLongest routes r.request.verb r.path route
  | .called call read => ∃ route, IsLongest routes r.request.verb r.path route ∧ call ∈ route.handler.calls ∧
    (∀ values n, read = .values values → call.handler.check = .number n → (∀ value ∈ values, value ≠ []) ∧
      values = route.handler.pushed ((segments (r.path.drop (route.path.length + 1))).take 31) r.request) ∧
    (r.request.verb = .GET → ∃ v, call = .view v)

namespace Endpoint

theorem chosen_mem_calls (endpoint : Endpoint) (queryPairs : List (List UInt8 × List UInt8)) :
    endpoint.chosen queryPairs ∈ endpoint.calls := by
  unfold chosen
  induction queryPairs using List.reverseRecOn with
  | nil => exact List.mem_cons_self
  | append_singleton queryPairs pair ih =>
    rw [List.foldl_append, List.foldl_cons, List.foldl_nil]
    split_ifs
    · split
      next order horder =>
        exact List.mem_cons_of_mem _ (List.mem_map_of_mem (List.mem_of_find?_eq_some horder))
      · exact ih
    · exact ih

theorem length_pushed (endpoint : Endpoint) (extraPathParts : List (List UInt8)) (request : HttpRequest) :
    (endpoint.pushed extraPathParts request).length = endpoint.parameters.length := by
  unfold pushed
  rw [List.length_map]

end Endpoint

/-- The routes have these verbs and paths. -/
def WrittenAs (routes : List (Route Endpoint)) (keys : List (HttpVerb × List UInt8)) : Prop :=
  routes.map (fun route => (route.verb, route.path)) = keys

theorem WrittenAs.nil : WrittenAs [] [] := rfl

/-- The bytes of a path are read off its text as it is written. -/
theorem WrittenAs.cons {routes : List (Route Endpoint)} {keys : List (HttpVerb × List UInt8)} {text : List Char}
    {verb : HttpVerb} {handler : Endpoint} (h : WrittenAs routes keys) :
    WrittenAs (⟨asciiBytes (String.ofList text), verb, handler⟩ :: routes)
      ((verb, text.map fun c => UInt8.ofNat c.toNat) :: keys) := by
  unfold WrittenAs at h ⊢
  rw [List.map_cons, h, asciiBytes_ofList]

/-- A number for a verb and a path, to tell them apart. -/
def keyCode (key : HttpVerb × List UInt8) : ℕ := key.2.foldl (fun n c => 256 * n + c.toNat) key.1.ctorIdx

theorem exists_keys : ∃ keys, WrittenAs routes keys ∧ (keys.map keyCode).Nodup ∧
    ∀ key ∈ keys, key.2 ≠ [] ∧ key.2.length ≤ MaxRouteSize ∧ key.2.getLast? ≠ some 47 := by
  unfold routes
  apply Exists.intro
  constructor
  case h.left => repeat' first | exact WrittenAs.nil | apply WrittenAs.cons
  case h.right =>
    constructor
    · decide +kernel
    · decide +kernel

/-- The routes of a verb differ. They have characters, not too many, and do not end in a slash. -/
theorem routes_paths : (routes.Pairwise fun a b => a.verb = b.verb → a.path ≠ b.path) ∧
    ∀ route ∈ routes, route.path ≠ [] ∧ route.path.length ≤ MaxRouteSize ∧ route.path.getLast? ≠ some 47 := by
  obtain ⟨keys, hkeys, hcodes, hpaths⟩ := exists_keys
  have hnodup : (routes.map fun route => (route.verb, route.path)).Nodup := by
    rw [hkeys]
    exact (List.pairwise_map.1 hcodes).imp fun hne heq => hne (congrArg keyCode heq)
  refine ⟨(List.pairwise_map.1 hnodup).imp fun hne hverb hpath => hne (Prod.ext hverb hpath), fun route hroute => ?_⟩
  refine hpaths (route.verb, route.path) ?_
  rw [← hkeys]
  exact List.mem_map_of_mem hroute

/-- Each handler that an endpoint may call reads what the endpoint pushes. -/
theorem routes_fit :
    ∀ route ∈ routes, ∀ call ∈ route.handler.calls, call.handler.Fits route.handler.parameters.length = true := by
  decide +kernel

/-- Under `GET` there are views only. -/
theorem routes_get : ∀ route ∈ routes, route.verb = .GET → ∀ call ∈ route.handler.calls, ∃ v, call = .view v := by
  have hall : ∀ route ∈ routes, route.verb = .GET → ∀ call ∈ route.handler.calls,
      (match call with | .view _ => true | .command _ => false) = true := by decide +kernel
  intro route hroute hverb call hcall
  have hview := hall route hroute hverb call hcall
  cases call with
  | command c => cases hview
  | view v => exact ⟨v, rfl⟩

/-- The last character of a route is in the path in either case, and no slash. -/
theorem getElem?_registered {route path : List UInt8} (hne : route ≠ []) (hlast : route.getLast? ≠ some 47)
    (h : route <+: fullPath path) : ∃ c, path[route.length - 1]? = some c ∧ c ≠ 47 := by
  have hpos := List.length_pos_iff.2 hne
  obtain ⟨rest, hrest⟩ := h
  have hget : (fullPath path)[route.length - 1]? = route.getLast? := by
    rw [← hrest, List.getElem?_append_left (by omega), List.getLast?_eq_getElem?]
  obtain ⟨last, hsome⟩ : ∃ last, route.getLast? = some last := ⟨_, List.getLast?_eq_some_getLast hne⟩
  rw [hsome] at hget hlast
  have hlower : (path.map toLower)[route.length - 1]? = some last := by
    unfold fullPath at hget
    split_ifs at hget
    · exact hget
    · rw [List.getElem?_append] at hget
      split_ifs at hget with hlt
      · exact hget
      · -- the slash at the end of the path is no character of the route
        have hslash := List.mem_of_getElem? hget
        rw [List.mem_singleton] at hslash
        exact absurd (congrArg some hslash) hlast
  rw [List.getElem?_map] at hlower
  obtain ⟨c, hc, rfl⟩ := Option.map_eq_some_iff.1 hlower
  exact ⟨c, hc, fun hslash => hlast (congrArg some ((toLower_eq_slash c).2 hslash))⟩

/-- A path goes to the longest registered route that it begins with, with the parts behind the next character. -/
theorem forward_routes (verb : HttpVerb) {path : List UInt8} (hpath : path ≠ []) :
    (∃ route, IsLongest routes verb path route ∧ (HttpRouter.ofRoutes routes none).forward verb path =
      some (.handled route.handler ((segments (path.drop (route.path.length + 1))).take 31))) ∨
    (∀ route, ¬ IsLongest routes verb path route) ∧
      (HttpRouter.ofRoutes routes none).forward verb path = some .notFound := by
  have hroutes : ∀ route ∈ routes, route.path ≠ [] ∧ route.path.length ≤ MaxRouteSize := fun route hroute =>
    ⟨(routes_paths.2 route hroute).1, (routes_paths.2 route hroute).2.1⟩
  rcases HttpRouter.forward_longest none verb routes_paths.1 hroutes hpath with ⟨route, hlongest, hforward⟩ | hnone
  · refine Or.inl ⟨route, hlongest, ?_⟩
    obtain ⟨hne, -, hlast⟩ := routes_paths.2 route hlongest.1.1
    obtain ⟨c, hget, hc⟩ := getElem?_registered hne hlast hlongest.1.2.2
    rw [hforward, extractExtraPathParts_of_ne_slash (List.length_pos_iff.2 hne) hget hc, Option.map_some]
  · exact Or.inr hnone

/-- Whatever the path, the query and the body are, a request is served as it is to be, and no handler reads behind the
parameters that were pushed. -/
theorem serve_spec (r : ReceivedRequest) (hpath : r.path ≠ []) : ∃ served, serve r = some served ∧ IsServed r served := by
  unfold serve
  rcases forward_routes r.request.verb hpath with ⟨route, hlongest, hforward⟩ | ⟨hnone, hforward⟩
  · rw [hforward, Option.bind_some]
    dsimp only
    have hcall := route.handler.chosen_mem_calls r.queryPairs
    generalize route.handler.chosen r.queryPairs = call at hcall
    have hfits : call.handler.Fits
        (route.handler.pushed ((segments (r.path.drop (route.path.length + 1))).take 31) r.request).length = true := by
      rw [Endpoint.length_pushed]
      exact routes_fit route hlongest.1.1 call hcall
    obtain ⟨read, hread⟩ := Handler.read_of_fits hfits
    refine ⟨.called call read, by rw [hread, Option.map_some], route, hlongest, hcall, fun values n hvalues hcheck => ?_,
      fun hget => ?_⟩
    · rw [hvalues] at hread
      exact (Handler.read_of_number hfits hcheck hread).symm
    · exact routes_get route hlongest.1.1 (hlongest.1.2.1.trans hget) call hcall
  · exact ⟨.notFound, by rw [hforward, Option.bind_some], hnone⟩

/-- A request for a user. -/
def userRequest : ReceivedRequest := ⟨{ verb := .GET, path := ⟨0, 10⟩ }, asciiBytes "users/id/1"⟩

theorem serve_userRequest : ∃ served, serve userRequest = some served ∧ IsServed userRequest served :=
  serve_spec userRequest (by decide)

end Forum.ServiceEndpoints
