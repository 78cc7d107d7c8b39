import Mathlib.Data.List.Basic
import Mathlib.Data.List.Count
import Mathlib.Tactic.SplitIfs

/-!
# Commands

`CommandHandler`: the commands and views, and for each the part of its handler that looks at the parameters. A handler
counts the parameters that are not empty; an answer of `INVALID_PARAMETERS` is all that comes of a wrong number. Then it
reads parameters by their position.

What the handlers do with the parameters is left out: they normalize texts, convert numbers, and call the repository
operation of their name.
-/

namespace Forum.Commands

/-! ### Commands and views -/

/-- What may change the forum. -/
inductive Command
  | ADD_USER | CHANGE_USER_NAME | CHANGE_USER_INFO | CHANGE_USER_TITLE | CHANGE_USER_SIGNATURE
  | CHANGE_USER_ATTACHMENT_QUOTA | CHANGE_USER_LOGO | DELETE_USER_LOGO | DELETE_USER | SEND_PRIVATE_MESSAGE
  | DELETE_PRIVATE_MESSAGE | ADD_DISCUSSION_THREAD | CHANGE_DISCUSSION_THREAD_NAME
  | CHANGE_DISCUSSION_THREAD_PIN_DISPLAY_ORDER | CHANGE_DISCUSSION_THREAD_APPROVAL | DELETE_DISCUSSION_THREAD
  | MERGE_DISCUSSION_THREADS | ADD_DISCUSSION_THREAD_MESSAGE | DELETE_DISCUSSION_THREAD_MESSAGE
  | CHANGE_DISCUSSION_THREAD_MESSAGE_CONTENT | CHANGE_DISCUSSION_THREAD_MESSAGE_APPROVAL
  | MOVE_DISCUSSION_THREAD_MESSAGE | UP_VOTE_DISCUSSION_THREAD_MESSAGE | DOWN_VOTE_DISCUSSION_THREAD_MESSAGE
  | RESET_VOTE_DISCUSSION_THREAD_MESSAGE | SUBSCRIBE_TO_THREAD | UNSUBSCRIBE_FROM_THREAD
  | ADD_COMMENT_TO_DISCUSSION_THREAD_MESSAGE | SET_MESSAGE_COMMENT_SOLVED | ADD_DISCUSSION_TAG
  | CHANGE_DISCUSSION_TAG_NAME | CHANGE_DISCUSSION_TAG_UI_BLOB | DELETE_DISCUSSION_TAG
  | ADD_DISCUSSION_TAG_TO_THREAD | REMOVE_DISCUSSION_TAG_FROM_THREAD | MERGE_DISCUSSION_TAG_INTO_OTHER_TAG
  | ADD_DISCUSSION_CATEGORY | CHANGE_DISCUSSION_CATEGORY_NAME | CHANGE_DISCUSSION_CATEGORY_DESCRIPTION
  | CHANGE_DISCUSSION_CATEGORY_PARENT | CHANGE_DISCUSSION_CATEGORY_DISPLAY_ORDER | DELETE_DISCUSSION_CATEGORY
  | ADD_DISCUSSION_TAG_TO_CATEGORY | REMOVE_DISCUSSION_TAG_FROM_CATEGORY | ADD_ATTACHMENT | DELETE_ATTACHMENT
  | CHANGE_ATTACHMENT_NAME | CHANGE_ATTACHMENT_APPROVAL | ADD_ATTACHMENT_TO_DISCUSSION_THREAD_MESSAGE
  | REMOVE_ATTACHMENT_FROM_DISCUSSION_THREAD_MESSAGE
  | CHANGE_DISCUSSION_THREAD_MESSAGE_REQUIRED_PRIVILEGE_FOR_THREAD_MESSAGE
  | CHANGE_DISCUSSION_THREAD_MESSAGE_REQUIRED_PRIVILEGE_FOR_THREAD
  | CHANGE_DISCUSSION_THREAD_REQUIRED_PRIVILEGE_FOR_THREAD
  | CHANGE_DISCUSSION_THREAD_MESSAGE_REQUIRED_PRIVILEGE_FOR_TAG
  | CHANGE_DISCUSSION_THREAD_REQUIRED_PRIVILEGE_FOR_TAG | CHANGE_DISCUSSION_TAG_REQUIRED_PRIVILEGE_FOR_TAG
  | CHANGE_DISCUSSION_CATEGORY_REQUIRED_PRIVILEGE_FOR_CATEGORY | CHANGE_DISCUSSION_THREAD_MESSAGE_REQUIRED_PRIVILEGE
  | CHANGE_DISCUSSION_THREAD_REQUIRED_PRIVILEGE | CHANGE_DISCUSSION_TAG_REQUIRED_PRIVILEGE
  | CHANGE_DISCUSSION_CATEGORY_REQUIRED_PRIVILEGE | CHANGE_FORUM_WIDE_REQUIRED_PRIVILEGE
  | CHANGE_FORUM_WIDE_DEFAULT_PRIVILEGE_LEVEL | ASSIGN_DISCUSSION_THREAD_MESSAGE_PRIVILEGE
  | ASSIGN_DISCUSSION_THREAD_PRIVILEGE | ASSIGN_DISCUSSION_TAG_PRIVILEGE | ASSIGN_DISCUSSION_CATEGORY_PRIVILEGE
  | ASSIGN_FORUM_WIDE_PRIVILEGE
  deriving DecidableEq, Repr

/-- What is read. -/
inductive View
  | SHOW_VERSION | COUNT_ENTITIES | GET_CURRENT_USER | GET_USERS_BY_NAME | GET_USERS_BY_CREATED
  | GET_USERS_BY_LAST_SEEN | GET_USERS_BY_THREAD_COUNT | GET_USERS_BY_MESSAGE_COUNT | GET_USERS_ONLINE
  | GET_USER_BY_ID | GET_USER_BY_NAME | GET_MULTIPLE_USERS_BY_ID | GET_MULTIPLE_USERS_BY_NAME | SEARCH_USERS_BY_NAME
  | GET_USER_LOGO | GET_USER_VOTE_HISTORY | GET_USER_QUOTED_HISTORY | GET_USER_RECEIVED_PRIVATE_MESSAGES
  | GET_USER_SENT_PRIVATE_MESSAGES | GET_DISCUSSION_THREADS_BY_NAME | GET_DISCUSSION_THREADS_BY_CREATED
  | GET_DISCUSSION_THREADS_BY_LAST_UPDATED | GET_DISCUSSION_THREADS_BY_LATEST_MESSAGE_CREATED
  | GET_DISCUSSION_THREADS_BY_MESSAGE_COUNT | GET_DISCUSSION_THREAD_BY_ID | GET_MULTIPLE_DISCUSSION_THREADS_BY_ID
  | SEARCH_DISCUSSION_THREADS_BY_NAME | GET_DISCUSSION_THREADS_OF_USER_BY_NAME
  | GET_DISCUSSION_THREADS_OF_USER_BY_CREATED | GET_DISCUSSION_THREADS_OF_USER_BY_LAST_UPDATED
  | GET_DISCUSSION_THREADS_OF_USER_BY_LATEST_MESSAGE_CREATED | GET_DISCUSSION_THREADS_OF_USER_BY_MESSAGE_COUNT
  | GET_USERS_SUBSCRIBED_TO_DISCUSSION_THREAD | GET_SUBSCRIBED_DISCUSSION_THREADS_OF_USER_BY_NAME
  | GET_SUBSCRIBED_DISCUSSION_THREADS_OF_USER_BY_CREATED | GET_SUBSCRIBED_DISCUSSION_THREADS_OF_USER_BY_LAST_UPDATED
  | GET_SUBSCRIBED_DISCUSSION_THREADS_OF_USER_BY_LATEST_MESSAGE_CREATED
  | GET_SUBSCRIBED_DISCUSSION_THREADS_OF_USER_BY_MESSAGE_COUNT | GET_MULTIPLE_DISCUSSION_THREAD_MESSAGES_BY_ID
  | GET_DISCUSSION_THREAD_MESSAGES_OF_USER_BY_CREATED | GET_LATEST_DISCUSSION_THREAD_MESSAGES
  | GET_DISCUSSION_THREAD_MESSAGE_RANK | GET_MESSAGE_COMMENTS | GET_MESSAGE_COMMENTS_OF_DISCUSSION_THREAD_MESSAGE
  | GET_MESSAGE_COMMENTS_OF_USER | GET_DISCUSSION_TAGS_BY_NAME | GET_DISCUSSION_TAGS_BY_THREAD_COUNT
  | GET_DISCUSSION_TAGS_BY_MESSAGE_COUNT | GET_DISCUSSION_THREADS_WITH_TAG_BY_NAME
  | GET_DISCUSSION_THREADS_WITH_TAG_BY_CREATED | GET_DISCUSSION_THREADS_WITH_TAG_BY_LAST_UPDATED
  | GET_DISCUSSION_THREADS_WITH_TAG_BY_LATEST_MESSAGE_CREATED | GET_DISCUSSION_THREADS_WITH_TAG_BY_MESSAGE_COUNT
  | GET_DISCUSSION_CATEGORY_BY_ID | GET_DISCUSSION_CATEGORIES_BY_NAME | GET_DISCUSSION_CATEGORIES_BY_MESSAGE_COUNT
  | GET_DISCUSSION_CATEGORIES_FROM_ROOT | GET_DISCUSSION_THREADS_OF_CATEGORY_BY_NAME
  | GET_DISCUSSION_THREADS_OF_CATEGORY_BY_CREATED | GET_DISCUSSION_THREADS_OF_CATEGORY_BY_LAST_UPDATED
  | GET_DISCUSSION_THREADS_OF_CATEGORY_BY_LATEST_MESSAGE_CREATED
  | GET_DISCUSSION_THREADS_OF_CATEGORY_BY_MESSAGE_COUNT | GET_ATTACHMENTS_BY_CREATED | GET_ATTACHMENTS_BY_NAME
  | GET_ATTACHMENTS_BY_SIZE | GET_ATTACHMENTS_BY_APPROVAL | GET_ATTACHMENTS_OF_USER_BY_CREATED
  | GET_ATTACHMENTS_OF_USER_BY_NAME | GET_ATTACHMENTS_OF_USER_BY_SIZE | GET_ATTACHMENTS_OF_USER_BY_APPROVAL
  | CAN_GET_ATTACHMENT | GET_ATTACHMENT | CAN_ADD_ATTACHMENT | GET_REQUIRED_PRIVILEGES_FOR_THREAD_MESSAGE
  | GET_ASSIGNED_PRIVILEGES_FOR_THREAD_MESSAGE | GET_REQUIRED_PRIVILEGES_FOR_THREAD
  | GET_ASSIGNED_PRIVILEGES_FOR_THREAD | GET_REQUIRED_PRIVILEGES_FOR_TAG | GET_ASSIGNED_PRIVILEGES_FOR_TAG
  | GET_REQUIRED_PRIVILEGES_FOR_CATEGORY | GET_ASSIGNED_PRIVILEGES_FOR_CATEGORY
  | GET_FORUM_WIDE_CURRENT_USER_PRIVILEGES | GET_FORUM_WIDE_REQUIRED_PRIVILEGES
  | GET_FORUM_WIDE_DEFAULT_PRIVILEGE_LEVELS | GET_FORUM_WIDE_ASSIGNED_PRIVILEGES | GET_ASSIGNED_PRIVILEGES_FOR_USER
  deriving DecidableEq, Repr

/-! ### Handlers -/

/-- How the parameters that are not empty are counted. -/
inductive ParameterCheck
  | nothing
  | number (n : ℕ)
  | atLeast (n : ℕ)
  deriving DecidableEq, Repr

/-- How many parameters are not empty. -/
def countNonEmpty (parameters : List (List UInt8)) : ℕ := parameters.countP fun view => 0 < view.length

/-- What a handler checks of its parameters. -/
def ParameterCheck.passes (parameters : List (List UInt8)) : ParameterCheck → Bool
  | .nothing => true
  | .number n => countNonEmpty parameters == n
  | .atLeast n => n ≤ countNonEmpty parameters

/-- The beginning of a handler. -/
structure Handler where
  check : ParameterCheck
  /-- The positions that it reads. -/
  reads : List ℕ
  /-- Those that it reads only when there are as many parameters. -/
  readsIfThere : List ℕ := []
  deriving DecidableEq, Repr

/-- The handler of a command. -/
def Command.handler : Command → Handler
  | .ADD_USER | .DELETE_USER_LOGO | .DELETE_USER | .DELETE_PRIVATE_MESSAGE | .ADD_DISCUSSION_THREAD
  | .DELETE_DISCUSSION_THREAD | .DELETE_DISCUSSION_THREAD_MESSAGE | .UP_VOTE_DISCUSSION_THREAD_MESSAGE
  | .DOWN_VOTE_DISCUSSION_THREAD_MESSAGE | .RESET_VOTE_DISCUSSION_THREAD_MESSAGE | .SUBSCRIBE_TO_THREAD
  | .UNSUBSCRIBE_FROM_THREAD | .SET_MESSAGE_COMMENT_SOLVED | .ADD_DISCUSSION_TAG | .DELETE_DISCUSSION_TAG
  | .DELETE_DISCUSSION_CATEGORY | .DELETE_ATTACHMENT => { check := .number 1, reads := [0] }
  | .CHANGE_USER_NAME | .CHANGE_USER_LOGO | .SEND_PRIVATE_MESSAGE | .CHANGE_DISCUSSION_THREAD_NAME
  | .CHANGE_DISCUSSION_THREAD_PIN_DISPLAY_ORDER | .MERGE_DISCUSSION_THREADS | .ADD_DISCUSSION_THREAD_MESSAGE
  | .MOVE_DISCUSSION_THREAD_MESSAGE | .ADD_COMMENT_TO_DISCUSSION_THREAD_MESSAGE | .CHANGE_DISCUSSION_TAG_NAME
  | .CHANGE_DISCUSSION_TAG_UI_BLOB | .ADD_DISCUSSION_TAG_TO_THREAD | .REMOVE_DISCUSSION_TAG_FROM_THREAD
  | .MERGE_DISCUSSION_TAG_INTO_OTHER_TAG | .CHANGE_DISCUSSION_CATEGORY_NAME
  | .CHANGE_DISCUSSION_CATEGORY_DESCRIPTION | .CHANGE_DISCUSSION_CATEGORY_PARENT
  | .CHANGE_DISCUSSION_CATEGORY_DISPLAY_ORDER | .ADD_DISCUSSION_TAG_TO_CATEGORY
  | .REMOVE_DISCUSSION_TAG_FROM_CATEGORY | .ADD_ATTACHMENT | .CHANGE_ATTACHMENT_NAME | .CHANGE_ATTACHMENT_APPROVAL
  | .ADD_ATTACHMENT_TO_DISCUSSION_THREAD_MESSAGE | .REMOVE_ATTACHMENT_FROM_DISCUSSION_THREAD_MESSAGE
  | .CHANGE_DISCUSSION_THREAD_MESSAGE_REQUIRED_PRIVILEGE | .CHANGE_DISCUSSION_THREAD_REQUIRED_PRIVILEGE
  | .CHANGE_DISCUSSION_TAG_REQUIRED_PRIVILEGE | .CHANGE_DISCUSSION_CATEGORY_REQUIRED_PRIVILEGE
  | .CHANGE_FORUM_WIDE_REQUIRED_PRIVILEGE => { check := .number 2, reads := [0, 1] }
  | .CHANGE_USER_INFO | .CHANGE_USER_TITLE | .CHANGE_USER_SIGNATURE | .CHANGE_USER_ATTACHMENT_QUOTA =>
    { check := .atLeast 1, reads := [0, 1] }
  | .CHANGE_DISCUSSION_THREAD_APPROVAL | .CHANGE_DISCUSSION_THREAD_MESSAGE_APPROVAL =>
    { check := .atLeast 2, reads := [0, 1] }
  | .CHANGE_DISCUSSION_THREAD_MESSAGE_CONTENT => { check := .atLeast 2, reads := [0, 1], readsIfThere := [2] }
  | .ADD_DISCUSSION_CATEGORY => { check := .atLeast 1, reads := [0], readsIfThere := [1] }
  | .CHANGE_DISCUSSION_THREAD_MESSAGE_REQUIRED_PRIVILEGE_FOR_THREAD_MESSAGE
  | .CHANGE_DISCUSSION_THREAD_MESSAGE_REQUIRED_PRIVILEGE_FOR_THREAD
  | .CHANGE_DISCUSSION_THREAD_REQUIRED_PRIVILEGE_FOR_THREAD
  | .CHANGE_DISCUSSION_THREAD_MESSAGE_REQUIRED_PRIVILEGE_FOR_TAG
  | .CHANGE_DISCUSSION_THREAD_REQUIRED_PRIVILEGE_FOR_TAG | .CHANGE_DISCUSSION_TAG_REQUIRED_PRIVILEGE_FOR_TAG
  | .CHANGE_DISCUSSION_CATEGORY_REQUIRED_PRIVILEGE_FOR_CATEGORY | .CHANGE_FORUM_WIDE_DEFAULT_PRIVILEGE_LEVEL
  | .ASSIGN_FORUM_WIDE_PRIVILEGE => { check := .number 3, reads := [0, 1, 2] }
  | .ASSIGN_DISCUSSION_THREAD_MESSAGE_PRIVILEGE | .ASSIGN_DISCUSSION_THREAD_PRIVILEGE
  | .ASSIGN_DISCUSSION_TAG_PRIVILEGE | .ASSIGN_DISCUSSION_CATEGORY_PRIVILEGE =>
    { check := .number 4, reads := [0, 1, 2, 3] }

/-- The handler of a view. -/
def View.handler : View → Handler
  | .SHOW_VERSION | .COUNT_ENTITIES | .GET_CURRENT_USER | .GET_USERS_BY_NAME | .GET_USERS_BY_CREATED
  | .GET_USERS_BY_LAST_SEEN | .GET_USERS_BY_THREAD_COUNT | .GET_USERS_BY_MESSAGE_COUNT | .GET_USERS_ONLINE
  | .GET_USER_VOTE_HISTORY | .GET_USER_QUOTED_HISTORY | .GET_USER_RECEIVED_PRIVATE_MESSAGES
  | .GET_USER_SENT_PRIVATE_MESSAGES | .GET_DISCUSSION_THREADS_BY_NAME | .GET_DISCUSSION_THREADS_BY_CREATED
  | .GET_DISCUSSION_THREADS_BY_LAST_UPDATED | .GET_DISCUSSION_THREADS_BY_LATEST_MESSAGE_CREATED
  | .GET_DISCUSSION_THREADS_BY_MESSAGE_COUNT | .GET_LATEST_DISCUSSION_THREAD_MESSAGES | .GET_MESSAGE_COMMENTS
  | .GET_DISCUSSION_TAGS_BY_NAME | .GET_DISCUSSION_TAGS_BY_THREAD_COUNT | .GET_DISCUSSION_TAGS_BY_MESSAGE_COUNT
  | .GET_DISCUSSION_CATEGORIES_BY_NAME | .GET_DISCUSSION_CATEGORIES_BY_MESSAGE_COUNT
  | .GET_DISCUSSION_CATEGORIES_FROM_ROOT | .GET_ATTACHMENTS_BY_CREATED | .GET_ATTACHMENTS_BY_NAME
  | .GET_ATTACHMENTS_BY_SIZE | .GET_ATTACHMENTS_BY_APPROVAL | .CAN_ADD_ATTACHMENT
  | .GET_FORUM_WIDE_CURRENT_USER_PRIVILEGES | .GET_FORUM_WIDE_REQUIRED_PRIVILEGES
  | .GET_FORUM_WIDE_DEFAULT_PRIVILEGE_LEVELS | .GET_FORUM_WIDE_ASSIGNED_PRIVILEGES => { check := .nothing, reads := [] }
  | .GET_USER_BY_ID | .GET_USER_BY_NAME | .GET_MULTIPLE_USERS_BY_ID | .GET_MULTIPLE_USERS_BY_NAME
  | .SEARCH_USERS_BY_NAME | .GET_USER_LOGO | .GET_DISCUSSION_THREAD_BY_ID | .GET_MULTIPLE_DISCUSSION_THREADS_BY_ID
  | .SEARCH_DISCUSSION_THREADS_BY_NAME | .GET_DISCUSSION_THREADS_OF_USER_BY_NAME
  | .GET_DISCUSSION_THREADS_OF_USER_BY_CREATED | .GET_DISCUSSION_THREADS_OF_USER_BY_LAST_UPDATED
  | .GET_DISCUSSION_THREADS_OF_USER_BY_LATEST_MESSAGE_CREATED | .GET_DISCUSSION_THREADS_OF_USER_BY_MESSAGE_COUNT
  | .GET_USERS_SUBSCRIBED_TO_DISCUSSION_THREAD | .GET_SUBSCRIBED_DISCUSSION_THREADS_OF_USER_BY_NAME
  | .GET_SUBSCRIBED_DISCUSSION_THREADS_OF_USER_BY_CREATED
  | .GET_SUBSCRIBED_DISCUSSION_THREADS_OF_USER_BY_LAST_UPDATED
  | .GET_SUBSCRIBED_DISCUSSION_THREADS_OF_USER_BY_LATEST_MESSAGE_CREATED
  | .GET_SUBSCRIBED_DISCUSSION_THREADS_OF_USER_BY_MESSAGE_COUNT | .GET_MULTIPLE_DISCUSSION_THREAD_MESSAGES_BY_ID
  | .GET_DISCUSSION_THREAD_MESSAGES_OF_USER_BY_CREATED | .GET_DISCUSSION_THREAD_MESSAGE_RANK
  | .GET_MESSAGE_COMMENTS_OF_DISCUSSION_THREAD_MESSAGE | .GET_MESSAGE_COMMENTS_OF_USER
  | .GET_DISCUSSION_THREADS_WITH_TAG_BY_NAME | .GET_DISCUSSION_THREADS_WITH_TAG_BY_CREATED
  | .GET_DISCUSSION_THREADS_WITH_TAG_BY_LAST_UPDATED | .GET_DISCUSSION_THREADS_WITH_TAG_BY_LATEST_MESSAGE_CREATED
  | .GET_DISCUSSION_THREADS_WITH_TAG_BY_MESSAGE_COUNT | .GET_DISCUSSION_CATEGORY_BY_ID
  | .GET_DISCUSSION_THREADS_OF_CATEGORY_BY_NAME | .GET_DISCUSSION_THREADS_OF_CATEGORY_BY_CREATED
  | .GET_DISCUSSION_THREADS_OF_CATEGORY_BY_LAST_UPDATED
  | .GET_DISCUSSION_THREADS_OF_CATEGORY_BY_LATEST_MESSAGE_CREATED
  | .GET_DISCUSSION_THREADS_OF_CATEGORY_BY_MESSAGE_COUNT | .GET_ATTACHMENTS_OF_USER_BY_CREATED
  | .GET_ATTACHMENTS_OF_USER_BY_NAME | .GET_ATTACHMENTS_OF_USER_BY_SIZE | .GET_ATTACHMENTS_OF_USER_BY_APPROVAL
  | .CAN_GET_ATTACHMENT | .GET_ATTACHMENT | .GET_REQUIRED_PRIVILEGES_FOR_THREAD_MESSAGE
  | .GET_ASSIGNED_PRIVILEGES_FOR_THREAD_MESSAGE | .GET_REQUIRED_PRIVILEGES_FOR_THREAD
  | .GET_ASSIGNED_PRIVILEGES_FOR_THREAD | .GET_REQUIRED_PRIVILEGES_FOR_TAG | .GET_ASSIGNED_PRIVILEGES_FOR_TAG
  | .GET_REQUIRED_PRIVILEGES_FOR_CATEGORY | .GET_ASSIGNED_PRIVILEGES_FOR_CATEGORY
  | .GET_ASSIGNED_PRIVILEGES_FOR_USER => { check := .number 1, reads := [0] }

/-! ### Reading the parameters -/

/-- What a handler comes to: it refuses the parameters, or it has read some. -/
inductive ParametersRead
  | invalidParameters
  | values (parameters : List (List UInt8))
  deriving DecidableEq, Repr

/-- A handler reads its parameters. There is no result when it reads behind the last one. -/
def Handler.read (handler : Handler) (parameters : List (List UInt8)) : Option ParametersRead :=
  if handler.check.passes parameters then
    let positions := handler.reads ++ handler.readsIfThere.filter fun i => i < parameters.length
    if positions.all fun i => i < parameters.length then some (.values (positions.map fun i => parameters.getD i []))
    else none
  else some .invalidParameters

theorem eq_nil_of_countNonEmpty {parameters : List (List UInt8)} (h : countNonEmpty parameters = parameters.length)
    {view : List UInt8} (hview : view ∈ parameters) : view ≠ [] := by
  have hpos := List.countP_eq_length.1 h view hview
  exact List.ne_nil_of_length_pos (of_decide_eq_true hpos)

namespace Handler

/-- Are the positions within so many parameters, and is it all of them that an exact number lets through? -/
def Fits (handler : Handler) (length : ℕ) : Bool :=
  handler.reads.all (fun i => i < length) &&
    match handler.check with
    | .number n => n == length && handler.reads == List.range length && handler.readsIfThere.isEmpty
    | _ => true

variable {handler : Handler} {parameters : List (List UInt8)}

/-- A handler that fits reads nothing behind the last parameter. -/
theorem read_of_fits (h : handler.Fits parameters.length = true) : ∃ read, handler.read parameters = some read := by
  unfold Fits at h
  rw [Bool.and_eq_true] at h
  unfold read
  dsimp only
  split_ifs with hpasses hall
  · exact ⟨_, rfl⟩
  · refine absurd ?_ hall
    rw [List.all_append, Bool.and_eq_true]
    refine ⟨h.1, List.all_eq_true.2 fun i hi => ?_⟩
    exact (List.mem_filter.1 hi).2
  · exact ⟨_, rfl⟩

/-- When it counts them exactly, it reads all of them, and none is empty. -/
theorem read_of_number (h : handler.Fits parameters.length = true) {n : ℕ} (hcheck : handler.check = .number n)
    {values : List (List UInt8)} (hread : handler.read parameters = some (.values values)) :
    values = parameters ∧ ∀ value ∈ values, value ≠ [] := by
  unfold Fits at h
  rw [hcheck] at h
  simp only [Bool.and_eq_true, beq_iff_eq, List.isEmpty_iff] at h
  obtain ⟨-, ⟨hn, hreads⟩, hthere⟩ := h
  unfold read at hread
  dsimp only at hread
  split_ifs at hread with hpasses hwithin
  · have hall : values = parameters := by
      cases hread
      rw [hreads, hthere, List.filter_nil, List.append_nil]
      apply List.ext_getElem
      · rw [List.length_map, List.length_range]
      · intro i hi hlt
        rw [List.getElem_map, List.getElem_range, List.getD_eq_getElem?_getD, List.getElem?_eq_getElem hlt,
          Option.getD_some]
    refine ⟨hall, fun value hvalue => eq_nil_of_countNonEmpty ?_ (hall ▸ hvalue)⟩
    rw [hcheck] at hpasses
    exact (eq_of_beq hpasses).trans hn
  · cases hread

end Handler

end Forum.Commands
