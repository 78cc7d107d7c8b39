import Forum.Repository.MessageIndexes
import Forum.Serialization.HiddenContent

/-!
# The messages of a page

`writeDiscussionThreadMessages` decides about all messages of a page at once and passes on what it has
decided in the settings. As a thread lists only its own messages, what is decided and written is what would
be for each of them alone. With it a thread is written out alike for two stores that differ in hidden
content only.
-/

namespace Forum.Serialization

open Forum.Library Forum.Entities Forum.Authorization Forum.Repository

namespace SerializationContext

variable (x : SerializationContext)

/-- What is decided about a message alone. -/
def individualCheck (message : IdType) : DiscussionThreadMessagePrivilegeCheck where
  message := message
  allowedToShowMessage := x.isAllowed (.message message .view)
  allowedToShowUser := x.isAllowed (.message message .viewCreatorUser)
  allowedToShowVotes := x.isAllowed (.message message .viewVotes)
  allowedToShowIpAddress := x.isAllowed (.message message .viewIpAddress)
  allowedToViewComments := x.isAllowed (.message message .getMessageComments)

/-- What is decided about the messages of a page at once. -/
def bulkChecks (messages : List IdType) : List DiscussionThreadMessagePrivilegeCheck :=
  x.collection.granted.computeDiscussionThreadMessageVisibilityAllowed x.collection.required x.collection.toStore
    (threadTagsInOrder x.collection.toStore) x.restriction.userId x.restriction.now messages

/-- A page of the messages of a thread. -/
def messagesOfPage (thread : IdType) (pageNumber : ℤ) (pageSize : ℕ) (ascending : Bool) : List IdType :=
  (messagesToCheck x.intFast32Bits (x.collection.index (.messages (.ofThread thread))) pageNumber pageSize ascending).getD []

variable {x} {thread message : IdType} {pageNumber : ℤ} {pageSize : ℕ} {ascending : Bool}

/-! ### One message of a page -/

/-- Nothing is written of a message that may not be viewed, and something of every other. -/
theorem isNull_serializeDiscussionThreadMessage (settings : SerializationSettings) (message : IdType) :
    (x.serializeDiscussionThreadMessage settings.undecided message).isNull =
      !x.restriction.isAllowedToViewMessage x.collection message := by
  rw [serializeDiscussionThreadMessage]
  simp only [SerializationSettings.undecided_allowDisplayDiscussionThreadMessage, Option.elim_none]
  cases x.restriction.isAllowedToViewMessage x.collection message <;> rfl

/-- What was decided about a message of a thread that may be viewed is what is decided when it is written. -/
theorem serializeDiscussionThreadMessage_forItem (settings : SerializationSettings)
    (hview : x.restriction.isAllowedToViewThread x.collection (x.collection.messageParentThread message)) :
    x.serializeDiscussionThreadMessage (settings.undecided.forItem (x.individualCheck message)) message =
      x.serializeDiscussionThreadMessage settings.undecided message := by
  have hthread : x.serializeDiscussionThread (settings.undecided.forItem (x.individualCheck message)).forParentThread =
      x.serializeDiscussionThread settings.undecided.forParentThread :=
    funext fun thread => ((SameButHidden.refl x).serializeDiscussionThread_withoutMessages
      (settings.undecided.forItem (x.individualCheck message)).forParentThread rfl thread).symm
  have happroval : x.restriction.checkThreadAllowViewApproval x.collection (x.collection.messageParentThread message) =
      x.restriction.isAllowedToViewThread x.collection (x.collection.messageParentThread message) := by
    rw [hview]
    exact (Bool.and_eq_true_iff.1 hview).2
  have hallow : (settings.undecided.forItem (x.individualCheck message)).allowDisplayDiscussionThreadMessage.elim
        (x.restriction.isAllowedToViewMessage x.collection message) (fun allowed =>
          allowed && x.restriction.checkMessageAllowViewApproval x.collection message &&
            x.restriction.checkThreadAllowViewApproval x.collection (x.collection.messageParentThread message)) =
      x.restriction.isAllowedToViewMessage x.collection message := by
    rw [happroval]
    rfl
  rw [serializeDiscussionThreadMessage, serializeDiscussionThreadMessage]
  simp only [hallow, hthread, SerializationSettings.undecided_allowDisplayDiscussionThreadMessage, Option.elim_none]
  rfl

/-! ### All messages of a page -/

/-- The elements that are written for a page: the messages whose `VIEW` is allowed, each as it is written alone. -/
def elementsOfPage (x : SerializationContext) (settings : SerializationSettings) (messages : List IdType) : List Json :=
  (messages.filter fun message => x.isAllowed (.message message .view)).map
    (x.serializeDiscussionThreadMessage settings.undecided)

variable (pageNumber pageSize ascending) in
/-- The messages of a page are those of the thread. -/
theorem messageParentThread_of_mem_messagesOfPage (hreached : Reachable anyOperation x.collection.toEntityCollection)
    (hthread : thread ∈ x.collection.allThreads) :
    ∀ message ∈ x.messagesOfPage thread pageNumber pageSize ascending,
      x.collection.messageParentThread message = thread :=
  fun _ hmessage => hreached.messageParentThread_of_mem_index hthread (mem_of_mem_messagesToCheck hmessage)

section

variable (hmessages : ∀ message ∈ x.messagesOfPage thread pageNumber pageSize ascending,
  x.collection.messageParentThread message = thread)
include hmessages

/-- What is decided about the messages of a page at once is what is decided about each. -/
theorem bulkChecks_messagesOfPage : x.bulkChecks (x.messagesOfPage thread pageNumber pageSize ascending) =
    (x.messagesOfPage thread pageNumber pageSize ascending).map x.individualCheck :=
  x.collection.computeDiscussionThreadMessageVisibilityAllowed_eq x.restriction hmessages

theorem writeDiscussionThreadMessages_eq (hview : x.restriction.isAllowedToViewThread x.collection thread)
    (settings : SerializationSettings) (propertyName : String) :
    x.writeDiscussionThreadMessages settings.undecided (x.collection.index (.messages (.ofThread thread))) pageNumber
        pageSize ascending propertyName =
      [("totalCount", .number (intFast32 x.intFast32Bits (x.collection.index (.messages (.ofThread thread))).length)),
        ("pageSize", .number pageSize), ("page", .number pageNumber),
        (propertyName, .array (x.elementsOfPage settings (x.messagesOfPage thread pageNumber pageSize ascending)))] := by
  have hchecks := bulkChecks_messagesOfPage hmessages
  have hitem : ∀ message ∈ x.messagesOfPage thread pageNumber pageSize ascending,
      x.serializeDiscussionThreadMessage (settings.undecided.forItem (x.individualCheck message)) message =
        x.serializeDiscussionThreadMessage settings.undecided message := fun message hmessage =>
    serializeDiscussionThreadMessage_forItem settings (by rwa [hmessages message hmessage])
  have helements : ((x.messagesOfPage thread pageNumber pageSize ascending).filter fun message =>
        x.isAllowed (.message message .view)).map (fun message =>
          x.serializeDiscussionThreadMessage (settings.undecided.forItem (x.individualCheck message)) message) =
      x.elementsOfPage settings (x.messagesOfPage thread pageNumber pageSize ascending) :=
    List.map_congr_left fun message hmessage => hitem message (List.mem_of_mem_filter hmessage)
  rw [writeDiscussionThreadMessages, ← helements]
  unfold bulkChecks messagesOfPage at hchecks
  rw [hchecks, List.filter_map, List.map_map]
  rfl

end

/-- The elements that are not `null` are the messages of the page that may be viewed, in the order of the page. -/
theorem filter_elementsOfPage (settings : SerializationSettings) (messages : List IdType) :
    (x.elementsOfPage settings messages).filter (fun element => !element.isNull) =
      (messages.filter fun message => x.restriction.isAllowedToViewMessage x.collection message).map
        (x.serializeDiscussionThreadMessage settings.undecided) := by
  unfold elementsOfPage
  rw [List.filter_map, List.filter_filter]
  congr 1
  refine List.filter_congr fun message _ => ?_
  simp only [Function.comp_apply, isNull_serializeDiscussionThreadMessage, Bool.not_not]
  unfold SerializationRestriction.isAllowedToViewMessage isAllowed
  cases x.restriction.isAllowed x.collection (.message message .view) <;> simp

/-- What is decided and written for a page of messages is what would be for each of them alone. -/
structure BulkIsIndividual (x : SerializationContext) (settings : SerializationSettings) (thread : IdType)
    (pageNumber : ℤ) (pageSize : ℕ) (ascending : Bool) : Prop where
  /-- What is decided is what `isAllowed` says of each message. -/
  decisions : x.bulkChecks (x.messagesOfPage thread pageNumber pageSize ascending) =
    (x.messagesOfPage thread pageNumber pageSize ascending).map x.individualCheck
  /-- What is written and is not `null` are the messages of the page that may be viewed, in their order and each
  as it is written alone. -/
  elements : ∀ propertyName, ∃ values,
    (propertyName, Json.array values) ∈ x.writeDiscussionThreadMessages settings.undecided
        (x.collection.index (.messages (.ofThread thread))) pageNumber pageSize ascending propertyName ∧
      values.filter (fun element => !element.isNull) =
        ((x.messagesOfPage thread pageNumber pageSize ascending).filter fun message =>
          x.restriction.isAllowedToViewMessage x.collection message).map
            (x.serializeDiscussionThreadMessage settings.undecided)

/-- The messages of a thread that may be viewed are decided about and written page by page as they are alone. -/
theorem bulkIsIndividual (x : SerializationContext) (hreached : Reachable anyOperation x.collection.toEntityCollection)
    (thread : IdType) (hthread : thread ∈ x.collection.allThreads)
    (hview : x.restriction.isAllowedToViewThread x.collection thread = true) (settings : SerializationSettings)
    (pageNumber : ℤ) (pageSize : ℕ) (ascending : Bool) :
    x.BulkIsIndividual settings thread pageNumber pageSize ascending := by
  have hmessages := messageParentThread_of_mem_messagesOfPage pageNumber pageSize ascending
    hreached hthread
  refine ⟨bulkChecks_messagesOfPage hmessages, fun propertyName => ?_⟩
  refine ⟨x.elementsOfPage settings (x.messagesOfPage thread pageNumber pageSize ascending), ?_,
    filter_elementsOfPage settings _⟩
  rw [writeDiscussionThreadMessages_eq hmessages hview]
  simp

end SerializationContext

/-- A user adds a thread with two messages, the second of them not approved. -/
def threadOfUser : List (Context × Operation) :=
  [({ currentUserId := 0, currentTime := 1 }, .addNewUser 1 { sortKey := [1] } "auth"),
    ({ currentUserId := 1, currentTime := 2 }, .addNewDiscussionThread 2 { sortKey := [2] } true),
    ({ currentUserId := 1, currentTime := 3 }, .addNewDiscussionMessageInThread 3 2 true (.text "first")),
    ({ currentUserId := 1, currentTime := 4 }, .addNewDiscussionMessageInThread 4 2 false (.text "second"))]

/-- A visitor, for whom messages that are not approved require more than is granted. -/
def contextOfVisitor : SerializationContext where
  collection :=
    { run threadOfUser .empty with
      required :=
        { forumWide := { discussionThreadMessagePrivileges := fun
            | .viewUnapproved => some 1
            | _ => none } } }
  restriction := ⟨0, 5⟩
  currentUserId := 0

theorem reachable_threadOfUser : Reachable anyOperation (run threadOfUser .empty) :=
  Reachable.empty.run threadOfUser (by decide +kernel)

/-- The visitor is shown the first message. -/
theorem bulkIsIndividual_contextOfVisitor :
    contextOfVisitor.BulkIsIndividual {} 2 0 20 true ∧
      (contextOfVisitor.messagesOfPage 2 0 20 true).filter (fun message =>
        contextOfVisitor.restriction.isAllowedToViewMessage contextOfVisitor.collection message) = [3] :=
  ⟨SerializationContext.bulkIsIndividual contextOfVisitor reachable_threadOfUser 2 (by decide +kernel)
    (by decide +kernel) {} 0 20 true, by decide +kernel⟩

/-! ### Threads with their messages -/

namespace SameButHidden

variable {x x' : SerializationContext}

theorem elementsOfPage (h : SameButHidden x x') (settings : SerializationSettings) (messages : List IdType) :
    x'.elementsOfPage settings messages = x.elementsOfPage settings messages := by
  unfold SerializationContext.elementsOfPage
  simp only [h.isAllowed, funext (h.serializeDiscussionThreadMessage settings)]

/-- The pages of a thread that may be viewed are written out alike. -/
theorem writeDiscussionThreadMessages (h : SameButHidden x x')
    (hreached : Reachable anyOperation x.collection.toEntityCollection) {thread : IdType}
    (hthread : thread ∈ x.collection.allThreads) (hview : x.restriction.isAllowedToViewThread x.collection thread)
    (settings : SerializationSettings) (pageNumber : ℤ) (pageSize : ℕ) (ascending : Bool) (propertyName : String) :
    x'.writeDiscussionThreadMessages settings.undecided (x'.collection.index (.messages (.ofThread thread))) pageNumber
        pageSize ascending propertyName =
      x.writeDiscussionThreadMessages settings.undecided (x.collection.index (.messages (.ofThread thread))) pageNumber
        pageSize ascending propertyName := by
  have hmessages := SerializationContext.messageParentThread_of_mem_messagesOfPage pageNumber
    pageSize ascending hreached hthread
  have hmessages' : ∀ message ∈ x'.messagesOfPage thread pageNumber pageSize ascending,
      x'.collection.messageParentThread message = thread := by
    obtain ⟨messages, rfl⟩ := h.sameOtherwise
    exact hmessages
  have hview' : x'.restriction.isAllowedToViewThread x'.collection thread := by rwa [h.isAllowedToViewThread]
  rw [SerializationContext.writeDiscussionThreadMessages_eq hmessages hview,
    SerializationContext.writeDiscussionThreadMessages_eq hmessages' hview', h.elementsOfPage]
  obtain ⟨messages, rfl⟩ := h.sameOtherwise
  rfl

/-- A thread is written out alike, with its page of messages. -/
theorem serializeDiscussionThread (h : SameButHidden x x')
    (hreached : Reachable anyOperation x.collection.toEntityCollection) {thread : IdType}
    (hthread : thread ∈ x.collection.allThreads) (settings : SerializationSettings) :
    x'.serializeDiscussionThread settings.undecided thread = x.serializeDiscussionThread settings.undecided thread := by
  by_cases hview : x.restriction.isAllowedToViewThread x.collection thread
  · have hpage := fun pageNumber pageSize => h.writeDiscussionThreadMessages hreached hthread hview settings pageNumber
      pageSize true "messages"
    have htags : x'.serializeDiscussionTag settings.undecided.forTagsOfThread =
        x.serializeDiscussionTag settings.undecided.forTagsOfThread :=
      funext fun tag => h.serializeDiscussionTag settings.undecided.forTagsOfThread tag
    have hcategories : x'.serializeDiscussionCategory settings.undecided.forCategoriesOfThread =
        x.serializeDiscussionCategory settings.undecided.forCategoriesOfThread :=
      funext fun category => h.serializeDiscussionCategory settings.undecided.forCategoriesOfThread category
    rw [SerializationContext.serializeDiscussionThread, SerializationContext.serializeDiscussionThread, htags,
      hcategories]
    simp only [hpage, h.isAllowedToViewThread, h.serializeUser, funext h.writeLatestMessage, h.writePrivileges]
    obtain ⟨messages, rfl⟩ := h.sameOtherwise
    rfl
  · have hview' : ¬x'.restriction.isAllowedToViewThread x'.collection thread := by rwa [h.isAllowedToViewThread]
    rw [SerializationContext.serializeDiscussionThread, SerializationContext.serializeDiscussionThread]
    simp only [hview, hview', Bool.not_false, if_true]

end SameButHidden

/-- What is hidden from a viewer changes nothing of what is written out for them. -/
structure WrittenAlike (x x' : SerializationContext) (settings : SerializationSettings) : Prop where
  message : ∀ message, x'.serializeDiscussionThreadMessage settings.undecided message =
    x.serializeDiscussionThreadMessage settings.undecided message
  thread : ∀ thread ∈ x.collection.allThreads, x'.serializeDiscussionThread settings.undecided thread =
    x.serializeDiscussionThread settings.undecided thread
  tag : ∀ tag, x'.serializeDiscussionTag settings.undecided tag = x.serializeDiscussionTag settings.undecided tag
  category : ∀ category, x'.serializeDiscussionCategory settings.undecided category =
    x.serializeDiscussionCategory settings.undecided category
  comment : ∀ comment, x'.serializeMessageComment settings.undecided comment =
    x.serializeMessageComment settings.undecided comment

theorem writtenAlike_of_sameButHidden (x x' : SerializationContext)
    (hreached : Reachable anyOperation x.collection.toEntityCollection) (h : SameButHidden x x')
    (settings : SerializationSettings) : WrittenAlike x x' settings where
  message := h.serializeDiscussionThreadMessage settings
  thread _ hthread := h.serializeDiscussionThread hreached hthread settings
  tag := h.serializeDiscussionTag settings.undecided
  category := h.serializeDiscussionCategory settings.undecided
  comment := h.serializeMessageComment settings

/-- The store of the visitor with another text in the message that is hidden. -/
def contextWithOtherText : SerializationContext :=
  { contextOfVisitor with
    collection := withMessages contextOfVisitor.collection (Function.update contextOfVisitor.collection.message 4
      { contextOfVisitor.collection.message 4 with content := "other" }) }

theorem writtenAlike_contextWithOtherText :
    WrittenAlike contextOfVisitor contextWithOtherText {} ∧
      (contextWithOtherText.collection.message 4).content ≠ (contextOfVisitor.collection.message 4).content := by
  refine ⟨writtenAlike_of_sameButHidden contextOfVisitor contextWithOtherText reachable_threadOfUser
    ⟨⟨_, rfl⟩, fun message => ?_, fun message hview => ?_⟩ {}, by decide +kernel⟩
  · by_cases hm : message = 4
    · subst hm
      simp [contextWithOtherText, withMessages, withoutContent]
    · simp [contextWithOtherText, withMessages, hm]
  · have hm : message ≠ 4 := by
      rintro rfl
      exact absurd hview (by decide +kernel)
    simp [contextWithOtherText, withMessages, hm]

end Forum.Serialization
