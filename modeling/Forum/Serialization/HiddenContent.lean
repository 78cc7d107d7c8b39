import Forum.Serialization.EntitySerialization

/-!
# Hidden content

The content of a message, the reason of its last change and the addresses it was written from are written
out only for those who may view the message. Two stores that differ in nothing else, and in this only for
messages the viewer may not view, are `SameButHidden`: they are written out alike.

What has been decided about the messages of a page is handed down in the settings, past the entities
written within a message. None of them heeds it: `undecided` are the settings without it.
-/

namespace Forum.Serialization

open Forum.Library Forum.Entities Forum.Authorization

/-- The settings without what has been decided about a message. -/
def SerializationSettings.undecided (settings : SerializationSettings) : SerializationSettings :=
  { settings with
    allowDisplayDiscussionThreadMessage := none
    allowDisplayDiscussionThreadMessageUser := none
    allowDisplayDiscussionThreadMessageVotes := none
    allowDisplayDiscussionThreadMessageIpAddress := none
    allowDisplayDiscussionThreadMessageComments := none }

namespace SerializationSettings

variable (settings : SerializationSettings)

@[simp] theorem undecided_allowDisplayDiscussionThreadMessage :
    settings.undecided.allowDisplayDiscussionThreadMessage = none := rfl

@[simp] theorem undecided_allowDisplayDiscussionThreadMessageUser :
    settings.undecided.allowDisplayDiscussionThreadMessageUser = none := rfl

@[simp] theorem undecided_allowDisplayDiscussionThreadMessageVotes :
    settings.undecided.allowDisplayDiscussionThreadMessageVotes = none := rfl

@[simp] theorem undecided_allowDisplayDiscussionThreadMessageIpAddress :
    settings.undecided.allowDisplayDiscussionThreadMessageIpAddress = none := rfl

@[simp] theorem undecided_allowDisplayDiscussionThreadMessageComments :
    settings.undecided.allowDisplayDiscussionThreadMessageComments = none := rfl

@[simp] theorem undecided_hideDiscussionThreadMessages :
    settings.undecided.hideDiscussionThreadMessages = settings.hideDiscussionThreadMessages := rfl

end SerializationSettings

/-- A message without its content, the reason of its last change and its visit details. -/
def withoutContent (message : DiscussionThreadMessage) : DiscussionThreadMessage :=
  { message with
    content := ""
    creationDetails := {}
    lastUpdated := message.lastUpdated.map fun info => { info with details := {}, reason := "" } }

/-- The store with other messages. -/
def withMessages (s : PrivilegedCollection) (messages : IdType → DiscussionThreadMessage) : PrivilegedCollection :=
  { s with message := messages }

/-- The same as `x` but for the content, the change reasons and the visit details of messages that the
viewer may not view. -/
structure SameButHidden (x x' : SerializationContext) : Prop where
  sameOtherwise : ∃ messages, x' = { x with collection := withMessages x.collection messages }
  withoutContent : ∀ message,
    withoutContent (x'.collection.message message) = withoutContent (x.collection.message message)
  visible : ∀ message, x.restriction.isAllowedToViewMessage x.collection message →
    x'.collection.message message = x.collection.message message

namespace SameButHidden

variable {x x' : SerializationContext}

theorem refl (x : SerializationContext) : SameButHidden x x := ⟨⟨x.collection.message, rfl⟩, fun _ => rfl, fun _ _ => rfl⟩

theorem approved (h : SameButHidden x x') (message : IdType) :
    (x'.collection.message message).approved = (x.collection.message message).approved :=
  congrArg (·.approved) (h.withoutContent message)

theorem created (h : SameButHidden x x') (message : IdType) :
    (x'.collection.message message).created = (x.collection.message message).created :=
  congrArg (·.created) (h.withoutContent message)

/-! ### What does not depend on messages -/

theorem isAllowed (h : SameButHidden x x') (query : PrivilegeQuery) : x'.isAllowed query = x.isAllowed query := by
  obtain ⟨messages, rfl⟩ := h.sameOtherwise
  cases query <;> rfl

theorem writePrivileges (h : SameButHidden x x') {α : Type} (query : α → PrivilegeQuery) (privileges : List α)
    (string : α → String) : x'.writePrivileges query privileges string = x.writePrivileges query privileges string := by
  unfold SerializationContext.writePrivileges
  simp only [h.isAllowed]

theorem serializeUser (h : SameButHidden x x') (user : IdType) : x'.serializeUser user = x.serializeUser user := by
  have hallowed := h.isAllowed
  obtain ⟨messages, rfl⟩ := h.sameOtherwise
  unfold SerializationContext.serializeUser
  simp only [hallowed]
  rfl

theorem isAllowedToViewThread (h : SameButHidden x x') (thread : IdType) :
    x'.restriction.isAllowedToViewThread x'.collection thread =
      x.restriction.isAllowedToViewThread x.collection thread := by
  obtain ⟨messages, rfl⟩ := h.sameOtherwise
  rfl

theorem isAllowedToViewMessage (h : SameButHidden x x') (message : IdType) :
    x'.restriction.isAllowedToViewMessage x'.collection message =
      x.restriction.isAllowedToViewMessage x.collection message := by
  have happroved := h.approved message
  obtain ⟨messages, rfl⟩ := h.sameOtherwise
  unfold SerializationRestriction.isAllowedToViewMessage SerializationRestriction.checkMessageAllowViewApproval
  rw [happroved]
  rfl

/-! ### The latest message -/

theorem writeLatestMessage (h : SameButHidden x x') (message : IdType) :
    x'.writeLatestMessage message = x.writeLatestMessage message := by
  unfold SerializationContext.writeLatestMessage
  simp only [h.isAllowedToViewMessage]
  split_ifs with hview
  · simp only [h.visible message hview, h.isAllowed, h.serializeUser]
    obtain ⟨messages, rfl⟩ := h.sameOtherwise
    rfl
  · rfl

theorem writeLatestMessageOfThreads (h : SameButHidden x x') (threads : ThreadCollectionRef) :
    x'.writeLatestMessageOfThreads threads = x.writeLatestMessageOfThreads threads := by
  unfold SerializationContext.writeLatestMessageOfThreads
  simp only [funext h.writeLatestMessage]
  obtain ⟨messages, rfl⟩ := h.sameOtherwise
  rfl

theorem latestMessage (h : SameButHidden x x') (fuel : ℕ) (category : IdType) :
    DiscussionCategory.latestMessage x'.collection.toEntityCollection fuel category =
      DiscussionCategory.latestMessage x.collection.toEntityCollection fuel category := by
  have hlater : DiscussionCategory.laterMessage x'.collection.toEntityCollection =
      DiscussionCategory.laterMessage x.collection.toEntityCollection := by
    funext result childLatestMessage
    unfold DiscussionCategory.laterMessage
    simp only [h.created]
  induction fuel generalizing category with
  | zero => rfl
  | succ fuel ih =>
    unfold DiscussionCategory.latestMessage
    simp only [ih, hlater]
    obtain ⟨messages, rfl⟩ := h.sameOtherwise
    rfl

/-! ### Tags and categories -/

mutual

/-- A tag is written out alike, whatever has been decided about a message. -/
theorem serializeDiscussionTag (h : SameButHidden x x') (settings : SerializationSettings) (tag : IdType) :
    x'.serializeDiscussionTag settings.undecided tag = x.serializeDiscussionTag settings tag := by
  rw [SerializationContext.serializeDiscussionTag, SerializationContext.serializeDiscussionTag]
  simp only [h.isAllowed, h.writeLatestMessageOfThreads, h.writePrivileges]
  by_cases hhide : settings.hideDiscussionCategoriesOfTags
  · rw [if_pos (c := settings.undecided.hideDiscussionCategoriesOfTags = true) hhide, if_pos hhide]
    obtain ⟨messages, rfl⟩ := h.sameOtherwise
    rfl
  · have hcategories : x'.serializeDiscussionCategory settings.undecided.forCategoriesOfTag =
        x.serializeDiscussionCategory settings.forCategoriesOfTag :=
      funext fun category => h.serializeDiscussionCategory settings.forCategoriesOfTag category
    rw [if_neg (c := settings.undecided.hideDiscussionCategoriesOfTags = true) hhide, if_neg hhide, hcategories]
    obtain ⟨messages, rfl⟩ := h.sameOtherwise
    rfl
termination_by settings.recursionMeasure (if settings.hideDiscussionCategoriesOfTags then 0 else 2)
decreasing_by exact .right _ (.right _ (by rw [if_neg hhide]; decide))

theorem serializeDiscussionCategory (h : SameButHidden x x') (settings : SerializationSettings) (category : IdType) :
    x'.serializeDiscussionCategory settings.undecided category = x.serializeDiscussionCategory settings category := by
  rw [SerializationContext.serializeDiscussionCategory, SerializationContext.serializeDiscussionCategory]
  simp only [h.isAllowed, h.latestMessage, funext h.writeLatestMessage, h.writePrivileges]
  have htags : x'.serializeDiscussionTag settings.undecided.forTagsOfCategory =
      x.serializeDiscussionTag settings.forTagsOfCategory :=
    funext fun tag => h.serializeDiscussionTag settings.forTagsOfCategory tag
  have hchildren : (if 0 < settings.undecided.showDiscussionCategoryChildrenRecursionLeft then
        [("children", Json.array ((ascending (x'.collection.categoryChildren category)).map
          (x'.serializeDiscussionCategory settings.undecided.forChildren)))] else []) =
      if 0 < settings.showDiscussionCategoryChildrenRecursionLeft then
        [("children", Json.array ((ascending (x'.collection.categoryChildren category)).map
          (x.serializeDiscussionCategory settings.forChildren)))] else [] := by
    refine ite_congr rfl (fun hpos => ?_) fun _ => rfl
    have hchild : x'.serializeDiscussionCategory settings.undecided.forChildren =
        x.serializeDiscussionCategory settings.forChildren :=
      funext fun child => h.serializeDiscussionCategory settings.forChildren child
    rw [hchild]
  have hparent : (if settings.undecided.parentRecursionDepth < 10 then
        (x'.collection.categoryParent category).elim [] fun parent =>
          if settings.undecided.onlySendCategoryParentId then [("parentId", Json.uuid parent)]
          else [("parent", x'.serializeDiscussionCategory settings.undecided.forParent parent)]
        else []) =
      if settings.parentRecursionDepth < 10 then
        (x'.collection.categoryParent category).elim [] fun parent =>
          if settings.onlySendCategoryParentId then [("parentId", Json.uuid parent)]
          else [("parent", x.serializeDiscussionCategory settings.forParent parent)]
        else [] := by
    refine ite_congr rfl (fun hdepth => ?_) fun _ => rfl
    have hwrite : x'.serializeDiscussionCategory settings.undecided.forParent =
        x.serializeDiscussionCategory settings.forParent :=
      funext fun parent => h.serializeDiscussionCategory settings.forParent parent
    rw [hwrite]
    rfl
  rw [htags, hchildren, hparent]
  obtain ⟨messages, rfl⟩ := h.sameOtherwise
  rfl
termination_by settings.recursionMeasure 1
decreasing_by
  · exact .right _ (.right _ Nat.zero_lt_one)
  · exact settings.forChildren_recursionMeasure_lt hpos 1 1
  · exact settings.forParent_recursionMeasure_lt hdepth 1 1

end

/-! ### Threads without their messages, and messages -/

/-- A thread without its messages is written out alike, whatever has been decided about a message. -/
theorem serializeDiscussionThread_withoutMessages (h : SameButHidden x x') (settings : SerializationSettings)
    (hhide : settings.hideDiscussionThreadMessages = true) (thread : IdType) :
    x'.serializeDiscussionThread settings.undecided thread = x.serializeDiscussionThread settings thread := by
  have htags : x'.serializeDiscussionTag settings.undecided.forTagsOfThread =
      x.serializeDiscussionTag settings.forTagsOfThread :=
    funext fun tag => h.serializeDiscussionTag settings.forTagsOfThread tag
  have hcategories : x'.serializeDiscussionCategory settings.undecided.forCategoriesOfThread =
      x.serializeDiscussionCategory settings.forCategoriesOfThread :=
    funext fun category => h.serializeDiscussionCategory settings.forCategoriesOfThread category
  rw [SerializationContext.serializeDiscussionThread, SerializationContext.serializeDiscussionThread, htags, hcategories]
  simp only [SerializationSettings.undecided_hideDiscussionThreadMessages, hhide, if_true, h.isAllowedToViewThread,
    h.serializeUser, funext h.writeLatestMessage, h.writePrivileges]
  obtain ⟨messages, rfl⟩ := h.sameOtherwise
  rfl

theorem attachmentsOfMessage (h : SameButHidden x x') (settings : SerializationSettings) (message : IdType) :
    x'.attachmentsOfMessage settings message = x.attachmentsOfMessage settings message := by
  have hserialize : x'.serializeAttachment settings = x.serializeAttachment settings := by
    funext attachment
    unfold SerializationContext.serializeAttachment
    simp only [h.serializeUser]
    obtain ⟨messages, rfl⟩ := h.sameOtherwise
    rfl
  unfold SerializationContext.attachmentsOfMessage
  rw [hserialize]
  obtain ⟨messages, rfl⟩ := h.sameOtherwise
  rfl

/-- A message that may not be viewed is not written out, and every other is the same in both stores. -/
theorem serializeDiscussionThreadMessage (h : SameButHidden x x') (settings : SerializationSettings) (message : IdType) :
    x'.serializeDiscussionThreadMessage settings.undecided message =
      x.serializeDiscussionThreadMessage settings.undecided message := by
  rw [SerializationContext.serializeDiscussionThreadMessage, SerializationContext.serializeDiscussionThreadMessage]
  simp only [SerializationSettings.undecided_allowDisplayDiscussionThreadMessage, Option.elim_none,
    h.isAllowedToViewMessage]
  by_cases hview : x.restriction.isAllowedToViewMessage x.collection message
  · have hmessage := h.visible message hview
    have hthread : x'.serializeDiscussionThread settings.undecided.forParentThread =
        x.serializeDiscussionThread settings.undecided.forParentThread :=
      funext fun thread => h.serializeDiscussionThread_withoutMessages settings.undecided.forParentThread rfl thread
    have hlastUpdated : ∀ allowViewUser allowViewIpAddress,
        x'.lastUpdatedOfMessage allowViewUser allowViewIpAddress message =
          x.lastUpdatedOfMessage allowViewUser allowViewIpAddress message := by
      intro allowViewUser allowViewIpAddress
      unfold SerializationContext.lastUpdatedOfMessage
      simp only [hmessage]
      obtain ⟨messages, rfl⟩ := h.sameOtherwise
      rfl
    simp only [hmessage, hthread, hlastUpdated, h.attachmentsOfMessage, h.isAllowed, h.serializeUser, h.writePrivileges]
    obtain ⟨messages, rfl⟩ := h.sameOtherwise
    rfl
  · simp only [hview, Bool.not_false, if_true]

theorem serializeMessageComment (h : SameButHidden x x') (settings : SerializationSettings) (comment : IdType) :
    x'.serializeMessageComment settings.undecided comment = x.serializeMessageComment settings.undecided comment := by
  unfold SerializationContext.serializeMessageComment
  simp only [h.serializeDiscussionThreadMessage, h.serializeUser]
  obtain ⟨messages, rfl⟩ := h.sameOtherwise
  rfl

end SameButHidden

end Forum.Serialization
