import Forum.Authorization.SerializationRestriction

/-!
# The visibility of many messages

`computeDiscussionThreadMessageVisibilityAllowed` decides for many messages of a thread at once what a
user gets to see of them. What the user is granted and what is required at the level of the thread is
found once; each message adds what is specific to it. The decisions are those made for one message at a
time, as both ways find the greatest positive and the least negative grant.
-/

namespace Forum.Authorization

open Forum.Library Forum.Entities

/-- `DiscussionThreadMessagePrivilegeCheck`; the user is the same for all messages. -/
structure DiscussionThreadMessagePrivilegeCheck where
  message : IdType
  allowedToShowMessage : Bool := false
  allowedToShowUser : Bool := false
  allowedToShowVotes : Bool := false
  allowedToShowIpAddress : Bool := false
  allowedToViewComments : Bool := false

/-- What is found at two levels together. -/
def PrivilegeValues.merge (first second : PrivilegeValues) : PrivilegeValues where
  positiveValue := maximumPrivilegeValue first.positiveValue second.positiveValue
  negativeValue := minimumPrivilegeValue first.negativeValue second.negativeValue

section

variable (g : GrantedPrivilegeStore) (r : RequiredPrivileges) (s : Store) (tags : IdType → List IdType)
  (user : IdType) (now : Timestamp)

/-- `computeDiscussionThreadMessageVisibilityAllowed`. -/
def GrantedPrivilegeStore.computeDiscussionThreadMessageVisibilityAllowed :
    List IdType → List DiscussionThreadMessagePrivilegeCheck
  | [] => []
  | firstMessage :: messages =>
    let thread := s.messageParentThread firstMessage
    -- what is granted and required at the level of the thread is the same for all messages
    let threadLevel := g.calculateThreadLevelPrivilege s user now thread (tags thread) {}
    let required := DiscussionThread.getDiscussionThreadMessagePrivilege r thread (tags thread)
    (firstMessage :: messages).map fun message =>
      let messageLevel := g.calculateDiscussionThreadMessagePrivilege s user now message {}
      let allowed privilege := ((messageLevel.merge threadLevel).isAllowed
        (DiscussionThreadMessage.getDiscussionThreadMessagePrivilege r message privilege (required privilege))).isSome
      { message
        allowedToShowMessage := allowed .view
        allowedToShowUser := allowed .viewCreatorUser
        allowedToShowVotes := allowed .viewVotes
        allowedToShowIpAddress := allowed .viewIpAddress
        allowedToViewComments := allowed .getMessageComments }

end

/-! ### Merging what is found at two levels -/

namespace PrivilegeValues

instance : Std.Associative maximumPrivilegeValue := inferInstanceAs (Std.Associative (Option.merge max))

instance : Std.Associative minimumPrivilegeValue := inferInstanceAs (Std.Associative (Option.merge min))

variable (values values' : PrivilegeValues)

@[simp] theorem merge_nothing : values.merge {} = values := by
  cases values
  simp [merge, maximumPrivilegeValue, minimumPrivilegeValue]

theorem merge_takeEntry (now : Timestamp) (entry : PrivilegeEntry) :
    takeEntry now (values.merge values') entry = values.merge (takeEntry now values' entry) := by
  unfold takeEntry merge
  split_ifs
  · rfl
  · simp only [Std.Associative.assoc]
  · simp only [Std.Associative.assoc]

theorem merge_foldl_takeEntry (now : Timestamp) (entries : List PrivilegeEntry) :
    entries.foldl (takeEntry now) (values.merge values') = values.merge (entries.foldl (takeEntry now) values') := by
  induction entries generalizing values' with
  | nil => rfl
  | cons entry entries ih => rw [List.foldl_cons, List.foldl_cons, merge_takeEntry, ih]

end PrivilegeValues

namespace GrantedPrivilegeStore

variable (g : GrantedPrivilegeStore) (s : Store) (user : IdType) (now : Timestamp) (values values' : PrivilegeValues)

/-- What is found at a level does not depend on what was found before. -/
theorem calculatePrivilege_merge (collection : List PrivilegeEntry) (entityId : IdType) :
    g.calculatePrivilege s user now collection entityId (values.merge values') =
      values.merge (g.calculatePrivilege s user now collection entityId values') := by
  unfold calculatePrivilege
  split_ifs
  · simp only [PrivilegeValues.merge, Std.Associative.assoc]
  · rw [← PrivilegeValues.merge_foldl_takeEntry]
    simp only [PrivilegeValues.merge, Std.Associative.assoc]

theorem calculateTags_merge (tags : List IdType) :
    tags.foldl (fun values tag => g.calculateDiscussionTagPrivilege s user now tag values) (values.merge values') =
      values.merge (tags.foldl (fun values tag => g.calculateDiscussionTagPrivilege s user now tag values) values') := by
  induction tags generalizing values' with
  | nil => rfl
  | cons tag tags ih =>
    rw [List.foldl_cons, List.foldl_cons, calculateDiscussionTagPrivilege, calculatePrivilege_merge, ih]
    rfl

/-- What is found at the level of the thread may be merged with what was found for the message. -/
theorem calculateThreadLevelPrivilege_eq_merge (thread : IdType) (tags : List IdType) :
    g.calculateThreadLevelPrivilege s user now thread tags values =
      values.merge (g.calculateThreadLevelPrivilege s user now thread tags {}) := by
  have hthread : g.calculateDiscussionThreadPrivilege s user now thread values =
      values.merge (g.calculateDiscussionThreadPrivilege s user now thread {}) := by
    have h := g.calculatePrivilege_merge s user now values {} g.discussionThreadSpecificPrivileges thread
    rwa [PrivilegeValues.merge_nothing] at h
  unfold calculateThreadLevelPrivilege
  simp only [hthread, calculateTags_merge]
  exact g.calculatePrivilege_merge s user now values _ g.forumWideSpecificPrivileges 0

end GrantedPrivilegeStore

/-- What is decided for many messages of a thread at once is what is decided for each. -/
theorem PrivilegedCollection.computeDiscussionThreadMessageVisibilityAllowed_eq (s : PrivilegedCollection)
    (restriction : SerializationRestriction) {thread : IdType} {messages : List IdType}
    (hmessages : ∀ message ∈ messages, s.messageParentThread message = thread) :
    s.granted.computeDiscussionThreadMessageVisibilityAllowed s.required s.toStore (threadTagsInOrder s.toStore)
        restriction.userId restriction.now messages =
      messages.map fun message =>
        { message
          allowedToShowMessage := restriction.isAllowed s (.message message .view)
          allowedToShowUser := restriction.isAllowed s (.message message .viewCreatorUser)
          allowedToShowVotes := restriction.isAllowed s (.message message .viewVotes)
          allowedToShowIpAddress := restriction.isAllowed s (.message message .viewIpAddress)
          allowedToViewComments := restriction.isAllowed s (.message message .getMessageComments) } := by
  cases messages with
  | nil => rfl
  | cons firstMessage messages =>
    have hallowed : ∀ message ∈ firstMessage :: messages, ∀ privilege,
        restriction.isAllowed s (.message message privilege) =
          (((s.granted.calculateDiscussionThreadMessagePrivilege s.toStore restriction.userId restriction.now message
              {}).merge (s.granted.calculateThreadLevelPrivilege s.toStore restriction.userId restriction.now thread
                (threadTagsInOrder s.toStore thread) {})).isAllowed
            (DiscussionThreadMessage.getDiscussionThreadMessagePrivilege s.required message privilege
              (DiscussionThread.getDiscussionThreadMessagePrivilege s.required thread
                (threadTagsInOrder s.toStore thread) privilege))).isSome := by
      intro message hmessage privilege
      rw [← GrantedPrivilegeStore.calculateThreadLevelPrivilege_eq_merge, ← hmessages message hmessage]
      rfl
    unfold GrantedPrivilegeStore.computeDiscussionThreadMessageVisibilityAllowed
    dsimp only
    rw [hmessages firstMessage List.mem_cons_self]
    exact List.map_congr_left fun message hmessage => by simp only [hallowed message hmessage]

end Forum.Authorization
