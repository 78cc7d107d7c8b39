import Forum.Authorization.Privileges
import Forum.Entities.Categories

/-!
# Granted privileges

`GrantedPrivilegeStore`: the privileges users were granted, on messages, threads, tags and categories
and forum wide. What a user may do is the greatest of its positive grants and the least of its
negative ones, on the entity asked about and on every level above it, against the value required.

Every registered user has a default value besides its grants, a configured one and a bonus for its
messages. The bonus is a product of floating point numbers cast to 16 bits; it is taken as a function
of the number of messages. Sums are computed in 16 bits, as the `int` they are computed in is narrowed.

Entries for zero are never made: granting zero removes all entries of the user for the entity.
-/

namespace Forum.Authorization

open Forum.Library Forum.Entities

/-- `isAnonymousUserId`. -/
def isAnonymousUserId (id : IdType) : Bool := id = 0

/-- `PrivilegeEntry`. -/
structure PrivilegeEntry where
  userId : IdType
  entityId : IdType
  privilegeValue : PrivilegeValueIntType
  grantedAt : Timestamp
  /-- `0` when the grant does not expire. -/
  expiresAt : Timestamp
  privilegeValue_ne : privilegeValue ≠ 0

/-- Is the grant no longer in force? -/
def PrivilegeEntry.expired (entry : PrivilegeEntry) (now : Timestamp) : Bool :=
  0 < entry.expiresAt ∧ entry.expiresAt < now

/-- `GrantedPrivilegeStore`: five hash tables of entries, and what the default value is made of. -/
structure GrantedPrivilegeStore where
  discussionThreadMessageSpecificPrivileges : List PrivilegeEntry := []
  discussionThreadSpecificPrivileges : List PrivilegeEntry := []
  discussionTagSpecificPrivileges : List PrivilegeEntry := []
  discussionCategorySpecificPrivileges : List PrivilegeEntry := []
  forumWideSpecificPrivileges : List PrivilegeEntry := []
  defaultPrivilegeValueForLoggedInUser : PrivilegeValueIntType := 1
  /-- `messageCountMultiplierPrivilegeBonus` times the number of messages, cast to 16 bits. -/
  messageCountPrivilegeBonus : ℕ → PrivilegeValueIntType := fun _ => 0
  maxMessageCountPrivilegeBonus : PrivilegeValueIntType := 0

/-- `positiveValue` and `negativeValue`, as far as they have been found. -/
structure PrivilegeValues where
  positiveValue : PrivilegeValueType := none
  negativeValue : PrivilegeValueType := none

namespace PrivilegeValues

/-- `getEffectivePrivilegeValue`. -/
def effectivePrivilegeValue (values : PrivilegeValues) : PrivilegeValueIntType :=
  optionalOrZero values.positiveValue + optionalOrZero values.negativeValue

/-- `isAllowed`: the effective value when it is as great as the required one. -/
def isAllowed (values : PrivilegeValues) (required : PrivilegeValueType) : PrivilegeValueType :=
  if optionalOrZero required ≤ values.effectivePrivilegeValue then some values.effectivePrivilegeValue else none

/-- One entry of the loop in `calculatePrivilege`. -/
def takeEntry (now : Timestamp) (values : PrivilegeValues) (entry : PrivilegeEntry) : PrivilegeValues :=
  if entry.expired now then values
  else if 0 < entry.privilegeValue then
    { values with positiveValue := maximumPrivilegeValue values.positiveValue (some entry.privilegeValue) }
  else { values with negativeValue := minimumPrivilegeValue values.negativeValue (some entry.privilegeValue) }

end PrivilegeValues

/-! ### Granting -/

/-- `PrivilegeEntryCollection` after granting a value: zero takes all grants back. -/
def grantPrivilege (collection : List PrivilegeEntry) (userId entityId : IdType) (value : PrivilegeValueIntType)
    (now expiresAt : Timestamp) : List PrivilegeEntry :=
  if h : value = 0 then collection.filter fun entry => ¬(entry.userId = userId ∧ entry.entityId = entityId)
  else ⟨userId, entityId, value, now, expiresAt, h⟩ :: collection

namespace GrantedPrivilegeStore

section

variable (g : GrantedPrivilegeStore) (userId entityId : IdType) (value : PrivilegeValueIntType)
  (now expiresAt : Timestamp)

/-- `grantDiscussionThreadMessagePrivilege`. -/
def grantDiscussionThreadMessagePrivilege : GrantedPrivilegeStore :=
  { g with
    discussionThreadMessageSpecificPrivileges :=
      grantPrivilege g.discussionThreadMessageSpecificPrivileges userId entityId value now expiresAt }

/-- `grantDiscussionThreadPrivilege`. -/
def grantDiscussionThreadPrivilege : GrantedPrivilegeStore :=
  { g with
    discussionThreadSpecificPrivileges :=
      grantPrivilege g.discussionThreadSpecificPrivileges userId entityId value now expiresAt }

/-- `grantDiscussionTagPrivilege`. -/
def grantDiscussionTagPrivilege : GrantedPrivilegeStore :=
  { g with
    discussionTagSpecificPrivileges :=
      grantPrivilege g.discussionTagSpecificPrivileges userId entityId value now expiresAt }

/-- `grantDiscussionCategoryPrivilege`. -/
def grantDiscussionCategoryPrivilege : GrantedPrivilegeStore :=
  { g with
    discussionCategorySpecificPrivileges :=
      grantPrivilege g.discussionCategorySpecificPrivileges userId entityId value now expiresAt }

/-- `grantForumWidePrivilege`. -/
def grantForumWidePrivilege : GrantedPrivilegeStore :=
  { g with
    forumWideSpecificPrivileges := grantPrivilege g.forumWideSpecificPrivileges userId entityId value now expiresAt }

end

/-! ### What a user is granted -/

variable (g : GrantedPrivilegeStore) (r : RequiredPrivileges) (s : Store) (user : IdType) (now : Timestamp)

/-- `defaultPositiveValue` of `calculatePrivilege`: what a registered user has without any grant. -/
def defaultPositiveValue : PrivilegeValueIntType :=
  g.defaultPrivilegeValueForLoggedInUser +
    min g.maxMessageCountPrivilegeBonus (g.messageCountPrivilegeBonus (s.userMessages user).card)

/-- `calculatePrivilege`. -/
def calculatePrivilege (collection : List PrivilegeEntry) (entityId : IdType) (values : PrivilegeValues) :
    PrivilegeValues :=
  if isAnonymousUserId user then
    { values with positiveValue := maximumPrivilegeValue values.positiveValue (some 0) }
  else
    let values :=
      { values with positiveValue := maximumPrivilegeValue values.positiveValue (some (g.defaultPositiveValue s user)) }
    let range := collection.filter fun entry => entry.userId = user ∧ entry.entityId = entityId
    range.foldl (PrivilegeValues.takeEntry now) values

/-- `calculateDiscussionThreadMessagePrivilege` of a message. -/
def calculateDiscussionThreadMessagePrivilege (message : IdType) (values : PrivilegeValues) : PrivilegeValues :=
  g.calculatePrivilege s user now g.discussionThreadMessageSpecificPrivileges message values

/-- `calculateDiscussionThreadPrivilege`. -/
def calculateDiscussionThreadPrivilege (thread : IdType) (values : PrivilegeValues) : PrivilegeValues :=
  g.calculatePrivilege s user now g.discussionThreadSpecificPrivileges thread values

/-- `calculateDiscussionTagPrivilege`. -/
def calculateDiscussionTagPrivilege (tag : IdType) (values : PrivilegeValues) : PrivilegeValues :=
  g.calculatePrivilege s user now g.discussionTagSpecificPrivileges tag values

/-- `calculateDiscussionCategoryPrivilege`. -/
def calculateDiscussionCategoryPrivilege (category : IdType) (values : PrivilegeValues) : PrivilegeValues :=
  g.calculatePrivilege s user now g.discussionCategorySpecificPrivileges category values

/-- `calculateForumWidePrivilege`. -/
def calculateForumWidePrivilege (values : PrivilegeValues) : PrivilegeValues :=
  g.calculatePrivilege s user now g.forumWideSpecificPrivileges 0 values

/-- `calculateDiscussionThreadMessagePrivilege` of a thread with these tags. -/
def calculateThreadLevelPrivilege (thread : IdType) (tags : List IdType) (values : PrivilegeValues) :
    PrivilegeValues :=
  let values := g.calculateDiscussionThreadPrivilege s user now thread values
  let values := tags.foldl (fun values tag => g.calculateDiscussionTagPrivilege s user now tag values) values
  g.calculateForumWidePrivilege s user now values

end GrantedPrivilegeStore

/-! ### What a user may do -/

/-- What may be asked: an overload of `isAllowed` for each entity and kind of privilege. -/
inductive PrivilegeQuery
  | message (message : IdType) (privilege : DiscussionThreadMessagePrivilege)
  | threadMessages (thread : IdType) (privilege : DiscussionThreadMessagePrivilege)
  | tagMessages (tag : IdType) (privilege : DiscussionThreadMessagePrivilege)
  | thread (thread : IdType) (privilege : DiscussionThreadPrivilege)
  | tagThreads (tag : IdType) (privilege : DiscussionThreadPrivilege)
  | tag (tag : IdType) (privilege : DiscussionTagPrivilege)
  | category (category : IdType) (privilege : DiscussionCategoryPrivilege)
  | forumWideMessages (privilege : DiscussionThreadMessagePrivilege)
  | forumWideThreads (privilege : DiscussionThreadPrivilege)
  | forumWideTags (privilege : DiscussionTagPrivilege)
  | forumWideCategories (privilege : DiscussionCategoryPrivilege)
  | forumWide (privilege : ForumWidePrivilege)

/-- The order in which the flat sets of tags are iterated. -/
def threadTagsInOrder (s : Store) (thread : IdType) : List IdType := ascending (s.threadTags thread)

namespace GrantedPrivilegeStore

variable (g : GrantedPrivilegeStore) (r : RequiredPrivileges) (s : Store) (tags : IdType → List IdType)
  (user : IdType) (now : Timestamp)

/-- `isAllowed`: the value with which the user is allowed what it asks, nothing when it is not. `tags`
lists the tags of each thread. -/
def isAllowed : PrivilegeQuery → PrivilegeValueType
  | .message message privilege =>
    let values := g.calculateDiscussionThreadMessagePrivilege s user now message {}
    let thread := s.messageParentThread message
    let values := g.calculateThreadLevelPrivilege s user now thread (tags thread) values
    values.isAllowed (DiscussionThreadMessage.getDiscussionThreadMessagePrivilege r message privilege
      (DiscussionThread.getDiscussionThreadMessagePrivilege r thread (tags thread) privilege))
  | .threadMessages thread privilege =>
    let values := g.calculateThreadLevelPrivilege s user now thread (tags thread) {}
    values.isAllowed (DiscussionThread.getDiscussionThreadMessagePrivilege r thread (tags thread) privilege)
  | .tagMessages tag privilege =>
    let values := g.calculateDiscussionTagPrivilege s user now tag {}
    let values := g.calculateForumWidePrivilege s user now values
    values.isAllowed (DiscussionTag.getDiscussionThreadMessagePrivilege r tag privilege)
  | .thread thread privilege =>
    let values := g.calculateDiscussionThreadPrivilege s user now thread {}
    let values := (tags thread).foldl (fun values tag => g.calculateDiscussionTagPrivilege s user now tag values) values
    let values := g.calculateForumWidePrivilege s user now values
    values.isAllowed (DiscussionThread.getDiscussionThreadPrivilege r thread (tags thread) privilege)
  | .tagThreads tag privilege =>
    let values := g.calculateDiscussionTagPrivilege s user now tag {}
    let values := g.calculateForumWidePrivilege s user now values
    values.isAllowed (DiscussionTag.getDiscussionThreadPrivilege r tag privilege)
  | .tag tag privilege =>
    let values := g.calculateDiscussionTagPrivilege s user now tag {}
    let values := g.calculateForumWidePrivilege s user now values
    values.isAllowed (DiscussionTag.getDiscussionTagPrivilege r tag privilege)
  | .category category privilege =>
    let values := g.calculateDiscussionCategoryPrivilege s user now category {}
    let values := (s.categoryParents category).foldl
      (fun values parent => g.calculateDiscussionCategoryPrivilege s user now parent values) values
    let values := g.calculateForumWidePrivilege s user now values
    values.isAllowed (DiscussionCategory.getDiscussionCategoryPrivilege r category privilege)
  | .forumWideMessages privilege =>
    (g.calculateForumWidePrivilege s user now {}).isAllowed (r.forumWide.discussionThreadMessagePrivileges privilege)
  | .forumWideThreads privilege =>
    (g.calculateForumWidePrivilege s user now {}).isAllowed (r.forumWide.discussionThreadPrivileges privilege)
  | .forumWideTags privilege =>
    (g.calculateForumWidePrivilege s user now {}).isAllowed (r.forumWide.discussionTagPrivileges privilege)
  | .forumWideCategories privilege =>
    (g.calculateForumWidePrivilege s user now {}).isAllowed (r.forumWide.discussionCategoryPrivileges privilege)
  | .forumWide privilege =>
    (g.calculateForumWidePrivilege s user now {}).isAllowed (r.forumWide.forumWidePrivileges privilege)

end GrantedPrivilegeStore

end Forum.Authorization
