import Forum.Entities.Creation

/-!
# What the repositories share

Status codes, the current user, and the three ways a repository records who last updated an
entity.
-/

namespace Forum.Repository

open Forum.Entities

/-- The status codes a direct write returns. -/
inductive StatusCode
  | ok | invalidParameters | alreadyExists | notFound | noEffect | circularReferenceNotAllowed
  | userWithSameAuthAlreadyExists
  deriving DecidableEq, Repr

/-- What a direct write returns, with the store it leaves. -/
abbrev Result := StatusCode × EntityCollection

/-- The id of the anonymous user, which is in no collection. -/
def anonymousUser : IdType := 0

/-- `getCurrentUser`: the anonymous user when the id of the context is not registered. -/
def getCurrentUser (ctx : Context) (s : EntityCollection) : IdType :=
  if ctx.currentUserId ∈ s.users then ctx.currentUserId else anonymousUser

/-- `updateThreadLastUpdated`. -/
def updateThreadLastUpdated (ctx : Context) (thread currentUser : IdType) (s : EntityCollection) :
    EntityCollection :=
  let s := DiscussionThread.setLatestVisibleChange thread s ctx.currentTime
  let s := DiscussionThread.updateLastUpdated thread s ctx.currentTime
  let s := DiscussionThread.updateLastUpdatedDetails thread s ctx.visitDetails
  DiscussionThread.updateLastUpdatedBy thread s currentUser

/-- `updateLastUpdated` of a tag. -/
def updateTagLastUpdated (ctx : Context) (tag user : IdType) (s : EntityCollection) : EntityCollection :=
  s.modifyTag tag fun t =>
    { t with lastUpdated := ctx.currentTime, lastUpdatedDetails := ctx.visitDetails, lastUpdatedBy := some user }

/-- `updateLastUpdated` of a category. -/
def updateCategoryLastUpdated (ctx : Context) (category user : IdType) (s : EntityCollection) :
    EntityCollection :=
  s.modifyCategory category fun c =>
    { c with lastUpdated := ctx.currentTime, lastUpdatedDetails := ctx.visitDetails, lastUpdatedBy := some user }

end Forum.Repository
