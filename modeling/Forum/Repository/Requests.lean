import Forum.Repository.Runs

/-!
# Requests

The public write operations of the repositories. A request validates its arguments, takes the write
lock, brings the performer's last seen time up to date, makes its own checks, asks for
authorization, and performs the direct write of its name. The event it emits stands for a direct
write too, with the values the observers read; most requests emit it once the direct write was
accepted, those that delete or merge entities before, while the observers can still see them.

Who may do what, how names are collated and the configured limits are parameters: `Environment`.
-/

namespace Forum.Repository

open Forum.Entities

/-- The status codes of requests: those of a direct write, and those that only requests answer
with. -/
inductive RequestStatus
  | directWrite (code : StatusCode)
  | valueTooLong | valueTooShort | notAllowed | notUpdatedSinceLastCheck | unauthorized | throttled | quotaExceeded
  deriving DecidableEq, Repr

namespace RequestStatus

abbrev ok : RequestStatus := .directWrite .ok
abbrev invalidParameters : RequestStatus := .directWrite .invalidParameters
abbrev alreadyExists : RequestStatus := .directWrite .alreadyExists
abbrev notFound : RequestStatus := .directWrite .notFound
abbrev noEffect : RequestStatus := .directWrite .noEffect
abbrev circularReferenceNotAllowed : RequestStatus := .directWrite .circularReferenceNotAllowed

end RequestStatus

/-- The configured limits of categories. -/
structure DiscussionCategoryConfig where
  minNameLength : ℕ
  maxNameLength : ℕ
  maxDescriptionLength : ℕ

/-- What the requests rely on. -/
structure Environment where
  /-- May the performer do this? -/
  authorize : Operation → Context → EntityCollection → RequestStatus
  lastSeenUpdatePrecision : ℤ
  /-- `countUTF8Characters`. -/
  countUTF8Characters : String → ℕ
  doesNotContainLeadingOrTrailingWhitespace : String → Bool
  discussionCategory : DiscussionCategoryConfig

/-- What a request answers with: the status, the store it leaves, and the events it has emitted. -/
structure Response where
  status : RequestStatus
  store : EntityCollection
  events : List Operation

/-- `PerformedByWithLastSeenUpdateGuard::getAndUpdate`, as far as the store is concerned. -/
def getAndUpdate (env : Environment) (ctx : Context) (s : EntityCollection) : EntityCollection :=
  if ctx.currentUserId ∈ s.users ∧
      (s.user ctx.currentUserId).lastSeen + env.lastSeenUpdatePrecision < ctx.currentTime then
    User.updateLastSeen ctx.currentUserId s ctx.currentTime
  else s

/-- A write request. -/
structure WriteRequest where
  /-- What becomes of the arguments, before the lock is taken. -/
  validation : RequestStatus
  /-- The request's own checks. -/
  checks : EntityCollection → RequestStatus
  /-- The direct write. -/
  operation : Operation
  /-- Is the event emitted before the direct write? -/
  announcedFirst : Bool
  /-- The event, read off the store when it is emitted. -/
  event : EntityCollection → Operation

namespace WriteRequest

variable (env : Environment) (ctx : Context) (r : WriteRequest) (s : EntityCollection)

/-- The direct write of a request, and its event. -/
def write : Response :=
  let (code, s') := r.operation.perform ctx s
  if r.announcedFirst then ⟨.directWrite code, s', [r.event s]⟩
  else if code = .ok then ⟨.ok, s', [r.event s']⟩
  else ⟨.directWrite code, s', []⟩

/-- Answer a request. -/
def perform : Response :=
  if r.validation = .ok then
    let s := getAndUpdate env ctx s
    if r.checks s = .ok then
      if env.authorize r.operation ctx s = .ok then r.write ctx s
      else ⟨env.authorize r.operation ctx s, s, []⟩
    else ⟨r.checks s, s, []⟩
  else ⟨r.validation, s, []⟩

/-- What a request does to the store: nothing, or it updates the last seen time and goes no further,
or it performs its direct write as well. -/
theorem store_perform :
    (r.perform env ctx s).store = s ∨ (r.perform env ctx s).store = getAndUpdate env ctx s ∨
      r.validation = .ok ∧ r.checks (getAndUpdate env ctx s) = .ok ∧
        (r.perform env ctx s).store = (r.operation.perform ctx (getAndUpdate env ctx s)).2 := by
  unfold perform
  dsimp only
  split_ifs with hvalid hchecks
  · refine .inr (.inr ⟨hvalid, hchecks, ?_⟩)
    unfold write
    dsimp only
    split_ifs <;> rfl
  · exact .inr (.inl rfl)
  · exact .inr (.inl rfl)
  · exact .inl rfl

end WriteRequest

/-! ### Validation -/

/-- `validateString`. -/
def validateString (env : Environment) (string : String) (allowEmptyString : Bool) (minimumLength maximumLength : Option ℕ)
    (extraValidation : String → Bool) : RequestStatus :=
  if ¬allowEmptyString ∧ string.isEmpty then .invalidParameters
  else if maximumLength.any fun maximum => maximum < env.countUTF8Characters string then .valueTooLong
  else if minimumLength.any fun minimum => env.countUTF8Characters string < minimum then .valueTooShort
  else if extraValidation string then .ok
  else .invalidParameters

/-! ### The last seen time -/

/-- Updating the last seen time is a direct write of its own. -/
theorem getAndUpdate_eq (env : Environment) (ctx : Context) (s : EntityCollection) :
    getAndUpdate env ctx s = s ∨
      getAndUpdate env ctx s = ((Operation.updateUserLastSeen ctx.currentUserId ctx.currentTime).perform ctx s).2 := by
  unfold getAndUpdate
  split_ifs with h
  · refine .inr ?_
    simp [Operation.perform, updateUserLastSeen, h.1]
  · exact .inl rfl

end Forum.Repository
