import Forum.Persistence.EventRoundTrip

/-!
# Recorded events

Every blob that the observer records, taken through `processEvent`. The importer that the header selects
makes of a direct write what is left of it, under the context it was recorded with. So an event is
imported as it was exactly when nothing of it was cut and no importer refuses it, which is
`Event.Recordable`.
-/

namespace Forum.Persistence

open Forum.Library Import
open Forum.Repository (StatusCode)

variable {σ : Type} {env : ImportEnvironment σ} {context : ObserverContext}

theorem parentOf_getD (id : UuidString) : (parentOf id).getD UuidString.empty = id := by
  unfold parentOf
  split
  next hid => exact hid.symm
  next => rfl

/-- The blob of an event runs the importer of its type and version. -/
theorem Imports.runs {eventType : EventType} {version : ℕ} {fn : ℕ → Import σ Unit} {parts : List BlobPart}
    {call : Option RepositoryCall} (h : Imports env (fn ContextVersion) context parts call)
    (hheader : 0 < eventType.ctorIdx ∧ version < 2 ^ 16)
    (hfn : (importFunctions[eventType.ctorIdx]?.bind fun versions => versions[version]?) = some (some fn)) :
    Runs env processEventBody (EventObserver.recordEvent context eventType version parts)
      (fun importer => attempt env call (importer.withContext context)) (call.isSome = true) := by
  obtain ⟨versions, hversions, hfn⟩ := Option.bind_eq_some_iff.1 hfn
  exact runs_processEventBody hheader.1 hheader.2 hversions hfn h

/-- Every importer makes of a recorded direct write what is left of it, layout by layout. -/
theorem runs_record {call : RepositoryCall} {blob : List UInt8} (h : call.record context = some blob) :
    Runs env processEventBody blob (fun importer => attempt env call.replayed (importer.withContext context))
      (call.replayed.isSome = true) := by
  cases call <;> cases h
  case addNewUser id name auth =>
    exact (imports_addNewUser id name auth).runs (by decide) rfl
  case changeUserName | changeDiscussionThreadName | addNewDiscussionTag | changeDiscussionTagName |
      changeDiscussionCategoryName | changeAttachmentName =>
    exact (imports_uuidNonemptyString _ _ _).runs (by decide) rfl
  case changeUserInfo | changeUserTitle | changeUserSignature | changeUserLogo | changeDiscussionTagUiBlob |
      changeDiscussionCategoryDescription =>
    exact (imports_uuidString _ _ _).runs (by decide) rfl
  case changeUserAttachmentQuota id newQuota =>
    exact (imports_attachmentQuota id newQuota).runs (by decide) rfl
  case deleteUser | deletePrivateMessage | deleteDiscussionThread | subscribeToDiscussionThread |
      unsubscribeFromDiscussionThread | deleteDiscussionMessage | upVoteDiscussionThreadMessage |
      downVoteDiscussionThreadMessage | resetVoteDiscussionThreadMessage | setMessageCommentToSolved |
      deleteDiscussionTag | deleteDiscussionCategory | deleteAttachment =>
    exact (imports_uuid _ _).runs (by decide) rfl
  case sendPrivateMessage | addCommentToDiscussionThreadMessage =>
    exact (imports_twoUuidsNonemptyString _ _ _ _).runs (by decide) rfl
  case addNewDiscussionThread id name approved =>
    exact (imports_addNewDiscussionThread id name approved).runs (by decide) rfl
  case changeDiscussionThreadPinDisplayOrder id newValue =>
    exact (imports_pinDisplayOrder id newValue).runs (by decide) rfl
  case changeDiscussionThreadApproval | changeDiscussionThreadMessageApproval | changeAttachmentApproval =>
    exact (imports_uuidApproval _ _ _).runs (by decide) rfl
  case mergeDiscussionThreads | quoteUserInMessage | addDiscussionTagToThread | removeDiscussionTagFromThread |
      mergeDiscussionTags | addDiscussionTagToCategory | removeDiscussionTagFromCategory |
      addAttachmentToDiscussionThreadMessage | removeAttachmentFromDiscussionThreadMessage =>
    exact (imports_twoUuids _ _ _).runs (by decide) rfl
  case addNewDiscussionMessageInThread messageId threadId approved content =>
    exact (imports_addNewDiscussionThreadMessage messageId threadId approved content).runs (by decide) rfl
  case changeDiscussionThreadMessageContent id newContent changeReason =>
    exact (imports_messageContent id newContent changeReason).runs (by decide) rfl
  case moveDiscussionThreadMessage messageId intoThreadId =>
    exact (imports_moveDiscussionThreadMessage messageId intoThreadId).runs (by decide) rfl
  -- a category without a parent is recorded with the empty id
  case addNewDiscussionCategory id name parentId =>
    rw [EventObserver.onAddNewDiscussionCategory, parentOf_getD]
    exact (imports_twoUuidsNonemptyString (fun categoryId parentId categoryName =>
      .addNewDiscussionCategory categoryId categoryName parentId) id parentId name).runs (by decide) rfl
  case changeDiscussionCategoryParent id newParentId =>
    rw [EventObserver.onChangeDiscussionCategoryParent, parentOf_getD]
    exact (imports_twoUuids _ _ _).runs (by decide) rfl
  case changeDiscussionCategoryDisplayOrder id newDisplayOrder =>
    exact (imports_displayOrder id newDisplayOrder).runs (by decide) rfl
  case addNewAttachment id name size approved =>
    exact (imports_addNewAttachment id name size approved).runs (by decide) rfl
  case changeDiscussionThreadMessageRequiredPrivilegeForThreadMessage |
      changeDiscussionThreadMessageRequiredPrivilegeForThread |
      changeDiscussionThreadMessageRequiredPrivilegeForTag | changeDiscussionThreadRequiredPrivilegeForThread |
      changeDiscussionThreadRequiredPrivilegeForTag | changeDiscussionTagRequiredPrivilegeForTag |
      changeDiscussionCategoryRequiredPrivilegeForCategory =>
    exact (imports_requiredPrivilege _ _ _ _).runs (by decide) rfl
  case changeDiscussionThreadMessageRequiredPrivilege | changeDiscussionThreadRequiredPrivilege |
      changeDiscussionTagRequiredPrivilege | changeDiscussionCategoryRequiredPrivilege |
      changeForumWideRequiredPrivilege =>
    exact (imports_forumWideRequiredPrivilege _ _ _).runs (by decide) rfl
  case changeForumWideDefaultPrivilegeLevel privilege value duration =>
    exact (imports_defaultPrivilegeLevel privilege value duration).runs (by decide) rfl
  case assignDiscussionThreadMessagePrivilege | assignDiscussionThreadPrivilege | assignDiscussionTagPrivilege |
      assignDiscussionCategoryPrivilege =>
    exact (imports_assignedPrivilege _ _ _ _ _).runs (by decide) rfl
  case assignForumWidePrivilege userId value duration =>
    exact (imports_assignForumWidePrivilege userId value duration).runs (by decide) rfl

/-! ### Events -/

/-- What is left of an event. A counter is recorded as it is. -/
def Event.replayed : Event → Option Event
  | .write call => call.replayed.map Event.write
  | event => some event

/-- What an event makes of the importer, as it happened: the direct write, or the change of a counter. -/
def Event.apply (env : ImportEnvironment σ) (event : Event) (importer : Importer σ) : Option Unit × Importer σ :=
  match event with
  | .write call => importer.check env call
  | .numberOfVisits threadId nrOfVisits =>
    (some (), { importer with
      cachedNrOfThreadVisits := addCached importer.cachedNrOfThreadVisits threadId nrOfVisits })
  | .latestVisitedPage userId threadId page =>
    (some (), { importer with
      latestThreadVisitedPage := Function.update importer.latestThreadVisitedPage userId
        (Function.update (importer.latestThreadVisitedPage userId) threadId (some page)) })
  | .numberOfGets attachmentId nrOfGets =>
    (some (), { importer with
      cachedNrOfAttachmentGets := addCached importer.cachedNrOfAttachmentGets attachmentId nrOfGets })

/-- The same of what is left of an event, if it is not refused. -/
def Event.replay (env : ImportEnvironment σ) (event : Event) (importer : Importer σ) : Option Unit × Importer σ :=
  match event.replayed with
  | some event => event.apply env importer
  | none => (none, importer)

theorem Event.replay_write (call : RepositoryCall) (importer : Importer σ) :
    (Event.write call).replay env importer = attempt env call.replayed importer := by
  have hreplayed : (Event.write call).replayed = call.replayed.map Event.write := rfl
  rw [Event.replay, hreplayed]
  cases call.replayed <;> rfl

/-- A recorded event runs its importer, which reads the blob to the last byte. -/
theorem runs_event {event : Event} {blob : List UInt8} (h : event.record context = some blob) :
    Runs env processEventBody blob
      (fun importer => event.replay env (importer.withContext (event.context context)))
      (event.replayed.isSome = true) := by
  cases event with
  | write call =>
    simpa only [Event.replay_write, Event.context, Event.replayed, Option.isSome_map] using runs_record h
  | numberOfVisits threadId nrOfVisits =>
    obtain rfl := Option.some.inj h
    exact runs_processEventBody (by decide) (by decide) rfl rfl (runs_processContext
      ((reads_uuid threadId).runs ((reads_uint32 nrOfVisits).runs (runs_modify _))))
  | latestVisitedPage userId threadId page =>
    obtain rfl := Option.some.inj h
    exact runs_processEventBody (by decide) (by decide) rfl rfl (runs_processContext
      ((reads_uuid userId).runs ((reads_uuid threadId).runs ((reads_uint32 page).runs (runs_modify _)))))
  | numberOfGets attachmentId nrOfGets =>
    obtain rfl := Option.some.inj h
    exact runs_processEventBody (by decide) (by decide) rfl rfl (runs_processContext
      ((reads_uuid attachmentId).runs ((reads_uint32 nrOfGets).runs (runs_modify _))))

/-! ### When an event is recorded whole -/

/-- A string whose size fits into the 32 bits before it. -/
def Fits (value : StringView) : Prop := value.length < 2 ^ 32

/-- A privilege that fits into `PersistentPrivilegeEnumType`. -/
def FitsPrivilege (privilege : EnumIntType) : Prop := privilege.toNat < 2 ^ 16

/-- The direct write is recorded whole and not refused by its importer. -/
def RepositoryCall.Recordable : RepositoryCall → Prop
  | .addNewUser _ name auth => (auth ≠ [] ∧ Fits auth) ∧ name ≠ [] ∧ Fits name
  | .changeUserName _ newName => newName ≠ [] ∧ Fits newName
  | .changeUserInfo _ newInfo => Fits newInfo
  | .changeUserTitle _ newTitle => Fits newTitle
  | .changeUserSignature _ newSignature => Fits newSignature
  | .changeUserLogo _ newLogo => Fits newLogo
  | .sendPrivateMessage _ _ content => content ≠ [] ∧ Fits content
  | .addNewDiscussionThread _ name _ => name ≠ [] ∧ Fits name
  | .changeDiscussionThreadName _ newName => newName ≠ [] ∧ Fits newName
  | .addNewDiscussionMessageInThread _ _ _ content => content ≠ [] ∧ Fits content
  | .changeDiscussionThreadMessageContent _ newContent changeReason =>
    (newContent ≠ [] ∧ Fits newContent) ∧ Fits changeReason
  | .addCommentToDiscussionThreadMessage _ _ content => content ≠ [] ∧ Fits content
  | .addNewDiscussionTag _ name => name ≠ [] ∧ Fits name
  | .changeDiscussionTagName _ newName => newName ≠ [] ∧ Fits newName
  | .changeDiscussionTagUiBlob _ blob => Fits blob
  | .addNewDiscussionCategory _ name _ => name ≠ [] ∧ Fits name
  | .changeDiscussionCategoryName _ newName => newName ≠ [] ∧ Fits newName
  | .changeDiscussionCategoryDescription _ newDescription => Fits newDescription
  | .changeDiscussionCategoryDisplayOrder _ newDisplayOrder =>
    -2 ^ 15 ≤ newDisplayOrder.toInt ∧ newDisplayOrder.toInt < 2 ^ 15
  | .addNewAttachment _ name _ _ => name ≠ [] ∧ Fits name
  | .changeAttachmentName _ newName => newName ≠ [] ∧ Fits newName
  | .changeDiscussionThreadMessageRequiredPrivilegeForThreadMessage _ privilege _ => FitsPrivilege privilege
  | .changeDiscussionThreadMessageRequiredPrivilegeForThread _ privilege _ => FitsPrivilege privilege
  | .changeDiscussionThreadMessageRequiredPrivilegeForTag _ privilege _ => FitsPrivilege privilege
  | .changeDiscussionThreadMessageRequiredPrivilege privilege _ => FitsPrivilege privilege
  | .changeDiscussionThreadRequiredPrivilegeForThread _ privilege _ => FitsPrivilege privilege
  | .changeDiscussionThreadRequiredPrivilegeForTag _ privilege _ => FitsPrivilege privilege
  | .changeDiscussionThreadRequiredPrivilege privilege _ => FitsPrivilege privilege
  | .changeDiscussionTagRequiredPrivilegeForTag _ privilege _ => FitsPrivilege privilege
  | .changeDiscussionTagRequiredPrivilege privilege _ => FitsPrivilege privilege
  | .changeDiscussionCategoryRequiredPrivilegeForCategory _ privilege _ => FitsPrivilege privilege
  | .changeDiscussionCategoryRequiredPrivilege privilege _ => FitsPrivilege privilege
  | .changeForumWideRequiredPrivilege privilege _ => FitsPrivilege privilege
  | .changeForumWideDefaultPrivilegeLevel privilege _ _ => FitsPrivilege privilege
  | _ => True

theorem narrow_eq_self {value : StringView} : narrow value = value ↔ Fits value := by
  have hpow : 0 < 2 ^ 32 := by decide
  unfold narrow Fits
  rw [List.take_eq_self_iff]
  constructor
  · intro h
    exact Nat.lt_of_le_of_lt h (Nat.mod_lt _ hpow)
  · intro h
    rw [Nat.mod_eq_of_lt h]

theorem nonempty_eq_self {value : StringView} : nonempty value = some value ↔ value ≠ [] ∧ Fits value := by
  unfold nonempty
  rw [← narrow_eq_self]
  constructor
  · intro h
    split at h
    next => cases h
    next hempty =>
      have hnarrow : narrow value = value := Option.some.inj h
      rw [hnarrow, List.isEmpty_iff] at hempty
      exact ⟨hempty, hnarrow⟩
  · rintro ⟨hne, hnarrow⟩
    rw [hnarrow, if_neg (by rwa [List.isEmpty_iff])]

theorem privilege_eq_self {privilege : EnumIntType} :
    privilege.toUInt16.toUInt64 = privilege ↔ FitsPrivilege privilege := by
  unfold FitsPrivilege
  rw [← UInt64.toNat_inj]
  have hcut : privilege.toUInt16.toUInt64.toNat = privilege.toNat % 2 ^ 16 := by simp
  omega

theorem displayOrder_eq_self {displayOrder : IntFast16} :
    displayOrder.toInt16.toInt64 = displayOrder ↔
      -2 ^ 15 ≤ displayOrder.toInt ∧ displayOrder.toInt < 2 ^ 15 := by
  rw [← Int64.toInt_inj]
  have hcut : displayOrder.toInt16.toInt64.toInt = displayOrder.toInt.bmod (2 ^ 16) := by simp
  rw [hcut, Int.bmod_eq_iff (by decide)]
  omega

/-- What is left of a direct write is the direct write exactly when it is recorded whole. -/
theorem RepositoryCall.replayed_eq_self {call : RepositoryCall} : call.replayed = some call ↔ call.Recordable := by
  cases call <;> simp [RepositoryCall.replayed, RepositoryCall.Recordable, narrow_eq_self, nonempty_eq_self,
    privilege_eq_self, displayOrder_eq_self, Option.bind_eq_some_iff, -UInt64.toUInt64_toUInt16]

instance (call : RepositoryCall) : Decidable call.Recordable := decidable_of_iff _ RepositoryCall.replayed_eq_self

/-- The event is recorded whole and not refused by its importer. -/
def Event.Recordable : Event → Prop
  | .write call => call.Recordable
  | _ => True

theorem Event.replayed_eq_self {event : Event} : event.replayed = some event ↔ event.Recordable := by
  cases event with
  | write call =>
    rw [Event.Recordable, ← RepositoryCall.replayed_eq_self]
    have hreplayed : (Event.write call).replayed = call.replayed.map Event.write := rfl
    rw [hreplayed]
    cases call.replayed <;> simp
  | numberOfVisits => exact iff_of_true rfl trivial
  | latestVisitedPage => exact iff_of_true rfl trivial
  | numberOfGets => exact iff_of_true rfl trivial

/-! ### Decoding -/

/-- Where the importer of a blob starts. -/
def importFrom (data size : ℕ) (importer : Importer σ) : ImportState σ := ⟨⟨data, size, []⟩, importer⟩

/-- The event decodes to what was encoded: wherever its blob lies, `processEvent` reads it to its last byte, and
makes of the importer what the event did, under the context it was recorded with. -/
def Event.Decodes (context : ObserverContext) (event : Event) : Prop :=
  ∀ (σ : Type) (env : ImportEnvironment σ) (data : ℕ) (importer : Importer σ) (blob : List UInt8),
    event.record context = some blob → env.memory.Holds data blob →
      let result := event.apply env (importer.withContext (event.context context))
      processEvent env data blob.length importer = (result.1.isSome, result.2) ∧
        (processEventBody env (importFrom data blob.length importer)).2.cursor.size = 0

/-- `processEvent` makes of a recorded blob what is left of its event. -/
theorem processEvent_record (env : ImportEnvironment σ) (importer : Importer σ) {event : Event} {blob : List UInt8}
    {data : ℕ} (h : event.record context = some blob) (hholds : env.memory.Holds data blob) :
    let result := event.replay env (importer.withContext (event.context context))
    processEvent env data blob.length importer = (result.1.isSome, result.2) ∧
      (event.replayed.isSome = true →
        (processEventBody env (importFrom data blob.length importer)).2.cursor.size = 0) := by
  obtain ⟨hresult, himporter, hwhole⟩ := runs_event h (importFrom data blob.length importer) ⟨hholds, rfl⟩
  exact ⟨Prod.ext (congrArg Option.isSome hresult) himporter, hwhole⟩

/-- An event that is recorded whole decodes. -/
theorem Event.Recordable.decodes {event : Event} (h : event.Recordable) : event.Decodes context := by
  intro σ env data importer blob hblob hholds
  have hreplayed := Event.replayed_eq_self.2 h
  obtain ⟨hresult, hwhole⟩ := processEvent_record env importer hblob hholds
  have hreplay : event.replay env = event.apply env := by
    funext importer
    rw [Event.replay, hreplayed]
  rw [hreplay] at hresult
  exact ⟨hresult, hwhole (by rw [hreplayed]; rfl)⟩

/-- Repositories that accept every direct write and keep what they were told. -/
def tellingEnvironment (memory : Memory) : ImportEnvironment (List RepositoryCall) where
  memory := memory
  perform _ call calls := (.ok, call :: calls)

/-- A direct write that decodes is recorded whole: repositories that keep what they were told know the difference. -/
theorem replayed_of_decodes {call : RepositoryCall} {blob : List UInt8} (hblob : call.record context = some blob)
    (h : (Event.write call).Decodes context) : call.replayed = some call := by
  have hholds := Memory.holds_holding 0 blob
  obtain ⟨hwanted, -⟩ := h _ (tellingEnvironment (Memory.holding 0 blob)) 0 (freshImporter []) blob hblob hholds
  have hrecord : (Event.write call).record context = some blob := hblob
  obtain ⟨hresult, -⟩ :=
    processEvent_record (tellingEnvironment (Memory.holding 0 blob)) (freshImporter []) hrecord hholds
  have hstore := congrArg (fun result => result.2.store) (hresult.symm.trans hwanted)
  rw [Event.replay_write] at hstore
  cases hreplayed : call.replayed with
  | none =>
    rw [hreplayed] at hstore
    exact nomatch (hstore : _ = call :: _)
  | some kept =>
    rw [hreplayed] at hstore
    rw [(List.cons.inj (hstore : kept :: _ = call :: _)).1]

/-- The display order 70000, which a client can set, is imported as 4464. -/
theorem not_decodes_changeDiscussionCategoryDisplayOrder :
    ¬ (Event.write (.changeDiscussionCategoryDisplayOrder UuidString.empty 70000)).Decodes emptyContext := by
  intro h
  have hreplayed := replayed_of_decodes rfl h
  cases hreplayed

/-- Exactly the events that are recorded whole decode to what was encoded. -/
theorem Event.decodes_iff_recordable (context : ObserverContext) (event : Event) :
    event.Decodes context ↔ event.Recordable := by
  refine ⟨fun h => ?_, fun h => h.decodes⟩
  cases event with
  | write call =>
    cases hblob : call.record context with
    | some blob => exact RepositoryCall.replayed_eq_self.1 (replayed_of_decodes hblob h)
    | none =>
      cases call with
      | addNewDiscussionMessageInThreadAt => trivial
      | _ => cases hblob
  | numberOfVisits => trivial
  | latestVisitedPage => trivial
  | numberOfGets => trivial

end Forum.Persistence
