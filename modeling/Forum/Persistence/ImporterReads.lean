import Forum.Persistence.EventImporter

/-!
# What the importers read

An importer checks that enough bytes are left before it reads them, with one exception: a string that is
longer than what is left is stepped over all the same, and the size that is left wraps. The importers stop
soon enough after that. `StaysInside` says of a piece of an importer that it reads inside its blob; with
`whole` it says too that what is left still ends where the blob ends, when the piece has a result.
-/

namespace Forum.Persistence

open Forum.Library Import

variable {σ : Type*} {α β : Type} {env : ImportEnvironment σ}

/-- From a cursor in a blob that has at least `n` bytes left, the piece reads inside the blob. -/
def StaysInside (env : ImportEnvironment σ) (n : ℕ) (m : Import σ α) (whole : Prop) : Prop :=
  ∀ (start finish : ℕ) (s : ImportState σ), s.cursor.Inside start finish → s.cursor.EndsAt start finish →
    n ≤ s.cursor.size → (m env s).2.cursor.Inside start finish ∧
      (whole → (m env s).1.isSome = true → (m env s).2.cursor.EndsAt start finish)

namespace StaysInside

variable {whole : Prop} {n : ℕ}

theorem bind {m : Import σ α} {k : α → Import σ β} (hm : StaysInside env n m True)
    (hk : ∀ a, StaysInside env 0 (k a) whole) : StaysInside env n (m >>= k) whole := by
  intro start finish s hinside hends hsize
  obtain ⟨hinside', hends'⟩ := hm start finish s hinside hends hsize
  cases hresult : m env s with
  | mk result s' =>
    rw [hresult] at hinside' hends'
    cases result with
    | none =>
      rw [bind_none hresult]
      exact ⟨hinside', fun _ hsome => by cases hsome⟩
    | some a =>
      rw [bind_some hresult]
      exact hk a start finish s' hinside' (hends' trivial rfl) (Nat.zero_le _)

/-- After the check there are as many bytes. -/
theorem checkSize {k : Unit → Import σ β} (h : StaysInside env n (k ()) whole) :
    StaysInside env 0 (Import.checkSize n >>= k) whole := by
  intro start finish s hinside hends _
  by_cases hsize : s.cursor.size < n
  · have hcheck : Import.checkSize n env s = (none, s) := by rw [Import.checkSize, if_pos hsize]
    rw [bind_none hcheck]
    exact ⟨hinside, fun _ hsome => by cases hsome⟩
  · have hcheck : Import.checkSize n env s = (some (), s) := by rw [Import.checkSize, if_neg hsize]
    rw [bind_some hcheck]
    exact h start finish s hinside hends (Nat.le_of_not_lt hsize)

/-- Reading some of the bytes that are there leaves the others. -/
theorem readBytes {width rest : ℕ} {k : { bytes : List UInt8 // bytes.length = width } → Import σ β}
    (hn : width + rest ≤ n) (h : ∀ bytes, StaysInside env rest (k bytes) whole) :
    StaysInside env n (Import.readBytes width >>= k) whole := by
  intro start finish s hinside hends hsize
  have hwidth : width ≤ s.cursor.size := by omega
  refine h _ start finish _ ((hinside.access hends hwidth).advance width) ((hends.access width).advance hwidth) ?_
  show rest ≤ sizeSub s.cursor.size width
  rw [sizeSub_of_le hwidth]
  omega

theorem bytes (width : ℕ) : StaysInside env width (Import.readBytes width) whole := by
  intro start finish s hinside hends hsize
  exact ⟨(hinside.access hends hsize).advance width, fun _ _ => (hends.access width).advance hsize⟩

theorem pure (a : α) : StaysInside env n (Pure.pure a) whole :=
  fun _ _ _ hinside hends _ => ⟨hinside, fun _ _ => hends⟩

theorem fail : StaysInside env n (Import.fail : Import σ α) whole :=
  fun _ _ _ hinside _ _ => ⟨hinside, fun _ hsome => by cases hsome⟩

theorem modify (f : Importer σ → Importer σ) : StaysInside env n (Import.modify f) whole :=
  fun _ _ _ hinside hends _ => ⟨hinside, fun _ _ => hends⟩

theorem checkReadAllData : StaysInside env n Import.checkReadAllData whole :=
  fun _ _ _ hinside hends _ => ⟨hinside, fun _ _ => hends⟩

theorem cursor_checkStatusCode (call : RepositoryCall) (s : ImportState σ) :
    (Import.checkStatusCode call env s).2.cursor = s.cursor := by
  unfold Import.checkStatusCode
  dsimp only
  split <;> rfl

theorem checkStatusCode (call : RepositoryCall) : StaysInside env n (Import.checkStatusCode call) whole := by
  intro start finish s hinside hends _
  rw [cursor_checkStatusCode]
  exact ⟨hinside, fun _ _ => hends⟩

/-! ### Fields -/

theorem readChecked (width : ℕ) : StaysInside env 0 (Import.readChecked width) whole := checkSize (bytes width)

theorem readUuid : StaysInside env 0 Import.readUuid whole := readChecked uuidBinarySize

theorem readUnsigned (width : ℕ) : StaysInside env 0 (Import.readUnsigned width) whole :=
  (readChecked width).bind fun _ => pure _

theorem readSigned (width : ℕ) : StaysInside env 0 (Import.readSigned width) whole :=
  (readChecked width).bind fun _ => pure _

theorem readUInt16 : StaysInside env 0 Import.readUInt16 whole := (readUnsigned 2).bind fun _ => pure _

theorem readUInt32 : StaysInside env 0 Import.readUInt32 whole := (readUnsigned 4).bind fun _ => pure _

theorem readUInt64 : StaysInside env 0 Import.readUInt64 whole := (readUnsigned 8).bind fun _ => pure _

theorem readInt16 : StaysInside env 0 Import.readInt16 whole := (readSigned 2).bind fun _ => pure _

theorem readInt64 : StaysInside env 0 Import.readInt64 whole := (readSigned 8).bind fun _ => pure _

/-- A string that is longer than what is left is read as the empty one, and nothing is read for it. -/
theorem readString_cases (env : ImportEnvironment σ) {start finish : ℕ} {s : ImportState σ} (hinside : s.cursor.Inside start finish)
    (hends : s.cursor.EndsAt start finish) :
    (Import.readString env s).2.cursor.Inside start finish ∧
      ((Import.readString env s).1.getD [] = [] ∨ (Import.readString env s).2.cursor.EndsAt start finish) := by
  have hunsigned : StaysInside env 0 (Import.readUnsigned sizeofBlobSize) True := readUnsigned _
  obtain ⟨hinside', hends'⟩ := hunsigned start finish s hinside hends (Nat.zero_le _)
  cases hsize : Import.readUnsigned sizeofBlobSize env s with
  | mk result s' =>
    rw [hsize] at hinside' hends'
    cases result with
    | none =>
      have hstring : Import.readString env s = (none, s') := bind_none hsize
      rw [hstring]
      exact ⟨hinside', .inl rfl⟩
    | some stringSize =>
      have hstring : Import.readString env s = takeString stringSize env s' := bind_some hsize
      rw [hstring]
      unfold takeString
      split
      · exact ⟨hinside'.advance _, .inl rfl⟩
      · rename_i hfits
        have hle := Nat.le_of_not_lt hfits
        have hwhole := hends' trivial rfl
        exact ⟨(hinside'.access hwhole hle).advance _, .inr ((hwhole.access _).advance hle)⟩

/-- A string that must not be empty is not longer than what was left. -/
theorem readNonemptyString : StaysInside env 0 Import.readNonemptyString whole := by
  intro start finish s hinside hends _
  obtain ⟨hinside', hends'⟩ := readString_cases env hinside hends
  cases hstring : Import.readString env s with
  | mk result s' =>
    rw [hstring] at hinside' hends'
    cases result with
    | none =>
      have hread : Import.readNonemptyString env s = (none, s') := bind_none hstring
      rw [hread]
      exact ⟨hinside', fun _ hsome => by cases hsome⟩
    | some value =>
      have hread : Import.readNonemptyString env s =
          (if value.isEmpty then Import.fail else Pure.pure value : Import σ StringView) env s' := bind_some hstring
      rw [hread]
      cases value with
      | nil => exact ⟨hinside', fun _ hsome => by cases hsome⟩
      | cons b bytes => exact ⟨hinside', fun _ _ => hends'.resolve_left (List.cons_ne_nil _ _)⟩

end StaysInside

/-! ### Importers -/

section Importers

/-- A string that may be empty is the last thing its importer reads. -/
theorem staysInside_readString {call : StringView → RepositoryCall} :
    StaysInside env 0 (do
      let value ← readString
      checkReadAllData
      checkStatusCode (call value)) False := by
  intro start finish s hinside hends _
  refine ⟨?_, False.elim⟩
  have hinside' := (StaysInside.readString_cases env hinside hends).1
  cases hstring : readString env s with
  | mk result s' =>
    rw [hstring] at hinside'
    cases result with
    | none =>
      rw [bind_none hstring]
      exact hinside'
    | some value =>
      rw [bind_some hstring]
      -- nothing is read by what follows
      cases hcheck : checkReadAllData env s' with
      | mk result s'' =>
        have hcursor : s''.cursor = s'.cursor := congrArg (fun r => r.2.cursor) hcheck.symm
        cases result with
        | none =>
          rw [bind_none hcheck, hcursor]
          exact hinside'
        | some _ =>
          rw [bind_some hcheck, StaysInside.cursor_checkStatusCode, hcursor]
          exact hinside'

theorem staysInside_processContext (contextVersion : ℕ) :
    StaysInside env 0 (processContext contextVersion) True := by
  unfold processContext
  split
  · exact .fail
  · have hrest : 8 + (uuidBinarySize + ipAddressBinarySize) ≤ 8 + uuidBinarySize + ipAddressBinarySize := by decide
    exact .checkSize (.readBytes hrest fun _ => .readBytes (Nat.le_refl _) fun _ =>
      .readBytes (Nat.le_refl (ipAddressBinarySize + 0)) fun _ => .modify _)

/-- The end of most importers. -/
theorem staysInside_end (call : RepositoryCall) :
    StaysInside env 0 (do checkReadAllData; checkStatusCode call) False :=
  StaysInside.checkReadAllData.bind fun _ => .checkStatusCode _

/-- The end of the importers of counters. -/
theorem staysInside_modify (f : Importer σ → Importer σ) :
    StaysInside env 0 (do checkReadAllData; modify f) False :=
  StaysInside.checkReadAllData.bind fun _ => .modify _

variable (v : ℕ)

theorem staysInside_uuid (call : UuidString → RepositoryCall) : StaysInside env 0 (importUuid call v) False :=
  (staysInside_processContext _).bind fun _ => StaysInside.readUuid.bind fun _ => staysInside_end _

theorem staysInside_twoUuids (call : UuidString → UuidString → RepositoryCall) :
    StaysInside env 0 (importTwoUuids call v) False :=
  (staysInside_processContext _).bind fun _ => StaysInside.readUuid.bind fun _ => StaysInside.readUuid.bind fun _ =>
    staysInside_end _

theorem staysInside_uuidNonemptyString (call : UuidString → StringView → RepositoryCall) :
    StaysInside env 0 (importUuidNonemptyString call v) False :=
  (staysInside_processContext _).bind fun _ => StaysInside.readUuid.bind fun _ =>
    StaysInside.readNonemptyString.bind fun _ => staysInside_end _

theorem staysInside_uuidString (call : UuidString → StringView → RepositoryCall) :
    StaysInside env 0 (importUuidString call v) False :=
  (staysInside_processContext _).bind fun _ => StaysInside.readUuid.bind fun _ => staysInside_readString

theorem staysInside_twoUuidsNonemptyString (call : UuidString → UuidString → StringView → RepositoryCall) :
    StaysInside env 0 (importTwoUuidsNonemptyString call v) False :=
  (staysInside_processContext _).bind fun _ => StaysInside.readUuid.bind fun _ => StaysInside.readUuid.bind fun _ =>
    StaysInside.readNonemptyString.bind fun _ => staysInside_end _

theorem staysInside_uuidApproval (call : UuidString → Bool → RepositoryCall) :
    StaysInside env 0 (importUuidApproval call v) False :=
  (staysInside_processContext _).bind fun _ => StaysInside.readUuid.bind fun _ => StaysInside.readUInt32.bind fun _ =>
    staysInside_end _

theorem staysInside_requiredPrivilege (call : UuidString → EnumIntType → Int16 → RepositoryCall) :
    StaysInside env 0 (importRequiredPrivilege call v) False :=
  (staysInside_processContext _).bind fun _ => StaysInside.readUuid.bind fun _ => StaysInside.readUInt16.bind fun _ =>
    StaysInside.readInt16.bind fun _ => staysInside_end _

theorem staysInside_forumWideRequiredPrivilege (call : EnumIntType → Int16 → RepositoryCall) :
    StaysInside env 0 (importForumWideRequiredPrivilege call v) False :=
  (staysInside_processContext _).bind fun _ => StaysInside.readUInt16.bind fun _ =>
    StaysInside.readInt16.bind fun _ => staysInside_end _

theorem staysInside_assignedPrivilege (call : UuidString → UuidString → Int16 → Int64 → RepositoryCall) :
    StaysInside env 0 (importAssignedPrivilege call v) False :=
  (staysInside_processContext _).bind fun _ => StaysInside.readUuid.bind fun _ => StaysInside.readUuid.bind fun _ =>
    StaysInside.readInt16.bind fun _ => StaysInside.readInt64.bind fun _ => staysInside_end _

theorem staysInside_addNewUser : StaysInside env 0 (importAddNewUserV1 v) False :=
  (staysInside_processContext _).bind fun _ => StaysInside.readUuid.bind fun _ =>
    StaysInside.readNonemptyString.bind fun _ => StaysInside.readNonemptyString.bind fun _ => staysInside_end _

theorem staysInside_attachmentQuota : StaysInside env 0 (importChangeUserAttachmentQuotaV1 v) False :=
  (staysInside_processContext _).bind fun _ => StaysInside.readUuid.bind fun _ => StaysInside.readUInt64.bind fun _ =>
    staysInside_end _

theorem staysInside_addNewDiscussionThread : StaysInside env 0 (importAddNewDiscussionThreadV2 v) False :=
  (staysInside_processContext _).bind fun _ => StaysInside.readUuid.bind fun _ =>
    StaysInside.readNonemptyString.bind fun _ => StaysInside.readUInt32.bind fun _ => staysInside_end _

theorem staysInside_pinDisplayOrder : StaysInside env 0 (importChangeDiscussionThreadPinDisplayOrderV1 v) False :=
  (staysInside_processContext _).bind fun _ => StaysInside.readUuid.bind fun _ => StaysInside.readUInt16.bind fun _ =>
    staysInside_end _

theorem staysInside_messageV2 : StaysInside env 0 (importAddNewDiscussionThreadMessageV2 v) False :=
  (staysInside_processContext _).bind fun _ => StaysInside.readUuid.bind fun _ => StaysInside.readUuid.bind fun _ =>
    StaysInside.readUInt32.bind fun _ => StaysInside.readUInt64.bind fun _ => staysInside_end _

theorem staysInside_messageV3 : StaysInside env 0 (importAddNewDiscussionThreadMessageV3 v) False :=
  (staysInside_processContext _).bind fun _ => StaysInside.readUuid.bind fun _ => StaysInside.readUuid.bind fun _ =>
    StaysInside.readUInt32.bind fun _ => StaysInside.readNonemptyString.bind fun _ => staysInside_end _

theorem staysInside_messageV4 : StaysInside env 0 (importAddNewDiscussionThreadMessageV4 v) False :=
  (staysInside_processContext _).bind fun _ => StaysInside.readUuid.bind fun _ => StaysInside.readUuid.bind fun _ =>
    StaysInside.readUInt32.bind fun _ => StaysInside.readUInt32.bind fun _ => StaysInside.readUInt64.bind fun _ =>
      staysInside_end _

theorem staysInside_messageContent : StaysInside env 0 (importChangeDiscussionThreadMessageContentV1 v) False :=
  (staysInside_processContext _).bind fun _ => StaysInside.readUuid.bind fun _ =>
    StaysInside.readNonemptyString.bind fun _ => staysInside_readString

theorem staysInside_moveMessage : StaysInside env 0 (importMoveDiscussionThreadMessageV1 v) False :=
  (staysInside_processContext _).bind fun _ => StaysInside.readUuid.bind fun _ => StaysInside.readUuid.bind fun _ =>
    (StaysInside.checkStatusCode _).bind fun _ => .checkReadAllData

theorem staysInside_displayOrder : StaysInside env 0 (importChangeDiscussionCategoryDisplayOrderV1 v) False :=
  (staysInside_processContext _).bind fun _ => StaysInside.readUuid.bind fun _ => StaysInside.readInt16.bind fun _ =>
    staysInside_end _

theorem staysInside_addNewAttachment : StaysInside env 0 (importAddNewAttachmentV1 v) False :=
  (staysInside_processContext _).bind fun _ => StaysInside.readUuid.bind fun _ =>
    StaysInside.readNonemptyString.bind fun _ => StaysInside.readUInt64.bind fun _ =>
      StaysInside.readUInt32.bind fun _ => staysInside_end _

theorem staysInside_numberOfVisits : StaysInside env 0 (importIncrementDiscussionThreadNumberOfVisitsV1 v) False :=
  (staysInside_processContext _).bind fun _ => StaysInside.readUuid.bind fun _ => StaysInside.readUInt32.bind fun _ =>
    staysInside_modify _

theorem staysInside_numberOfGets : StaysInside env 0 (importIncrementAttachmentNumberOfGetsV1 v) False :=
  (staysInside_processContext _).bind fun _ => StaysInside.readUuid.bind fun _ => StaysInside.readUInt32.bind fun _ =>
    staysInside_modify _

theorem staysInside_latestVisitedPage : StaysInside env 0 (importIncrementUserLatestVisitedPageV1 v) False :=
  (staysInside_processContext _).bind fun _ => StaysInside.readUuid.bind fun _ => StaysInside.readUuid.bind fun _ =>
    StaysInside.readUInt32.bind fun _ => staysInside_modify _

theorem staysInside_defaultPrivilegeLevel :
    StaysInside env 0 (importChangeForumWideDefaultPrivilegeLevelV1 v) False :=
  (staysInside_processContext _).bind fun _ => StaysInside.readUInt16.bind fun _ => StaysInside.readInt16.bind fun _ =>
    StaysInside.readInt64.bind fun _ => staysInside_end _

theorem staysInside_assignForumWidePrivilege : StaysInside env 0 (importAssignForumWidePrivilegeV1 v) False :=
  (staysInside_processContext _).bind fun _ => StaysInside.readUuid.bind fun _ => StaysInside.readInt16.bind fun _ =>
    StaysInside.readInt64.bind fun _ => staysInside_end _

end Importers

/-- Every importer of the table reads inside its blob, whatever the blob is. -/
theorem staysInside_importFunctions {versions : List (Option (ℕ → Import σ Unit))}
    (hversions : versions ∈ importFunctions) {fn : ℕ → Import σ Unit} (hfn : some fn ∈ versions) (v : ℕ) :
    StaysInside env 0 (fn v) False := by
  have hall : ∀ versions ∈ (importFunctions : List (List (Option (ℕ → Import σ Unit)))), ∀ importer ∈ versions,
      importer.elim True fun fn => StaysInside env 0 (fn v) False := by
    simp only [importFunctions, List.forall_mem_cons, Option.elim_none, Option.elim_some, List.not_mem_nil,
      IsEmpty.forall_iff, implies_true, and_true, true_and]
    -- in the order of the table
    exact ⟨staysInside_addNewUser v, staysInside_uuidNonemptyString v _, staysInside_uuidString v _,
      staysInside_uuidString v _, staysInside_uuidString v _, staysInside_uuidString v _, staysInside_uuid v _,
      ⟨staysInside_uuidNonemptyString v _, staysInside_addNewDiscussionThread v⟩,
      staysInside_uuidNonemptyString v _, staysInside_pinDisplayOrder v, staysInside_uuid v _,
      staysInside_twoUuids v _, staysInside_uuid v _, staysInside_uuid v _,
      ⟨staysInside_twoUuidsNonemptyString v _, staysInside_messageV2 v, staysInside_messageV3 v, staysInside_messageV4 v⟩,
      staysInside_messageContent v, staysInside_numberOfVisits v, staysInside_moveMessage v, staysInside_uuid v _,
      staysInside_uuid v _, staysInside_uuid v _, staysInside_uuid v _, staysInside_twoUuidsNonemptyString v _,
      staysInside_uuid v _, staysInside_uuidNonemptyString v _, staysInside_uuidNonemptyString v _,
      staysInside_uuidString v _, staysInside_uuid v _, staysInside_twoUuids v _, staysInside_twoUuids v _,
      staysInside_twoUuids v _, staysInside_twoUuidsNonemptyString v _, staysInside_uuidNonemptyString v _,
      staysInside_uuidString v _, staysInside_displayOrder v, staysInside_twoUuids v _, staysInside_uuid v _,
      staysInside_twoUuids v _, staysInside_twoUuids v _, staysInside_requiredPrivilege v _,
      staysInside_requiredPrivilege v _, staysInside_requiredPrivilege v _,
      staysInside_forumWideRequiredPrivilege v _, staysInside_requiredPrivilege v _,
      staysInside_requiredPrivilege v _, staysInside_forumWideRequiredPrivilege v _,
      staysInside_requiredPrivilege v _, staysInside_forumWideRequiredPrivilege v _,
      staysInside_requiredPrivilege v _, staysInside_forumWideRequiredPrivilege v _,
      staysInside_forumWideRequiredPrivilege v _, staysInside_defaultPrivilegeLevel v,
      staysInside_assignedPrivilege v _, staysInside_assignedPrivilege v _, staysInside_assignedPrivilege v _,
      staysInside_assignedPrivilege v _, staysInside_assignForumWidePrivilege v, staysInside_twoUuids v _,
      staysInside_uuidApproval v _, staysInside_latestVisitedPage v, staysInside_uuidApproval v _,
      staysInside_twoUuidsNonemptyString v _, staysInside_uuid v _, staysInside_attachmentQuota v,
      staysInside_addNewAttachment v, staysInside_uuidNonemptyString v _, staysInside_uuidApproval v _,
      staysInside_twoUuids v _, staysInside_twoUuids v _, staysInside_uuid v _, staysInside_numberOfGets v⟩
  exact hall versions hversions (some fn) hfn

/-- So does `processEvent`, for every type and version in the header. -/
theorem staysInside_processEventBody : StaysInside env 0 processEventBody False := by
  have hrest : sizeofEventType + (sizeofEventVersion + sizeofEventContextVersion) ≤ EventHeaderSize := by decide
  refine .checkSize (.readBytes hrest fun currentEventType => .readBytes (Nat.le_refl _) fun version =>
    .readBytes (Nat.le_refl (sizeofEventContextVersion + 0)) fun contextVersion => ?_)
  split
  · exact .pure _
  · split
    · exact .fail
    · rename_i versions hversions
      split
      · rename_i fn hfn
        exact staysInside_importFunctions (List.mem_of_getElem? hversions) (List.mem_of_getElem? hfn) _
      · exact .fail

/-- What `processEvent` reads of a blob lies in the blob. -/
theorem inside_processEvent (env : ImportEnvironment σ) (data size : ℕ) (importer : Importer σ) :
    (processEventBody env ⟨⟨data, size, []⟩, importer⟩).2.cursor.Inside data (data + size) :=
  (staysInside_processEventBody data (data + size) ⟨⟨data, size, []⟩, importer⟩
    (fun _ ha => by cases ha) ⟨Nat.le_refl _, rfl⟩ (Nat.zero_le _)).1

end Forum.Persistence
