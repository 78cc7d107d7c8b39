import Forum.Persistence.EventObserver

/-!
# Decoding what was recorded

An importer reads its payload field by field, and a blob is written field by field, so the proof that
one undoes the other is put together in the same way: `Reads` says that a piece of an importer reads
some bytes as a value, `Runs` what the rest of the importer makes of the bytes that remain.

A blob keeps less than the event: the display order of a category is cut to 16 bits, a privilege too,
and the importers refuse most empty strings. `RepositoryCall.replayed` says what is left of a direct
write, and `RepositoryCall.Recordable` when that is the whole of it.
-/

namespace Forum.Persistence

open Forum.Library Import
open Forum.Repository (StatusCode)

variable {σ : Type} {α β : Type} {env : ImportEnvironment σ}

/-! ### Reading a field -/

/-- The piece reads the bytes, when they come next, as the value, and leaves the importer alone. -/
def Reads (env : ImportEnvironment σ) (m : Import σ α) (bytes : List UInt8) (a : α) : Prop :=
  ∀ (s : ImportState σ) (rest : List UInt8), s.cursor.Before env.memory (bytes ++ rest) →
    ∃ c : Cursor, m env s = (some a, { s with cursor := c }) ∧ c.Before env.memory rest

theorem Reads.pure {bytes : List UInt8} {m : Import σ α} {a : α} (h : Reads env m bytes a) (f : α → β) :
    Reads env (m >>= fun a => Pure.pure (f a)) bytes (f a) := by
  intro s rest hs
  obtain ⟨c, hm, hc⟩ := h s rest hs
  exact ⟨c, bind_some hm, hc⟩

theorem Reads.bind {first second : List UInt8} {m : Import σ α} {k : α → Import σ β} {a : α} {b : β}
    (h : Reads env m first a) (hk : Reads env (k a) second b) : Reads env (m >>= k) (first ++ second) b := by
  intro s rest hs
  rw [List.append_assoc] at hs
  obtain ⟨c, hm, hc⟩ := h s _ hs
  obtain ⟨c', hk', hc'⟩ := hk { s with cursor := c } rest hc
  exact ⟨c', by rw [bind_some hm, hk'], hc'⟩

theorem checkSize_of_le {n : ℕ} {s : ImportState σ} (h : n ≤ s.cursor.size) : checkSize n env s = (some (), s) := by
  rw [checkSize, if_neg (Nat.not_lt.2 h)]

theorem reads_bytes (env : ImportEnvironment σ) {n : ℕ} (bytes : { bytes : List UInt8 // bytes.length = n }) :
    Reads env (readBytes n) bytes.1 bytes := by
  obtain ⟨bytes, rfl⟩ := bytes
  intro s rest hs
  have hread : (⟨env.memory.bytes s.cursor.data bytes.length, Memory.length_bytes _ _ _⟩ :
      { b : List UInt8 // b.length = bytes.length }) = ⟨bytes, rfl⟩ := Subtype.ext hs.bytes
  exact ⟨(s.cursor.access bytes.length).advance bytes.length, by rw [readBytes, hread], (hs.access _).advance⟩

/-- A number of bytes, after the check that there are as many. -/
theorem reads_checked (env : ImportEnvironment σ) {n : ℕ} (bytes : { bytes : List UInt8 // bytes.length = n }) :
    Reads env (readChecked n) bytes.1 bytes := by
  intro s rest hs
  have hsize : n ≤ s.cursor.size := by
    rw [hs.2, List.length_append, bytes.2]
    exact Nat.le_add_right _ _
  obtain ⟨c, hread, hc⟩ := reads_bytes env bytes s rest hs
  exact ⟨c, by rw [readChecked, bind_some (checkSize_of_le hsize), hread], hc⟩

theorem bytes_fixedPart (bytes : List UInt8) : (fixedPart bytes).bytes = bytes := by
  simp [BlobPart.bytes, fixedPart]

theorem reads_uuid (id : UuidString) : Reads env readUuid (uuidPart id).bytes id := by
  rw [uuidPart, bytes_fixedPart]
  exact reads_checked env id

theorem reads_unsigned (env : ImportEnvironment σ) (width : ℕ) {n : ℕ} (h : n < 256 ^ width) :
    Reads env (readUnsigned width) (toBytes width n) n := by
  have hread := (reads_checked env ⟨toBytes width n, length_toBytes width n⟩).pure fun bytes => ofBytes bytes.1
  rwa [ofBytes_toBytes_of_lt h] at hread

theorem reads_signed (env : ImportEnvironment σ) (width : ℕ) (i : ℤ) :
    Reads env (readSigned width) (intToBytes width i) (Int.bmod i (256 ^ width)) := by
  have hread := (reads_checked env ⟨intToBytes width i, length_intToBytes width i⟩).pure
    fun bytes => intOfBytes bytes.1
  rwa [intOfBytes_intToBytes] at hread

theorem reads_uint16 (value : UInt16) : Reads env readUInt16 (uint16Part value).bytes value := by
  rw [uint16Part, bytes_fixedPart]
  have hread := (reads_unsigned env 2 value.toNat_lt).pure UInt16.ofNat
  rwa [UInt16.ofNat_toNat] at hread

theorem reads_uint32 (value : UInt32) : Reads env readUInt32 (uint32Part value).bytes value := by
  rw [uint32Part, bytes_fixedPart]
  have hread := (reads_unsigned env 4 value.toNat_lt).pure UInt32.ofNat
  rwa [UInt32.ofNat_toNat] at hread

theorem reads_uint64 (value : UInt64) : Reads env readUInt64 (uint64Part value).bytes value := by
  rw [uint64Part, bytes_fixedPart]
  have hread := (reads_unsigned env 8 value.toNat_lt).pure UInt64.ofNat
  rwa [UInt64.ofNat_toNat] at hread

theorem reads_int16 (value : Int16) : Reads env readInt16 (int16Part value).bytes value := by
  rw [int16Part, bytes_fixedPart]
  have hread := (reads_signed env 2 value.toInt).pure Int16.ofInt
  have hvalue : Int16.ofInt (Int.bmod value.toInt (256 ^ 2)) = value := by simp
  rwa [hvalue] at hread

theorem reads_int64 (value : Int64) : Reads env readInt64 (int64Part value).bytes value := by
  rw [int64Part, bytes_fixedPart]
  have hread := (reads_signed env 8 value.toInt).pure Int64.ofInt
  have hvalue : Int64.ofInt (Int.bmod value.toInt (256 ^ 8)) = value := by simp
  rwa [hvalue] at hread

/-- What is left of a string whose size is cast to 32 bits. -/
def narrow (value : StringView) : StringView := value.take (value.length % 2 ^ 32)

theorem length_narrow (value : StringView) : (narrow value).length = value.length % 2 ^ 32 := by
  rw [narrow, List.length_take]
  have := Nat.mod_le value.length (2 ^ 32)
  omega

theorem bytes_stringPart (value : StringView) :
    (stringPart value).bytes = toBytes sizeofBlobSize (narrow value).length ++ narrow value := by
  rw [length_narrow]
  rfl

theorem reads_takeString (value : StringView) : Reads env (takeString value.length) value value := by
  intro s rest hs
  have hsize : value.length ≤ s.cursor.size := by
    rw [hs.2, List.length_append]
    exact Nat.le_add_right _ _
  refine ⟨(s.cursor.access value.length).advance value.length, ?_, (hs.access _).advance⟩
  rw [takeString, if_neg (Nat.not_lt.2 hsize), hs.bytes]

theorem reads_string (value : StringView) : Reads env readString (stringPart value).bytes (narrow value) := by
  rw [bytes_stringPart]
  have hlength : (narrow value).length < 256 ^ sizeofBlobSize := by
    rw [length_narrow]
    exact Nat.mod_lt _ (by decide)
  exact (reads_unsigned env _ hlength).bind (reads_takeString _)

/-! ### Running an importer -/

/-- The piece, run where the bytes are all that is left, gives the result and makes of the importer what `result`
says; when `whole` holds it reads the bytes to the last. -/
def Runs (env : ImportEnvironment σ) (m : Import σ Unit) (bytes : List UInt8)
    (result : Importer σ → Option Unit × Importer σ) (whole : Prop) : Prop :=
  ∀ s : ImportState σ, s.cursor.Before env.memory bytes →
    (m env s).1 = (result s.importer).1 ∧ (m env s).2.importer = (result s.importer).2 ∧
      (whole → (m env s).2.cursor.size = 0)

/-- What `CHECK_STATUS_CODE` of a direct write makes of the importer. -/
def Importer.check (env : ImportEnvironment σ) (call : RepositoryCall) (importer : Importer σ) :
    Option Unit × Importer σ :=
  let result := env.perform importer.context call importer.store
  if accepts result.1 then (some (), { importer with store := result.2 })
  else
    let again := env.perform importer.context call result.2
    (none, { importer with store := again.2 })

theorem checkStatusCode_eq (env : ImportEnvironment σ) (call : RepositoryCall) (s : ImportState σ) :
    checkStatusCode call env s =
      ((s.importer.check env call).1, { s with importer := (s.importer.check env call).2 }) := by
  unfold checkStatusCode Importer.check
  dsimp only
  split <;> rfl

section Rules

variable {m : Import σ α} {k : α → Import σ Unit} {bytes rest : List UInt8} {a : α}
  {result : Importer σ → Option Unit × Importer σ} {whole : Prop}

theorem Reads.runs (h : Reads env m bytes a) (hk : Runs env (k a) rest result whole) :
    Runs env (m >>= k) (bytes ++ rest) result whole := by
  intro s hs
  obtain ⟨c, hm, hc⟩ := h s rest hs
  rw [bind_some hm]
  exact hk { s with cursor := c } hc

/-- The string a `READ_NONEMPTY_STRING` accepts. -/
def nonempty (value : StringView) : Option StringView :=
  if (narrow value).isEmpty then none else some (narrow value)

/-- `READ_NONEMPTY_STRING` goes on with the string or ends the import. -/
theorem runs_nonemptyString {k : StringView → Import σ Unit} {value : StringView}
    (hk : ∀ kept, nonempty value = some kept → Runs env (k kept) rest result whole)
    (hnone : nonempty value = none → (∀ importer, result importer = (none, importer)) ∧ ¬ whole) :
    Runs env (readNonemptyString >>= k) ((stringPart value).bytes ++ rest) result whole := by
  intro s hs
  obtain ⟨c, hm, hc⟩ := reads_string value s rest hs
  cases hempty : (narrow value).isEmpty with
  | true =>
    have hread : (readNonemptyString : Import σ StringView) env s = (none, { s with cursor := c }) := by
      rw [readNonemptyString, bind_some hm]
      simp only [hempty, if_true]
      rfl
    obtain ⟨hresult, hwhole⟩ := hnone (by rw [nonempty, if_pos hempty])
    rw [bind_none hread, hresult]
    exact ⟨rfl, rfl, fun h => absurd h hwhole⟩
  | false =>
    have hread : (readNonemptyString : Import σ StringView) env s = (some (narrow value), { s with cursor := c }) := by
      rw [readNonemptyString, bind_some hm]
      simp only [hempty, Bool.false_eq_true, if_false]
      rfl
    rw [bind_some hread]
    exact hk _ (by rw [nonempty, if_neg (by simp [hempty])]) { s with cursor := c } hc

/-- At the end of the payload nothing is left. -/
theorem runs_checkReadAllData {k : Unit → Import σ Unit}
    (hk : ∀ s : ImportState σ, (k () env s).1 = (result s.importer).1 ∧
      (k () env s).2.importer = (result s.importer).2 ∧ (k () env s).2.cursor = s.cursor) :
    Runs env (checkReadAllData >>= k) [] result whole := by
  intro s hs
  have hempty : s.cursor.size = 0 := hs.2
  have hcheck : checkReadAllData env s = (some (), s) := by rw [checkReadAllData, if_pos hempty]
  rw [bind_some hcheck]
  obtain ⟨h₁, h₂, h₃⟩ := hk s
  exact ⟨h₁, h₂, fun _ => by rw [h₃, hempty]⟩

/-- The end of most importers. -/
theorem runs_checkStatusCode (call : RepositoryCall) :
    Runs env (do checkReadAllData; checkStatusCode call) [] (Importer.check env call) whole :=
  runs_checkReadAllData fun s => by
    rw [checkStatusCode_eq]
    exact ⟨rfl, rfl, rfl⟩

/-- The end of the importers of counters. -/
theorem runs_modify (f : Importer σ → Importer σ) :
    Runs env (do checkReadAllData; modify f) [] (fun importer => (some (), f importer)) whole :=
  runs_checkReadAllData fun _ => ⟨rfl, rfl, rfl⟩

/-- The context comes first. -/
theorem runs_processContext {k : Unit → Import σ Unit} {context : ObserverContext}
    (hk : Runs env (k ()) rest result whole) :
    Runs env (processContext ContextVersion >>= k) ((contextParts context).flatMap BlobPart.bytes ++ rest)
      (fun importer => result (importer.withContext context)) whole := by
  intro s hs
  have hparts : (contextParts context).flatMap BlobPart.bytes ++ rest =
      intToBytes 8 context.timestamp.toInt ++ (context.performedBy.1 ++ (context.ipAddress.1 ++ rest)) := by
    simp [contextParts, int64Part, bytes_fixedPart]
  rw [hparts] at hs
  have hsize : 8 + uuidBinarySize + ipAddressBinarySize ≤ s.cursor.size := by
    rw [hs.2]
    simp only [List.length_append, length_intToBytes, context.performedBy.2, context.ipAddress.2]
    omega
  obtain ⟨c₁, h₁, hc₁⟩ := reads_bytes env ⟨intToBytes 8 context.timestamp.toInt, length_intToBytes _ _⟩ s _ hs
  obtain ⟨c₂, h₂, hc₂⟩ := reads_bytes env context.performedBy { s with cursor := c₁ } _ hc₁
  obtain ⟨c₃, h₃, hc₃⟩ := reads_bytes env context.ipAddress { s with cursor := c₂ } _ hc₂
  have htimestamp : Int64.ofInt (intOfBytes (intToBytes 8 context.timestamp.toInt)) = context.timestamp := by
    rw [intOfBytes_intToBytes]
    simp
  have hcontext : processContext ContextVersion env s =
      (some (), { cursor := c₃, importer := s.importer.withContext context }) := by
    rw [processContext, if_neg (by decide), processContextV1, bind_some (checkSize_of_le hsize), bind_some h₁,
      bind_some h₂, bind_some h₃, Import.modify, htimestamp]
  rw [bind_some hcontext]
  exact hk { cursor := c₃, importer := s.importer.withContext context } hc₃

/-- The header selects the importer. -/
theorem runs_processEventBody {eventType : EventType} {version : ℕ}
    {importerVersions : List (Option (ℕ → Import σ Unit))} {fn : ℕ → Import σ Unit} {context : ObserverContext}
    {parts : List BlobPart} (htype : 0 < eventType.ctorIdx) (hversion : version < 2 ^ 16)
    (hversions : importFunctions[eventType.ctorIdx]? = some importerVersions)
    (hfn : importerVersions[version]? = some (some fn))
    (h : Runs env (fn ContextVersion)
      ((contextParts context).flatMap BlobPart.bytes ++ parts.flatMap BlobPart.bytes) result whole) :
    Runs env processEventBody (EventObserver.recordEvent context eventType version parts) result whole := by
  intro s hs
  have htypes : eventType.ctorIdx < (importFunctions (σ := σ)).length := by
    by_contra hlength
    rw [List.getElem?_eq_none (Nat.le_of_not_lt hlength)] at hversions
    cases hversions
  have hcount : (importFunctions (σ := σ)).length = 72 := rfl
  have hwide : eventType.ctorIdx < 256 ^ sizeofEventType := Nat.lt_trans htypes (by rw [hcount]; decide)
  rw [EventObserver.recordEvent, recordBlob, List.flatMap_append] at hs
  simp only [List.append_assoc] at hs
  have hsize : EventHeaderSize ≤ s.cursor.size := by
    rw [hs.2]
    simp only [List.length_append, length_toBytes, EventHeaderSize]
    omega
  obtain ⟨c₁, h₁, hc₁⟩ := reads_bytes env ⟨toBytes sizeofEventType eventType.ctorIdx, length_toBytes _ _⟩ s _ hs
  obtain ⟨c₂, h₂, hc₂⟩ := reads_bytes env ⟨toBytes sizeofEventVersion version, length_toBytes _ _⟩
    { s with cursor := c₁ } _ hc₁
  obtain ⟨c₃, h₃, hc₃⟩ := reads_bytes env ⟨toBytes sizeofEventContextVersion ContextVersion, length_toBytes _ _⟩
    { s with cursor := c₂ } _ hc₂
  have hcontextVersion : ofBytes (toBytes sizeofEventContextVersion ContextVersion) = ContextVersion := by decide
  have hbody : processEventBody env s = fn ContextVersion env { s with cursor := c₃ } := by
    rw [processEventBody, bind_some (checkSize_of_le hsize), bind_some h₁, bind_some h₂, bind_some h₃]
    simp only [ofBytes_toBytes_of_lt hwide, ofBytes_toBytes_of_lt (show version < 256 ^ sizeofEventVersion from hversion),
      hcontextVersion]
    rw [if_neg (by omega), hversions]
    simp only [hfn]
  rw [hbody]
  exact h { s with cursor := c₃ } hc₃

end Rules

/-! ### What is left of an event -/

/-- The direct write that the importer of a recorded one makes: strings and numbers may have been cut, and most
strings must not be empty. -/
def RepositoryCall.replayed : RepositoryCall → Option RepositoryCall
  | .addNewUser id name auth => do
    let auth ← nonempty auth
    let name ← nonempty name
    return .addNewUser id name auth
  | .changeUserName id newName => return .changeUserName id (← nonempty newName)
  | .changeUserInfo id newInfo => some (.changeUserInfo id (narrow newInfo))
  | .changeUserTitle id newTitle => some (.changeUserTitle id (narrow newTitle))
  | .changeUserSignature id newSignature => some (.changeUserSignature id (narrow newSignature))
  | .changeUserLogo id newLogo => some (.changeUserLogo id (narrow newLogo))
  | .sendPrivateMessage id destination content => return .sendPrivateMessage id destination (← nonempty content)
  | .addNewDiscussionThread id name approved => return .addNewDiscussionThread id (← nonempty name) approved
  | .changeDiscussionThreadName id newName => return .changeDiscussionThreadName id (← nonempty newName)
  | .addNewDiscussionMessageInThread messageId threadId approved content =>
    return .addNewDiscussionMessageInThread messageId threadId approved (← nonempty content)
  | .changeDiscussionThreadMessageContent id newContent changeReason =>
    return .changeDiscussionThreadMessageContent id (← nonempty newContent) (narrow changeReason)
  | .addCommentToDiscussionThreadMessage commentId messageId content =>
    return .addCommentToDiscussionThreadMessage commentId messageId (← nonempty content)
  | .addNewDiscussionTag id name => return .addNewDiscussionTag id (← nonempty name)
  | .changeDiscussionTagName id newName => return .changeDiscussionTagName id (← nonempty newName)
  | .changeDiscussionTagUiBlob id blob => some (.changeDiscussionTagUiBlob id (narrow blob))
  | .addNewDiscussionCategory id name parentId => return .addNewDiscussionCategory id (← nonempty name) parentId
  | .changeDiscussionCategoryName id newName => return .changeDiscussionCategoryName id (← nonempty newName)
  | .changeDiscussionCategoryDescription id newDescription =>
    some (.changeDiscussionCategoryDescription id (narrow newDescription))
  | .changeDiscussionCategoryDisplayOrder id newDisplayOrder =>
    some (.changeDiscussionCategoryDisplayOrder id newDisplayOrder.toInt16.toInt64)
  | .addNewAttachment id name size approved => return .addNewAttachment id (← nonempty name) size approved
  | .changeAttachmentName id newName => return .changeAttachmentName id (← nonempty newName)
  | .changeDiscussionThreadMessageRequiredPrivilegeForThreadMessage messageId privilege value =>
    some (.changeDiscussionThreadMessageRequiredPrivilegeForThreadMessage messageId privilege.toUInt16.toUInt64 value)
  | .changeDiscussionThreadMessageRequiredPrivilegeForThread threadId privilege value =>
    some (.changeDiscussionThreadMessageRequiredPrivilegeForThread threadId privilege.toUInt16.toUInt64 value)
  | .changeDiscussionThreadMessageRequiredPrivilegeForTag tagId privilege value =>
    some (.changeDiscussionThreadMessageRequiredPrivilegeForTag tagId privilege.toUInt16.toUInt64 value)
  | .changeDiscussionThreadMessageRequiredPrivilege privilege value =>
    some (.changeDiscussionThreadMessageRequiredPrivilege privilege.toUInt16.toUInt64 value)
  | .changeDiscussionThreadRequiredPrivilegeForThread threadId privilege value =>
    some (.changeDiscussionThreadRequiredPrivilegeForThread threadId privilege.toUInt16.toUInt64 value)
  | .changeDiscussionThreadRequiredPrivilegeForTag tagId privilege value =>
    some (.changeDiscussionThreadRequiredPrivilegeForTag tagId privilege.toUInt16.toUInt64 value)
  | .changeDiscussionThreadRequiredPrivilege privilege value =>
    some (.changeDiscussionThreadRequiredPrivilege privilege.toUInt16.toUInt64 value)
  | .changeDiscussionTagRequiredPrivilegeForTag tagId privilege value =>
    some (.changeDiscussionTagRequiredPrivilegeForTag tagId privilege.toUInt16.toUInt64 value)
  | .changeDiscussionTagRequiredPrivilege privilege value =>
    some (.changeDiscussionTagRequiredPrivilege privilege.toUInt16.toUInt64 value)
  | .changeDiscussionCategoryRequiredPrivilegeForCategory categoryId privilege value =>
    some (.changeDiscussionCategoryRequiredPrivilegeForCategory categoryId privilege.toUInt16.toUInt64 value)
  | .changeDiscussionCategoryRequiredPrivilege privilege value =>
    some (.changeDiscussionCategoryRequiredPrivilege privilege.toUInt16.toUInt64 value)
  | .changeForumWideRequiredPrivilege privilege value =>
    some (.changeForumWideRequiredPrivilege privilege.toUInt16.toUInt64 value)
  | .changeForumWideDefaultPrivilegeLevel privilege value duration =>
    some (.changeForumWideDefaultPrivilegeLevel privilege.toUInt16.toUInt64 value duration)
  | call => some call

/-- What an import makes of the importer: the direct write, if there is one. -/
def attempt (env : ImportEnvironment σ) (call : Option RepositoryCall) (importer : Importer σ) :
    Option Unit × Importer σ :=
  match call with
  | some call => importer.check env call
  | none => (none, importer)

/-- The payload of an event is imported as the direct write. -/
def Imports (env : ImportEnvironment σ) (m : Import σ Unit) (context : ObserverContext) (parts : List BlobPart)
    (call : Option RepositoryCall) : Prop :=
  Runs env m ((contextParts context).flatMap BlobPart.bytes ++ parts.flatMap BlobPart.bytes)
    (fun importer => attempt env call (importer.withContext context)) (call.isSome = true)

/-! ### The importers, layout by layout -/

section Layouts

variable {context : ObserverContext} {rest : List UInt8}

theorem runs_end (call : RepositoryCall) :
    Runs env (do checkReadAllData; checkStatusCode call) [] (attempt env (some call)) ((some call).isSome = true) :=
  runs_checkStatusCode call

/-- The same, when the importer computes the arguments of the direct write. -/
theorem runs_end_of_eq {call call' : RepositoryCall} (h : call' = call) :
    Runs env (do checkReadAllData; checkStatusCode call') [] (attempt env (some call)) ((some call).isSome = true) :=
  h ▸ runs_end call'

theorem runs_nonempty {k : StringView → Import σ Unit} {f : StringView → Option RepositoryCall} {value : StringView}
    (hk : ∀ kept, Runs env (k kept) rest (attempt env (f kept)) ((f kept).isSome = true)) :
    Runs env (readNonemptyString >>= k) ((stringPart value).bytes ++ rest) (attempt env (nonempty value >>= f))
      ((nonempty value >>= f).isSome = true) := by
  refine runs_nonemptyString (fun kept hkept => ?_) (fun hnone => ?_)
  · rw [hkept]
    exact hk kept
  · rw [hnone]
    exact ⟨fun _ => rfl, by simp⟩

theorem reads_approved (approved : Bool) :
    Reads env readUInt32 (approvedPart approved).bytes (if approved then 1 else 0) := reads_uint32 _

theorem approved_ne_zero (approved : Bool) : ((if approved then (1 : UInt32) else 0) != 0) = approved := by
  cases approved <;> rfl

theorem approved_eq_one (approved : Bool) : ((if approved then (1 : UInt32) else 0) == 1) = approved := by
  cases approved <;> rfl

theorem imports_uuid (call : UuidString → RepositoryCall) (id : UuidString) :
    Imports env (importUuid call ContextVersion) context [uuidPart id] (some (call id)) :=
  runs_processContext ((reads_uuid id).runs (runs_end _))

theorem imports_twoUuids (call : UuidString → UuidString → RepositoryCall) (first second : UuidString) :
    Imports env (importTwoUuids call ContextVersion) context [uuidPart first, uuidPart second]
      (some (call first second)) :=
  runs_processContext ((reads_uuid first).runs ((reads_uuid second).runs (runs_end _)))

theorem imports_uuidNonemptyString (call : UuidString → StringView → RepositoryCall) (id : UuidString)
    (value : StringView) :
    Imports env (importUuidNonemptyString call ContextVersion) context [uuidPart id, stringPart value]
      (do return call id (← nonempty value)) :=
  runs_processContext ((reads_uuid id).runs (runs_nonempty fun _ => runs_end _))

theorem imports_uuidString (call : UuidString → StringView → RepositoryCall) (id : UuidString)
    (value : StringView) :
    Imports env (importUuidString call ContextVersion) context [uuidPart id, stringPart value]
      (some (call id (narrow value))) :=
  runs_processContext ((reads_uuid id).runs ((reads_string value).runs (runs_end _)))

theorem imports_twoUuidsNonemptyString (call : UuidString → UuidString → StringView → RepositoryCall)
    (first second : UuidString) (value : StringView) :
    Imports env (importTwoUuidsNonemptyString call ContextVersion) context
      [uuidPart first, uuidPart second, stringPart value] (do return call first second (← nonempty value)) :=
  runs_processContext ((reads_uuid first).runs ((reads_uuid second).runs (runs_nonempty fun _ => runs_end _)))

theorem imports_uuidApproval (call : UuidString → Bool → RepositoryCall) (id : UuidString) (approved : Bool) :
    Imports env (importUuidApproval call ContextVersion) context [uuidPart id, approvedPart approved]
      (some (call id approved)) :=
  runs_processContext ((reads_uuid id).runs ((reads_approved approved).runs
    (runs_end_of_eq (by rw [approved_ne_zero]))))

theorem imports_requiredPrivilege (call : UuidString → EnumIntType → Int16 → RepositoryCall) (id : UuidString)
    (privilege : EnumIntType) (value : Int16) :
    Imports env (importRequiredPrivilege call ContextVersion) context
      [uuidPart id, privilegePart privilege, int16Part value] (some (call id privilege.toUInt16.toUInt64 value)) :=
  runs_processContext
    ((reads_uuid id).runs ((reads_uint16 _).runs ((reads_int16 value).runs (runs_end _))))

theorem imports_forumWideRequiredPrivilege (call : EnumIntType → Int16 → RepositoryCall)
    (privilege : EnumIntType) (value : Int16) :
    Imports env (importForumWideRequiredPrivilege call ContextVersion) context
      [privilegePart privilege, int16Part value] (some (call privilege.toUInt16.toUInt64 value)) :=
  runs_processContext ((reads_uint16 _).runs ((reads_int16 value).runs (runs_end _)))

theorem imports_assignedPrivilege (call : UuidString → UuidString → Int16 → Int64 → RepositoryCall)
    (id user : UuidString) (value : Int16) (duration : Int64) :
    Imports env (importAssignedPrivilege call ContextVersion) context
      [uuidPart id, uuidPart user, int16Part value, int64Part duration] (some (call id user value duration)) :=
  runs_processContext ((reads_uuid id).runs ((reads_uuid user).runs
    ((reads_int16 value).runs ((reads_int64 duration).runs (runs_end _)))))

theorem imports_addNewUser (id : UuidString) (name auth : StringView) :
    Imports env (importAddNewUserV1 ContextVersion) context [uuidPart id, stringPart auth, stringPart name]
      (RepositoryCall.replayed (.addNewUser id name auth)) :=
  runs_processContext ((reads_uuid id).runs (runs_nonempty fun _ => runs_nonempty fun _ => runs_end _))

theorem imports_attachmentQuota (id : UuidString) (quota : UInt64) :
    Imports env (importChangeUserAttachmentQuotaV1 ContextVersion) context [uuidPart id, uint64Part quota]
      (some (.changeUserAttachmentQuota id quota)) :=
  runs_processContext ((reads_uuid id).runs ((reads_uint64 quota).runs (runs_end _)))

theorem imports_addNewDiscussionThread (id : UuidString) (name : StringView) (approved : Bool) :
    Imports env (importAddNewDiscussionThreadV2 ContextVersion) context
      [uuidPart id, stringPart name, approvedPart approved]
      (RepositoryCall.replayed (.addNewDiscussionThread id name approved)) :=
  runs_processContext ((reads_uuid id).runs (runs_nonempty fun _ =>
    (reads_approved approved).runs (runs_end_of_eq (by rw [approved_ne_zero]))))

theorem imports_pinDisplayOrder (id : UuidString) (value : UInt16) :
    Imports env (importChangeDiscussionThreadPinDisplayOrderV1 ContextVersion) context
      [uuidPart id, uint16Part value] (some (.changeDiscussionThreadPinDisplayOrder id value)) :=
  runs_processContext ((reads_uuid id).runs ((reads_uint16 value).runs (runs_end _)))

theorem imports_addNewDiscussionThreadMessage (messageId threadId : UuidString) (approved : Bool)
    (content : StringView) :
    Imports env (importAddNewDiscussionThreadMessageV3 ContextVersion) context
      [uuidPart messageId, uuidPart threadId, approvedPart approved, stringPart content]
      (RepositoryCall.replayed (.addNewDiscussionMessageInThread messageId threadId approved content)) :=
  runs_processContext ((reads_uuid messageId).runs ((reads_uuid threadId).runs
    ((reads_approved approved).runs (runs_nonempty fun _ => runs_end_of_eq (by rw [approved_ne_zero])))))

theorem imports_messageContent (id : UuidString) (content reason : StringView) :
    Imports env (importChangeDiscussionThreadMessageContentV1 ContextVersion) context
      [uuidPart id, stringPart content, stringPart reason]
      (RepositoryCall.replayed (.changeDiscussionThreadMessageContent id content reason)) :=
  runs_processContext ((reads_uuid id).runs (runs_nonempty fun _ => (reads_string reason).runs (runs_end _)))

theorem imports_displayOrder (id : UuidString) (displayOrder : IntFast16) :
    Imports env (importChangeDiscussionCategoryDisplayOrderV1 ContextVersion) context
      [uuidPart id, int16Part displayOrder.toInt16]
      (RepositoryCall.replayed (.changeDiscussionCategoryDisplayOrder id displayOrder)) :=
  runs_processContext ((reads_uuid id).runs ((reads_int16 _).runs (runs_end _)))

theorem imports_addNewAttachment (id : UuidString) (name : StringView) (size : UInt64) (approved : Bool) :
    Imports env (importAddNewAttachmentV1 ContextVersion) context
      [uuidPart id, stringPart name, uint64Part size, approvedPart approved]
      (RepositoryCall.replayed (.addNewAttachment id name size approved)) :=
  runs_processContext ((reads_uuid id).runs (runs_nonempty fun _ => (reads_uint64 size).runs
    ((reads_approved approved).runs (runs_end_of_eq (by rw [approved_eq_one])))))

theorem imports_defaultPrivilegeLevel (privilege : EnumIntType) (value : Int16) (duration : Int64) :
    Imports env (importChangeForumWideDefaultPrivilegeLevelV1 ContextVersion) context
      [privilegePart privilege, int16Part value, int64Part duration]
      (some (.changeForumWideDefaultPrivilegeLevel privilege.toUInt16.toUInt64 value duration)) :=
  runs_processContext ((reads_uint16 _).runs ((reads_int16 value).runs ((reads_int64 duration).runs (runs_end _))))

theorem imports_assignForumWidePrivilege (user : UuidString) (value : Int16) (duration : Int64) :
    Imports env (importAssignForumWidePrivilegeV1 ContextVersion) context
      [uuidPart user, int16Part value, int64Part duration] (some (.assignForumWidePrivilege user value duration)) :=
  runs_processContext ((reads_uuid user).runs ((reads_int16 value).runs ((reads_int64 duration).runs (runs_end _))))

/-- The move of a message is checked for leftover bytes after the write, which changes nothing when there are
none. -/
theorem imports_moveDiscussionThreadMessage (messageId threadId : UuidString) :
    Imports env (importMoveDiscussionThreadMessageV1 ContextVersion) context
      [uuidPart messageId, uuidPart threadId] (some (.moveDiscussionThreadMessage messageId threadId)) := by
  refine runs_processContext ((reads_uuid messageId).runs ((reads_uuid threadId).runs fun s hs => ?_))
  have hempty : s.cursor.size = 0 := hs.2
  have hcheck := checkStatusCode_eq env (.moveDiscussionThreadMessage messageId threadId) s
  cases hresult : (s.importer.check env (.moveDiscussionThreadMessage messageId threadId)).1 with
  | none =>
    rw [hresult] at hcheck
    rw [bind_none hcheck]
    exact ⟨hresult.symm, rfl, fun _ => hempty⟩
  | some _ =>
    rw [hresult] at hcheck
    rw [bind_some hcheck, checkReadAllData, if_pos hempty]
    exact ⟨hresult.symm, rfl, fun _ => hempty⟩

end Layouts

end Forum.Persistence
