import Mathlib.Data.UInt
import Forum.Persistence.EventFile
import Forum.Persistence.ImporterReads

/-!
# What an import reads

The loop over an event file reads the file and nothing else, for every file: a blob is looked at only
after it was found to be whole. With `ImporterReads` for the blobs, an import reads nothing that it was
not given.

The contents in the messages file are another matter. `getMessageContentPointer` adds the offset and the
size of a content in 64 bits, and an offset near the end of that range makes the sum wrap.
`importsInside_iff` says that this is the only way out.
-/

namespace Forum.Persistence

open Forum.Library
open Forum.Repository (StatusCode)

/-! ### The loop -/

section Loop

variable {σ : Type*} (crc32 : List UInt8 → UInt32) (verifyChecksum : Bool) (memory : Memory)
  (processEvent : ℕ → ℕ → σ → Bool × σ)

/-- What the rounds keep, the loop ends with. -/
theorem iterateBlobs_keeps {P Q : BlobLoop σ → Prop} (hdone : ∀ l, P l → Q l)
    (hstop : ∀ l, P l → 0 < l.size → (l.round crc32 verifyChecksum memory processEvent).2 = false →
      Q (l.round crc32 verifyChecksum memory processEvent).1)
    (hround : ∀ l, P l → 0 < l.size → (l.round crc32 verifyChecksum memory processEvent).2 = true →
      P (l.round crc32 verifyChecksum memory processEvent).1) {l : BlobLoop σ} (h : P l) :
    Q (iterateBlobs crc32 verifyChecksum memory processEvent l) := by
  induction hsize : l.size using Nat.strongRecOn generalizing l with
  | _ size ih =>
    by_cases hpos : 0 < l.size
    · cases hcontinue : (l.round crc32 verifyChecksum memory processEvent).2 with
      | true =>
        have hsmaller := l.size_round crc32 verifyChecksum memory processEvent hcontinue
        have hmin : 0 < MinBlobSize := by decide
        rw [iterateBlobs_of_round crc32 verifyChecksum memory processEvent hpos hcontinue]
        exact ih _ (by omega) (hround l h hpos hcontinue) rfl
      | false =>
        rw [iterateBlobs_of_stop crc32 verifyChecksum memory processEvent hpos hcontinue]
        exact hstop l h hpos hcontinue
    · rw [iterateBlobs_of_empty crc32 verifyChecksum memory processEvent (by omega)]
      exact hdone l h

/-- In a file between `start` and `finish`, of which `total` bytes were there at first, with an importer that `P`
holds of: what was read lies in the file, what is left ends where the file ends, and every blob took a prefix. -/
structure BlobLoop.InFile (l : BlobLoop σ) (P : σ → Prop) (start finish total : ℕ) : Prop where
  inside : l.Inside start finish
  importer : P l.importer
  ends : l.EndsAt start finish
  progress : l.result.readBlobs * MinBlobSize + l.size ≤ total

/-- The same at the end, when what is left does not matter. -/
structure BlobLoop.Stopped (l : BlobLoop σ) (P : σ → Prop) (start finish total : ℕ) : Prop where
  inside : l.Inside start finish
  importer : P l.importer
  progress : l.result.readBlobs * MinBlobSize ≤ total

variable {P : σ → Prop} {start finish total : ℕ}

theorem BlobLoop.InFile.stopped {l : BlobLoop σ} (h : l.InFile P start finish total) :
    l.Stopped P start finish total :=
  ⟨h.inside, h.importer, Nat.le_of_add_right_le h.progress⟩

theorem BlobLoop.InFile.fail {l : BlobLoop σ} (h : l.InFile P start finish total) :
    l.fail.InFile P start finish total :=
  ⟨h.inside, h.importer, h.ends, h.progress⟩

theorem BlobLoop.InFile.read {l : BlobLoop σ} {width : ℕ} (h : l.InFile P start finish total)
    (hwidth : width ≤ l.size) : (l.read memory width).2.InFile P start finish total := by
  have hsize := l.size_read memory width hwidth
  have hprogress := h.progress
  exact ⟨(h.inside.access h.ends hwidth).advance width, h.importer, (h.ends.access width).advance hwidth, by
    show l.result.readBlobs * MinBlobSize + (l.read memory width).2.size ≤ total
    omega⟩

theorem BlobLoop.result_verify (l : BlobLoop σ) (blobSize storedChecksum : ℕ) :
    (l.verify crc32 verifyChecksum memory blobSize storedChecksum).2.result = l.result := by
  unfold BlobLoop.verify
  split <;> rfl

theorem BlobLoop.InFile.verify {l : BlobLoop σ} {blobSize : ℕ} (storedChecksum : ℕ)
    (h : l.InFile P start finish total) (hsize : blobSize ≤ l.size) :
    (l.verify crc32 verifyChecksum memory blobSize storedChecksum).2.InFile P start finish total := by
  unfold BlobLoop.verify
  split
  · exact ⟨h.inside.access h.ends hsize, h.importer, h.ends.access blobSize, h.progress⟩
  · exact h

variable (hP : ∀ data size s, start ≤ data → data + size ≤ finish → P s → P (processEvent data size s).2)
include hP

/-- The call of `processEvent`, on a blob that is whole, behind its prefix. -/
theorem BlobLoop.InFile.process {l : BlobLoop σ} {blobSize blobSizeWithPadding : ℕ}
    (h : l.InFile P start finish (total - MinBlobSize)) (htotal : MinBlobSize ≤ total)
    (hblob : blobSize ≤ blobSizeWithPadding) (hsize : blobSizeWithPadding ≤ l.size) :
    (l.process processEvent blobSize blobSizeWithPadding).1.Stopped P start finish total ∧
      ((l.process processEvent blobSize blobSizeWithPadding).2 = true →
        (l.process processEvent blobSize blobSizeWithPadding).1.InFile P start finish total) := by
  obtain ⟨hstart, hfinish⟩ := h.ends
  have himporter := hP l.data blobSize l.importer hstart (by omega) h.importer
  have hprogress := h.progress
  have hread : (l.result.readBlobs + 1) * MinBlobSize = l.result.readBlobs * MinBlobSize + MinBlobSize :=
    Nat.succ_mul _ _
  unfold BlobLoop.process
  dsimp only
  split
  · have hinfile : BlobLoop.InFile { l with
        toCursor := l.toCursor.advance blobSizeWithPadding
        result := { l.result with
          readBlobs := l.result.readBlobs + 1, importedBlobs := l.result.importedBlobs + 1 }
        importer := (processEvent l.data blobSize l.importer).2 } P start finish total := by
      refine ⟨h.inside.advance _, himporter, h.ends.advance hsize, ?_⟩
      show (l.result.readBlobs + 1) * MinBlobSize + sizeSub l.size blobSizeWithPadding ≤ total
      rw [sizeSub_of_le hsize]
      omega
    exact ⟨hinfile.stopped, fun _ => hinfile⟩
  · refine ⟨⟨h.inside, himporter, ?_⟩, fun hcontinue => by cases hcontinue⟩
    show (l.result.readBlobs + 1) * MinBlobSize ≤ total
    omega

theorem BlobLoop.InFile.round {l : BlobLoop σ} (h : l.InFile P start finish total) :
    (l.round crc32 verifyChecksum memory processEvent).1.Stopped P start finish total ∧
      ((l.round crc32 verifyChecksum memory processEvent).2 = true →
        (l.round crc32 verifyChecksum memory processEvent).1.InFile P start finish total) := by
  unfold BlobLoop.round
  dsimp only
  split
  · exact ⟨h.fail.stopped, fun hcontinue => by cases hcontinue⟩
  rename_i hmin
  have hprefix := l.size_readPrefix memory (Nat.le_of_not_lt hmin)
  have hsizes : MinBlobSize = sizeofMagicPrefix + sizeofBlobSize + sizeofBlobChecksum := rfl
  have hmagicSize := l.size_read memory sizeofMagicPrefix (by omega)
  have hmagic := h.read memory (show sizeofMagicPrefix ≤ l.size by omega)
  have hblobSize := hmagic.read memory (show sizeofBlobSize ≤ _ by omega)
  have hblobSizeSize := (l.read memory sizeofMagicPrefix).2.size_read memory sizeofBlobSize (by omega)
  have hchecksum := hblobSize.read memory (show sizeofBlobChecksum ≤ _ by omega)
  split
  · exact ⟨hmagic.fail.stopped, fun hcontinue => by cases hcontinue⟩
  split
  · exact ⟨hchecksum.fail.stopped, fun hcontinue => by cases hcontinue⟩
  rename_i hpadding
  have hle := Nat.le_of_not_lt hpadding
  have hverified := hchecksum.verify crc32 verifyChecksum memory
    (((l.read memory sizeofMagicPrefix).2.read memory sizeofBlobSize).2.read memory sizeofBlobChecksum).1
    (Nat.le_of_add_right_le hle)
  split
  · have hprogress := h.progress
    refine BlobLoop.InFile.process processEvent hP ⟨hverified.inside, hverified.importer, hverified.ends, ?_⟩
      (by omega) (Nat.le_add_right _ _) (by rw [BlobLoop.size_verify]; exact hle)
    rw [BlobLoop.size_verify, hprefix, BlobLoop.result_verify]
    show l.result.readBlobs * MinBlobSize + (l.size - MinBlobSize) ≤ total - MinBlobSize
    omega
  · exact ⟨hverified.fail.stopped, fun hcontinue => by cases hcontinue⟩

omit hP in
/-- The loop reads inside the file, and gives `processEvent` blobs inside the file; each took a prefix of it. -/
theorem iterateBlobsInFile_stopped {data size : ℕ}
    (hP : ∀ blob blobSize s, data ≤ blob → blob + blobSize ≤ data + size → P s → P (processEvent blob blobSize s).2)
    {s : σ} (hs : P s) :
    (iterateBlobsInFile crc32 verifyChecksum memory processEvent data size s).Stopped P data (data + size) size := by
  have hstart : BlobLoop.InFile { data := data, size := size, accesses := [], result := {}, importer := s } P data
      (data + size) size := by
    refine ⟨fun a ha => (by cases ha), hs, ⟨Nat.le_refl _, rfl⟩, ?_⟩
    show 0 * MinBlobSize + size ≤ size
    omega
  exact iterateBlobs_keeps (P := fun l => l.InFile P data (data + size) size) crc32 verifyChecksum memory processEvent
    (fun l h => h.stopped)
    (fun l h _ _ => (h.round crc32 verifyChecksum memory processEvent hP).1)
    (fun l h _ hcontinue => (h.round crc32 verifyChecksum memory processEvent hP).2 hcontinue) hstart

end Loop

/-! ### The contents in the messages file -/

/-- The mapped messages file: its address, zero when none is mapped, and its size. -/
structure MessagesFile where
  messagesFileStart : ℕ
  messagesFileSize : ℕ
  mapped : messagesFileStart + messagesFileSize ≤ 2 ^ 64

/-- A view of some bytes in memory. -/
structure ContentView where
  address : ℕ
  size : ℕ
  deriving DecidableEq

/-- What `getMessageContentPointer` is asked for. -/
structure ContentRequest where
  offset : UInt64
  size : UInt64
  deriving DecidableEq

namespace MessagesFile

/-- `getMessageContentPointer`. The sum of the offset and the size is one of `size_t`. -/
def getMessageContentPointer (file : MessagesFile) (offset size : UInt64) : ContentView :=
  if file.messagesFileStart = 0 then ⟨0, 0⟩
  else
    let requiredSize := offset + size
    if file.messagesFileSize < requiredSize.toNat then ⟨0, 0⟩
    else ⟨(file.messagesFileStart + offset.toNat) % 2 ^ 64, size.toNat⟩

/-- The bytes of the view are bytes of the file. -/
def Contains (file : MessagesFile) (view : ContentView) : Prop :=
  view.size = 0 ∨ (file.messagesFileStart ≤ view.address ∧
    view.address + view.size ≤ file.messagesFileStart + file.messagesFileSize)

/-- The request ends before the sizes do; or it is refused, what it wraps to being larger than the file. -/
def Answers (file : MessagesFile) (request : ContentRequest) : Prop :=
  file.messagesFileStart = 0 ∨ request.offset.toNat + request.size.toNat < 2 ^ 64 ∨
    file.messagesFileSize < request.offset.toNat + request.size.toNat - 2 ^ 64

/-- A view lies in the file exactly when the sum of its offset and its size did not wrap past the check. -/
theorem contains_getMessageContentPointer (file : MessagesFile) (request : ContentRequest) :
    file.Contains (file.getMessageContentPointer request.offset request.size) ↔ file.Answers request := by
  obtain ⟨offset, size⟩ := request
  have hmapped := file.mapped
  have hoffset := offset.toNat_lt
  have hsize := size.toNat_lt
  have hsum : (offset + size).toNat = (offset.toNat + size.toNat) % 2 ^ 64 := UInt64.toNat_add _ _
  unfold Contains Answers getMessageContentPointer
  dsimp only
  split
  · rename_i hstart
    exact iff_of_true (.inl rfl) (.inl hstart)
  · split
    · rename_i hstart hrefused
      refine iff_of_true (.inl rfl) (.inr ?_)
      omega
    · rename_i hstart hanswered
      dsimp only
      omega

end MessagesFile

/-- The other parts of a direct write, over a store of any type. -/
structure MessageRepositories (σ : Type*) where
  perform : ObserverContext → RepositoryCall → σ → StatusCode × σ
  /-- `collection.threads().findById`. -/
  findThreadById : UuidString → σ → Bool
  /-- Insert a message with the content of a view, or with an empty one. -/
  insertMessage : ObserverContext → UuidString → UuidString → Bool → Option ContentView → σ → StatusCode × σ

/-- A store, and the contents that the messages of an import asked for. -/
structure ContentStore (σ : Type*) where
  store : σ
  requests : List ContentRequest

section Import

variable {σ : Type*}

/-- The direct writes. The overload of `addNewDiscussionMessageInThread` for a content in the messages file looks the
content up; offset or size zero stand for no content. -/
def MessageRepositories.performWith (repositories : MessageRepositories σ) (file : MessagesFile)
    (context : ObserverContext) (call : RepositoryCall) (s : ContentStore σ) : StatusCode × ContentStore σ :=
  match call with
  | .addNewDiscussionMessageInThreadAt messageId threadId approved contentSize contentOffset =>
    if repositories.findThreadById threadId s.store then
      if contentSize > 0 ∧ contentOffset > 0 then
        let messageContent := file.getMessageContentPointer contentOffset contentSize
        let s := { s with requests := s.requests ++ [⟨contentOffset, contentSize⟩] }
        if messageContent.size = 0 then (.invalidParameters, s)
        else
          let result := repositories.insertMessage context messageId threadId approved (some messageContent) s.store
          (result.1, { s with store := result.2 })
      else
        let result := repositories.insertMessage context messageId threadId approved none s.store
        (result.1, { s with store := result.2 })
    else (.notFound, s)
  | call =>
    let result := repositories.perform context call s.store
    (result.1, { s with store := result.2 })

/-- A blob that was given to `processEvent`, and what was read of it. -/
structure EventRead where
  blob : Access
  accesses : List Access
  deriving DecidableEq

/-- An importer that keeps what was read for each event. -/
structure ReadingImporter (σ : Type*) where
  importer : Importer σ
  reads : List EventRead

/-- `processEvent`, keeping what it reads. -/
def processEventReading (env : ImportEnvironment σ) (data size : ℕ) (r : ReadingImporter σ) :
    Bool × ReadingImporter σ :=
  let result := processEventBody env ⟨⟨data, size, []⟩, r.importer⟩
  (result.1.isSome,
    { importer := result.2.importer, reads := r.reads ++ [⟨⟨data, size⟩, result.2.cursor.accesses⟩] })

/-- Keeping what is read changes nothing else. -/
theorem processEvent_eq_reading (env : ImportEnvironment σ) (data size : ℕ) (r : ReadingImporter σ) :
    processEvent env data size r.importer =
      ((processEventReading env data size r).1, (processEventReading env data size r).2.importer) := rfl

/-- The event is in the file, and what was read for it in the event. -/
def EventRead.Within (read : EventRead) (start finish : ℕ) : Prop :=
  read.blob.Within start finish ∧
    ∀ a ∈ read.accesses, a.Within read.blob.address (read.blob.address + read.blob.length)

/-- The import of the event file of `size` bytes at `data`, with the contents in a messages file. -/
def importWith (crc32 : List UInt8 → UInt32) (verifyChecksum : Bool) (memory : Memory) (file : MessagesFile)
    (repositories : MessageRepositories σ) (data size : ℕ) (importer : Importer (ContentStore σ)) :
    BlobLoop (ReadingImporter (ContentStore σ)) :=
  iterateBlobsInFile crc32 verifyChecksum memory
    (processEventReading { memory := memory, perform := repositories.performWith file }) data size ⟨importer, []⟩

/-- The import of a file read nothing that it was not given: the loop inside the file, which it is through after as
many rounds as prefixes fit into it, every importer inside its own blob, and the contents of the messages are
inside the messages file. -/
structure ImportsInside (file : MessagesFile) (data size : ℕ) (l : BlobLoop (ReadingImporter (ContentStore σ))) :
    Prop where
  framing : l.Inside data (data + size)
  rounds : l.result.readBlobs * MinBlobSize ≤ size
  events : ∀ read ∈ l.importer.reads, read.Within data (data + size)
  contents : ∀ request ∈ l.importer.importer.store.requests,
    file.Contains (file.getMessageContentPointer request.offset request.size)

variable (crc32 : List UInt8 → UInt32) (verifyChecksum : Bool) (memory : Memory) (file : MessagesFile)
  (repositories : MessageRepositories σ) (data size : ℕ) (importer : Importer (ContentStore σ))

/-- Every byte that the loop and the importers read is where it has to be. -/
theorem importWith_stopped :
    (importWith crc32 verifyChecksum memory file repositories data size importer).Stopped
      (fun r => ∀ read ∈ r.reads, read.Within data (data + size)) data (data + size) size := by
  refine iterateBlobsInFile_stopped crc32 verifyChecksum memory _ (fun blob blobSize r hstart hfinish hr => ?_)
    (fun read hread => by cases hread)
  intro read hread
  rcases List.mem_append.1 hread with hread | hread
  · exact hr read hread
  · obtain rfl := List.mem_singleton.1 hread
    exact ⟨⟨hstart, hfinish⟩, inside_processEvent _ blob blobSize r.importer⟩

/-- An import reads nothing that it was not given exactly when no message asks for a content so that the sum of its
offset and its size wraps past the check. -/
theorem importsInside_iff :
    ImportsInside file data size (importWith crc32 verifyChecksum memory file repositories data size importer) ↔
      ∀ request ∈
        (importWith crc32 verifyChecksum memory file repositories data size importer).importer.importer.store.requests,
        file.Answers request := by
  obtain ⟨hinside, hevents, hrounds⟩ :=
    importWith_stopped crc32 verifyChecksum memory file repositories data size importer
  constructor
  · intro h request hrequest
    exact (file.contains_getMessageContentPointer request).1 (h.contents request hrequest)
  · intro h
    exact ⟨hinside, hrounds, hevents, fun request hrequest =>
      (file.contains_getMessageContentPointer request).2 (h request hrequest)⟩

/-! A file with one event: a message of 16 bytes, eight bytes before the end of the range of offsets. -/

/-- A messages file of 64 bytes. -/
def smallMessagesFile : MessagesFile := ⟨4096, 64, by decide⟩

/-- Repositories that know every thread and accept every message. -/
def acceptingRepositories : MessageRepositories Unit where
  perform _ _ s := (.ok, s)
  findThreadById _ _ := true
  insertMessage _ _ _ _ _ s := (.ok, s)

/-- A blob with an `ADD_NEW_DISCUSSION_THREAD_MESSAGE` of version 4. -/
def wrappingFile : List UInt8 :=
  toBytes sizeofMagicPrefix MagicPrefix ++ toBytes sizeofBlobSize 96 ++ toBytes sizeofBlobChecksum 0 ++
    toBytes sizeofEventType EventType.addNewDiscussionThreadMessage.ctorIdx ++ toBytes sizeofEventVersion 4 ++
    toBytes sizeofEventContextVersion 1 ++ List.replicate 40 0 ++ List.replicate 32 1 ++ toBytes 4 1 ++
    toBytes 4 16 ++ toBytes 8 (2 ^ 64 - 8)

/-- Its import, over repositories without a store. -/
def wrappingImport : BlobLoop (ReadingImporter (ContentStore Unit)) :=
  importWith (fun _ => 0) true (Memory.holding 0 wrappingFile) smallMessagesFile acceptingRepositories 0
    wrappingFile.length (freshImporter ⟨(), []⟩)

theorem requests_wrappingImport : wrappingImport.importer.importer.store.requests = [⟨2 ^ 64 - 8, 16⟩] := by
  unfold wrappingImport importWith iterateBlobsInFile
  rw [iterateBlobs_of_round _ _ _ _ (by decide) (by decide +kernel)]
  rw [iterateBlobs_of_empty _ _ _ _ (by decide +kernel)]
  decide +kernel

/-- The sum wraps to 8, which is less than 64, and the view begins before the messages file. -/
theorem not_importsInside_wrappingImport :
    ¬ ImportsInside smallMessagesFile 0 wrappingFile.length wrappingImport := by
  intro h
  have hcontains := h.contents ⟨2 ^ 64 - 8, 16⟩ (by rw [requests_wrappingImport]; exact List.mem_singleton_self _)
  rcases hcontains with hempty | ⟨hstart, -⟩
  · revert hempty
    decide +kernel
  · revert hstart
    decide +kernel

end Import

end Forum.Persistence
