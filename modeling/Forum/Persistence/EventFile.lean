import Forum.Persistence.FileAppender

/-!
# The blobs of an event file

The loop `iterateBlobsInFile` of the importer over a mapped file, with the import of one event as a
parameter that gets the address and the size of a blob. The loop stops at the first thing that does
not look like a whole blob, and at the first blob that is not imported.

`iterateBlobsInFile_append` says that it reads back what `FileAppender::append` wrote, in any batches;
`iterateBlobsInFile_take` says which blobs it reads from a file that was cut somewhere.
-/

namespace Forum.Persistence

open Forum.Library Forum.Helpers

/-- `ImportResult` with its statistic. -/
structure ImportResult where
  readBlobs : ℕ := 0
  importedBlobs : ℕ := 0
  success : Bool := true
  deriving DecidableEq, Repr

/-- The state of the loop: the cursor in the file, the result so far, and the importer. -/
structure BlobLoop (σ : Type*) extends Cursor where
  result : ImportResult
  importer : σ

section Loop

variable {σ : Type*} (crc32 : List UInt8 → UInt32) (verifyChecksum : Bool) (memory : Memory)
  (processEvent : ℕ → ℕ → σ → Bool × σ)

namespace BlobLoop

/-- `result.success = false`. -/
def fail (l : BlobLoop σ) : BlobLoop σ := { l with result := { l.result with success := false } }

/-- `readAndIncrementBuffer` of an unsigned number: its value, and the loop after it. -/
def read (l : BlobLoop σ) (width : ℕ) : ℕ × BlobLoop σ :=
  (ofBytes (memory.bytes l.data width), { l with toCursor := (l.toCursor.access width).advance width })

/-- The verification of the checksum: whether the import goes on. -/
def verify (l : BlobLoop σ) (blobSize storedChecksum : ℕ) : Bool × BlobLoop σ :=
  if verifyChecksum then
    ((crc32 (memory.bytes l.data blobSize)).toNat == storedChecksum, { l with toCursor := l.toCursor.access blobSize })
  else (true, l)

/-- The call of `processEvent` and what follows it in the loop. -/
def process (l : BlobLoop σ) (blobSize blobSizeWithPadding : ℕ) : BlobLoop σ × Bool :=
  let l := { l with result := { l.result with readBlobs := l.result.readBlobs + 1 } }
  let imported := processEvent l.data blobSize l.importer
  if imported.1 then
    ({ l with
      toCursor := l.toCursor.advance blobSizeWithPadding
      result := { l.result with importedBlobs := l.result.importedBlobs + 1 }
      importer := imported.2 }, true)
  else ({ l with importer := imported.2 }.fail, false)

/-- One round of the loop, and whether there may be another one. -/
def round (l : BlobLoop σ) : BlobLoop σ × Bool :=
  if l.size < MinBlobSize then (l.fail, false)
  else
    let magic := l.read memory sizeofMagicPrefix
    if magic.1 ≠ MagicPrefix then (magic.2.fail, false)
    else
      let blobSize := magic.2.read memory sizeofBlobSize
      let blobSizeWithPadding := blobSize.1 + blobPaddingRequired blobSize.1
      let storedChecksum := blobSize.2.read memory sizeofBlobChecksum
      if storedChecksum.2.size < blobSizeWithPadding then (storedChecksum.2.fail, false)
      else
        let verified := storedChecksum.2.verify crc32 verifyChecksum memory blobSize.1 storedChecksum.1
        if verified.1 then verified.2.process processEvent blobSize.1 blobSizeWithPadding
        else (verified.2.fail, false)

theorem size_read (l : BlobLoop σ) (width : ℕ) (h : width ≤ l.size) : (l.read memory width).2.size = l.size - width :=
  sizeSub_of_le h

theorem size_verify (l : BlobLoop σ) (blobSize storedChecksum : ℕ) :
    (l.verify crc32 verifyChecksum memory blobSize storedChecksum).2.size = l.size := by
  unfold verify
  split <;> rfl

/-- After the three fields of the prefix. -/
theorem size_readPrefix {l : BlobLoop σ} (h : MinBlobSize ≤ l.size) :
    (((l.read memory sizeofMagicPrefix).2.read memory sizeofBlobSize).2.read memory sizeofBlobChecksum).2.size =
      l.size - MinBlobSize := by
  have hmin : MinBlobSize = sizeofMagicPrefix + sizeofBlobSize + sizeofBlobChecksum := rfl
  have h₁ := l.size_read memory sizeofMagicPrefix (by omega)
  have h₂ := (l.read memory sizeofMagicPrefix).2.size_read memory sizeofBlobSize (by omega)
  have h₃ := ((l.read memory sizeofMagicPrefix).2.read memory sizeofBlobSize).2.size_read memory
    sizeofBlobChecksum (by omega)
  omega

/-- A blob that was imported is stepped over. -/
theorem size_process {l : BlobLoop σ} {blobSize blobSizeWithPadding : ℕ} (hsize : blobSizeWithPadding ≤ l.size)
    (h : (l.process processEvent blobSize blobSizeWithPadding).2 = true) :
    (l.process processEvent blobSize blobSizeWithPadding).1.size = l.size - blobSizeWithPadding := by
  unfold process at h ⊢
  dsimp only at h ⊢
  split at h
  · rename_i himported
    rw [if_pos himported]
    exact sizeSub_of_le hsize
  · cases h

/-- A round after which there may be another one consumed a prefix at least. -/
theorem size_round {l : BlobLoop σ} (h : (l.round crc32 verifyChecksum memory processEvent).2 = true) :
    (l.round crc32 verifyChecksum memory processEvent).1.size + MinBlobSize ≤ l.size := by
  unfold round at h ⊢
  dsimp only at h ⊢
  split at h
  · cases h
  rename_i hmin
  have hprefix := size_readPrefix memory (Nat.le_of_not_lt hmin)
  rw [if_neg hmin]
  split at h
  · cases h
  rename_i hmagic
  rw [if_neg hmagic]
  split at h
  · cases h
  rename_i hpadding
  rw [if_neg hpadding]
  split at h
  · rename_i hverified
    rw [if_pos hverified, size_process processEvent (by rw [size_verify]; omega) h, size_verify]
    omega
  · cases h

end BlobLoop

/-- The loop `while (size > 0)`. -/
def iterateBlobs (l : BlobLoop σ) : BlobLoop σ :=
  if l.size > 0 then
    if (l.round crc32 verifyChecksum memory processEvent).2 = true then
      iterateBlobs (l.round crc32 verifyChecksum memory processEvent).1
    else (l.round crc32 verifyChecksum memory processEvent).1
  else l
termination_by l.size
decreasing_by
  rename_i hround
  have hsize := l.size_round crc32 verifyChecksum memory processEvent hround
  have hmin : 0 < MinBlobSize := by decide
  omega

/-- `iterateBlobsInFile` for a file of `size` bytes mapped at `data`. -/
def iterateBlobsInFile (data size : ℕ) (importer : σ) : BlobLoop σ :=
  iterateBlobs crc32 verifyChecksum memory processEvent
    { data := data, size := size, accesses := [], result := {}, importer := importer }

theorem iterateBlobs_of_empty {l : BlobLoop σ} (h : l.size = 0) :
    iterateBlobs crc32 verifyChecksum memory processEvent l = l := by
  rw [iterateBlobs, if_neg (by omega)]

theorem iterateBlobs_of_round {l : BlobLoop σ} (h : 0 < l.size)
    (hround : (l.round crc32 verifyChecksum memory processEvent).2 = true) :
    iterateBlobs crc32 verifyChecksum memory processEvent l =
      iterateBlobs crc32 verifyChecksum memory processEvent (l.round crc32 verifyChecksum memory processEvent).1 := by
  rw [iterateBlobs, if_pos h, if_pos hround]

theorem iterateBlobs_of_stop {l : BlobLoop σ} (h : 0 < l.size)
    (hround : (l.round crc32 verifyChecksum memory processEvent).2 = false) :
    iterateBlobs crc32 verifyChecksum memory processEvent l =
      (l.round crc32 verifyChecksum memory processEvent).1 := by
  rw [iterateBlobs, if_pos h, if_neg (by simp [hround])]

end Loop

/-! ### Reading what was written -/

section RoundTrip

variable {σ : Type*} (crc32 : List UInt8 → UInt32) (verifyChecksum : Bool) (memory : Memory)
  (importEvent : List UInt8 → σ → Bool × σ)

/-- An import of events that looks at the bytes of the blob only. -/
def processBytes (data size : ℕ) (s : σ) : Bool × σ := importEvent (memory.bytes data size) s

/-- Importing a list of blobs, up to the first that is refused. -/
def importBlobs : List (List UInt8) → ImportResult × σ → ImportResult × σ
  | [], s => s
  | bytes :: blobs, (result, s) =>
    let imported := importEvent bytes s
    if imported.1 then
      importBlobs blobs ({ result with
        readBlobs := result.readBlobs + 1, importedBlobs := result.importedBlobs + 1 }, imported.2)
    else ({ result with readBlobs := result.readBlobs + 1, success := false }, imported.2)

namespace BlobLoop

/-- Reading a number of the prefix. -/
theorem read_before {l : BlobLoop σ} {width n : ℕ} {rest : List UInt8} (hn : n < 256 ^ width)
    (h : l.Before memory (toBytes width n ++ rest)) :
    (l.read memory width).1 = n ∧ (l.read memory width).2.Before memory rest := by
  have hbytes := h.bytes
  have hadvance := (h.access width).advance
  rw [length_toBytes] at hbytes hadvance
  refine ⟨?_, hadvance⟩
  show ofBytes (memory.bytes l.data width) = n
  rw [hbytes, ofBytes_toBytes_of_lt hn]

/-- A round at a whole record gets to `processEvent` with the bytes of the blob. -/
theorem round_record {l : BlobLoop σ} {bytes rest : List UInt8} (hlength : bytes.length < 2 ^ 32)
    (h : l.Before memory (blobRecord crc32 (blobOf bytes) ++ rest)) :
    ∃ l' : BlobLoop σ,
      l'.Before memory (bytes ++ (List.replicate (blobPaddingRequired bytes.length) 0 ++ rest)) ∧
      l'.result = l.result ∧ l'.importer = l.importer ∧
      l.round crc32 verifyChecksum memory (processBytes memory importEvent) =
        l'.process (processBytes memory importEvent) bytes.length
          (bytes.length + blobPaddingRequired bytes.length) := by
  have hsize : MinBlobSize ≤ l.size := by
    rw [h.2, List.length_append, length_blobRecord_blobOf crc32 hlength]
    omega
  rw [blobRecord_blobOf crc32 hlength] at h
  simp only [List.append_assoc] at h
  obtain ⟨hmagic, h₁⟩ := read_before memory (n := MagicPrefix) (by decide) h
  obtain ⟨hblobSize, h₂⟩ := read_before memory (n := bytes.length) hlength h₁
  obtain ⟨hchecksum, h₃⟩ := read_before memory (n := (crc32 bytes).toNat) (crc32 bytes).toNat_lt h₂
  generalize hl₁ : (l.read memory sizeofMagicPrefix).2 = l₁ at *
  generalize hl₂ : (l₁.read memory sizeofBlobSize).2 = l₂ at *
  generalize hl₃ : (l₂.read memory sizeofBlobChecksum).2 = l₃ at *
  have hresult : l₃.result = l.result ∧ l₃.importer = l.importer := by
    subst hl₃ hl₂ hl₁
    exact ⟨rfl, rfl⟩
  have hpadded : bytes.length + blobPaddingRequired bytes.length ≤ l₃.size := by
    rw [h₃.2]
    simp only [List.length_append, List.length_replicate]
    omega
  have hverified : (l₃.verify crc32 verifyChecksum memory bytes.length (crc32 bytes).toNat).1 = true := by
    unfold verify
    split
    · rw [h₃.bytes]
      exact beq_self_eq_true _
    · rfl
  refine ⟨(l₃.verify crc32 verifyChecksum memory bytes.length (crc32 bytes).toNat).2, ?_, ?_, ?_, ?_⟩
  · unfold verify
    split <;> exact h₃
  · rw [← hresult.1]
    unfold verify
    split <;> rfl
  · rw [← hresult.2]
    unfold verify
    split <;> rfl
  · unfold round
    dsimp only
    rw [if_neg (by omega), if_neg (by simp [hmagic]), hl₁, hblobSize, hl₂, hchecksum, hl₃, if_neg (by omega),
      if_pos hverified]

/-- A record that is cut short ends the import. -/
theorem round_cut {l : BlobLoop σ} {bytes : List UInt8} {k : ℕ} (hlength : bytes.length < 2 ^ 32)
    (hk : k < (blobRecord crc32 (blobOf bytes)).length)
    (h : l.Before memory ((blobRecord crc32 (blobOf bytes)).take k)) :
    (l.round crc32 verifyChecksum memory (processBytes memory importEvent)).2 = false ∧
      (l.round crc32 verifyChecksum memory (processBytes memory importEvent)).1.result =
        { l.result with success := false } ∧
      (l.round crc32 verifyChecksum memory (processBytes memory importEvent)).1.importer = l.importer := by
  have hsize : l.size = k := by
    rw [h.2, List.length_take]
    omega
  by_cases hmin : k < MinBlobSize
  · rw [round, if_pos (by omega)]
    exact ⟨rfl, rfl, rfl⟩
  -- the prefix is whole, so the cut is in the blob or in its padding
  rw [blobRecord_blobOf crc32 hlength] at h
  simp only [List.take_append, length_toBytes] at h
  have hwidths : MinBlobSize = sizeofMagicPrefix + sizeofBlobSize + sizeofBlobChecksum := rfl
  rw [List.take_of_length_le (by rw [length_toBytes]; omega), List.take_of_length_le (by rw [length_toBytes]; omega),
    List.take_of_length_le (by rw [length_toBytes]; omega)] at h
  obtain ⟨hmagic, h₁⟩ := read_before memory (n := MagicPrefix) (by decide) h
  obtain ⟨hblobSize, h₂⟩ := read_before memory (n := bytes.length) hlength h₁
  have hrest : l.size - MinBlobSize < bytes.length + blobPaddingRequired bytes.length := by
    rw [length_blobRecord_blobOf crc32 hlength] at hk
    omega
  have hprefix := size_readPrefix memory (l := l) (by omega)
  unfold round
  dsimp only
  rw [if_neg (by omega), if_neg (by simp [hmagic]), hblobSize, if_pos (by omega)]
  exact ⟨rfl, rfl, rfl⟩

end BlobLoop

/-- The loop over whole records, followed by anything. -/
theorem iterateBlobs_records (rest : List UInt8) {blobs : List (List UInt8)}
    (hlength : ∀ bytes ∈ blobs, bytes.length < 2 ^ 32) {l : BlobLoop σ}
    (h : l.Before memory (fileOf crc32 blobs ++ rest)) :
    (∃ l' : BlobLoop σ, l'.Before memory rest ∧
      iterateBlobs crc32 verifyChecksum memory (processBytes memory importEvent) l =
        iterateBlobs crc32 verifyChecksum memory (processBytes memory importEvent) l' ∧
      (l'.result, l'.importer) = importBlobs importEvent blobs (l.result, l.importer) ∧
      l'.result.success = l.result.success) ∨
    ((importBlobs importEvent blobs (l.result, l.importer)).1.success = false ∧
      ((iterateBlobs crc32 verifyChecksum memory (processBytes memory importEvent) l).result,
        (iterateBlobs crc32 verifyChecksum memory (processBytes memory importEvent) l).importer) =
          importBlobs importEvent blobs (l.result, l.importer)) := by
  induction blobs generalizing l with
  | nil => exact .inl ⟨l, h, rfl, rfl, rfl⟩
  | cons bytes blobs ih =>
    have hbytes := hlength bytes List.mem_cons_self
    rw [fileOf_cons, List.append_assoc] at h
    have hpositive : 0 < l.size := by
      rw [h.2, List.length_append, length_blobRecord_blobOf crc32 hbytes]
      have hmin : 0 < MinBlobSize := by decide
      omega
    obtain ⟨l₁, hbefore, hresult, himporter, hround⟩ :=
      l.round_record crc32 verifyChecksum memory importEvent hbytes h
    have hread : processBytes memory importEvent l₁.data bytes.length l₁.importer = importEvent bytes l.importer := by
      rw [processBytes, hbefore.bytes, himporter]
    cases himported : (importEvent bytes l.importer).1 with
    | true =>
      have hprocess : (l₁.process (processBytes memory importEvent) bytes.length
          (bytes.length + blobPaddingRequired bytes.length)) =
          ({ l₁ with
            toCursor := l₁.toCursor.advance (bytes.length + blobPaddingRequired bytes.length)
            result := { l.result with
              readBlobs := l.result.readBlobs + 1, importedBlobs := l.result.importedBlobs + 1 }
            importer := (importEvent bytes l.importer).2 }, true) := by
        unfold BlobLoop.process
        dsimp only
        rw [hread, if_pos himported, hresult]
      rw [hprocess] at hround
      have hnext := hbefore
      rw [← List.append_assoc] at hnext
      have hadvance := hnext.advance
      rw [List.length_append, List.length_replicate] at hadvance
      have hstep := iterateBlobs_of_round crc32 verifyChecksum memory (processBytes memory importEvent) hpositive
        (by rw [hround])
      rw [hstep, hround, importBlobs]
      simp only [himported, if_true]
      exact ih (fun bytes hb => hlength bytes (List.mem_cons_of_mem _ hb)) hadvance
    | false =>
      have hprocess : (l₁.process (processBytes memory importEvent) bytes.length
          (bytes.length + blobPaddingRequired bytes.length)) =
          ({ l₁ with
            result := { l.result with readBlobs := l.result.readBlobs + 1, success := false }
            importer := (importEvent bytes l.importer).2 }, false) := by
        unfold BlobLoop.process
        dsimp only
        rw [hread, if_neg (by simp [himported]), hresult]
        rfl
      rw [hprocess] at hround
      have hstep := iterateBlobs_of_stop crc32 verifyChecksum memory (processBytes memory importEvent) hpositive
        (by rw [hround])
      rw [hstep, hround, importBlobs]
      simp only [himported, Bool.false_eq_true, if_false]
      exact .inr ⟨trivial, trivial⟩

/-- What the imports of a list of blobs make of the importer. -/
def imported (blobs : List (List UInt8)) (s : σ) : σ := blobs.foldl (fun s bytes => (importEvent bytes s).2) s

/-- Every blob is imported when its turn comes. -/
def AllImported : List (List UInt8) → σ → Prop
  | [], _ => True
  | bytes :: blobs, s => (importEvent bytes s).1 = true ∧ AllImported blobs (importEvent bytes s).2

theorem AllImported.take {blobs : List (List UInt8)} {s : σ} (h : AllImported importEvent blobs s) (n : ℕ) :
    AllImported importEvent (blobs.take n) s := by
  induction blobs generalizing s n with
  | nil => simpa using h
  | cons bytes blobs ih =>
    cases n with
    | zero => trivial
    | succ n => exact ⟨h.1, ih h.2 n⟩

theorem imported_append (first second : List (List UInt8)) (s : σ) :
    imported importEvent (first ++ second) s = imported importEvent second (imported importEvent first s) :=
  List.foldl_append

theorem AllImported.append {first second : List (List UInt8)} {s : σ} (h : AllImported importEvent first s)
    (hsecond : AllImported importEvent second (imported importEvent first s)) :
    AllImported importEvent (first ++ second) s := by
  induction first generalizing s with
  | nil => exact hsecond
  | cons bytes first ih => exact ⟨h.1, ih h.2 hsecond⟩

/-- When every blob is imported, all of them are, in order. -/
theorem importBlobs_of_allImported {blobs : List (List UInt8)} {s : σ} (result : ImportResult)
    (h : AllImported importEvent blobs s) :
    importBlobs importEvent blobs (result, s) =
      ({ result with
        readBlobs := result.readBlobs + blobs.length
        importedBlobs := result.importedBlobs + blobs.length }, imported importEvent blobs s) := by
  induction blobs generalizing result s with
  | nil => rfl
  | cons bytes blobs ih =>
    rw [importBlobs]
    simp only [h.1, if_true]
    rw [ih _ h.2, List.length_cons]
    simp only [Nat.add_assoc, Nat.add_comm 1]
    rfl

/-- The import reports success only when every blob is imported. -/
theorem allImported_of_success {blobs : List (List UInt8)} {s : σ} (result : ImportResult)
    (h : (importBlobs importEvent blobs (result, s)).1.success = true) : AllImported importEvent blobs s := by
  induction blobs generalizing result s with
  | nil => trivial
  | cons bytes blobs ih =>
    rw [importBlobs] at h
    split at h
    · rename_i himported
      exact ⟨himported, ih _ h⟩
    · cases h

/-- The loop over a whole file imports its blobs. -/
theorem iterateBlobsInFile_fileOf {blobs : List (List UInt8)} (hlength : ∀ bytes ∈ blobs, bytes.length < 2 ^ 32)
    {data : ℕ} (hmemory : memory.Holds data (fileOf crc32 blobs)) (s : σ) :
    ((iterateBlobsInFile crc32 verifyChecksum memory (processBytes memory importEvent) data
        (fileOf crc32 blobs).length s).result,
      (iterateBlobsInFile crc32 verifyChecksum memory (processBytes memory importEvent) data
        (fileOf crc32 blobs).length s).importer) = importBlobs importEvent blobs ({}, s) := by
  rcases iterateBlobs_records crc32 verifyChecksum memory importEvent [] hlength
      (l := { data := data, size := (fileOf crc32 blobs).length, accesses := [], result := {}, importer := s })
      ⟨by rw [List.append_nil]; exact hmemory, by rw [List.append_nil]⟩ with
    ⟨l', hbefore, heq, himported, -⟩ | ⟨-, himported⟩
  · rw [iterateBlobsInFile, heq, iterateBlobs_of_empty _ _ _ _ hbefore.2]
    exact himported
  · exact himported

/-- Where blob `i` of a file begins, and blob `i - 1` ends. -/
def boundary (blobs : List (List UInt8)) (i : ℕ) : ℕ := (fileOf crc32 (blobs.take i)).length

theorem boundary_succ_lt {bytes : List UInt8} {blobs : List (List UInt8)} {i : ℕ}
    (hlength : ∀ bytes ∈ blobs, bytes.length < 2 ^ 32) (hi : blobs[i]? = some bytes) :
    boundary crc32 blobs (i + 1) = boundary crc32 blobs i + (blobRecord crc32 (blobOf bytes)).length ∧
      0 < (blobRecord crc32 (blobOf bytes)).length := by
  obtain ⟨hlt, rfl⟩ := List.getElem?_eq_some_iff.1 hi
  refine ⟨?_, ?_⟩
  · rw [boundary, boundary, List.take_add_one, hi, fileOf_append, List.length_append]
    simp [fileOf]
  · rw [length_blobRecord_blobOf crc32 (hlength _ (List.getElem_mem hlt))]
    have hmin : 0 < MinBlobSize := by decide
    omega

theorem boundary_mono (blobs : List (List UInt8)) {i j : ℕ} (h : i ≤ j) :
    boundary crc32 blobs i ≤ boundary crc32 blobs j := by
  obtain ⟨k, rfl⟩ := Nat.exists_eq_add_of_le h
  rw [boundary, boundary, List.take_add, fileOf_append, List.length_append]
  exact Nat.le_add_right _ _

/-- Where a cut falls: some blobs are whole, and what follows them is a part of one record or nothing. -/
theorem take_fileOf (blobs : List (List UInt8)) {cut : ℕ} (hcut : cut ≤ (fileOf crc32 blobs).length) :
    ∃ n ≤ blobs.length, ∃ k, cut = boundary crc32 blobs n + k ∧
      ((k = 0 ∧ (fileOf crc32 blobs).take cut = fileOf crc32 (blobs.take n)) ∨
        (0 < k ∧ ∃ bytes, blobs[n]? = some bytes ∧ k < (blobRecord crc32 (blobOf bytes)).length ∧
          (fileOf crc32 blobs).take cut =
            fileOf crc32 (blobs.take n) ++ (blobRecord crc32 (blobOf bytes)).take k)) := by
  induction blobs generalizing cut with
  | nil =>
    rw [fileOf_nil, List.length_nil, Nat.le_zero] at hcut
    exact ⟨0, Nat.le_refl _, 0, hcut, .inl ⟨rfl, by simp⟩⟩
  | cons bytes blobs ih =>
    rw [fileOf_cons, List.length_append] at hcut
    by_cases hwhole : (blobRecord crc32 (blobOf bytes)).length ≤ cut
    · have hrest : cut - (blobRecord crc32 (blobOf bytes)).length ≤ (fileOf crc32 blobs).length := by omega
      obtain ⟨n, hn, k, hk, htake⟩ := ih hrest
      have hboundary : boundary crc32 (bytes :: blobs) (n + 1) =
          (blobRecord crc32 (blobOf bytes)).length + boundary crc32 blobs n := by
        rw [boundary, List.take_succ_cons, fileOf_cons, List.length_append, boundary]
      have hfile : (fileOf crc32 (bytes :: blobs)).take cut = blobRecord crc32 (blobOf bytes) ++
          (fileOf crc32 blobs).take (cut - (blobRecord crc32 (blobOf bytes)).length) := by
        rw [fileOf_cons, List.take_append, List.take_of_length_le hwhole]
      have hk' : cut = boundary crc32 (bytes :: blobs) (n + 1) + k := by
        clear htake
        omega
      refine ⟨n + 1, Nat.succ_le_succ hn, k, hk', ?_⟩
      rw [hfile, List.take_succ_cons, fileOf_cons]
      rcases htake with ⟨h0, htake⟩ | ⟨h0, bytes', hbytes, hlt, htake⟩
      · exact .inl ⟨h0, by rw [htake]⟩
      · exact .inr ⟨h0, bytes', hbytes, hlt, by rw [htake, List.append_assoc]⟩
    · refine ⟨0, Nat.zero_le _, cut, by simp [boundary], ?_⟩
      rcases Nat.eq_zero_or_pos cut with rfl | hpositive
      · exact .inl ⟨rfl, rfl⟩
      · refine .inr ⟨hpositive, bytes, rfl, by omega, ?_⟩
        rw [fileOf_cons, List.take_append_of_le_length (by omega)]
        rfl

/-- The loop over a file that was cut: the whole blobs are imported, and the cut is noticed unless it falls
between two blobs. -/
theorem iterateBlobsInFile_take {blobs : List (List UInt8)} (hlength : ∀ bytes ∈ blobs, bytes.length < 2 ^ 32)
    {s : σ} (hall : AllImported importEvent blobs s) {cut : ℕ} (hcut : cut ≤ (fileOf crc32 blobs).length) {data : ℕ}
    (hmemory : memory.Holds data ((fileOf crc32 blobs).take cut)) :
    ∃ n ≤ blobs.length, (∀ i < blobs.length, boundary crc32 blobs (i + 1) ≤ cut ↔ i < n) ∧
      ∃ success : Bool, (success = false ↔ ∀ i ≤ blobs.length, boundary crc32 blobs i ≠ cut) ∧
        ((iterateBlobsInFile crc32 verifyChecksum memory (processBytes memory importEvent) data cut s).result,
          (iterateBlobsInFile crc32 verifyChecksum memory (processBytes memory importEvent) data cut s).importer) =
          ({ readBlobs := n, importedBlobs := n, success := success }, imported importEvent (blobs.take n) s) := by
  obtain ⟨n, hn, k, hk, htake⟩ := take_fileOf crc32 blobs hcut
  refine ⟨n, hn, fun i hi => ?_, ?_⟩
  · -- the boundary after blob `n`, if there is one, lies behind the cut
    constructor
    · intro hboundary
      by_contra hni
      have hmono := boundary_mono crc32 blobs (Nat.le_of_not_lt hni)
      obtain ⟨hsucc, hpositive⟩ := boundary_succ_lt crc32 hlength (List.getElem?_eq_getElem hi)
      rcases htake with ⟨rfl, -⟩ | ⟨hk0, bytes, hbytes, hlt, -⟩
      · omega
      · obtain ⟨hsucc', -⟩ := boundary_succ_lt crc32 hlength hbytes
        have hmono' : boundary crc32 blobs (n + 1) ≤ boundary crc32 blobs (i + 1) :=
          boundary_mono crc32 blobs (by omega)
        omega
    · intro hin
      have hmono : boundary crc32 blobs (i + 1) ≤ boundary crc32 blobs n := boundary_mono crc32 blobs hin
      omega
  · have haccepted := importBlobs_of_allImported importEvent {} (hall.take importEvent n)
    have hlength' : ∀ bytes ∈ blobs.take n, bytes.length < 2 ^ 32 :=
      fun bytes hb => hlength bytes (List.mem_of_mem_take hb)
    have hcount : (blobs.take n).length = n := by
      rw [List.length_take]
      omega
    rw [hcount, Nat.zero_add] at haccepted
    have hwhole : ∀ tail, (fileOf crc32 blobs).take cut = fileOf crc32 (blobs.take n) ++ tail →
        ∃ l' : BlobLoop σ, l'.Before memory tail ∧
          iterateBlobsInFile crc32 verifyChecksum memory (processBytes memory importEvent) data cut s =
            iterateBlobs crc32 verifyChecksum memory (processBytes memory importEvent) l' ∧
          l'.result = { readBlobs := n, importedBlobs := n, success := true } ∧
          l'.importer = imported importEvent (blobs.take n) s := by
      intro tail htail
      have hsize : cut = (fileOf crc32 (blobs.take n) ++ tail).length := by
        rw [← htail, List.length_take]
        omega
      rcases iterateBlobs_records crc32 verifyChecksum memory importEvent _ hlength'
        (l := { data := data, size := cut, accesses := [], result := {}, importer := s })
        ⟨by rw [← htail]; exact hmemory, hsize⟩ with ⟨l', hbefore, heq, himported, -⟩ | ⟨hfailed, -⟩
      · rw [haccepted] at himported
        obtain ⟨hresult, himporter⟩ := Prod.mk.inj himported
        exact ⟨l', hbefore, heq, hresult, himporter⟩
      · rw [haccepted] at hfailed
        cases hfailed
    rcases htake with ⟨rfl, htake⟩ | ⟨hpositive, bytes, hbytes, hlt, htake⟩
    · obtain ⟨l', hbefore, heq, hresult, himporter⟩ := hwhole [] (by rw [htake, List.append_nil])
      refine ⟨true, ⟨fun h => absurd h (by decide), fun h => absurd hk.symm (h n hn)⟩, ?_⟩
      rw [heq, iterateBlobs_of_empty _ _ _ _ hbefore.2, hresult, himporter]
    · obtain ⟨l', hbefore, heq, hresult, himporter⟩ := hwhole _ htake
      have hb := hlength bytes (List.mem_of_getElem? hbytes)
      have hsize : 0 < l'.size := by
        rw [hbefore.2, List.length_take]
        omega
      obtain ⟨hstop, hfailed, hkept⟩ := l'.round_cut crc32 verifyChecksum memory importEvent hb hlt hbefore
      refine ⟨false, ⟨fun _ i _ => ?_, fun _ => rfl⟩, ?_⟩
      · -- no boundary lies inside a record
        obtain ⟨hsucc, -⟩ := boundary_succ_lt crc32 hlength hbytes
        rcases Nat.lt_or_ge n i with hni | hni
        · have hmono : boundary crc32 blobs (n + 1) ≤ boundary crc32 blobs i := boundary_mono crc32 blobs hni
          omega
        · have hmono := boundary_mono crc32 blobs hni
          omega
      · rw [heq, iterateBlobs_of_stop _ _ _ _ hsize hstop, hfailed, hkept, hresult, himporter]

/-- The framing round-trips. Whatever the batches were, the loop over the file they made imports exactly their
blobs in order, up to the first that is refused, and reports success if and only if none is. Of a file that was
cut, exactly the blobs that lie wholly before the cut are imported, and failure is reported if and only if the cut
is not at the boundary of a blob. -/
theorem iterateBlobsInFile_append (batches : List (List (List UInt8)))
    (hlength : ∀ batch ∈ batches, ∀ bytes ∈ batch, bytes.length < 2 ^ 32) (data : ℕ) (s : σ) :
    let file := batches.foldl (fun file batch => append crc32 file (batch.map blobOf)) []
    let blobs := batches.flatten
    (memory.Holds data file →
      let l := iterateBlobsInFile crc32 verifyChecksum memory (processBytes memory importEvent) data file.length s
      (l.result, l.importer) = importBlobs importEvent blobs ({}, s) ∧
        (l.result.success = true ↔ AllImported importEvent blobs s) ∧
        (AllImported importEvent blobs s →
          l.result = { readBlobs := blobs.length, importedBlobs := blobs.length, success := true } ∧
            l.importer = imported importEvent blobs s)) ∧
    ∀ cut < file.length, memory.Holds data (file.take cut) → AllImported importEvent blobs s →
      let l := iterateBlobsInFile crc32 verifyChecksum memory (processBytes memory importEvent) data cut s
      ∃ n ≤ blobs.length, (∀ i < blobs.length, boundary crc32 blobs (i + 1) ≤ cut ↔ i < n) ∧
        l.importer = imported importEvent (blobs.take n) s ∧ l.result.readBlobs = n ∧ l.result.importedBlobs = n ∧
        (l.result.success = false ↔ ∀ i ≤ blobs.length, boundary crc32 blobs i ≠ cut) := by
  intro file blobs
  have hfile : file = fileOf crc32 blobs := foldl_append_map_blobOf crc32 [] batches
  have hblobs : ∀ bytes ∈ blobs, bytes.length < 2 ^ 32 := by
    intro bytes hb
    obtain ⟨batch, hbatch, hbytes⟩ := List.mem_flatten.1 hb
    exact hlength batch hbatch bytes hbytes
  rw [hfile]
  refine ⟨fun hmemory => ?_, fun cut hcut hmemory hall => ?_⟩
  · have himport := iterateBlobsInFile_fileOf crc32 verifyChecksum memory importEvent hblobs hmemory s
    have hof : AllImported importEvent blobs s → importBlobs importEvent blobs ({}, s) =
        ({ readBlobs := blobs.length, importedBlobs := blobs.length, success := true },
          imported importEvent blobs s) := by
      intro hall
      rw [importBlobs_of_allImported importEvent {} hall]
      simp only [Nat.zero_add]
    refine ⟨himport, ⟨fun hsuccess => ?_, fun hall => ?_⟩, fun hall => ?_⟩
    · refine allImported_of_success importEvent {} ?_
      rw [← himport]
      exact hsuccess
    · rw [hof hall] at himport
      rw [(Prod.mk.inj himport).1]
    · rw [hof hall] at himport
      exact Prod.mk.inj himport
  · obtain ⟨n, hn, hwhole, success, hsuccess, himport⟩ :=
      iterateBlobsInFile_take crc32 verifyChecksum memory importEvent hblobs hall (Nat.le_of_lt hcut) hmemory
    obtain ⟨hresult, himporter⟩ := Prod.mk.inj himport
    exact ⟨n, hn, hwhole, himporter, by rw [hresult], by rw [hresult], by rw [hresult]; exact hsuccess⟩

/-- An import that accepts every blob and remembers it. -/
def recordCall (bytes : List UInt8) (calls : List (List UInt8)) : Bool × List (List UInt8) := (true, calls ++ [bytes])

/-- Three blobs in two batches, the last one empty; and the file when it ends within the second blob. -/
theorem iterateBlobsInFile_append_three :
    let file := fileOf (fun _ => 7) [[1], [2, 3], []]
    let whole := Memory.holding 100 file
    let cut := Memory.holding 100 (file.take 30)
    (iterateBlobsInFile (fun _ => 7) true whole (processBytes whole recordCall) 100 file.length []).importer =
        [[1], [2, 3], []] ∧
      (iterateBlobsInFile (fun _ => 7) true cut (processBytes cut recordCall) 100 30 []).importer = [[1]] ∧
      (iterateBlobsInFile (fun _ => 7) true cut (processBytes cut recordCall) 100 30 []).result.success = false := by
  intro file whole cut
  have happend := fun memory => iterateBlobsInFile_append (fun _ => 7) true memory recordCall [[[1], [2, 3]], [[]]]
    (by decide) 100 []
  refine ⟨(((happend whole).1 (Memory.holds_holding _ _)).2.2 ⟨rfl, rfl, rfl, trivial⟩).2, ?_⟩
  obtain ⟨n, -, hwhole, himporter, -, -, hsuccess⟩ :=
    (happend cut).2 30 (by decide) (Memory.holds_holding _ _) ⟨rfl, rfl, rfl, trivial⟩
  have hfirst := (hwhole 0 (by decide)).1 (by decide)
  have hsecond := mt (hwhole 1 (by decide)).2 (by decide)
  have hone : n = 1 := by omega
  rw [hone] at himporter
  exact ⟨himporter, hsuccess.2 (by decide)⟩

end RoundTrip

end Forum.Persistence
