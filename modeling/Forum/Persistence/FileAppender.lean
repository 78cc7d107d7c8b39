import Forum.Persistence.PersistenceFormat
import Forum.Helpers.SeparateThreadConsumer

/-!
# FileAppender

What `FileAppender::append` adds to the current file: for each blob the magic prefix, the size, the
checksum, the bytes themselves and zeros up to the next multiple of eight bytes. A write that fails
aborts the program, so the model has none. The checksum is a parameter.
-/

namespace Forum.Persistence

open Forum.Library Forum.Helpers

/-- A blob with the bytes in a buffer of their size. -/
def blobOf (bytes : List UInt8) : SeparateThreadConsumerBlob := ⟨some bytes, bytes.length⟩

section Append

variable (crc32 : List UInt8 → UInt32)

/-- The first `n` bytes of the buffer of a blob. -/
def blobBytes (blob : SeparateThreadConsumerBlob) (n : ℕ) : List UInt8 := (blob.buffer.getD []).take n

/-- What one round of the loop of `append` writes. -/
def blobRecord (blob : SeparateThreadConsumerBlob) : List UInt8 :=
  -- `static_cast<BlobSizeType>(blob.size)`
  let blobSize := blob.size % 2 ^ 32
  let blobCRC32 := crc32 (blobBytes blob blob.size)
  toBytes sizeofMagicPrefix MagicPrefix ++ toBytes sizeofBlobSize blobSize ++
    toBytes sizeofBlobChecksum blobCRC32.toNat ++ blobBytes blob blobSize ++
    List.replicate (blobPaddingRequired blobSize) 0

/-- `append`: the file after the blobs were added to it. -/
def append (file : List UInt8) (blobs : List SeparateThreadConsumerBlob) : List UInt8 :=
  if blobs.length < 1 then file
  else blobs.foldl (fun file blob => file ++ blobRecord crc32 blob) file

/-- The file of a list of blobs. -/
def fileOf (blobs : List (List UInt8)) : List UInt8 := blobs.flatMap fun bytes => blobRecord crc32 (blobOf bytes)

/-- The parts of a record, for a blob whose size fits in its field. -/
theorem blobRecord_blobOf {bytes : List UInt8} (h : bytes.length < 2 ^ 32) :
    blobRecord crc32 (blobOf bytes) =
      toBytes sizeofMagicPrefix MagicPrefix ++ (toBytes sizeofBlobSize bytes.length ++
        (toBytes sizeofBlobChecksum (crc32 bytes).toNat ++
          (bytes ++ List.replicate (blobPaddingRequired bytes.length) 0))) := by
  have hsize : bytes.length % 2 ^ 32 = bytes.length := Nat.mod_eq_of_lt h
  simp only [blobRecord, blobOf, blobBytes, hsize, Option.getD_some, List.take_length, List.append_assoc]

theorem length_blobRecord_blobOf {bytes : List UInt8} (h : bytes.length < 2 ^ 32) :
    (blobRecord crc32 (blobOf bytes)).length = MinBlobSize + (bytes.length + blobPaddingRequired bytes.length) := by
  rw [blobRecord_blobOf crc32 h]
  simp only [List.length_append, length_toBytes, List.length_replicate, MinBlobSize]
  omega

@[simp] theorem fileOf_nil : fileOf crc32 [] = [] := rfl

theorem fileOf_cons (bytes : List UInt8) (blobs : List (List UInt8)) :
    fileOf crc32 (bytes :: blobs) = blobRecord crc32 (blobOf bytes) ++ fileOf crc32 blobs := List.flatMap_cons

theorem fileOf_append (first second : List (List UInt8)) :
    fileOf crc32 (first ++ second) = fileOf crc32 first ++ fileOf crc32 second := List.flatMap_append

/-- One batch appends the records of its blobs. -/
theorem append_map_blobOf (file : List UInt8) (blobs : List (List UInt8)) :
    append crc32 file (blobs.map blobOf) = file ++ fileOf crc32 blobs := by
  have loop : ∀ (blobs : List (List UInt8)) file,
      (blobs.map blobOf).foldl (fun file blob => file ++ blobRecord crc32 blob) file = file ++ fileOf crc32 blobs := by
    intro blobs
    induction blobs with
    | nil => simp
    | cons bytes blobs ih =>
      intro file
      rw [List.map_cons, List.foldl_cons, ih, fileOf_cons, List.append_assoc]
  cases blobs with
  | nil => simp [append]
  | cons bytes blobs =>
    rw [append, if_neg (by simp), loop]

/-- The grouping into batches does not matter. -/
theorem foldl_append_map_blobOf (file : List UInt8) (batches : List (List (List UInt8))) :
    batches.foldl (fun file batch => append crc32 file (batch.map blobOf)) file =
      file ++ fileOf crc32 batches.flatten := by
  induction batches generalizing file with
  | nil => simp
  | cons batch batches ih =>
    rw [List.foldl_cons, ih, append_map_blobOf, List.flatten_cons, fileOf_append, List.append_assoc]

end Append

end Forum.Persistence
