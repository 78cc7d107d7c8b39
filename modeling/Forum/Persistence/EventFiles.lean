import Forum.Library.Ascii
import Forum.Library.OrderedIndex
import Forum.Persistence.EventFile

/-!
# The event files

`EventImporter::import` searches a directory and everything below it for files with the name of an event file,
and imports them in the order of the numbers in their names. What it found is kept in a map from numbers to
paths, and the pattern for the names has a dot that stands for any character.

`importedInTimeOrder_iff` says for which directories every event file is imported, and no other file.
-/

namespace Forum.Persistence

open Forum.Library

/-! ### Directories -/

/-- A name in a directory. -/
abbrev FileName := List UInt8

/-- The names on the way to a file. -/
abbrev Path := List FileName

/-- The last of the names. -/
def Path.filename (path : Path) : FileName := path.getLastD []

/-- What a path leads to. The entries of a directory are in the order in which its iterator returns them. -/
inductive PathEntry
  | directory (entries : List (FileName × PathEntry))
  | regularFile
  | other

section Iterate

variable {σ : Type*} (action : Path → σ → σ)

mutual

/-- `iteratePathRecursively`, with what the action works on as a state. -/
def iteratePathRecursively (sourcePath : Path) : PathEntry → σ → σ
  | .directory entries, s => iterateEntries sourcePath entries s
  | .regularFile, s => action sourcePath s
  | .other, s => s

/-- The loop over a `directory_iterator`. -/
def iterateEntries (sourcePath : Path) : List (FileName × PathEntry) → σ → σ
  | [], s => s
  | (name, entry) :: entries, s =>
    iterateEntries sourcePath entries (iteratePathRecursively (sourcePath ++ [name]) entry s)

end

end Iterate

mutual

/-- The regular files at and below a path. -/
def regularFiles (sourcePath : Path) : PathEntry → List Path
  | .directory entries => regularFilesOf sourcePath entries
  | .regularFile => [sourcePath]
  | .other => []

/-- Those below the entries of a directory. -/
def regularFilesOf (sourcePath : Path) : List (FileName × PathEntry) → List Path
  | [] => []
  | (name, entry) :: entries => regularFiles (sourcePath ++ [name]) entry ++ regularFilesOf sourcePath entries

end

section Iterate

variable {σ : Type*} (action : Path → σ → σ)

mutual

/-- The action is called for the regular files, one after the other. -/
theorem iteratePathRecursively_eq (sourcePath : Path) (entry : PathEntry) (s : σ) :
    iteratePathRecursively action sourcePath entry s =
      (regularFiles sourcePath entry).foldl (fun s path => action path s) s := by
  cases entry with
  | directory entries =>
    rw [iteratePathRecursively, regularFiles]
    exact iterateEntries_eq sourcePath entries s
  | regularFile => rfl
  | other => rfl

theorem iterateEntries_eq (sourcePath : Path) (entries : List (FileName × PathEntry)) (s : σ) :
    iterateEntries action sourcePath entries s =
      (regularFilesOf sourcePath entries).foldl (fun s path => action path s) s := by
  match entries with
  | [] => rfl
  | (name, entry) :: entries =>
    rw [iterateEntries, regularFilesOf, List.foldl_append, iteratePathRecursively_eq, iterateEntries_eq]

end

end Iterate

/-- There is a regular file at the end of these names. -/
inductive PathEntry.HasFile : PathEntry → List FileName → Prop
  | here : HasFile .regularFile []
  | inside {entries : List (FileName × PathEntry)} {name : FileName} {entry : PathEntry} {names : List FileName}
      (hentry : (name, entry) ∈ entries) (hfile : entry.HasFile names) : HasFile (.directory entries) (name :: names)

mutual

/-- Every regular file is reached. -/
theorem mem_regularFiles (sourcePath : Path) (entry : PathEntry) (path : Path) :
    path ∈ regularFiles sourcePath entry ↔ ∃ names, entry.HasFile names ∧ path = sourcePath ++ names := by
  cases entry with
  | directory entries =>
    rw [regularFiles, mem_regularFilesOf sourcePath entries path]
    constructor
    · rintro ⟨name, entry, names, hentry, hfile, rfl⟩
      exact ⟨name :: names, .inside hentry hfile, rfl⟩
    · rintro ⟨names, hfile, rfl⟩
      cases hfile with
      | inside hentry hfile => exact ⟨_, _, _, hentry, hfile, rfl⟩
  | regularFile =>
    rw [regularFiles, List.mem_singleton]
    constructor
    · rintro rfl
      exact ⟨[], .here, (List.append_nil _).symm⟩
    · rintro ⟨names, hfile, rfl⟩
      cases hfile with
      | here => exact List.append_nil _
  | other =>
    rw [regularFiles]
    refine ⟨fun h => (nomatch h), ?_⟩
    rintro ⟨names, hfile, -⟩
    cases hfile

theorem mem_regularFilesOf (sourcePath : Path) (entries : List (FileName × PathEntry)) (path : Path) :
    path ∈ regularFilesOf sourcePath entries ↔
      ∃ name entry names, (name, entry) ∈ entries ∧ entry.HasFile names ∧ path = sourcePath ++ name :: names := by
  match entries with
  | [] =>
    rw [regularFilesOf]
    refine ⟨fun h => (nomatch h), ?_⟩
    rintro ⟨name, entry, names, hentry, -⟩
    cases hentry
  | (first, entry) :: entries =>
    rw [regularFilesOf, List.mem_append, mem_regularFiles (sourcePath ++ [first]) entry path,
      mem_regularFilesOf sourcePath entries path]
    simp only [List.append_assoc, List.singleton_append]
    constructor
    · rintro (⟨names, hfile, rfl⟩ | ⟨name, found, names, hentry, hfile, rfl⟩)
      · exact ⟨first, entry, names, List.mem_cons_self, hfile, rfl⟩
      · exact ⟨name, found, names, List.mem_cons_of_mem _ hentry, hfile, rfl⟩
    · rintro ⟨name, found, names, hentry, hfile, rfl⟩
      rcases List.mem_cons.1 hentry with heq | hentry
      · cases heq
        exact Or.inl ⟨names, hfile, rfl⟩
      · exact Or.inr ⟨name, found, names, hentry, hfile, rfl⟩

end

/-! ### Names -/

/-- Does the dot of a regular expression stand for it? -/
def isAnyCharacter (byte : UInt8) : Bool := byte ≠ 10 ∧ byte ≠ 13

/-- `try_lexical_convert` to a `time_t`, as it is documented: digits are converted to their number, if it fits. -/
def ConvertsDigits (tryLexicalConvert : List UInt8 → Option ℕ) : Prop :=
  ∀ digits, digits ≠ [] → (∀ digit ∈ digits, isDigit digit) → ∀ timestamp,
    tryLexicalConvert digits = some timestamp ↔ decimalNumber digits = timestamp ∧ timestamp < 2 ^ 63

/-- A name is `forum-`, digits, one more character and `events`, in any case. -/
structure MatchesEventFile (fileName digits : List UInt8) (character : UInt8) : Prop where
  nonempty : digits ≠ []
  all_digits : ∀ digit ∈ digits, isDigit digit
  lower : fileName.map toLower =
    asciiBytes "forum-" ++ (digits ++ toLower character :: asciiBytes "events")

instance (fileName digits : List UInt8) (character : UInt8) : Decidable (MatchesEventFile fileName digits character) :=
  decidable_of_iff (digits ≠ [] ∧ digits.all isDigit ∧
    fileName.map toLower = asciiBytes "forum-" ++ (digits ++ toLower character :: asciiBytes "events"))
    ⟨fun h => ⟨h.1, List.all_eq_true.1 h.2.1, h.2.2⟩, fun h => ⟨h.nonempty, List.all_eq_true.2 h.all_digits, h.lower⟩⟩

/-- The match of `^forum-(\d+).events$` with a name: what its group captures, and what its dot stands for. -/
def eventFileMatcher (fileName : FileName) : Option (List UInt8 × UInt8) :=
  let digits := (fileName.drop 6).take (fileName.length - 13)
  match fileName[6 + digits.length]? with
  | some character =>
    if MatchesEventFile fileName digits character ∧ isAnyCharacter character then some (digits, character) else none
  | none => none

theorem toLower_eq_of_isDigit {byte : UInt8} (h : isDigit (toLower byte)) : toLower byte = byte := by
  unfold toLower isDigit at *
  split_ifs at h ⊢
  · simp only [UInt8.le_iff_toNat_le, UInt8.toNat_add, decide_eq_true_eq, UInt8.reduceToNat] at *
    omega
  · rfl

theorem eq_dot_of_toLower {byte : UInt8} (h : toLower byte = 46) : byte = 46 := by
  unfold toLower at h
  split_ifs at h
  · simp only [UInt8.le_iff_toNat_le, ← UInt8.toNat_inj, UInt8.toNat_add, UInt8.reduceToNat] at *
    omega
  · exact h

theorem MatchesEventFile.length {fileName digits : List UInt8} {character : UInt8}
    (h : MatchesEventFile fileName digits character) : fileName.length = 13 + digits.length := by
  have hlength := congrArg List.length h.lower
  rw [List.length_map, List.length_append, List.length_append, List.length_cons,
    show (asciiBytes "forum-").length = 6 from rfl, show (asciiBytes "events").length = 6 from rfl] at hlength
  omega

/-- The digits are where the match looks for them. -/
theorem MatchesEventFile.take_drop {fileName digits : List UInt8} {character : UInt8}
    (h : MatchesEventFile fileName digits character) : (fileName.drop 6).take (fileName.length - 13) = digits := by
  have hlower : ((fileName.drop 6).take (fileName.length - 13)).map toLower = digits := by
    rw [List.map_take, List.map_drop, h.lower, h.length, show 13 + digits.length - 13 = digits.length by omega]
    show ((asciiBytes "forum-" ++ _).drop (asciiBytes "forum-").length).take _ = _
    rw [List.drop_left, List.take_left]
  rw [← hlower]
  refine (List.map_congr_left fun byte hbyte => ?_).trans (List.map_id _) |>.symm
  exact toLower_eq_of_isDigit (h.all_digits _ (hlower ▸ List.mem_map_of_mem hbyte))

theorem matchesEventFile_of_eq_some {fileName digits : List UInt8} {character : UInt8}
    (h : eventFileMatcher fileName = some (digits, character)) : MatchesEventFile fileName digits character := by
  unfold eventFileMatcher at h
  dsimp only at h
  split at h
  · split_ifs at h with hmatches
    cases h
    exact hmatches.1
  · cases h

/-- With a dot before its ending, the name is matched as it is meant to be. -/
theorem eventFileMatcher_dot {fileName digits : List UInt8} :
    eventFileMatcher fileName = some (digits, 46) ↔ MatchesEventFile fileName digits 46 := by
  constructor
  · exact matchesEventFile_of_eq_some
  · intro h
    unfold eventFileMatcher
    dsimp only
    rw [h.take_drop]
    have hat : (fileName.map toLower)[6 + digits.length]? = some 46 := by
      rw [h.lower, ← List.append_assoc, List.getElem?_append_right (by
        rw [List.length_append, show (asciiBytes "forum-").length = 6 from rfl]), List.length_append,
        show (asciiBytes "forum-").length = 6 from rfl, Nat.sub_self]
      rfl
    rw [List.getElem?_map, Option.map_eq_some_iff] at hat
    obtain ⟨character, hcharacter, hlower⟩ := hat
    rw [hcharacter, eq_dot_of_toLower hlower]
    exact if_pos ⟨h, by decide⟩

/-! ### The map of the files -/

section

variable (tryLexicalConvert : List UInt8 → Option ℕ)

/-- The number in the name of a file that the pattern takes. -/
def timestampOf (path : Path) : Option ℕ :=
  (eventFileMatcher path.filename).bind fun found => tryLexicalConvert found.1

/-- `insert` of the map, which keeps what is there. -/
def insertFileName (file : ℕ × Path) (eventFileNames : List (ℕ × Path)) : List (ℕ × Path) :=
  if file.1 ∈ eventFileNames.map Prod.fst then eventFileNames else insertItem Prod.fst file eventFileNames

/-- What `import` does with a regular file that it finds. -/
def collectFile (path : Path) (eventFileNames : List (ℕ × Path)) : List (ℕ × Path) :=
  match eventFileMatcher path.filename with
  | some found =>
    match tryLexicalConvert found.1 with
    | some timestamp => insertFileName (timestamp, path) eventFileNames
    | none => eventFileNames
  | none => eventFileNames

/-- The map of the files, in the order in which it is iterated. -/
def collectFiles (sourcePath : Path) (entry : PathEntry) : List (ℕ × Path) :=
  iteratePathRecursively (collectFile tryLexicalConvert) sourcePath entry []

/-- The map after these files: for each number, the first of them with it. -/
structure Collected (paths : List Path) (eventFileNames : List (ℕ × Path)) : Prop where
  ordered : eventFileNames.Pairwise fun a b => a.1 < b.1
  mem_iff : ∀ timestamp path, (timestamp, path) ∈ eventFileNames ↔
    paths.find? (fun path => timestampOf tryLexicalConvert path = some timestamp) = some path

end

variable {tryLexicalConvert : List UInt8 → Option ℕ}

theorem collectFile_of_some {path : Path} {timestamp : ℕ} (h : timestampOf tryLexicalConvert path = some timestamp)
    (eventFileNames : List (ℕ × Path)) :
    collectFile tryLexicalConvert path eventFileNames = insertFileName (timestamp, path) eventFileNames := by
  unfold timestampOf at h
  unfold collectFile
  obtain ⟨found, hfound, hconvert⟩ := Option.bind_eq_some_iff.1 h
  rw [hfound]
  dsimp only
  rw [hconvert]

theorem collectFile_of_none {path : Path} (h : timestampOf tryLexicalConvert path = none) (eventFileNames : List (ℕ × Path)) :
    collectFile tryLexicalConvert path eventFileNames = eventFileNames := by
  unfold timestampOf at h
  unfold collectFile
  cases hfound : eventFileMatcher path.filename with
  | none => rfl
  | some found =>
    rw [hfound, Option.bind_some] at h
    dsimp only
    rw [h]

theorem pairwise_lt_insertItem {file : ℕ × Path} {l : List (ℕ × Path)} (h : l.Pairwise fun a b => a.1 < b.1)
    (hnew : file.1 ∉ l.map Prod.fst) : (insertItem Prod.fst file l).Pairwise fun a b => a.1 < b.1 := by
  have hordered : KeyOrdered Prod.fst (insertItem Prod.fst file l) :=
    keyOrdered_insertItem (h.imp fun hlt => Nat.le_of_lt hlt)
  have hkeys : (insertItem Prod.fst file l).Pairwise fun a b => a.1 ≠ b.1 := by
    rw [(perm_insertItem Prod.fst file l).pairwise_iff fun hne => Ne.symm hne]
    refine List.pairwise_cons.2 ⟨fun other hother heq => hnew ?_, h.imp fun hlt => Nat.ne_of_lt hlt⟩
    exact heq ▸ List.mem_map_of_mem hother
  exact (hordered.and hkeys).imp fun hboth => Nat.lt_of_le_of_ne hboth.1 hboth.2

theorem Collected.collectFile {paths : List Path} {eventFileNames : List (ℕ × Path)}
    (h : Collected tryLexicalConvert paths eventFileNames) (path : Path) :
    Collected tryLexicalConvert (paths ++ [path]) (collectFile tryLexicalConvert path eventFileNames) := by
  cases hpath : timestampOf tryLexicalConvert path with
  | none =>
    rw [collectFile_of_none hpath]
    refine ⟨h.ordered, fun timestamp other => ?_⟩
    rw [h.mem_iff, List.find?_append, List.find?_singleton, if_neg (by simp [hpath]), Option.or_none]
  | some found =>
    rw [collectFile_of_some hpath]
    unfold insertFileName
    split_ifs with hknown
    · refine ⟨h.ordered, fun timestamp other => ?_⟩
      rw [h.mem_iff, List.find?_append, List.find?_singleton]
      obtain ⟨⟨_, first⟩, hfirst, rfl⟩ := List.mem_map.1 hknown
      by_cases heq : timestampOf tryLexicalConvert path = some timestamp
      · cases hpath.symm.trans heq
        rw [(h.mem_iff _ _).1 hfirst, Option.some_or]
      · rw [if_neg (by simpa using heq), Option.or_none]
    · refine ⟨pairwise_lt_insertItem h.ordered hknown, fun timestamp other => ?_⟩
      rw [(perm_insertItem Prod.fst (found, path) eventFileNames).mem_iff, List.mem_cons, h.mem_iff, List.find?_append,
        List.find?_singleton]
      by_cases heq : timestampOf tryLexicalConvert path = some timestamp
      · cases hpath.symm.trans heq
        have hnone : paths.find? (fun path => timestampOf tryLexicalConvert path = some found) = none := by
          refine Option.eq_none_iff_forall_ne_some.2 fun first hfirst => hknown ?_
          exact List.mem_map.2 ⟨(found, first), (h.mem_iff _ _).2 hfirst, rfl⟩
        rw [hnone, if_pos (by simpa using heq), Option.none_or]
        simp [eq_comm]
      · rw [if_neg (by simpa using heq), Option.or_none, or_iff_right]
        rintro hpair
        cases hpair
        exact heq hpath

theorem collected (sourcePath : Path) (entry : PathEntry) :
    Collected tryLexicalConvert (regularFiles sourcePath entry) (collectFiles tryLexicalConvert sourcePath entry) := by
  unfold collectFiles
  rw [iteratePathRecursively_eq]
  induction regularFiles sourcePath entry using List.reverseRecOn with
  | nil => exact ⟨List.Pairwise.nil, fun timestamp path => by simp⟩
  | append_singleton paths path ih =>
    rw [List.foldl_append]
    exact ih.collectFile path

/-! ### The import -/

section Import

variable {σ : Type*} (importFile : Path → σ → ImportResult × σ)

/-- `importFile`. A file that cannot be mapped is logged, and the result is the one of an empty file. -/
def importMappedFile (crc32 : List UInt8 → UInt32) (verifyChecksum : Bool) (memory : Memory)
    (processEvent : ℕ → ℕ → σ → Bool × σ) (mapping : Path → Option (ℕ × ℕ)) (fileName : Path) (importer : σ) :
    ImportResult × σ :=
  match mapping fileName with
  | some (data, size) =>
    let l := iterateBlobsInFile crc32 verifyChecksum memory processEvent data size importer
    (l.result, l.importer)
  | none => ({}, importer)

/-- The loop of `import` over the map. -/
def importFiles : List Path → ImportResult × σ → ImportResult × σ
  | [], s => s
  | fileName :: fileNames, (result, importer) =>
    let current := importFile fileName importer
    if current.1.success then
      importFiles fileNames ({ result with
        readBlobs := result.readBlobs + current.1.readBlobs
        importedBlobs := result.importedBlobs + current.1.importedBlobs }, current.2)
    else ({ result with success := false }, current.2)

/-- `import`, with the updates that follow its loop as a parameter. -/
def importEventFiles (tryLexicalConvert : List UInt8 → Option ℕ) (updates : σ → σ) (sourcePath : Path) (entry : PathEntry)
    (importer : σ) : ImportResult × σ :=
  let imported := importFiles importFile ((collectFiles tryLexicalConvert sourcePath entry).map Prod.snd) ({}, importer)
  (imported.1, updates imported.2)

/-- The results of importing files one after the other. -/
def fileResults : List Path → σ → List ImportResult
  | [], _ => []
  | fileName :: fileNames, importer =>
    (importFile fileName importer).1 :: fileResults fileNames (importFile fileName importer).2

/-- The importer after files, one after the other. -/
def importerAfter (fileNames : List Path) (importer : σ) : σ :=
  fileNames.foldl (fun importer fileName => (importFile fileName importer).2) importer

/-- The results of those of the first `n` files that did not fail. -/
def countedResults (fileNames : List Path) (importer : σ) (n : ℕ) : List ImportResult :=
  ((fileResults importFile fileNames importer).take n).filter ImportResult.success

/-- The first `n` files were imported and no other ones, in their order. -/
structure ImportsFirst (fileNames : List Path) (importer : σ) (outcome : ImportResult × σ) (n : ℕ) : Prop where
  reached : outcome.2 = importerAfter importFile (fileNames.take n) importer
  /-- All were, and none failed. -/
  success : outcome.1.success = true → n = fileNames.length ∧
    ∀ result ∈ fileResults importFile fileNames importer, result.success = true
  /-- The last one failed, as the first one that did. -/
  failure : outcome.1.success = false → ∃ before result after,
    fileResults importFile fileNames importer = before ++ result :: after ∧ n = before.length + 1 ∧
      (∀ earlier ∈ before, earlier.success = true) ∧ result.success = false
  /-- What is reported is the sum over those that did not fail. -/
  readBlobs : outcome.1.readBlobs = ((countedResults importFile fileNames importer n).map ImportResult.readBlobs).sum
  importedBlobs : outcome.1.importedBlobs =
    ((countedResults importFile fileNames importer n).map ImportResult.importedBlobs).sum

/-- The loop imports up to the first file that fails, and adds what it reads to the result. -/
theorem importFiles_spec (fileNames : List Path) (importer : σ) (result : ImportResult) (hsuccess : result.success) :
    ∃ n counted, ImportsFirst importFile fileNames importer
        (counted, (importFiles importFile fileNames (result, importer)).2) n ∧
      (importFiles importFile fileNames (result, importer)).1 =
        { success := counted.success
          readBlobs := result.readBlobs + counted.readBlobs
          importedBlobs := result.importedBlobs + counted.importedBlobs } := by
  induction fileNames generalizing importer result with
  | nil =>
    refine ⟨0, {}, ⟨rfl, fun _ => ⟨rfl, by simp [fileResults]⟩, (fun h => nomatch h), rfl, rfl⟩, ?_⟩
    rw [importFiles]
    cases result
    simpa using hsuccess
  | cons fileName fileNames ih =>
    rw [importFiles]
    cases hcurrent : (importFile fileName importer).1.success with
    | true =>
      rw [if_pos rfl]
      obtain ⟨n, counted, himports, hresult⟩ := ih (importFile fileName importer).2
        { result with
          readBlobs := result.readBlobs + (importFile fileName importer).1.readBlobs
          importedBlobs := result.importedBlobs + (importFile fileName importer).1.importedBlobs } hsuccess
      refine ⟨n + 1, { counted with
        readBlobs := (importFile fileName importer).1.readBlobs + counted.readBlobs
        importedBlobs := (importFile fileName importer).1.importedBlobs + counted.importedBlobs }, ⟨?_, ?_, ?_, ?_, ?_⟩, ?_⟩
      · exact himports.reached
      · intro hall
        obtain ⟨hlength, hfiles⟩ := himports.success hall
        refine ⟨by rw [hlength, List.length_cons], fun found hfound => ?_⟩
        rw [fileResults, List.mem_cons] at hfound
        rcases hfound with rfl | hfound
        · exact hcurrent
        · exact hfiles found hfound
      · intro hfails
        obtain ⟨before, failed, after, hresults, hn, hbefore, hfailed⟩ := himports.failure hfails
        refine ⟨(importFile fileName importer).1 :: before, failed, after, ?_, ?_, ?_, hfailed⟩
        · rw [fileResults, hresults, List.cons_append]
        · rw [hn, List.length_cons]
        · intro earlier hearlier
          rcases List.mem_cons.1 hearlier with rfl | hearlier
          · exact hcurrent
          · exact hbefore earlier hearlier
      · rw [countedResults, fileResults, List.take_succ_cons, List.filter_cons_of_pos hcurrent, List.map_cons, List.sum_cons]
        exact congrArg _ himports.readBlobs
      · rw [countedResults, fileResults, List.take_succ_cons, List.filter_cons_of_pos hcurrent, List.map_cons, List.sum_cons]
        exact congrArg _ himports.importedBlobs
      · rw [hresult, Nat.add_assoc, Nat.add_assoc]
    | false =>
      rw [if_neg (by simp)]
      refine ⟨1, { success := false }, ⟨rfl, (fun h => nomatch h), fun _ => ?_, ?_, ?_⟩, rfl⟩
      · exact ⟨[], _, _, rfl, rfl, by simp, hcurrent⟩
      · rw [countedResults, fileResults, List.take_succ_cons, List.take_zero, List.filter_cons_of_neg (by simp [hcurrent])]
        rfl
      · rw [countedResults, fileResults, List.take_succ_cons, List.take_zero, List.filter_cons_of_neg (by simp [hcurrent])]
        rfl

theorem importFiles_imports (fileNames : List Path) (importer : σ) :
    ∃ n, ImportsFirst importFile fileNames importer (importFiles importFile fileNames ({}, importer)) n := by
  obtain ⟨n, counted, himports, hresult⟩ := importFiles_spec importFile fileNames importer {} rfl
  refine ⟨n, ?_⟩
  have heq : (importFiles importFile fileNames ({}, importer)).1 = counted := by
    rw [hresult]
    simp
  rw [← heq] at himports
  exact himports

end Import

/-- A regular file at or below the path, with a name `forum-<digits>.events` in any case, and its number, which is
one of `time_t`. -/
structure IsEventFile (sourcePath : Path) (entry : PathEntry) (timestamp : ℕ) (path : Path) : Prop where
  regularFile : ∃ names, entry.HasFile names ∧ path = sourcePath ++ names
  filename : ∃ digits, MatchesEventFile path.filename digits 46 ∧ decimalNumber digits = timestamp
  fits : timestamp < 2 ^ 63

/-- The event files are imported, each once and no other file, in the order of their numbers, up to the first that
fails, whatever the import of a file does. -/
def ImportedInTimeOrder (tryLexicalConvert : List UInt8 → Option ℕ) (sourcePath : Path) (entry : PathEntry) : Prop :=
  ∃ files : List (ℕ × Path), files.Nodup ∧ KeyOrdered Prod.fst files ∧
    (∀ timestamp path, (timestamp, path) ∈ files ↔ IsEventFile sourcePath entry timestamp path) ∧
    ∀ {σ : Type} (importFile : Path → σ → ImportResult × σ) (updates : σ → σ) (importer : σ),
      ∃ n outcome, ImportsFirst importFile (files.map Prod.snd) importer outcome n ∧
        importEventFiles importFile tryLexicalConvert updates sourcePath entry importer = (outcome.1, updates outcome.2)

/-- A file that the pattern takes, although its name has another character where the dot is. -/
def TakenWithoutDot (path : Path) (timestamp : ℕ) : Prop :=
  ∃ digits character, eventFileMatcher path.filename = some (digits, character) ∧ character ≠ 46 ∧
    decimalNumber digits = timestamp ∧ timestamp < 2 ^ 63

theorem ConvertsDigits.eq_some_iff (hconvert : ConvertsDigits tryLexicalConvert) {fileName digits : List UInt8}
    {character : UInt8} (hmatch : eventFileMatcher fileName = some (digits, character)) (timestamp : ℕ) :
    tryLexicalConvert digits = some timestamp ↔ decimalNumber digits = timestamp ∧ timestamp < 2 ^ 63 := by
  have hfile := matchesEventFile_of_eq_some hmatch
  exact hconvert digits hfile.nonempty hfile.all_digits timestamp

section

variable (hconvert : ConvertsDigits tryLexicalConvert)
include hconvert

/-- The pattern takes event files, and the files without the dot. -/
theorem timestampOf_eq_some {sourcePath : Path} {entry : PathEntry} {path : Path}
    (hpath : path ∈ regularFiles sourcePath entry) (timestamp : ℕ) :
    timestampOf tryLexicalConvert path = some timestamp ↔
      IsEventFile sourcePath entry timestamp path ∨ TakenWithoutDot path timestamp := by
  unfold timestampOf
  rw [Option.bind_eq_some_iff]
  constructor
  · rintro ⟨⟨digits, character⟩, hmatch, hconverted⟩
    by_cases hdot : character = 46
    · subst hdot
      obtain ⟨hnumber, hlt⟩ := (hconvert.eq_some_iff hmatch timestamp).1 hconverted
      exact Or.inl ⟨(mem_regularFiles _ _ _).1 hpath, ⟨digits, eventFileMatcher_dot.1 hmatch, hnumber⟩, hlt⟩
    · exact Or.inr ⟨digits, character, hmatch, hdot, (hconvert.eq_some_iff hmatch timestamp).1 hconverted⟩
  · rintro (⟨-, ⟨digits, hmatch, hnumber⟩, hlt⟩ | ⟨digits, character, hmatch, -, hnumber⟩)
    · have hmatch' := eventFileMatcher_dot.2 hmatch
      exact ⟨(digits, 46), hmatch', (hconvert.eq_some_iff hmatch' timestamp).2 ⟨hnumber, hlt⟩⟩
    · exact ⟨(digits, character), hmatch, (hconvert.eq_some_iff hmatch timestamp).2 hnumber⟩

omit hconvert in
theorem IsEventFile.mem {sourcePath : Path} {entry : PathEntry} {timestamp : ℕ} {path : Path}
    (h : IsEventFile sourcePath entry timestamp path) : path ∈ regularFiles sourcePath entry :=
  (mem_regularFiles _ _ _).2 h.regularFile

theorem IsEventFile.timestampOf_eq {sourcePath : Path} {entry : PathEntry} {timestamp : ℕ} {path : Path}
    (h : IsEventFile sourcePath entry timestamp path) : timestampOf tryLexicalConvert path = some timestamp :=
  (timestampOf_eq_some hconvert h.mem timestamp).2 (Or.inl h)

end

theorem Collected.nodup {paths : List Path} {eventFileNames : List (ℕ × Path)}
    (h : Collected tryLexicalConvert paths eventFileNames) :
    eventFileNames.Nodup :=
  h.ordered.imp fun hlt heq => absurd hlt (by rw [heq]; exact Nat.lt_irrefl _)

theorem Collected.timestampOf_eq {paths : List Path} {eventFileNames : List (ℕ × Path)}
    (h : Collected tryLexicalConvert paths eventFileNames) {file : ℕ × Path} (hfile : file ∈ eventFileNames) :
    timestampOf tryLexicalConvert file.2 = some file.1 := by
  have hfind := List.find?_some ((h.mem_iff file.1 file.2).1 hfile)
  simpa using hfind

/-- Files are known by their paths. -/
theorem eq_of_map_snd {files others : List (ℕ × Path)}
    (hfiles : ∀ file ∈ files, timestampOf tryLexicalConvert file.2 = some file.1)
    (hothers : ∀ file ∈ others, timestampOf tryLexicalConvert file.2 = some file.1)
    (h : files.map Prod.snd = others.map Prod.snd) :
    files = others := by
  have hpairs : ∀ l : List (ℕ × Path), (∀ file ∈ l, timestampOf tryLexicalConvert file.2 = some file.1) →
      l.map some = (l.map Prod.snd).map fun path =>
        (timestampOf tryLexicalConvert path).map fun timestamp => (timestamp, path) := by
    intro l hl
    rw [List.map_map]
    exact List.map_congr_left fun file hfile => by rw [Function.comp_apply, hl file hfile, Option.map_some]
  exact List.map_injective_iff.2 (Option.some_injective _) ((hpairs files hfiles).trans (h ▸ (hpairs others hothers).symm))

/-- The map is imported as it is collected. -/
theorem importEventFiles_imports {σ : Type*} (importFile : Path → σ → ImportResult × σ) (updates : σ → σ)
    (sourcePath : Path) (entry : PathEntry) (importer : σ) :
    ∃ n outcome, ImportsFirst importFile ((collectFiles tryLexicalConvert sourcePath entry).map Prod.snd) importer outcome n ∧
      importEventFiles importFile tryLexicalConvert updates sourcePath entry importer = (outcome.1, updates outcome.2) := by
  obtain ⟨n, himports⟩ :=
    importFiles_imports importFile ((collectFiles tryLexicalConvert sourcePath entry).map Prod.snd) importer
  exact ⟨n, _, himports, rfl⟩

/-- An import that notes the files, to see which they are. -/
def noteFile (fileName : Path) (noted : List Path) : ImportResult × List Path := ({}, noted ++ [fileName])

theorem success_of_mem_fileResults_noteFile {fileNames noted : List Path} :
    ∀ result ∈ fileResults noteFile fileNames noted, result.success = true := by
  induction fileNames generalizing noted with
  | nil => simp [fileResults]
  | cons fileName fileNames ih =>
    intro result hresult
    rw [fileResults, List.mem_cons] at hresult
    rcases hresult with rfl | hresult
    · rfl
    · exact ih result hresult

theorem importerAfter_noteFile (fileNames noted : List Path) :
    importerAfter noteFile fileNames noted = noted ++ fileNames := by
  unfold importerAfter
  induction fileNames generalizing noted with
  | nil => rw [List.foldl_nil, List.append_nil]
  | cons fileName fileNames ih =>
    rw [List.foldl_cons, ih]
    exact List.append_assoc _ _ _

theorem ImportsFirst.noted {fileNames : List Path} {outcome : ImportResult × List Path} {n : ℕ}
    (h : ImportsFirst noteFile fileNames [] outcome n) : outcome.2 = fileNames := by
  cases hsuccess : outcome.1.success with
  | true =>
    rw [h.reached, importerAfter_noteFile, (h.success hsuccess).1, List.take_length, List.nil_append]
  | false =>
    obtain ⟨before, result, after, hresults, -, -, hfailed⟩ := h.failure hsuccess
    have hmem : result ∈ fileResults noteFile fileNames [] := hresults ▸ List.mem_append_right _ List.mem_cons_self
    exact absurd hfailed (by rw [success_of_mem_fileResults_noteFile result hmem]; decide)

/-- The import goes as it should exactly when the map holds the event files. -/
theorem importedInTimeOrder_iff_mem_collectFiles (hconvert : ConvertsDigits tryLexicalConvert) (sourcePath : Path)
    (entry : PathEntry) :
    ImportedInTimeOrder tryLexicalConvert sourcePath entry ↔ ∀ timestamp path,
      (timestamp, path) ∈ collectFiles tryLexicalConvert sourcePath entry ↔ IsEventFile sourcePath entry timestamp path := by
  have hcollected := @collected tryLexicalConvert sourcePath entry
  constructor
  · rintro ⟨files, -, -, hfiles, himports⟩
    obtain ⟨n, outcome, hfirst, heq⟩ := himports noteFile id []
    obtain ⟨n', outcome', hfirst', heq'⟩ := @importEventFiles_imports tryLexicalConvert _ noteFile id sourcePath entry []
    have houtcome : outcome'.2 = outcome.2 := congrArg Prod.snd (heq'.symm.trans heq)
    have hmap : collectFiles tryLexicalConvert sourcePath entry = files := by
      refine eq_of_map_snd (fun file hfile => hcollected.timestampOf_eq hfile) (fun file hfile => ?_)
        (hfirst'.noted.symm.trans (houtcome.trans hfirst.noted))
      exact ((hfiles file.1 file.2).1 hfile).timestampOf_eq hconvert
    rw [hmap]
    exact hfiles
  · intro hmem
    exact ⟨collectFiles tryLexicalConvert sourcePath entry, hcollected.nodup,
      hcollected.ordered.imp fun hlt => Nat.le_of_lt hlt, hmem,
      fun importFile updates importer => importEventFiles_imports importFile updates sourcePath entry importer⟩

/-- The event files are imported as they should exactly when no two of them have the same number, and a file with
another character in place of the dot is found only behind an event file with its number. -/
theorem importedInTimeOrder_iff (hconvert : ConvertsDigits tryLexicalConvert) (sourcePath : Path) (entry : PathEntry) :
    ImportedInTimeOrder tryLexicalConvert sourcePath entry ↔
      (∀ timestamp path other, IsEventFile sourcePath entry timestamp path →
        IsEventFile sourcePath entry timestamp other → path = other) ∧
      ∀ before path after timestamp, regularFiles sourcePath entry = before ++ path :: after →
        TakenWithoutDot path timestamp → ∃ other ∈ before, IsEventFile sourcePath entry timestamp other := by
  rw [importedInTimeOrder_iff_mem_collectFiles hconvert]
  simp only [(@collected tryLexicalConvert sourcePath entry).mem_iff]
  constructor
  · intro hmem
    refine ⟨fun timestamp path other hpath hother => ?_, fun before path after timestamp hsplit htaken => ?_⟩
    · exact Option.some_inj.1 (((hmem timestamp path).2 hpath).symm.trans ((hmem timestamp other).2 hother))
    · have hin : path ∈ regularFiles sourcePath entry := hsplit ▸ List.mem_append_right _ List.mem_cons_self
      have htimestamp : timestampOf tryLexicalConvert path = some timestamp :=
        (timestampOf_eq_some hconvert hin timestamp).2 (Or.inr htaken)
      cases hbefore : before.find? (fun path => timestampOf tryLexicalConvert path = some timestamp) with
      | some other =>
        refine ⟨other, List.mem_of_find?_eq_some hbefore, (hmem timestamp other).1 ?_⟩
        rw [hsplit, List.find?_append, hbefore, Option.some_or]
      | none =>
        -- the file would be the one in the map
        have hevent := (hmem timestamp path).1 (by
          rw [hsplit, List.find?_append, hbefore, Option.none_or, List.find?_cons_of_pos (by simpa using htimestamp)])
        obtain ⟨digits, character, hmatch, hdot, -⟩ := htaken
        obtain ⟨digits', hmatch', -⟩ := hevent.filename
        rw [eventFileMatcher_dot.2 hmatch'] at hmatch
        cases hmatch
        exact absurd rfl hdot
  · rintro ⟨hunique, hstray⟩ timestamp path
    have hevent : ∀ {path}, (regularFiles sourcePath entry).find? (fun path =>
        timestampOf tryLexicalConvert path = some timestamp) = some path → IsEventFile sourcePath entry timestamp path := by
      intro path hfind
      obtain ⟨htimestamp, before, after, hsplit, hbefore⟩ := List.find?_eq_some_iff_append.1 hfind
      have hin : path ∈ regularFiles sourcePath entry := hsplit ▸ List.mem_append_right _ List.mem_cons_self
      rcases (timestampOf_eq_some hconvert hin timestamp).1 (by simpa using htimestamp) with hevent | htaken
      · exact hevent
      · obtain ⟨other, hother, hevent⟩ := hstray before path after timestamp hsplit htaken
        exact absurd (hevent.timestampOf_eq hconvert) (by simpa using hbefore other hother)
    refine ⟨hevent, fun hpath => ?_⟩
    have hsome : ((regularFiles sourcePath entry).find? fun path =>
        timestampOf tryLexicalConvert path = some timestamp).isSome :=
      List.find?_isSome.2 ⟨path, hpath.mem, by simpa using hpath.timestampOf_eq hconvert⟩
    obtain ⟨first, hfirst⟩ := Option.isSome_iff_exists.1 hsome
    rw [hfirst, hunique timestamp first path (hevent hfirst) hpath]

/-- The `time_t` that digits are converted to. -/
def timeOfDigits (digits : List UInt8) : Option ℕ :=
  if decimalNumber digits < 2 ^ 63 then some (decimalNumber digits) else none

theorem convertsDigits_timeOfDigits : ConvertsDigits timeOfDigits := by
  intro digits _ _ timestamp
  unfold timeOfDigits
  split_ifs with hfits
  · rw [Option.some_inj]
    exact ⟨fun heq => ⟨heq, heq ▸ hfits⟩, fun h => h.1⟩
  · refine ⟨(fun h => nomatch h), ?_⟩
    rintro ⟨rfl, hlt⟩
    exact absurd hlt hfits

/-- A folder with a file, and two files beside it with one number, the second of them without a dot. -/
def folderAndFiles : PathEntry :=
  .directory [(asciiBytes "a", .directory [(asciiBytes "Forum-08.events", .regularFile)]),
    (asciiBytes "forum-7.events", .regularFile), (asciiBytes "forum-7xevents", .regularFile)]

theorem regularFiles_folderAndFiles : regularFiles [] folderAndFiles =
    [[asciiBytes "a", asciiBytes "Forum-08.events"], [asciiBytes "forum-7.events"], [asciiBytes "forum-7xevents"]] := by
  decide +kernel

/-- The two event files are imported, and the file without a dot is not. -/
theorem importedInTimeOrder_folderAndFiles : ImportedInTimeOrder timeOfDigits [] folderAndFiles := by
  refine (importedInTimeOrder_iff convertsDigits_timeOfDigits [] folderAndFiles).2 ⟨?_, ?_⟩
  · intro timestamp path other hpath hother
    have hnumbers : ∀ path ∈ regularFiles [] folderAndFiles, ∀ other ∈ regularFiles [] folderAndFiles,
        (eventFileMatcher path.filename).map Prod.snd = some 46 → (eventFileMatcher other.filename).map Prod.snd = some 46 →
          timestampOf timeOfDigits path = timestampOf timeOfDigits other → path = other := by
      rw [regularFiles_folderAndFiles]
      decide +kernel
    have hdot : ∀ {path}, IsEventFile [] folderAndFiles timestamp path →
        (eventFileMatcher path.filename).map Prod.snd = some 46 := by
      rintro path ⟨-, ⟨digits, hmatch, -⟩, -⟩
      rw [eventFileMatcher_dot.2 hmatch]
      rfl
    exact hnumbers path hpath.mem other hother.mem (hdot hpath) (hdot hother)
      ((hpath.timestampOf_eq convertsDigits_timeOfDigits).trans
        (hother.timestampOf_eq convertsDigits_timeOfDigits).symm)
  · rintro before path after timestamp hsplit ⟨digits, character, hmatch, hdot, rfl, -⟩
    rw [regularFiles_folderAndFiles] at hsplit
    have hfirst : eventFileMatcher (asciiBytes "Forum-08.events") = some ([48, 56], 46) := by decide +kernel
    have hsecond : eventFileMatcher (asciiBytes "forum-7.events") = some ([55], 46) := by decide +kernel
    have hthird : eventFileMatcher (asciiBytes "forum-7xevents") = some ([55], 120) := by decide +kernel
    rcases before with _ | ⟨first, _ | ⟨second, before⟩⟩
    all_goals simp only [List.nil_append, List.cons_append, List.cons.injEq] at hsplit
    · obtain ⟨rfl, -⟩ := hsplit
      cases hfirst.symm.trans hmatch
      exact absurd rfl hdot
    · obtain ⟨-, rfl, -⟩ := hsplit
      cases hsecond.symm.trans hmatch
      exact absurd rfl hdot
    · obtain ⟨-, rfl, hrest⟩ := hsplit
      have hevent : IsEventFile [] folderAndFiles 7 [asciiBytes "forum-7.events"] :=
        ⟨⟨_, .inside (List.mem_cons_of_mem _ List.mem_cons_self) .here, rfl⟩,
          ⟨[55], eventFileMatcher_dot.1 hsecond, by decide⟩, by decide⟩
      have hpath : path = [asciiBytes "forum-7xevents"] :=
        List.mem_singleton.1 (hrest ▸ List.mem_append_right before List.mem_cons_self)
      rw [hpath] at hmatch
      cases hthird.symm.trans hmatch
      exact ⟨_, List.mem_cons_of_mem _ List.mem_cons_self, hevent⟩

/-- Two folders with a file each, one of them with a leading zero in its name. -/
def twoFolders : PathEntry :=
  .directory [(asciiBytes "a", .directory [(asciiBytes "forum-7.events", .regularFile)]),
    (asciiBytes "b", .directory [(asciiBytes "Forum-07.events", .regularFile)])]

/-- Of two files with the same number, only the first is imported. -/
theorem not_importedInTimeOrder_twoFolders : ¬ ImportedInTimeOrder timeOfDigits [] twoFolders := by
  intro himported
  have hmem := (importedInTimeOrder_iff_mem_collectFiles convertsDigits_timeOfDigits [] twoFolders).1 himported 7
    [asciiBytes "b", asciiBytes "Forum-07.events"]
  have hevent : IsEventFile [] twoFolders 7 [asciiBytes "b", asciiBytes "Forum-07.events"] :=
    ⟨⟨_, .inside (List.mem_cons_of_mem _ List.mem_cons_self) (.inside List.mem_cons_self .here), rfl⟩,
      ⟨asciiBytes "07", by decide +kernel⟩, by decide⟩
  exact absurd (hmem.2 hevent) (by decide +kernel)

end Forum.Persistence
