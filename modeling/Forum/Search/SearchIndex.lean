import Forum.Entities.Texts
import Forum.Library.Changes

/-!
# Search updates

Searching is left to an index outside of the forum: the names of the threads and the contents of the messages,
by id. The forum tells it what has changed, by records that set an entry or remove one.
-/

namespace Forum.Search

open Forum.Library Forum.Entities

/-- A record of a search update; in the JSON written each is an object whose `type` is its name. -/
inductive SearchUpdate
  | newThread (id : IdType) (name : String)
  | changeThreadName (id : IdType) (name : String)
  | deleteThread (id : IdType)
  | newThreadMessage (id : IdType) (content : String)
  | changeThreadMessageContent (id : IdType) (content : String)
  | deleteThreadMessage (id : IdType)
  deriving DecidableEq

namespace SearchUpdate

/-- What a record says of a thread. -/
def threadChange : SearchUpdate → Option (Change IdType String)
  | newThread id name | changeThreadName id name => some (id, some name)
  | deleteThread id => some (id, none)
  | _ => none

/-- What a record says of a message. -/
def messageChange : SearchUpdate → Option (Change IdType String)
  | newThreadMessage id content | changeThreadMessageContent id content => some (id, some content)
  | deleteThreadMessage id => some (id, none)
  | _ => none

end SearchUpdate

/-- What the index knows: the names of threads and the contents of messages. -/
@[ext]
structure SearchIndex where
  threads : IdType → Option String
  messages : IdType → Option String

namespace SearchIndex

/-- An index of nothing. -/
def empty : SearchIndex := ⟨fun _ => none, fun _ => none⟩

/-- Apply records in order. -/
def applyAll (index : SearchIndex) (updates : List SearchUpdate) : SearchIndex where
  threads := follow index.threads (updates.filterMap SearchUpdate.threadChange)
  messages := follow index.messages (updates.filterMap SearchUpdate.messageChange)

theorem applyAll_append (index : SearchIndex) (updates updates' : List SearchUpdate) :
    index.applyAll (updates ++ updates') = (index.applyAll updates).applyAll updates' := by
  simp [applyAll, follow_append]

/-- The index of some threads and messages. -/
def ofTexts (threads messages : Finset IdType) (texts : (IdType → NameType) × (IdType → String)) : SearchIndex where
  threads id := if id ∈ threads then some (texts.1 id).string else none
  messages id := if id ∈ messages then some (texts.2 id) else none

/-- The index of the threads and messages of the store. -/
def ofStore (s : EntityCollection) : SearchIndex := ofTexts s.allThreads s.allMessages s.texts

/-- The index is a function of what it is about. -/
theorem ofStore_congr {s s' : EntityCollection} (hthreads : s'.allThreads = s.allThreads)
    (hmessages : s'.allMessages = s.allMessages) (htexts : s'.texts = s.texts) : ofStore s' = ofStore s := by
  rw [ofStore, hthreads, hmessages, htexts, ofStore]

variable {threads messages : Finset IdType} {texts : (IdType → NameType) × (IdType → String)}

/-- Two indexes of the same texts agree when they are of the same threads and messages. -/
theorem ofTexts_inj {threads' messages' : Finset IdType} :
    ofTexts threads messages texts = ofTexts threads' messages' texts ↔ threads = threads' ∧ messages = messages' := by
  constructor
  · intro h
    have hthreads : ∀ id, (ofTexts threads messages texts).threads id = (ofTexts threads' messages' texts).threads id :=
      fun id => by rw [h]
    have hmessages : ∀ id, (ofTexts threads messages texts).messages id = (ofTexts threads' messages' texts).messages id :=
      fun id => by rw [h]
    refine ⟨Finset.ext fun id => ?_, Finset.ext fun id => ?_⟩
    · have := hthreads id
      simp only [ofTexts] at this
      split_ifs at this <;> tauto
    · have := hmessages id
      simp only [ofTexts] at this
      split_ifs at this <;> tauto
  · rintro ⟨rfl, rfl⟩
    rfl

/-! ### Single updates -/

theorem applyAll_newThread (id : IdType) (name : NameType) :
    (ofTexts threads messages texts).applyAll [.newThread id name.string] =
      ofTexts (insert id threads) messages (Function.update texts.1 id name, texts.2) := by
  refine SearchIndex.ext (funext fun t => ?_) rfl
  by_cases ht : t = id
  · subst ht
    simp [applyAll, ofTexts, SearchUpdate.threadChange, Change.apply]
  · simp [applyAll, ofTexts, SearchUpdate.threadChange, Change.apply, ht]

theorem applyAll_changeThreadName {id : IdType} (h : id ∈ threads) (name : NameType) :
    (ofTexts threads messages texts).applyAll [.changeThreadName id name.string] =
      ofTexts threads messages (Function.update texts.1 id name, texts.2) := by
  have hnew := @applyAll_newThread threads messages texts id name
  rwa [Finset.insert_eq_of_mem h] at hnew

theorem applyAll_newThreadMessage (id : IdType) (content : String) :
    (ofTexts threads messages texts).applyAll [.newThreadMessage id content] =
      ofTexts threads (insert id messages) (texts.1, Function.update texts.2 id content) := by
  refine SearchIndex.ext rfl (funext fun m => ?_)
  by_cases hm : m = id
  · subst hm
    simp [applyAll, ofTexts, SearchUpdate.messageChange, Change.apply]
  · simp [applyAll, ofTexts, SearchUpdate.messageChange, Change.apply, hm]

theorem applyAll_changeThreadMessageContent {id : IdType} (h : id ∈ messages) (content : String) :
    (ofTexts threads messages texts).applyAll [.changeThreadMessageContent id content] =
      ofTexts threads messages (texts.1, Function.update texts.2 id content) := by
  have hnew := @applyAll_newThreadMessage threads messages texts id content
  rwa [Finset.insert_eq_of_mem h] at hnew

/-- Deleting messages one after the other. -/
theorem applyAll_deleteThreadMessage (deleted : List IdType) :
    (ofTexts threads messages texts).applyAll (deleted.map .deleteThreadMessage) =
      ofTexts threads (messages \ deleted.toFinset) texts := by
  have hthreads : (deleted.map SearchUpdate.deleteThreadMessage).filterMap SearchUpdate.threadChange = [] := by
    simp [List.filterMap_map, Function.comp_def, SearchUpdate.threadChange]
  have hmessages : (deleted.map SearchUpdate.deleteThreadMessage).filterMap SearchUpdate.messageChange =
      deleted.map fun id => (id, none) := by
    simp [List.filterMap_map, Function.comp_def, SearchUpdate.messageChange]
  refine SearchIndex.ext ?_ (funext fun m => ?_)
  · rw [applyAll, hthreads, follow_nil]
    rfl
  · dsimp only [applyAll]
    rw [hmessages, follow_drop]
    simp only [ofTexts, Finset.mem_sdiff, List.mem_toFinset]
    split_ifs <;> tauto

theorem applyAll_deleteThread (id : IdType) :
    (ofTexts threads messages texts).applyAll [.deleteThread id] = ofTexts (threads.erase id) messages texts := by
  refine SearchIndex.ext (funext fun t => ?_) rfl
  by_cases ht : t = id
  · subst ht
    simp [applyAll, ofTexts, SearchUpdate.threadChange, Change.apply]
  · simp [applyAll, ofTexts, SearchUpdate.threadChange, Change.apply, ht]

end SearchIndex

end Forum.Search
