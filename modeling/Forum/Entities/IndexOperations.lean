import Forum.Entities.Store

/-!
# Keys and index maintenance

The key each secondary index is ordered by, and the operations the collections perform on their
indexes: inserting, erasing, the pair `prepareUpdate…` / `update…` around a change of a key, and
the rebuild at the end of a batch insert.

A key is one of three kinds: a text (the sort key of a name), a number in ascending order, or a
number in descending order (`GreaterPtr_…`); all are embedded in one linear order. An index is a
ranked or ordered tree, or a sorted vector; the two differ only in how an element is replaced.

A search assumes that the container is in key order, as a binary search does. A range insert and a
rebuild list equal keys in the order of insertion; the containers promise none.
-/

namespace Forum.Entities

open Forum.Library

/-! ### Keys -/

/-- What an index is ordered by. -/
abbrev IndexKey := List ℕ ×ₗ ℤ

/-- The key of a name: its sort key. -/
def IndexKey.text (name : NameType) : IndexKey := toLex (name.sortKey, 0)

/-- A number, smallest first. -/
def IndexKey.ascending (n : ℤ) : IndexKey := toLex ([], n)

/-- A number, greatest first. -/
def IndexKey.descending (n : ℤ) : IndexKey := toLex ([], -n)

/-- The orders kept by a thread collection: the pin order only in a category. -/
def ThreadCollectionRef.keys : ThreadCollectionRef → List ThreadKey
  | .category _ => [.name, .created, .lastUpdated, .latestMessageCreated, .messageCount, .pinDisplayOrder]
  | _ => [.name, .created, .lastUpdated, .latestMessageCreated, .messageCount]

/-- The orders kept by an attachment collection. -/
def AttachmentCollectionRef.keys : List AttachmentKey := [.created, .name, .size, .approval]

/-- Is the collection one of the low-memory kind, whose indexes are all sorted vectors? -/
def ThreadCollectionRef.isLowMemory : ThreadCollectionRef → Bool
  | .createdBy _ | .subscribedBy _ => true
  | _ => false

/-- Is the index a tree, rather than a sorted vector? -/
def IndexRef.isRanked : IndexRef → Bool
  | .threads collection key =>
    !collection.isLowMemory && (key = .name ∨ key = .lastUpdated ∨ key = .latestMessageCreated)
  | .users key => key = .created ∨ key = .lastSeen
  | .categories key => key = .displayOrderRootPriority
  | .attachments _ _ => true
  | .comments .all => true
  | _ => false

namespace Store

variable (s : Store)

/-- `DiscussionCategory::displayOrderWithRootPriority`: roots sort before all others. -/
def displayOrderWithRootPriority (category : IdType) : ℤ :=
  if (s.categoryParent category).isNone then -2 ^ 63 + (s.category category).displayOrder
  else (s.category category).displayOrder

/-- `Attachment::approvedAndCreated`. -/
def approvedAndCreated (attachment : IdType) : ℤ :=
  if (s.attachment attachment).approved then -(s.attachment attachment).created
  else (s.attachment attachment).created

/-- The key of a thread in an order of a thread collection. -/
def threadKey (thread : IdType) : ThreadKey → IndexKey
  | .name => .text (s.thread thread).name
  | .created => .ascending (s.thread thread).created
  | .lastUpdated => .ascending (s.threadLastUpdated thread)
  | .latestMessageCreated => .ascending (s.latestMessageCreated thread)
  | .messageCount => .descending (s.threadMessageCount thread)
  | .pinDisplayOrder => .descending (s.thread thread).pinDisplayOrder

/-- The key an index orders an element by, read from the element's current fields. -/
def indexKey : IndexRef → IdType → IndexKey
  | .threads _ key => fun thread => s.threadKey thread key
  | .messages _ => fun message => .ascending (s.message message).created
  | .users .created => fun user => .ascending (s.user user).created
  | .users .lastSeen => fun user => .ascending (s.user user).lastSeen
  | .users .threadCount => fun user => .descending (s.userThreads user).card
  | .users .messageCount => fun user => .descending (s.userMessages user).card
  | .tags .threadCount => fun tag => .descending (s.tagThreads tag).card
  | .tags .messageCount => fun tag => .descending (s.tagMessageCount tag)
  | .categories .messageCount => fun category => .descending (s.categoryMessageCount category)
  | .categories .displayOrderRootPriority => fun category =>
    .ascending (s.displayOrderWithRootPriority category)
  | .attachments _ .created => fun attachment => .ascending (s.attachment attachment).created
  | .attachments _ .name => fun attachment => .text (s.attachment attachment).name
  | .attachments _ .size => fun attachment => .ascending (s.attachment attachment).size
  | .attachments _ .approval => fun attachment => .ascending (s.approvedAndCreated attachment)
  | .comments _ => fun comment => .ascending (s.comment comment).created
  | .privateMessages _ => fun message => .ascending (s.privateMessage message).created

/-- The key a unique index orders an element by. -/
def uniqueKey : UniqueIndexRef → IdType → IndexKey
  | .usersByAuth => fun user => toLex ((s.user user).auth.toList.map Char.toNat, 0)
  | .usersByName => fun user => .text (s.user user).name
  | .tagsByName => fun tag => .text (s.tag tag).name
  | .categoriesByName => fun category => .text (s.category category).name

/-- The thread collections `Impl::discussionThreadAction` visits: the global one, and those that
the relations of the thread lead to. -/
def threadHolders (thread : IdType) : List ThreadCollectionRef :=
  .all :: .createdBy (s.threadCreatedBy thread) ::
    ((ascending (s.threadSubscribedUsers thread)).map .subscribedBy ++
      (ascending (s.threadTags thread)).map .tag ++
      (ascending (s.threadCategories thread)).map .category)

end Store

namespace EntityCollection

variable (s : EntityCollection)

/-! ### Non-unique indexes -/

/-- Set the content of an index. -/
def setIndex (ref : IndexRef) (l : List IdType) : EntityCollection :=
  { s with index := Function.update s.index ref l }

/-- `index.insert(x)`. -/
def indexInsert (ref : IndexRef) (x : IdType) : EntityCollection :=
  s.setIndex ref (insertItem (s.indexKey ref) x (s.index ref))

/-- `index.insert(begin, end)`. -/
def indexInsertRange (ref : IndexRef) (xs : List IdType) : EntityCollection :=
  s.setIndex ref (insertRange (s.indexKey ref) xs (s.index ref))

/-- `eraseFromNonUniqueCollection(index, x, x->key())`, which asserts that it finds `x`. -/
def indexErase (ref : IndexRef) (x : IdType) : EntityCollection :=
  let it := findInNonUnique (s.indexKey ref) x (s.indexKey ref x) (s.index ref)
  if it < (s.index ref).length then s.setIndex ref ((s.index ref).eraseIdx it)
  else { s with assertFailed := Function.update s.assertFailed ref true }

/-- `updateIt = findInNonUniqueCollection(index, x, x->key())`. -/
def indexPrepareUpdate (ref : IndexRef) (x : IdType) : EntityCollection :=
  { s with
    updateIt := Function.update s.updateIt ref
      (findInNonUnique (s.indexKey ref) x (s.indexKey ref x) (s.index ref)) }

/-- `if (updateIt != index.end()) replaceItemInContainer(index, updateIt, x)`. -/
def indexUpdate (ref : IndexRef) (x : IdType) : EntityCollection :=
  if s.updateIt ref < (s.index ref).length then
    s.setIndex ref (if ref.isRanked then replaceRanked (s.indexKey ref) (s.updateIt ref) x (s.index ref)
      else replaceSortedVector (s.indexKey ref) (s.updateIt ref) x (s.index ref))
  else s

/-- `index.clear(); index.insert(byId.begin(), byId.end())`. -/
def indexRebuild (ref : IndexRef) : EntityCollection :=
  s.setIndex ref (insertRange (s.indexKey ref) (ascending (s.byId ref)) [])

/-- `if ( ! Context::isBatchInsertInProgress())`. -/
def unlessBatch (f : EntityCollection → EntityCollection) : EntityCollection :=
  if s.batchInsertInProgress then s else f s

/-! ### Unique indexes -/

/-- The position of the element with key `k` in a unique index; the end if there is none. -/
def findUnique (ref : UniqueIndexRef) (k : IndexKey) : ℕ :=
  (s.uniqueIndex ref).findIdx fun y => decide (s.uniqueKey ref y = k)

/-- Is there an element with key `k`? -/
def uniqueContains (ref : UniqueIndexRef) (k : IndexKey) : Bool :=
  decide (s.findUnique ref k < (s.uniqueIndex ref).length)

/-- Overwrites a unique index. -/
def setUniqueIndex (ref : UniqueIndexRef) (l : List IdType) : EntityCollection :=
  { s with uniqueIndex := Function.update s.uniqueIndex ref l }

/-- `index.insert(x)`: nothing happens when there is an element with the same key. -/
def uniqueInsert (ref : UniqueIndexRef) (x : IdType) : EntityCollection :=
  if s.uniqueContains ref (s.uniqueKey ref x) then s
  else s.setUniqueIndex ref (insertItem (s.uniqueKey ref) x (s.uniqueIndex ref))

/-- `auto it = index.find(x->key()); if (it != index.end()) index.erase(it)`. -/
def uniqueErase (ref : UniqueIndexRef) (x : IdType) : EntityCollection :=
  s.setUniqueIndex ref ((s.uniqueIndex ref).eraseIdx (s.findUnique ref (s.uniqueKey ref x)))

/-- `updateIt = index.find(x->key())`. -/
def uniquePrepareUpdate (ref : UniqueIndexRef) (x : IdType) : EntityCollection :=
  { s with
    uniqueUpdateIt := Function.update s.uniqueUpdateIt ref (s.findUnique ref (s.uniqueKey ref x)) }

/-- `if (updateIt != index.end()) replaceItemInContainer(index, updateIt, x)`: the replacement is
refused when another element has the new key. -/
def uniqueUpdate (ref : UniqueIndexRef) (x : IdType) : EntityCollection :=
  let it := s.uniqueUpdateIt ref
  let others := (s.uniqueIndex ref).eraseIdx it
  if it < (s.uniqueIndex ref).length ∧ ∀ y ∈ others, s.uniqueKey ref y ≠ s.uniqueKey ref x then
    s.setUniqueIndex ref (insertItem (s.uniqueKey ref) x others)
  else s

/-! ### Change notifications -/

/-- The listener of a `onPrepareUpdate…` notification on one index. -/
def prepareUpdate (ref : IndexRef) (x : IdType) : EntityCollection :=
  s.unlessBatch fun s => s.indexPrepareUpdate ref x

/-- The listener of an `onUpdate…` notification on one index. -/
def finishUpdate (ref : IndexRef) (x : IdType) : EntityCollection :=
  s.unlessBatch fun s => s.indexUpdate ref x

/-- `onPrepareUpdateDiscussionThread…`: find the thread in every collection that holds it. -/
def onPrepareUpdateDiscussionThread (key : ThreadKey) (thread : IdType) : EntityCollection :=
  (s.threadHolders thread).foldl (fun s collection =>
    if key ∈ collection.keys then s.prepareUpdate (.threads collection key) thread else s) s

/-- `onUpdateDiscussionThread…`: move the thread to its new place in these collections. -/
def onUpdateDiscussionThread (key : ThreadKey) (thread : IdType) : EntityCollection :=
  (s.threadHolders thread).foldl (fun s collection =>
    if key ∈ collection.keys then s.finishUpdate (.threads collection key) thread else s) s

/-- `attachmentAction` with a prepare function. -/
def onPrepareUpdateAttachment (key : AttachmentKey) (attachment : IdType) : EntityCollection :=
  (s.prepareUpdate (.attachments .all key) attachment).prepareUpdate
    (.attachments (.createdBy (s.attachmentCreatedBy attachment)) key) attachment

/-- `attachmentAction` with an update function. -/
def onUpdateAttachment (key : AttachmentKey) (attachment : IdType) : EntityCollection :=
  (s.finishUpdate (.attachments .all key) attachment).finishUpdate
    (.attachments (.createdBy (s.attachmentCreatedBy attachment)) key) attachment

end EntityCollection

end Forum.Entities
