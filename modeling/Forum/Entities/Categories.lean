import Forum.Entities.Threads
import Forum.Library.ParentChain

/-!
# Tags and categories

The member functions of `DiscussionTag` and `DiscussionCategory`, and of the thread totals a
category keeps for itself and its descendants.

A category holds the threads of its tags. It is told of them by the tag when a thread is attached,
and fetches them when a tag is added to it; a thread leaves it when the last of its tags in the
category does. Every category holding a thread counts it once in its own totals and in those of
each of its ancestors.
-/

namespace Forum.Entities

open Forum.Library

/-! ### Thread totals -/

namespace TotalThreads

variable (T : TotalThreads) (messageCount : IdType → ℤ)

/-- `add(thread, amount)`. -/
def add (thread : IdType) (amount : ℤ) : TotalThreads :=
  match T.referenceCount.lookup thread with
  | none =>
    if thread ∈ T.byId then T
    else
      { byId := insert thread T.byId
        referenceCount := T.referenceCount.insert thread amount
        messageCount := T.messageCount + messageCount thread }
  | some n => { T with referenceCount := T.referenceCount.insert thread (n + amount) }

/-- `add(collection)`. -/
def addAll (other : TotalThreads) : TotalThreads :=
  (ascending other.referenceCount.keys).foldl (fun T thread =>
    T.add messageCount thread ((other.referenceCount.lookup thread).getD 0)) T

/-- `remove(thread)`. -/
def remove (thread : IdType) : TotalThreads :=
  if thread ∈ T.byId then
    { byId := T.byId.erase thread
      referenceCount := T.referenceCount.erase thread
      messageCount := T.messageCount - messageCount thread }
  else T

/-- `decreaseReferenceCount(thread)`. -/
def decreaseReferenceCount (thread : IdType) : TotalThreads :=
  match T.referenceCount.lookup thread with
  | none => T
  | some n =>
    if n - 1 < 1 then
      remove { T with referenceCount := T.referenceCount.erase thread } messageCount thread
    else { T with referenceCount := T.referenceCount.insert thread (n - 1) }

/-- `decreaseReferenceCount(collection)`: subtracts the reference counts, then erases the entries
that have dropped below one, from the reference counts only. -/
def decreaseReferenceCounts (other : TotalThreads) : TotalThreads :=
  let (T, toRemove) := (ascending other.referenceCount.keys).foldl (fun (acc : TotalThreads × List IdType) thread =>
    match acc.1.referenceCount.lookup thread with
    | none => acc
    | some n =>
      let n := n - (other.referenceCount.lookup thread).getD 0
      ({ acc.1 with referenceCount := acc.1.referenceCount.insert thread n },
        if n < 1 then acc.2 ++ [thread] else acc.2)) (T, [])
  toRemove.foldl (fun T thread => { T with referenceCount := T.referenceCount.erase thread }) T

end TotalThreads

namespace EntityCollection

variable (s : EntityCollection)

/-- Change the totals of a category. -/
def modifyTotals (category : IdType) (f : TotalThreads → TotalThreads) : EntityCollection :=
  { s with totalThreads := Function.update s.totalThreads category (f (s.totalThreads category)) }

/-- Change the plain fields of a category. -/
def modifyCategory (category : IdType) (f : DiscussionCategory → DiscussionCategory) : EntityCollection :=
  { s with category := Function.update s.category category (f (s.category category)) }

/-- Change the plain fields of a tag. -/
def modifyTag (tag : IdType) (f : DiscussionTag → DiscussionTag) : EntityCollection :=
  { s with tag := Function.update s.tag tag (f (s.tag tag)) }

/-- `messageCount_ += delta` of a category. -/
def addCategoryMessageCount (category : IdType) (delta : ℤ) : EntityCollection :=
  { s with
    categoryMessageCount :=
      Function.update s.categoryMessageCount category (s.categoryMessageCount category + delta) }

/-- `messageCount_ += delta` of a tag. -/
def addTagMessageCount (tag : IdType) (delta : ℤ) : EntityCollection :=
  { s with
    tagMessageCount := Function.update s.tagMessageCount tag (s.tagMessageCount tag + delta) }

end EntityCollection

namespace Store

variable (s : Store)

/-- The categories `executeOnAllCategoryParents` visits, nearest first. There are fewer ancestors
than ids, so the walk is complete when the hierarchy has no cycle. -/
def categoryParents (category : IdType) : List IdType :=
  parentChain s.categoryParent s.issuedIds.card category

/-- The categories `executeOnCategoryAndAllParents` visits. -/
def categoryAndParents (category : IdType) : List IdType := category :: s.categoryParents category

end Store

/-! ### Categories -/

namespace DiscussionCategory

variable (ctx : Context) (category : IdType) (s : EntityCollection)

/-- `DiscussionCategory::addChild`. -/
def addChild (child : IdType) : EntityCollection :=
  { s with
    categoryChildren :=
      Function.update s.categoryChildren category (insert child (s.categoryChildren category)) }

/-- `DiscussionCategory::removeChild`. -/
def removeChild (child : IdType) : EntityCollection :=
  { s with
    categoryChildren :=
      Function.update s.categoryChildren category ((s.categoryChildren category).erase child) }

/-- `DiscussionCategory::hasAncestor`. -/
def hasAncestor (ancestor : IdType) : Bool := decide (ancestor ∈ s.categoryParents category)

/-- `DiscussionCategory::updateName`. -/
def updateName (name : NameType) : EntityCollection :=
  let s := s.uniquePrepareUpdate .categoriesByName category
  let s := s.modifyCategory category fun c => { c with name := name }
  s.uniqueUpdate .categoriesByName category

/-- `DiscussionCategory::updateDisplayOrder`: compares before it clamps to zero. -/
def updateDisplayOrder (value : ℤ) : EntityCollection :=
  if (s.category category).displayOrder = value then s
  else
    let s := s.prepareUpdate (.categories .displayOrderRootPriority) category
    let s := s.modifyCategory category fun c => { c with displayOrder := max 0 value }
    s.finishUpdate (.categories .displayOrderRootPriority) category

/-- `DiscussionCategory::updateParent`. -/
def updateParent (newParent : Option IdType) : EntityCollection :=
  let s := s.prepareUpdate (.categories .displayOrderRootPriority) category
  let s := { s with categoryParent := Function.update s.categoryParent category newParent }
  s.finishUpdate (.categories .displayOrderRootPriority) category

/-- What `insertDiscussionThreads` and `insertDiscussionThreadsOfTag` do with the threads that are
new to the category; as there is at least one, adding them to the collection succeeds. -/
def insertNewDiscussionThreads (threads : List IdType) : EntityCollection :=
  let s := s.prepareUpdate (.categories .messageCount) category
  let s := s.threadsAddRange (.category category) threads
  let s := threads.foldl (fun s thread =>
    DiscussionThread.addCategory thread
      (s.addCategoryMessageCount category (s.threadMessageCount thread)) ctx category) s
  let s := s.finishUpdate (.categories .messageCount) category
  -- the category and all its parents hold separate references to the new threads
  (s.categoryAndParents category).foldl (fun s c =>
    threads.foldl (fun s thread => s.modifyTotals c fun T => T.add s.threadMessageCount thread 1) s) s

/-- The caller's array after `insertDiscussionThreads` has moved the threads that are new to the
category to its front; what it overwrites is lost, what lies behind stays. -/
def compactThreads (threads : List IdType) : List IdType :=
  let kept := threads.filter fun thread => thread ∉ s.categoryThreads category
  kept ++ threads.drop kept.length

/-- `DiscussionCategory::insertDiscussionThreads`. -/
def insertDiscussionThreads (threads : List IdType) : EntityCollection :=
  let kept := threads.filter fun thread => thread ∉ s.categoryThreads category
  if kept = [] then s else insertNewDiscussionThreads ctx category s kept

/-- `DiscussionCategory::insertDiscussionThreadsOfTag`. -/
def insertDiscussionThreadsOfTag (tag : IdType) : EntityCollection :=
  let threadsToInsert :=
    (s.iterateThreads (.tag tag)).filter fun thread => thread ∉ s.categoryThreads category
  if threadsToInsert = [] then s else insertNewDiscussionThreads ctx category s threadsToInsert

/-- `DiscussionCategory::deleteDiscussionThread`. -/
def deleteDiscussionThread (thread : IdType) (deleteMessages onlyThisCategory : Bool) :
    EntityCollection :=
  let s := if deleteMessages then s.prepareUpdate (.categories .messageCount) category else s
  if thread ∈ s.categoryThreads category then
    let s := s.threadsRemove (.category category) thread
    let s := if deleteMessages then s.addCategoryMessageCount category (-s.threadMessageCount thread) else s
    let s :=
      if s.threadAboutToBeDeleted thread then s else DiscussionThread.removeCategory thread s ctx category
    let s := if deleteMessages then s.finishUpdate (.categories .messageCount) category else s
    if onlyThisCategory then s
    else
      (s.categoryAndParents category).foldl (fun s c =>
        s.modifyTotals c fun T => T.remove s.threadMessageCount thread) s
  else s

/-- `DiscussionCategory::deleteDiscussionThreadIfNoOtherTagsReferenceIt`. -/
def deleteDiscussionThreadIfNoOtherTagsReferenceIt (thread : IdType) (deleteMessages : Bool) :
    EntityCollection :=
  if ∃ tag ∈ s.threadTags thread, tag ∈ s.categoryTags category then s
  else
    let s := deleteDiscussionThread ctx category s thread deleteMessages true
    -- release the separate references held by the category and its parents
    (s.categoryAndParents category).foldl (fun s c =>
      s.modifyTotals c fun T => T.decreaseReferenceCount s.threadMessageCount thread) s

/-- `DiscussionCategory::addTag`. -/
def addTag (tag : IdType) : EntityCollection :=
  if tag ∈ s.categoryTags category then s
  else
    let s :=
      { s with
        categoryTags := Function.update s.categoryTags category (insert tag (s.categoryTags category)) }
    insertDiscussionThreadsOfTag ctx category s tag

/-- `DiscussionCategory::removeTag`. -/
def removeTag (tag : IdType) : EntityCollection :=
  if tag ∈ s.categoryTags category then
    let s :=
      { s with
        categoryTags := Function.update s.categoryTags category ((s.categoryTags category).erase tag) }
    (s.iterateThreads (.tag tag)).foldl (fun s thread =>
      deleteDiscussionThreadIfNoOtherTagsReferenceIt ctx category s thread true) s
  else s

/-- `DiscussionCategory::updateMessageCount`: the totals change up to the first ancestor that holds
the thread itself. -/
def updateMessageCount (thread : IdType) (delta : ℤ) : EntityCollection :=
  let s := s.prepareUpdate (.categories .messageCount) category
  let s := s.addCategoryMessageCount category delta
  let s := s.modifyTotals category fun T => { T with messageCount := T.messageCount + delta }
  let s := ((s.categoryParents category).takeWhile fun c => thread ∉ s.categoryThreads c).foldl
    (fun s c => s.modifyTotals c fun T => { T with messageCount := T.messageCount + delta }) s
  s.finishUpdate (.categories .messageCount) category

/-- `DiscussionCategory::removeTotalsFromChild`. -/
def removeTotalsFromChild (child : IdType) : EntityCollection :=
  (s.categoryAndParents category).foldl (fun s c =>
    s.modifyTotals c fun T => T.decreaseReferenceCounts (s.totalThreads child)) s

/-- `DiscussionCategory::addTotalsFromChild`. -/
def addTotalsFromChild (child : IdType) : EntityCollection :=
  (s.categoryAndParents category).foldl (fun s c =>
    s.modifyTotals c fun T => T.addAll s.threadMessageCount (s.totalThreads child)) s

end DiscussionCategory

/-! ### Tags -/

namespace DiscussionTag

variable (ctx : Context) (tag : IdType) (s : EntityCollection)

/-- `DiscussionTag::updateName`. -/
def updateName (name : NameType) : EntityCollection :=
  let s := s.uniquePrepareUpdate .tagsByName tag
  let s := s.modifyTag tag fun t => { t with name := name }
  s.uniqueUpdate .tagsByName tag

/-- `DiscussionTag::updateMessageCount`. -/
def updateMessageCount (delta : ℤ) : EntityCollection :=
  if delta = 0 then s
  else
    let s := s.prepareUpdate (.tags .messageCount) tag
    let s := s.addTagMessageCount tag delta
    s.finishUpdate (.tags .messageCount) tag

/-- `DiscussionTag::insertDiscussionThreads`: every category of the tag is handed the same array,
which each compacts in turn. -/
def insertDiscussionThreads (threads : List IdType) : EntityCollection :=
  let threads := threads.filter fun thread => thread ∉ s.tagThreads tag
  if threads = [] then s
  else
    let s := s.prepareUpdate (.tags .threadCount) tag
    let s := s.prepareUpdate (.tags .messageCount) tag
    let s := s.threadsAddRange (.tag tag) threads
    let s := threads.foldl (fun s thread => s.addTagMessageCount tag (s.threadMessageCount thread)) s
    let (_, s) := (ascending (s.tagCategories tag)).foldl (fun (acc : List IdType × EntityCollection) category =>
      (DiscussionCategory.compactThreads category acc.2 acc.1,
        DiscussionCategory.insertDiscussionThreads ctx category acc.2 acc.1)) (threads, s)
    let s := s.finishUpdate (.tags .threadCount) tag
    s.finishUpdate (.tags .messageCount) tag

/-- `DiscussionTag::insertDiscussionThread`. -/
def insertDiscussionThread (thread : IdType) : EntityCollection :=
  insertDiscussionThreads ctx tag s [thread]

/-- `DiscussionTag::deleteDiscussionThread`. -/
def deleteDiscussionThread (thread : IdType) (deleteMessages : Bool) : EntityCollection :=
  let s := s.prepareUpdate (.tags .threadCount) tag
  let s := if deleteMessages then s.prepareUpdate (.tags .messageCount) tag else s
  if thread ∈ s.tagThreads tag then
    let s := s.threadsRemove (.tag tag) thread
    let s := if deleteMessages then s.addTagMessageCount tag (-s.threadMessageCount thread) else s
    let s := (ascending (s.tagCategories tag)).foldl (fun s category =>
      DiscussionCategory.deleteDiscussionThreadIfNoOtherTagsReferenceIt ctx category s thread
        deleteMessages) s
    let s := s.finishUpdate (.tags .threadCount) tag
    if deleteMessages then s.finishUpdate (.tags .messageCount) tag else s
  else s

/-- `DiscussionTag::addCategory`. -/
def addCategory (category : IdType) : EntityCollection :=
  { s with
    tagCategories := Function.update s.tagCategories tag (insert category (s.tagCategories tag)) }

/-- `DiscussionTag::removeCategory`. -/
def removeCategory (category : IdType) : EntityCollection :=
  { s with
    tagCategories := Function.update s.tagCategories tag ((s.tagCategories tag).erase category) }

end DiscussionTag

end Forum.Entities
