import Forum.Repository.Common

/-!
# The tag and category repositories

The direct writes of `MemoryRepositoryDiscussionTag` and `MemoryRepositoryDiscussionCategory`.
-/

namespace Forum.Repository

open Forum.Entities Forum.Library

variable (ctx : Context) (s : EntityCollection)

/-! ### Tags -/

/-- `addNewDiscussionTag`. -/
def addNewDiscussionTag (id : IdType) (name : NameType) : Result :=
  if s.uniqueContains .tagsByName (.text name) then (.alreadyExists, s)
  else (.ok, (s.createDiscussionTag id name ctx.currentTime ctx.visitDetails).tagsAdd id)

/-- `changeDiscussionTagName`: does not look for another tag of that name. -/
def changeDiscussionTagName (id : IdType) (name : NameType) : Result :=
  if id ∈ s.tags then
    (.ok, updateTagLastUpdated ctx id (getCurrentUser ctx s) (DiscussionTag.updateName id s name))
  else (.notFound, s)

/-- `changeDiscussionTagUiBlob`. -/
def changeDiscussionTagUiBlob (id : IdType) (blob : String) : Result :=
  if id ∈ s.tags then (.ok, s.modifyTag id fun t => { t with uiBlob := blob }) else (.notFound, s)

/-- `deleteDiscussionTag`. -/
def deleteDiscussionTag (id : IdType) : Result :=
  if id ∈ s.tags then (.ok, s.deleteDiscussionTag ctx id) else (.notFound, s)

/-- `addDiscussionTagToThread`. -/
def addDiscussionTagToThread (tag thread : IdType) : Result :=
  if tag ∈ s.tags ∧ thread ∈ s.allThreads then
    let currentUser := getCurrentUser ctx s
    let known := decide (tag ∈ s.threadTags thread)
    let s := DiscussionThread.addTag thread s ctx tag
    if known then (.noEffect, s)
    else (.ok, updateThreadLastUpdated ctx thread currentUser (DiscussionTag.insertDiscussionThread ctx tag s thread))
  else (.notFound, s)

/-- `removeDiscussionTagFromThread`. -/
def removeDiscussionTagFromThread (tag thread : IdType) : Result :=
  if tag ∈ s.tags ∧ thread ∈ s.allThreads then
    let currentUser := getCurrentUser ctx s
    let known := decide (tag ∈ s.threadTags thread)
    let s := DiscussionThread.removeTag thread s ctx tag
    if known then
      (.ok, updateThreadLastUpdated ctx thread currentUser
        (DiscussionTag.deleteDiscussionThread ctx tag s thread true))
    else (.noEffect, s)
  else (.notFound, s)

/-- `mergeDiscussionTags`. -/
def mergeDiscussionTags (fromId intoId : IdType) : Result :=
  if fromId = intoId then (.noEffect, s)
  else if fromId ∈ s.tags ∧ intoId ∈ s.tags then
    let currentUser := getCurrentUser ctx s
    let fromThreads := s.iterateThreads (.tag fromId)
    let s := fromThreads.foldl (fun s thread => DiscussionThread.addTag thread s ctx intoId) s
    let s := DiscussionTag.insertDiscussionThreads ctx intoId s fromThreads
    let s := (ascending (s.tagCategories fromId)).foldl (fun s category =>
      DiscussionCategory.addTag ctx category s intoId) s
    let s := updateTagLastUpdated ctx intoId currentUser s
    (.ok, s.deleteDiscussionTag ctx fromId)
  else (.notFound, s)

/-! ### Categories -/

/-- `addNewDiscussionCategory`: under no parent when the parent id is empty or unknown. -/
def addNewDiscussionCategory (id : IdType) (name : NameType) (parentId : IdType) : Result :=
  if s.uniqueContains .categoriesByName (.text name) then (.alreadyExists, s)
  else
    let known := decide (parentId ≠ 0 ∧ parentId ∈ s.categories)
    let s := s.createDiscussionCategory id name ctx.currentTime ctx.visitDetails
    let s :=
      if known then
        let s := DiscussionCategory.addChild parentId s id
        { s with categoryParent := Function.update s.categoryParent id (some parentId) }
      else s
    (.ok, s.categoriesAdd id)

/-- `changeDiscussionCategoryName`. -/
def changeDiscussionCategoryName (id : IdType) (name : NameType) : Result :=
  if id ∈ s.categories then
    if s.uniqueContains .categoriesByName (.text name) then (.alreadyExists, s)
    else (.ok, updateCategoryLastUpdated ctx id (getCurrentUser ctx s) (DiscussionCategory.updateName id s name))
  else (.notFound, s)

/-- `changeDiscussionCategoryDescription`. -/
def changeDiscussionCategoryDescription (id : IdType) (description : String) : Result :=
  if id ∈ s.categories then
    (.ok, updateCategoryLastUpdated ctx id (getCurrentUser ctx s)
      (s.modifyCategory id fun c => { c with description := description }))
  else (.notFound, s)

/-- `updateCategoryParent`. -/
def updateCategoryParent (category : IdType) (newParent : Option IdType) (currentUser : IdType) :
    EntityCollection :=
  let oldParent := s.categoryParent category
  let s := DiscussionCategory.updateParent category s newParent
  let s := updateCategoryLastUpdated ctx category currentUser s
  let s :=
    match oldParent with
    | none => s
    | some parent =>
      DiscussionCategory.removeChild parent (DiscussionCategory.removeTotalsFromChild parent s category) category
  match newParent with
  | none => s
  | some parent =>
    DiscussionCategory.addChild parent (DiscussionCategory.addTotalsFromChild parent s category) category

/-- `changeDiscussionCategoryParent`: to no parent when the new parent is unknown. -/
def changeDiscussionCategoryParent (id newParentId : IdType) : Result :=
  if id ∈ s.categories then
    let newParent := if newParentId ∈ s.categories then some newParentId else none
    if newParentId ∈ s.categories ∧ DiscussionCategory.hasAncestor newParentId s id then
      (.circularReferenceNotAllowed, s)
    else
      match s.categoryParent id with
      | none => (.ok, updateCategoryParent ctx s id newParent (getCurrentUser ctx s))
      | some parent =>
        if parent = newParentId then (.noEffect, s)
        else
          let s := DiscussionCategory.removeChild parent s id
          (.ok, updateCategoryParent ctx s id newParent (getCurrentUser ctx s))
  else (.notFound, s)

/-- `changeDiscussionCategoryDisplayOrder`. -/
def changeDiscussionCategoryDisplayOrder (id : IdType) (displayOrder : ℤ) : Result :=
  if id ∈ s.categories then
    (.ok, updateCategoryLastUpdated ctx id (getCurrentUser ctx s)
      (DiscussionCategory.updateDisplayOrder id s displayOrder))
  else (.notFound, s)

/-- `deleteDiscussionCategory`: the children become roots first. -/
def deleteDiscussionCategory (id : IdType) : Result :=
  if id ∈ s.categories then
    let currentUser := getCurrentUser ctx s
    let s := (ascending (s.categoryChildren id)).foldl (fun s child =>
      updateCategoryParent ctx s child none currentUser) s
    (.ok, s.deleteDiscussionCategory ctx id)
  else (.notFound, s)

/-- `addDiscussionTagToCategory`. -/
def addDiscussionTagToCategory (tag category : IdType) : Result :=
  if tag ∈ s.tags ∧ category ∈ s.categories then
    if category ∈ s.tagCategories tag then (.noEffect, s)
    else
      let s := DiscussionTag.addCategory tag s category
      let s := DiscussionCategory.addTag ctx category s tag
      (.ok, updateCategoryLastUpdated ctx category (getCurrentUser ctx s) s)
  else (.notFound, s)

/-- `removeDiscussionTagFromCategory`. -/
def removeDiscussionTagFromCategory (tag category : IdType) : Result :=
  if tag ∈ s.tags ∧ category ∈ s.categories then
    if category ∈ s.tagCategories tag then
      let s := DiscussionTag.removeCategory tag s category
      let s := DiscussionCategory.removeTag ctx category s tag
      (.ok, updateCategoryLastUpdated ctx category (getCurrentUser ctx s) s)
    else (.noEffect, s)
  else (.notFound, s)

end Forum.Repository
