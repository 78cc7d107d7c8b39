import Forum.Repository.CategoryHierarchy
import Forum.Repository.Requests

/-!
# The requests of the category repository

The public operations of `MemoryRepositoryDiscussionCategory`, and what they keep of the hierarchy,
whatever ids they are given: in every state that requests and other operations of the store lead to,
the categories are a forest, so that every walk over parents or children ends.
-/

namespace Forum.Repository

open Forum.Entities Forum.Library

/-- The write requests of the category repository. The id of a new category is the one
`generateUniqueId` gives out. -/
inductive CategoryRequest
  | addNewDiscussionCategory (generatedId : IdType) (name : NameType) (parentId : IdType)
  | changeDiscussionCategoryName (id : IdType) (newName : NameType)
  | changeDiscussionCategoryDescription (id : IdType) (newDescription : String)
  | changeDiscussionCategoryParent (id newParentId : IdType)
  | changeDiscussionCategoryDisplayOrder (id : IdType) (newDisplayOrder : ℤ)
  | deleteDiscussionCategory (id : IdType)
  | addDiscussionTagToCategory (tagId categoryId : IdType)
  | removeDiscussionTagFromCategory (tagId categoryId : IdType)

namespace MemoryRepositoryDiscussionCategory

variable (env : Environment)

/-- The validation of a category's name. -/
def validateName (name : NameType) : RequestStatus :=
  validateString env name.string false (some env.discussionCategory.minNameLength)
    (some env.discussionCategory.maxNameLength) env.doesNotContainLeadingOrTrailingWhitespace

/-- The ids a request names may not be empty. -/
def validateIds (ids : List IdType) : RequestStatus := if 0 ∈ ids then .invalidParameters else .ok

/-- Look a category up. -/
def findCategory (id : IdType) (s : EntityCollection) : RequestStatus := if id ∈ s.categories then .ok else .notFound

/-- Look a tag and a category up. -/
def findTagAndCategory (tagId categoryId : IdType) (s : EntityCollection) : RequestStatus :=
  if tagId ∈ s.tags ∧ categoryId ∈ s.categories then .ok else .notFound

/-- `addNewDiscussionCategory`. -/
def addNewDiscussionCategory (generatedId : IdType) (name : NameType) (parentId : IdType) : WriteRequest where
  validation := validateName env name
  checks s := if s.uniqueContains .categoriesByName (.text name) then .alreadyExists else .ok
  operation := .addNewDiscussionCategory generatedId name parentId
  announcedFirst := false
  event s := .addNewDiscussionCategory generatedId (s.category generatedId).name ((s.categoryParent generatedId).getD 0)

/-- `changeDiscussionCategoryName`. -/
def changeDiscussionCategoryName (id : IdType) (newName : NameType) : WriteRequest where
  validation := if id = 0 then .invalidParameters else validateName env newName
  checks s :=
    if id ∈ s.categories then
      if s.uniqueContains .categoriesByName (.text newName) then .alreadyExists else .ok
    else .notFound
  operation := .changeDiscussionCategoryName id newName
  announcedFirst := false
  event s := .changeDiscussionCategoryName id (s.category id).name

/-- `changeDiscussionCategoryDescription`. -/
def changeDiscussionCategoryDescription (id : IdType) (newDescription : String) : WriteRequest where
  validation :=
    if id = 0 then .invalidParameters
    else if env.discussionCategory.maxDescriptionLength < env.countUTF8Characters newDescription then .valueTooLong
    else .ok
  checks := findCategory id
  operation := .changeDiscussionCategoryDescription id newDescription
  announcedFirst := false
  event s := .changeDiscussionCategoryDescription id (s.category id).description

/-- Refused when the new parent is the category itself or below it. -/
def changeDiscussionCategoryParent (id newParentId : IdType) : WriteRequest where
  validation := if id = 0 ∨ id = newParentId then .invalidParameters else .ok
  checks s :=
    if id ∈ s.categories then
      if newParentId ∈ s.categories ∧ DiscussionCategory.hasAncestor newParentId s id then .circularReferenceNotAllowed
      else .ok
    else .notFound
  operation := .changeDiscussionCategoryParent id newParentId
  announcedFirst := false
  event s := .changeDiscussionCategoryParent id ((s.categoryParent id).getD 0)

/-- `changeDiscussionCategoryDisplayOrder`. -/
def changeDiscussionCategoryDisplayOrder (id : IdType) (newDisplayOrder : ℤ) : WriteRequest where
  validation := if id = 0 ∨ newDisplayOrder < 0 then .invalidParameters else .ok
  checks := findCategory id
  operation := .changeDiscussionCategoryDisplayOrder id newDisplayOrder
  announcedFirst := false
  event s := .changeDiscussionCategoryDisplayOrder id (s.category id).displayOrder

/-- Announced while the category is still there. -/
def deleteDiscussionCategory (id : IdType) : WriteRequest where
  validation := validateIds [id]
  checks := findCategory id
  operation := .deleteDiscussionCategory id
  announcedFirst := true
  event _ := .deleteDiscussionCategory id

/-- `addDiscussionTagToCategory`. -/
def addDiscussionTagToCategory (tagId categoryId : IdType) : WriteRequest where
  validation := validateIds [tagId, categoryId]
  checks := findTagAndCategory tagId categoryId
  operation := .addDiscussionTagToCategory tagId categoryId
  announcedFirst := false
  event _ := .addDiscussionTagToCategory tagId categoryId

/-- `removeDiscussionTagFromCategory`. -/
def removeDiscussionTagFromCategory (tagId categoryId : IdType) : WriteRequest where
  validation := validateIds [tagId, categoryId]
  checks := findTagAndCategory tagId categoryId
  operation := .removeDiscussionTagFromCategory tagId categoryId
  announcedFirst := false
  event _ := .removeDiscussionTagFromCategory tagId categoryId

end MemoryRepositoryDiscussionCategory

namespace CategoryRequest

/-- The request as the repository handles it. -/
def toWriteRequest (env : Environment) : CategoryRequest → WriteRequest
  | .addNewDiscussionCategory generatedId name parentId =>
    MemoryRepositoryDiscussionCategory.addNewDiscussionCategory env generatedId name parentId
  | .changeDiscussionCategoryName id newName =>
    MemoryRepositoryDiscussionCategory.changeDiscussionCategoryName env id newName
  | .changeDiscussionCategoryDescription id newDescription =>
    MemoryRepositoryDiscussionCategory.changeDiscussionCategoryDescription env id newDescription
  | .changeDiscussionCategoryParent id newParentId =>
    MemoryRepositoryDiscussionCategory.changeDiscussionCategoryParent id newParentId
  | .changeDiscussionCategoryDisplayOrder id newDisplayOrder =>
    MemoryRepositoryDiscussionCategory.changeDiscussionCategoryDisplayOrder id newDisplayOrder
  | .deleteDiscussionCategory id =>
    MemoryRepositoryDiscussionCategory.deleteDiscussionCategory id
  | .addDiscussionTagToCategory tagId categoryId =>
    MemoryRepositoryDiscussionCategory.addDiscussionTagToCategory tagId categoryId
  | .removeDiscussionTagFromCategory tagId categoryId =>
    MemoryRepositoryDiscussionCategory.removeDiscussionTagFromCategory tagId categoryId

/-- Answer a request. -/
def perform (env : Environment) (ctx : Context) (r : CategoryRequest) (s : EntityCollection) : Response :=
  (r.toWriteRequest env).perform env ctx s

/-- The id a request gives to a new category is fresh. -/
def Fresh (r : CategoryRequest) (s : EntityCollection) : Prop :=
  ∀ id name parentId, r = .addNewDiscussionCategory id name parentId → id ≠ 0 ∧ id ∉ s.issuedIds

/-- What a request asks the direct write to do, its callers may ask. -/
theorem callable {env : Environment} {r : CategoryRequest} {s : EntityCollection} (h : r.Fresh s)
    (hvalid : (r.toWriteRequest env).validation = .ok) : Callable s (r.toWriteRequest env).operation := by
  refine ⟨fun id hid => ?_, fun id heq => ?_⟩
  · cases r with
    | addNewDiscussionCategory generatedId name parentId =>
      exact Option.some.inj hid ▸ h _ _ _ rfl
    | _ => exact absurd hid (Option.some_ne_none id).symm
  · cases r with
    | changeDiscussionCategoryParent =>
      cases heq
      simp [toWriteRequest, MemoryRepositoryDiscussionCategory.changeDiscussionCategoryParent] at hvalid
    | _ => cases heq

end CategoryRequest

/-! ### Runs -/

/-- The states that category requests lead to from the empty store, with any other operations of the
store in between. -/
inductive RequestReachable (env : Environment) : EntityCollection → Prop
  | empty : RequestReachable env .empty
  | request {s : EntityCollection} (ctx : Context) (r : CategoryRequest) (reached : RequestReachable env s)
      (fresh : r.Fresh s) : RequestReachable env (r.perform env ctx s).store
  | operation {s : EntityCollection} (ctx : Context) (op : Operation) (reached : RequestReachable env s)
      (callable : Callable s op) : RequestReachable env (op.perform ctx s).2

variable {env : Environment} {s : EntityCollection}

theorem Reachable.getAndUpdate (h : Reachable anyOperation s) (ctx : Context) :
    Reachable anyOperation (getAndUpdate env ctx s) := by
  rcases getAndUpdate_eq env ctx s with heq | heq
  · rw [heq]
    exact h
  · rw [heq]
    refine .step ctx _ h ⟨fun id hid => ?_, fun id hid => ?_⟩ trivial
    · cases hid
    · cases hid

theorem issuedIds_getAndUpdate (ctx : Context) : (getAndUpdate env ctx s).issuedIds = s.issuedIds := by
  unfold getAndUpdate User.updateLastSeen
  split_ifs <;> simp [EntityCollection.modifyUser]

theorem hierarchy_getAndUpdate (ctx : Context) : (getAndUpdate env ctx s).hierarchy = s.hierarchy := by
  unfold getAndUpdate User.updateLastSeen
  split_ifs <;> simp [EntityCollection.modifyUser]

/-- A request leads nowhere that the direct writes do not lead to. -/
theorem RequestReachable.reachable (h : RequestReachable env s) : Reachable anyOperation s := by
  induction h with
  | empty => exact .empty
  | @request s ctx r _ fresh ih =>
    rcases (r.toWriteRequest env).store_perform env ctx s with heq | heq | ⟨hvalid, -, heq⟩
    · exact (congrArg (Reachable anyOperation) heq).mpr ih
    · exact (congrArg (Reachable anyOperation) heq).mpr (ih.getAndUpdate ctx)
    · refine (congrArg (Reachable anyOperation) heq).mpr (.step ctx _ (ih.getAndUpdate ctx) ?_ trivial)
      refine CategoryRequest.callable (fun id name parentId hr => ?_) hvalid
      rw [issuedIds_getAndUpdate]
      exact fresh id name parentId hr
  | operation ctx op _ callable ih => exact .step ctx op ih callable trivial

/-! ### The hierarchy -/

/-- Moving the category below the other would make it its own ancestor. -/
def WouldCreateCycle (s : EntityCollection) (id newParentId : IdType) : Prop :=
  id ∈ s.categories ∧ newParentId ∈ s.categories ∧
    (newParentId = id ∨ ∃ l, Ancestors s.categoryParent newParentId l ∧ id ∈ l)

/-- After such a move the categories would not be a forest. -/
theorem WouldCreateCycle.not_isForest {id newParentId : IdType}
    (hcycle : WouldCreateCycle s id newParentId) : ¬(s.hierarchy.move id (some newParentId)).IsForest :=
  Hierarchy.IsForest.not_isForest_move hcycle.1 hcycle.2.2

/-- A request for a cycle is rejected and leaves the hierarchy as it was. -/
theorem rejected_of_wouldCreateCycle (h : HierarchySound s) (ctx : Context) {id newParentId : IdType}
    (hcycle : WouldCreateCycle s id newParentId) :
    let response := (CategoryRequest.changeDiscussionCategoryParent id newParentId).perform env ctx s
    (response.status = .invalidParameters ∨ response.status = .circularReferenceNotAllowed) ∧
      response.store.hierarchy = s.hierarchy ∧ response.events = [] := by
  obtain ⟨hid, hnew, hcycle⟩ := hcycle
  dsimp only [CategoryRequest.perform, CategoryRequest.toWriteRequest]
  by_cases hinvalid : id = 0 ∨ id = newParentId
  · have hvalidation : (MemoryRepositoryDiscussionCategory.changeDiscussionCategoryParent id newParentId).validation = .invalidParameters := if_pos hinvalid
    simp [WriteRequest.perform, hvalidation]
  · have hvalidation : (MemoryRepositoryDiscussionCategory.changeDiscussionCategoryParent id newParentId).validation = .ok := if_neg hinvalid
    obtain ⟨l, hl, hmem⟩ := hcycle.resolve_left fun heq => hinvalid (.inr heq.symm)
    have hsame : (getAndUpdate env ctx s).hierarchy = s.hierarchy := hierarchy_getAndUpdate ctx
    have hcategories : (getAndUpdate env ctx s).categories = s.categories := congrArg Hierarchy.nodes hsame
    -- the walk of `hasAncestor` finds the category
    have hwalk : DiscussionCategory.hasAncestor newParentId (getAndUpdate env ctx s) id = true := by
      refine decide_eq_true ?_
      have hparents : (getAndUpdate env ctx s).categoryParents newParentId = s.categoryParents newParentId := by
        unfold Store.categoryParents
        rw [issuedIds_getAndUpdate, show (getAndUpdate env ctx s).categoryParent = s.categoryParent from
          congrArg Hierarchy.parent hsame]
      rw [hparents, ← (h.ancestors_parentChain hnew).unique hl]
      exact hmem
    have hchecks : (MemoryRepositoryDiscussionCategory.changeDiscussionCategoryParent id newParentId).checks (getAndUpdate env ctx s) =
        .circularReferenceNotAllowed := by
      simp [MemoryRepositoryDiscussionCategory.changeDiscussionCategoryParent, hcategories, hid, hnew, hwalk]
    simp [WriteRequest.perform, hvalidation, hchecks, hsame]

/-- The category hierarchy stays a forest: from every category the parents lead to a root, so that
the loops over parents and the recursion into children end; parents and children agree; and a
request for a cycle is rejected. -/
theorem RequestReachable.categories_isForest (h : RequestReachable env s) :
    (∀ c ∈ s.categories,
      (∃ n root, (fun category : Option IdType => category.bind s.categoryParent)^[n] (some c) = some root ∧
        root ∈ s.categories ∧ s.categoryParent root = none) ∧
      (∃ fuel, whileParent s.categoryParent fuel (s.categoryParent c) = some (s.categoryParents c)) ∧
      ∃ fuel, (DiscussionCategory.latestMessage s fuel c).isSome) ∧
    (∀ p ∈ s.categories, ∀ c, c ∈ s.categoryChildren p ↔ c ∈ s.categories ∧ s.categoryParent c = some p) ∧
    ∀ ctx id newParentId, WouldCreateCycle s id newParentId →
      let response := (CategoryRequest.changeDiscussionCategoryParent id newParentId).perform env ctx s
      (response.status = .invalidParameters ∨ response.status = .circularReferenceNotAllowed) ∧
        response.store.hierarchy = s.hierarchy ∧ response.events = [] := by
  have hsound := h.reachable.hierarchySound
  refine ⟨fun c hc => ?_, fun p hp c => ?_, fun ctx id newParentId => rejected_of_wouldCreateCycle hsound ctx⟩
  · have hancestors := hsound.ancestors_parentChain hc
    obtain ⟨root, hmem, hsteps, hroot⟩ := hancestors.exists_root
    refine ⟨⟨_, root, hsteps, ?_, hroot⟩, ⟨_, hancestors.whileParent_eq⟩, ⟨s.categories.card, ?_⟩⟩
    · rcases List.mem_cons.1 hmem with rfl | hmem
      · exact hc
      · exact hsound.forest.ancestors_mem hc hancestors root hmem
    · exact DiscussionCategory.isSome_latestMessage s hsound.forest hc
  · refine ⟨fun hchild => ?_, fun ⟨hc, hparent⟩ => (hsound.forest.mem_children p hp c hc).2 hparent⟩
    have hc := hsound.forest.children_mem p hp hchild
    exact ⟨hc, (hsound.forest.mem_children p hp c hc).1 hchild⟩

/-- An environment that allows everything. -/
def allowingEnvironment : Environment where
  authorize _ _ _ := .ok
  lastSeenUpdatePrecision := 0
  countUTF8Characters := String.length
  doesNotContainLeadingOrTrailingWhitespace _ := true
  discussionCategory := ⟨1, 10, 10⟩

/-- A category. -/
def oneCategory : EntityCollection :=
  ((CategoryRequest.addNewDiscussionCategory 1 ⟨"a", [1]⟩ 0).perform allowingEnvironment ⟨0, 1, ""⟩ .empty).store

/-- Two categories, one below the other. -/
def twoCategories : EntityCollection :=
  ((CategoryRequest.addNewDiscussionCategory 2 ⟨"b", [2]⟩ 1).perform allowingEnvironment ⟨0, 1, ""⟩ oneCategory).store

/-- The loop over the parents of the lower category ends, and the upper one is not moved below it. -/
theorem categories_isForest_twoCategories :
    (twoCategories.categoryParent 2 = some 1 ∧ ∃ fuel, whileParent twoCategories.categoryParent fuel
      (twoCategories.categoryParent 2) = some (twoCategories.categoryParents 2)) ∧
    WouldCreateCycle twoCategories 1 2 ∧
    ((CategoryRequest.changeDiscussionCategoryParent 1 2).perform allowingEnvironment ⟨0, 2, ""⟩ twoCategories).status =
      .circularReferenceNotAllowed ∧
    ((CategoryRequest.changeDiscussionCategoryParent 1 2).perform allowingEnvironment ⟨0, 2, ""⟩
      twoCategories).store.hierarchy = twoCategories.hierarchy := by
  have hreach : RequestReachable allowingEnvironment twoCategories := by
    refine .request ⟨0, 1, ""⟩ _ (.request ⟨0, 1, ""⟩ _ .empty ?_) ?_
    · rintro id name parentId heq
      cases heq
      decide +kernel
    · rintro id name parentId heq
      cases heq
      decide +kernel
  have hparent : twoCategories.categoryParent 2 = some 1 := by decide +kernel
  have hroot : twoCategories.categoryParent 1 = none := by decide +kernel
  have hcycle : WouldCreateCycle twoCategories 1 2 :=
    ⟨by decide +kernel, by decide +kernel, .inr ⟨_, .step hparent (.root hroot), List.mem_cons_self⟩⟩
  obtain ⟨hloops, -, hrejected⟩ := hreach.categories_isForest
  exact ⟨⟨hparent, (hloops 2 (by decide +kernel)).2.1⟩, hcycle, by decide +kernel,
    (hrejected ⟨0, 2, ""⟩ 1 2 hcycle).2.1⟩

end Forum.Repository
