import Forum.Entities.CategoryHierarchy
import Forum.Repository.OwnershipInvariants

/-!
# The category hierarchy is a forest

What the operations do to the hierarchy of categories, as steps of it: a category is added below
another or as a root, moved to another parent, or deleted once its children are roots. A move is
preceded by the walk of `hasAncestor`, which is complete only in a forest; that the move keeps the
forest rests on the walk, and on the caller not moving a category under itself.
-/

namespace Forum.Repository

open Forum.Entities Forum.Library

/-- What an operation does to the hierarchy. -/
inductive HierarchyStep (fuel : ℕ) : Operation → Hierarchy IdType → Hierarchy IdType → Prop
  | keep (op : Operation) (h : Hierarchy IdType) : HierarchyStep fuel op h h
  /-- An entity of some kind is created under a new id. -/
  | construct {op : Operation} {h : Hierarchy IdType} (id : IdType) (hid : op.newId = some id) :
    HierarchyStep fuel op h
      { h with parent := Function.update h.parent id none, children := Function.update h.children id ∅ }
  | addNewDiscussionCategory {h : Hierarchy IdType} {id parentId : IdType} {name : NameType} :
    HierarchyStep fuel (.addNewDiscussionCategory id name parentId) h
      (h.insert id (if parentId ≠ 0 ∧ parentId ∈ h.nodes then some parentId else none))
  | changeDiscussionCategoryParent {h : Hierarchy IdType} {id newParentId : IdType} (known : id ∈ h.nodes)
      (walk : newParentId ∈ h.nodes → id ∉ parentChain h.parent fuel newParentId) :
    HierarchyStep fuel (.changeDiscussionCategoryParent id newParentId) h
      (h.move id (if newParentId ∈ h.nodes then some newParentId else none))
  | deleteDiscussionCategory {h : Hierarchy IdType} (id : IdType) (known : id ∈ h.nodes) :
    HierarchyStep fuel (.deleteDiscussionCategory id) h
      (((ascending (h.children id)).foldl (fun h child => h.move child none) h).remove id)

theorem HierarchyStep.of_eq {fuel : ℕ} {op : Operation} {h h' h'' : Hierarchy IdType}
    (hstep : HierarchyStep fuel op h h') (heq : h'' = h') : HierarchyStep fuel op h h'' := heq ▸ hstep

/-- Only one operation adds categories. -/
theorem HierarchyStep.nodes_subset {fuel : ℕ} {op : Operation} {h h' : Hierarchy IdType}
    (hstep : HierarchyStep fuel op h h') (hadd : ∀ id name parentId, op ≠ .addNewDiscussionCategory id name parentId) :
    h'.nodes ⊆ h.nodes := by
  cases hstep with
  | keep => rfl
  | construct => rfl
  | addNewDiscussionCategory => exact absurd rfl (hadd _ _ _)
  | changeDiscussionCategoryParent => rfl
  | @deleteDiscussionCategory h id known =>
    have hnodes : ((ascending (h.children id)).foldl (fun h child => h.move child none) h).nodes = h.nodes :=
      foldl_view Hierarchy.nodes fun _ _ _ => rfl
    exact (Finset.erase_subset _ _).trans hnodes.subset

variable (ctx : Context) (s : EntityCollection)

/-! ### Functions of the repositories -/

@[simp] theorem hierarchy_updateThreadLastUpdated (thread user : IdType) :
    (updateThreadLastUpdated ctx thread user s).hierarchy = s.hierarchy := by
  simp [updateThreadLastUpdated, DiscussionThread.toStore_updateLastUpdated,
    DiscussionThread.setLatestVisibleChange, DiscussionThread.updateLastUpdatedDetails,
    DiscussionThread.updateLastUpdatedBy, EntityCollection.modifyThread]

@[simp] theorem hierarchy_updateMessageCounts (thread : IdType) (difference : ℤ) :
    (updateMessageCounts s thread difference).hierarchy = s.hierarchy := by
  have htags : ∀ (tags : List IdType) (s : EntityCollection),
      (tags.foldl (fun s tag => DiscussionTag.updateMessageCount tag s difference) s).hierarchy = s.hierarchy :=
    fun tags s => hierarchy_foldl fun s tag _ => by simp
  have hcategories : ∀ (categories : List IdType) (s : EntityCollection),
      (categories.foldl (fun s category => DiscussionCategory.updateMessageCount category s thread difference)
        s).hierarchy = s.hierarchy := fun categories s => hierarchy_foldl fun s category _ => by simp
  simp only [updateMessageCounts, hcategories, htags]

@[simp] theorem hierarchy_updateThreadOnMoveMessage (thread : IdType) (delta : ℤ) :
    (updateThreadOnMoveMessage ctx s thread delta).hierarchy = s.hierarchy :=
  hierarchy_updateMessageCounts _ thread delta

theorem hierarchy_updateCategoryParent (category : IdType) (newParent : Option IdType) (user : IdType) :
    (updateCategoryParent ctx s category newParent user).hierarchy = s.hierarchy.move category newParent := by
  unfold updateCategoryParent
  cases hp : s.categoryParent category <;> cases newParent <;>
    simp only [DiscussionCategory.removeChild, DiscussionCategory.addChild, Placement.hierarchy,
      DiscussionCategory.toPlacement_removeTotalsFromChild, DiscussionCategory.toPlacement_addTotalsFromChild,
      DiscussionCategory.toPlacement_updateParent, updateCategoryLastUpdated, EntityCollection.modifyCategory,
      Hierarchy.move, hp, Hierarchy.mk.injEq, true_and]
  case none.none => simp
  case none.some parent =>
    funext p
    by_cases hpp : p = parent
    · subst hpp
      ext x
      simp
      tauto
    · simp [hpp, Ne.symm hpp]
  case some.none old =>
    funext p
    by_cases hpo : p = old
    · subst hpo; simp
    · simp [hpo, Ne.symm hpo]
  case some.some old parent =>
    funext p
    ext x
    by_cases hpp : p = parent <;> by_cases hpo : p = old
    · subst hpp hpo; simp
    · subst hpp
      simp [hpo]
      tauto
    · subst hpo
      simp [hpp, Ne.symm hpp]
    · simp [hpp, hpo, Ne.symm hpp, Ne.symm hpo]

/-- Taking the category out of its parent's children beforehand makes no difference. -/
theorem Hierarchy.move_removeChild {h : Hierarchy IdType} {a p : IdType} (hp : h.parent a = some p)
    (newParent : Option IdType) :
    ({ h with children := Function.update h.children p ((h.children p).erase a) } : Hierarchy IdType).move a newParent =
      h.move a newParent := by
  simp only [Hierarchy.move, Hierarchy.mk.injEq, true_and]
  funext q
  by_cases hq : q = p
  · subst hq; simp [hp]
  · simp [hq]

/-- The operations that leave the hierarchy alone. -/
def Operation.keepsHierarchy : Operation → Bool
  | .addNewUser .. | .sendPrivateMessage .. | .addNewAttachment .. | .addNewDiscussionThread ..
  | .addNewDiscussionMessageInThread .. | .addCommentToDiscussionThreadMessage .. | .addNewDiscussionTag ..
  | .addNewDiscussionCategory .. | .changeDiscussionCategoryParent .. | .deleteDiscussionCategory .. => false
  | _ => true

theorem hierarchy_mergeDiscussionThreads (fromId intoId : IdType) :
    (mergeDiscussionThreads ctx s fromId intoId).2.hierarchy = s.hierarchy := by
  have hparent : ∀ (l : List IdType) (s : EntityCollection),
      (l.foldl (fun s message => DiscussionThreadMessage.setParentThread message s intoId) s).hierarchy = s.hierarchy :=
    fun l s => hierarchy_foldl fun _ _ _ => rfl
  have hsubscribe : ∀ (l : List IdType) (s : EntityCollection),
      (l.foldl (fun s user =>
        DiscussionThread.insertSubscribedUser intoId (s.threadsAdd (.subscribedBy user) intoId) user) s).hierarchy =
        s.hierarchy := fun l s => hierarchy_foldl fun s user _ => by
    simp [DiscussionThread.insertSubscribedUser]
  unfold mergeDiscussionThreads
  dsimp only
  split_ifs <;> simp [hparent, hsubscribe]

theorem hierarchy_mergeDiscussionTags (fromId intoId : IdType) :
    (mergeDiscussionTags ctx s fromId intoId).2.hierarchy = s.hierarchy := by
  have hthreads : ∀ (l : List IdType) (s : EntityCollection),
      (l.foldl (fun s thread => DiscussionThread.addTag thread s ctx intoId) s).hierarchy = s.hierarchy :=
    fun l s => hierarchy_foldl fun _ _ _ => rfl
  have hcategories : ∀ (l : List IdType) (s : EntityCollection),
      (l.foldl (fun s category => DiscussionCategory.addTag ctx category s intoId) s).hierarchy = s.hierarchy :=
    fun l s => hierarchy_foldl fun s category _ => DiscussionCategory.hierarchy_addTag ctx s category intoId
  unfold mergeDiscussionTags
  dsimp only
  split_ifs <;> simp [hthreads, hcategories, updateTagLastUpdated, EntityCollection.modifyTag]

theorem hierarchy_voteDiscussionThreadMessage (id : IdType) (up : Bool) :
    (voteDiscussionThreadMessage ctx s id up).2.hierarchy = s.hierarchy := by
  unfold voteDiscussionThreadMessage
  dsimp only
  split_ifs <;> rfl

theorem hierarchy_resetVoteDiscussionThreadMessage (id : IdType) :
    (resetVoteDiscussionThreadMessage ctx s id).2.hierarchy = s.hierarchy := by
  unfold resetVoteDiscussionThreadMessage DiscussionThreadMessage.removeVote
  dsimp only
  split_ifs <;> rfl

theorem hierarchy_perform {op : Operation} (hop : op.keepsHierarchy) :
    (op.perform ctx s).2.hierarchy = s.hierarchy := by
  cases op <;> simp only [Operation.keepsHierarchy, Bool.false_eq_true] at hop <;>
    simp only [Operation.perform]
  case mergeDiscussionThreads => exact hierarchy_mergeDiscussionThreads ctx s _ _
  case mergeDiscussionTags => exact hierarchy_mergeDiscussionTags ctx s _ _
  case stopBatchInsert => simp
  case startBatchInsert => rfl
  case upVoteDiscussionThreadMessage => exact hierarchy_voteDiscussionThreadMessage ctx s _ _
  case downVoteDiscussionThreadMessage => exact hierarchy_voteDiscussionThreadMessage ctx s _ _
  case resetVoteDiscussionThreadMessage => exact hierarchy_resetVoteDiscussionThreadMessage ctx s _
  all_goals
    simp only [changeUserName, changeUserInfo, changeUserTitle, changeUserSignature, changeUserAttachmentQuota,
      changeUserLogo, deleteUserLogo, changeUserField, updateUserLastSeen, User.updateLastSeen, changeAttachmentName,
      changeAttachmentApproval, changeDiscussionThreadName, changeDiscussionThreadPinDisplayOrder,
      changeDiscussionThreadApproval, changeDiscussionThreadMessageContent,
      changeDiscussionThreadMessageApproval, setMessageCommentToSolved, quoteUserInMessage,
      changeDiscussionTagName, changeDiscussionTagUiBlob, deleteDiscussionTag, addDiscussionTagToThread,
      removeDiscussionTagFromThread, changeDiscussionCategoryName, changeDiscussionCategoryDescription,
      changeDiscussionCategoryDisplayOrder, addDiscussionTagToCategory, removeDiscussionTagFromCategory,
      deleteUser, deletePrivateMessage, deleteAttachment, addAttachmentToDiscussionThreadMessage,
      removeAttachmentFromDiscussionThreadMessage, deleteDiscussionThread, subscribeToDiscussionThread,
      unsubscribeFromDiscussionThread, deleteDiscussionMessage, moveDiscussionThreadMessage]
    repeat' split
    all_goals
      simp [-DiscussionTag.toPlacement_deleteDiscussionThread, -DiscussionCategory.toPlacement_addTag,
        -DiscussionCategory.toPlacement_removeTag, User.updateName, EntityCollection.modifyUser, EntityCollection.modifyThread,
        EntityCollection.modifyMessage, EntityCollection.modifyTag, EntityCollection.modifyCategory,
        DiscussionThread.toStore_updateName, DiscussionThread.toStore_updatePinDisplayOrder,
        DiscussionThread.setApproved, DiscussionThread.resetVisitorsSinceLastEdit,
        DiscussionThread.setLatestVisibleChange, DiscussionThreadMessage.changeSolvedCommentsCount,
        updateTagLastUpdated, updateCategoryLastUpdated, DiscussionThread.addTag, DiscussionThread.removeTag,
        DiscussionTag.addCategory, DiscussionTag.removeCategory, DiscussionThreadMessage.setParentThread,
        DiscussionThreadMessage.addAttachment, DiscussionThreadMessage.removeAttachment,
        EntityCollection.eraseAttachmentMessage, DiscussionThread.insertSubscribedUser,
        DiscussionThread.eraseSubscribedUser] <;> rfl

/-! ### The simulation -/

theorem hierarchy_addNewDiscussionCategory (id : IdType) (name : NameType) (parentId : IdType)
    (h : ¬s.uniqueContains .categoriesByName (.text name)) :
    (addNewDiscussionCategory ctx s id name parentId).2.hierarchy =
      s.hierarchy.insert id (if parentId ≠ 0 ∧ parentId ∈ s.hierarchy.nodes then some parentId else none) := by
  have hnodes : s.hierarchy.nodes = s.categories := rfl
  unfold addNewDiscussionCategory
  rw [if_neg h, hnodes]
  by_cases hp : parentId ≠ 0 ∧ parentId ∈ s.categories
  · simp only [hp, Placement.hierarchy, EntityCollection.toStore_categoriesAdd]
    simp [DiscussionCategory.addChild, EntityCollection.createDiscussionCategory, EntityCollection.construct,
      EntityCollection.modifyCategory, Placement.construct, Hierarchy.insert, hp.1]
  · simp only [hp, decide_false, if_false, Placement.hierarchy, EntityCollection.toStore_categoriesAdd]
    simp [EntityCollection.createDiscussionCategory, EntityCollection.construct,
      EntityCollection.modifyCategory, Placement.construct, Hierarchy.insert]

/-- Every operation is a step of the hierarchy; the walk of `hasAncestor` may visit as many categories
as there are ids. -/
theorem hierarchyStep_perform (op : Operation) :
    HierarchyStep s.issuedIds.card op s.hierarchy (op.perform ctx s).2.hierarchy := by
  by_cases hk : op.keepsHierarchy
  · exact .of_eq (.keep op _) (hierarchy_perform ctx s hk)
  cases op <;> simp only [Operation.keepsHierarchy, not_true_eq_false, Bool.false_eq_true, not_false_eq_true] at hk <;>
    simp only [Operation.perform]
  case addNewUser id name auth =>
    unfold addNewUser
    split_ifs
    · exact .keep _ _
    · exact .keep _ _
    · refine .of_eq (.construct id rfl) ?_
      simp [EntityCollection.createUser, EntityCollection.construct, EntityCollection.modifyUser, User.updateAuth]
  case sendPrivateMessage id destination content =>
    unfold sendPrivateMessage
    dsimp only
    split_ifs
    · exact .keep _ _
    · refine .of_eq (.construct id rfl) ?_
      simp [EntityCollection.createPrivateMessage, EntityCollection.construct, EntityCollection.modifyUser]
    · exact .keep _ _
  case addNewAttachment id name size approved =>
    refine .of_eq (.construct id rfl) ?_
    simp [addNewAttachment, EntityCollection.createAttachment, EntityCollection.construct]
  case addNewDiscussionThread id name approved =>
    refine .of_eq (.construct id rfl) ?_
    simp [addNewDiscussionThread, EntityCollection.createDiscussionThread, EntityCollection.construct,
      EntityCollection.modifyThread, DiscussionThread.setLatestVisibleChange,
      DiscussionThread.toStore_updateLastUpdated]
  case addNewDiscussionMessageInThread id thread approved content =>
    unfold addNewDiscussionMessageInThread
    dsimp only
    split
    · refine .of_eq (.construct id rfl) ?_
      split
      · rfl
      all_goals
        split_ifs <;>
          simp [EntityCollection.createDiscussionThreadMessage, EntityCollection.construct,
            EntityCollection.modifyMessage, DiscussionThreadMessage.setParentThread,
            DiscussionThread.resetVisitorsSinceLastEdit, DiscussionThread.setLatestVisibleChange,
            EntityCollection.modifyThread, DiscussionThread.insertSubscribedUser]
    · exact .keep _ _
  case addCommentToDiscussionThreadMessage id message content =>
    unfold addCommentToDiscussionThreadMessage
    dsimp only
    split_ifs
    · refine .of_eq (.construct id rfl) ?_
      simp [EntityCollection.createMessageComment, EntityCollection.construct]
    · exact .keep _ _
  case addNewDiscussionTag id name =>
    unfold addNewDiscussionTag
    split_ifs
    · exact .keep _ _
    · refine .of_eq (.construct id rfl) ?_
      simp [EntityCollection.createDiscussionTag, EntityCollection.construct, EntityCollection.modifyTag]
      rfl
  case addNewDiscussionCategory id name parentId =>
    by_cases h : s.uniqueContains .categoriesByName (.text name)
    · simpa [addNewDiscussionCategory, h] using .keep _ _
    · exact .of_eq .addNewDiscussionCategory (hierarchy_addNewDiscussionCategory ctx s id name parentId h)
  case changeDiscussionCategoryParent id newParentId =>
    unfold changeDiscussionCategoryParent
    dsimp only
    by_cases h : id ∈ s.categories
    · rw [if_pos h]
      by_cases hcycle : newParentId ∈ s.categories ∧ DiscussionCategory.hasAncestor newParentId s id
      · rw [if_pos hcycle]
        exact .keep _ _
      · rw [if_neg hcycle]
        have hstep : HierarchyStep s.issuedIds.card (.changeDiscussionCategoryParent id newParentId) s.hierarchy
            (s.hierarchy.move id (if newParentId ∈ s.categories then some newParentId else none)) :=
          .changeDiscussionCategoryParent h fun hnew hwalk => hcycle ⟨hnew, decide_eq_true hwalk⟩
        cases hparent : s.categoryParent id with
        | none => exact hstep.of_eq (hierarchy_updateCategoryParent ctx s id _ _)
        | some parent =>
          simp only
          by_cases hsame : parent = newParentId
          · rw [if_pos hsame]
            exact .keep _ _
          · rw [if_neg hsame]
            refine hstep.of_eq ((hierarchy_updateCategoryParent ctx _ id _ _).trans ?_)
            exact Hierarchy.move_removeChild (h := s.hierarchy) hparent _
    · rw [if_neg h]
      exact .keep _ _
  case deleteDiscussionCategory id =>
    unfold deleteDiscussionCategory
    dsimp only
    split_ifs with h
    · refine .of_eq (.deleteDiscussionCategory id h) ?_
      have hloop : ((ascending (s.categoryChildren id)).foldl (fun s' child =>
          updateCategoryParent ctx s' child none (getCurrentUser ctx s)) s).hierarchy =
            (ascending (s.categoryChildren id)).foldl (fun h child => h.move child none) s.hierarchy :=
        foldl_view_eq (fun s : EntityCollection => s.hierarchy) fun s' child _ =>
          hierarchy_updateCategoryParent ctx s' child none _
      have hnodes : ((ascending (s.categoryChildren id)).foldl (fun h child => h.move child none) s.hierarchy).nodes =
          s.categories := foldl_view Hierarchy.nodes fun _ _ _ => rfl
      refine (EntityCollection.hierarchy_deleteDiscussionCategory ctx _ id ?_).trans (by rw [hloop]; rfl)
      have hmem : id ∈ ((ascending (s.categoryChildren id)).foldl (fun s' child =>
          updateCategoryParent ctx s' child none (getCurrentUser ctx s)) s).hierarchy.nodes := by rwa [hloop, hnodes]
      exact hmem
    · exact .keep _ _

/-! ### The invariant -/

/-- No operation takes an id back. -/
theorem issuedIds_perform (op : Operation) : s.issuedIds ⊆ (op.perform ctx s).2.issuedIds :=
  (ownershipStep_perform ctx s op).issuedIds_subset

theorem issuedIds_addNewDiscussionCategory (id : IdType) (name : NameType) (parentId : IdType)
    (h : ¬s.uniqueContains .categoriesByName (.text name)) :
    (addNewDiscussionCategory ctx s id name parentId).2.issuedIds = insert id s.issuedIds := by
  unfold addNewDiscussionCategory
  rw [if_neg h]
  dsimp only
  split_ifs <;> simp [DiscussionCategory.addChild, EntityCollection.createDiscussionCategory,
    EntityCollection.construct, EntityCollection.modifyCategory, Ownership.construct]

/-- The categories are a forest, and their ids were given out. -/
structure HierarchySound (s : EntityCollection) : Prop where
  forest : s.hierarchy.IsForest
  issued : s.categories ⊆ s.issuedIds

namespace HierarchySound

variable {s} {op : Operation}

theorem empty : HierarchySound .empty where
  forest := by constructor <;> simp [EntityCollection.empty, Placement.hierarchy]
  issued := Finset.empty_subset _

/-- The walk of `hasAncestor` misses no ancestor. -/
theorem ancestors_parentChain (h : HierarchySound s) {category : IdType} (hc : category ∈ s.categories) :
    Ancestors s.categoryParent category (s.categoryParents category) :=
  h.forest.ancestors_parentChain hc (Finset.card_le_card h.issued)

theorem forest_step (h : HierarchySound s) (callable : Callable s op) {h' : Hierarchy IdType}
    (hstep : HierarchyStep s.issuedIds.card op s.hierarchy h') : h'.IsForest := by
  have hfresh : ∀ {id}, op.newId = some id → id ∉ s.hierarchy.nodes := fun hid hmem =>
    (callable.fresh _ hid).2 (h.issued hmem)
  cases hstep with
  | keep => exact h.forest
  | construct id hid =>
    have hne : ∀ a ∈ s.hierarchy.nodes, a ≠ id := fun a ha heq => hfresh hid (heq ▸ ha)
    exact h.forest.agrees ⟨rfl, fun a ha => Function.update_of_ne (hne a ha) _ _,
      fun a ha => Function.update_of_ne (hne a ha) _ _⟩
  | addNewDiscussionCategory =>
    refine h.forest.insert (hfresh rfl) fun p hp => ?_
    split_ifs at hp with hknown
    · cases hp
      exact hknown.2
    · cases hp
  | changeDiscussionCategoryParent known walk =>
    refine h.forest.move known fun p hp => ?_
    split_ifs at hp with hknown
    · cases hp
      refine ⟨hknown, ?_, fun l hl => ?_⟩
      · rintro rfl
        exact callable.parent_ne _ rfl
      · rw [(h.ancestors_parentChain hknown).unique hl]
        exact walk hknown
    · cases hp
  | deleteDiscussionCategory id known =>
    obtain ⟨hforest, hnodes, hchildren⟩ := h.forest.foldl_move_none (l := ascending (s.hierarchy.children _))
      fun x hx => h.forest.children_mem _ known (mem_ascending.1 hx)
    refine hforest.remove (by rwa [hnodes]) (hchildren _ known ?_)
    rw [toFinset_ascending]

theorem step (h : HierarchySound s) (ctx : Context) (callable : Callable s op) :
    HierarchySound (op.perform ctx s).2 where
  forest := h.forest_step callable (hierarchyStep_perform ctx s op)
  issued := by
    have hissued := h.issued.trans (issuedIds_perform ctx s op)
    by_cases hadd : ∃ id name parentId, op = .addNewDiscussionCategory id name parentId
    · obtain ⟨id, name, parentId, rfl⟩ := hadd
      by_cases hname : s.uniqueContains .categoriesByName (.text name)
      · simpa [Operation.perform, addNewDiscussionCategory, hname] using h.issued
      · have hnodes := congrArg Hierarchy.nodes (hierarchy_addNewDiscussionCategory ctx s id name parentId hname)
        have hids := issuedIds_addNewDiscussionCategory ctx s id name parentId hname
        exact (hnodes.trans rfl).subset.trans (hids ▸ Finset.insert_subset_insert _ h.issued)
    · have hnodes : (op.perform ctx s).2.hierarchy.nodes ⊆ s.hierarchy.nodes :=
        (hierarchyStep_perform ctx s op).nodes_subset fun id name parentId heq => hadd ⟨id, name, parentId, heq⟩
      exact hnodes.trans hissued

end HierarchySound

/-- In every state reached the categories are a forest. -/
theorem Reachable.hierarchySound {admissible : Context → EntityCollection → Operation → Prop} (h : Reachable admissible s) :
    HierarchySound s :=
  h.invariant .empty fun _ ctx _ callable _ ih => ih.step ctx callable

end Forum.Repository
