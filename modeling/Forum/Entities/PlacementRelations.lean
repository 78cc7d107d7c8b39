import Forum.Entities.OwnershipEffects

/-!
# What the operations do to the placement relations

An abstract view of tags and categories: only which threads, tags and categories know each other.
`Placement.place`, `unplace`, `attach` and `detach` are what happens when threads enter and leave a
category, and when a thread is given and loses a tag. The functions of tags and categories are shown
to do this, whatever the counters and indexes hold; where they visit the threads of a collection,
the listing they follow appears as a list.
-/

namespace Forum.Entities

open Forum.Library

/-! ### Threads in categories -/

namespace Placement

variable (p : Placement)

/-- Threads enter a category; those that are new to it are told so. -/
def place (category : IdType) (threads : Finset IdType) : Placement :=
  { p with
    categoryThreads := Function.update p.categoryThreads category (p.categoryThreads category ∪ threads)
    threadCategories := fun thread =>
      if thread ∈ threads ∧ thread ∉ p.categoryThreads category then insert category (p.threadCategories thread)
      else p.threadCategories thread }

/-- Threads leave a category; those that were in it are told so, unless they are about to be
deleted. -/
def unplace (category : IdType) (threads : Finset IdType) (aboutToBeDeleted : IdType → Bool) : Placement :=
  { p with
    categoryThreads := Function.update p.categoryThreads category (p.categoryThreads category \ threads)
    threadCategories := fun thread =>
      if thread ∈ threads ∧ thread ∈ p.categoryThreads category ∧ ¬aboutToBeDeleted thread then
        (p.threadCategories thread).erase category
      else p.threadCategories thread }

/-- Do the thread and the category have a tag in common? -/
def Shares (thread category : IdType) : Prop := ∃ tag ∈ p.threadTags thread, tag ∈ p.categoryTags category

instance (thread category : IdType) : Decidable (p.Shares thread category) :=
  inferInstanceAs (Decidable (∃ tag ∈ p.threadTags thread, tag ∈ p.categoryTags category))

/-- A thread joins a tag, and with it the categories of the tag. -/
def attach (tag thread : IdType) : Placement :=
  { p with
    tagThreads := Function.update p.tagThreads tag (insert thread (p.tagThreads tag))
    categoryThreads := fun category =>
      if category ∈ p.tagCategories tag then insert thread (p.categoryThreads category)
      else p.categoryThreads category
    threadCategories := Function.update p.threadCategories thread
      (p.threadCategories thread ∪
        (p.tagCategories tag).filter fun category => thread ∉ p.categoryThreads category) }

/-- A thread leaves a tag, and with it those categories of the tag that it shares no other tag
with. -/
def detach (tag thread : IdType) (aboutToBeDeleted : Bool) : Placement :=
  { p with
    tagThreads := Function.update p.tagThreads tag ((p.tagThreads tag).erase thread)
    categoryThreads := fun category =>
      if category ∈ p.tagCategories tag ∧ ¬p.Shares thread category then (p.categoryThreads category).erase thread
      else p.categoryThreads category
    threadCategories :=
      if aboutToBeDeleted then p.threadCategories
      else Function.update p.threadCategories thread
        (p.threadCategories thread \ (p.tagCategories tag).filter fun category =>
          ¬p.Shares thread category ∧ thread ∈ p.categoryThreads category) }

end Placement

variable (ctx : Context) (s : EntityCollection)

namespace DiscussionCategory

variable (category thread tag : IdType)

theorem toPlacement_insertNewDiscussionThreads (threads : List IdType)
    (h : ∀ t ∈ threads, t ∉ s.categoryThreads category) :
    (insertNewDiscussionThreads ctx category s threads).toPlacement =
      s.toPlacement.place category threads.toFinset := by
  rw [toStore_insertNewDiscussionThreads]
  simp only [Placement.place, List.mem_toFinset, Placement.mk.injEq, true_and, and_true]
  funext t
  by_cases ht : t ∈ threads
  · simp [ht, h t ht]
  · simp [ht]

/-- The threads that a category has already are left out. -/
theorem Placement.place_filter (p : Placement) (threads : List IdType) :
    p.place category (threads.filter fun t => t ∉ p.categoryThreads category).toFinset =
      p.place category threads.toFinset := by
  simp only [Placement.place, Placement.mk.injEq, true_and, and_true]
  refine ⟨?_, ?_⟩
  · congr 1
    ext t
    simp only [Finset.mem_union, List.mem_toFinset, List.mem_filter, decide_eq_true_eq]
    tauto
  · funext t
    simp only [List.mem_toFinset, List.mem_filter, decide_eq_true_eq]
    grind

@[simp] theorem toPlacement_insertDiscussionThreads (threads : List IdType) :
    (insertDiscussionThreads ctx category s threads).toPlacement =
      s.toPlacement.place category threads.toFinset := by
  rw [← Placement.place_filter]
  unfold insertDiscussionThreads
  dsimp only
  split_ifs with h
  · rw [h]
    simp [Placement.place]
  · exact toPlacement_insertNewDiscussionThreads ctx s category _ fun t ht => by simpa using (List.mem_filter.1 ht).2

@[simp] theorem toPlacement_insertDiscussionThreadsOfTag :
    (insertDiscussionThreadsOfTag ctx category s tag).toPlacement =
      s.toPlacement.place category (s.iterateThreads (.tag tag)).toFinset :=
  toPlacement_insertDiscussionThreads ctx s category (s.iterateThreads (.tag tag))

@[simp] theorem toPlacement_deleteDiscussionThread (deleteMessages onlyThisCategory : Bool) :
    (deleteDiscussionThread ctx category s thread deleteMessages onlyThisCategory).toPlacement =
      s.toPlacement.unplace category {thread} s.threadAboutToBeDeleted := by
  rw [toStore_deleteDiscussionThread]
  by_cases hmem : thread ∈ s.categoryThreads category
  · rw [if_pos hmem]
    simp only [Placement.unplace, Finset.sdiff_singleton_eq_erase, Placement.mk.injEq, true_and, and_true]
    funext t
    by_cases ht : t = thread
    · subst ht
      cases s.threadAboutToBeDeleted t <;> simp [hmem]
    · cases s.threadAboutToBeDeleted thread <;> simp [ht]
  · rw [if_neg hmem]
    simp only [Placement.unplace, Finset.sdiff_singleton_eq_erase, Finset.erase_eq_of_notMem hmem,
      Function.update_eq_self]
    have : ∀ t, ¬(t ∈ ({thread} : Finset IdType) ∧ t ∈ s.categoryThreads category ∧
        ¬s.threadAboutToBeDeleted t = true) := by
      rintro t ⟨ht, h, -⟩
      exact hmem (Finset.mem_singleton.1 ht ▸ h)
    simp only [this, if_false]

@[simp] theorem toPlacement_deleteDiscussionThreadIfNoOtherTagsReferenceIt (deleteMessages : Bool) :
    (deleteDiscussionThreadIfNoOtherTagsReferenceIt ctx category s thread deleteMessages).toPlacement =
      if s.Shares thread category then s.toPlacement
      else s.toPlacement.unplace category {thread} s.threadAboutToBeDeleted := by
  unfold deleteDiscussionThreadIfNoOtherTagsReferenceIt
  by_cases h : ∃ tag ∈ s.threadTags thread, tag ∈ s.categoryTags category
  · have hshares : s.Shares thread category := h
    rw [if_pos h, if_pos hshares]
  · have hshares : ¬s.Shares thread category := h
    rw [if_neg h, if_neg hshares, ← toPlacement_deleteDiscussionThread ctx s category thread deleteMessages true]
    exact foldl_view (fun s : EntityCollection => s.toPlacement) fun _ _ _ => rfl

/-- Threads leave one after the other. -/
theorem Placement.unplace_unplace (p : Placement) (threads threads' : Finset IdType) (released : IdType → Bool) :
    (p.unplace category threads released).unplace category threads' released =
      p.unplace category (threads ∪ threads') released := by
  simp only [Placement.unplace, Placement.mk.injEq, true_and, and_true]
  refine ⟨?_, ?_⟩
  · simp [sdiff_sdiff]
  · funext t
    simp only [Function.update_self, Finset.mem_sdiff, Finset.mem_union]
    grind

/-- The loop of `removeTag`. -/
theorem toPlacement_foldl_deleteDiscussionThreadIfNoOtherTagsReferenceIt (threads : List IdType)
    (deleteMessages : Bool) :
    (threads.foldl (fun s thread =>
      deleteDiscussionThreadIfNoOtherTagsReferenceIt ctx category s thread deleteMessages) s).toPlacement =
      s.toPlacement.unplace category (threads.toFinset.filter fun t => ¬s.Shares t category)
        s.threadAboutToBeDeleted := by
  induction threads generalizing s with
  | nil => simp [Placement.unplace]
  | cons t threads ih =>
    rw [List.foldl_cons, ih, toPlacement_deleteDiscussionThreadIfNoOtherTagsReferenceIt,
      (ownershipKept_deleteDiscussionThreadIfNoOtherTagsReferenceIt ctx s category t deleteMessages).1,
      List.toFinset_cons, Finset.filter_insert]
    split_ifs with h
    · rfl
    · rw [Finset.insert_eq, ← Placement.unplace_unplace]
      rfl

@[simp] theorem toPlacement_addTag :
    (addTag ctx category s tag).toPlacement =
      if tag ∈ s.categoryTags category then s.toPlacement
      else
        { s.toPlacement with
          categoryTags := Function.update s.categoryTags category (insert tag (s.categoryTags category)) }.place
          category (s.iterateThreads (.tag tag)).toFinset := by
  unfold addTag
  split_ifs
  · rfl
  · exact toPlacement_insertDiscussionThreadsOfTag ctx _ category tag

@[simp] theorem toPlacement_removeTag :
    (removeTag ctx category s tag).toPlacement =
      if tag ∈ s.categoryTags category then
        let p : Placement :=
          { s.toPlacement with
            categoryTags := Function.update s.categoryTags category ((s.categoryTags category).erase tag) }
        p.unplace category ((s.iterateThreads (.tag tag)).toFinset.filter fun t => ¬p.Shares t category)
          s.threadAboutToBeDeleted
      else s.toPlacement := by
  unfold removeTag
  split_ifs
  · exact toPlacement_foldl_deleteDiscussionThreadIfNoOtherTagsReferenceIt ctx _ category _ true
  · rfl

end DiscussionCategory

/-! ### Threads in tags -/

namespace DiscussionTag

variable (tag thread : IdType)

/-- A thread that a tag takes in enters the tag's categories one after the other. -/
theorem toPlacement_foldl_insertDiscussionThreads (categories : List IdType) :
    (categories.foldl (fun (acc : List IdType × EntityCollection) category =>
      (DiscussionCategory.compactThreads category acc.2 acc.1,
        DiscussionCategory.insertDiscussionThreads ctx category acc.2 acc.1)) ([thread], s)).2.toPlacement =
      categories.foldl (fun p category => p.place category {thread}) s.toPlacement := by
  induction categories generalizing s with
  | nil => rfl
  | cons category categories ih =>
    -- an array of one thread is the same after it was compacted
    have hcompact : DiscussionCategory.compactThreads category s [thread] = [thread] := by
      unfold DiscussionCategory.compactThreads
      by_cases h : thread ∈ s.categoryThreads category <;> simp [h]
    rw [List.foldl_cons, List.foldl_cons, hcompact, ih, DiscussionCategory.toPlacement_insertDiscussionThreads]
    rfl

theorem foldl_place (p : Placement) {categories : List IdType} (hn : categories.Nodup) :
    categories.foldl (fun p category => p.place category {thread}) p =
      { p with
        categoryThreads := fun category =>
          if category ∈ categories then insert thread (p.categoryThreads category) else p.categoryThreads category
        threadCategories := Function.update p.threadCategories thread
          (p.threadCategories thread ∪
            categories.toFinset.filter fun category => thread ∉ p.categoryThreads category) } := by
  induction categories generalizing p with
  | nil => simp
  | cons category categories ih =>
    obtain ⟨hc, hn⟩ := List.nodup_cons.1 hn
    rw [List.foldl_cons, ih _ hn]
    simp only [Placement.place, Placement.mk.injEq, true_and, and_true]
    refine ⟨?_, ?_⟩
    · funext c
      ext t
      by_cases hcc : c = category
      · subst hcc; simp [hc]
      · simp [hcc]
    · funext t
      by_cases ht : t = thread
      · subst ht
        ext c
        by_cases hcc : c = category
        · subst hcc
          by_cases hm : t ∈ p.categoryThreads c <;> simp [hc, hm]
        · by_cases hm : t ∈ p.categoryThreads category <;> simp [hcc, hm]
      · simp [ht]

/-- Giving a tag to a thread that it does not have. -/
theorem toPlacement_insertDiscussionThread (h : thread ∉ s.tagThreads tag) :
    (insertDiscussionThread ctx tag s thread).toPlacement = s.toPlacement.attach tag thread := by
  unfold insertDiscussionThread insertDiscussionThreads
  simp only [List.filter_cons, h, not_false_eq_true, decide_true, if_true, List.filter_nil, List.cons_ne_nil,
    if_false, EntityCollection.toStore_finishUpdate]
  rw [toPlacement_foldl_insertDiscussionThreads, foldl_place _ _ (nodup_ascending _)]
  simp [Store.setThreads, Store.threads, Placement.attach, EntityCollection.addTagMessageCount,
    Finset.union_comm]

theorem foldl_unplace (p : Placement) (aboutToBeDeleted : IdType → Bool) {categories : List IdType}
    (hn : categories.Nodup) :
    categories.foldl (fun p category =>
      if p.Shares thread category then p else p.unplace category {thread} aboutToBeDeleted) p =
      { p with
        categoryThreads := fun category =>
          if category ∈ categories ∧ ¬p.Shares thread category then (p.categoryThreads category).erase thread
          else p.categoryThreads category
        threadCategories :=
          if aboutToBeDeleted thread then p.threadCategories
          else Function.update p.threadCategories thread
            (p.threadCategories thread \ categories.toFinset.filter fun category =>
              ¬p.Shares thread category ∧ thread ∈ p.categoryThreads category) } := by
  induction categories generalizing p with
  | nil => simp
  | cons category categories ih =>
    obtain ⟨hc, hn⟩ := List.nodup_cons.1 hn
    rw [List.foldl_cons, ih _ hn]
    clear ih
    have hshares : ∀ c, Placement.Shares (if p.Shares thread category then p
        else p.unplace category {thread} aboutToBeDeleted) thread c ↔ p.Shares thread c := by
      intro c
      split_ifs <;> rfl
    simp only [hshares]
    by_cases h : p.Shares thread category
    · simp only [h, if_true, Placement.mk.injEq, true_and, and_true]
      refine ⟨?_, ?_⟩
      · funext c
        by_cases hcc : c = category
        · subst hcc; simp [h]
        · simp [hcc]
      · simp [Finset.filter_insert, h]
    · simp only [h, if_false, Placement.unplace, Placement.mk.injEq, true_and, and_true]
      refine ⟨?_, ?_⟩
      · funext c
        by_cases hcc : c = category
        · subst hcc; simp [h, hc, Finset.sdiff_singleton_eq_erase]
        · simp [hcc]
      · by_cases hd : aboutToBeDeleted thread
        · simp only [hd, if_true]
          funext t
          by_cases ht : t = thread
          · subst ht; simp [hd]
          · simp [ht]
        · simp only [hd, Bool.false_eq_true, if_false]
          funext t
          by_cases ht : t = thread
          · subst ht
            ext c
            by_cases hcc : c = category
            · subst hcc
              by_cases hm : t ∈ p.categoryThreads c <;> simp [hc, hm, h]
            · by_cases hm : t ∈ p.categoryThreads category <;> simp [hcc, hm]
          · simp [ht]

@[simp] theorem toPlacement_deleteDiscussionThread (deleteMessages : Bool) :
    (deleteDiscussionThread ctx tag s thread deleteMessages).toPlacement =
      if thread ∈ s.tagThreads tag then s.toPlacement.detach tag thread (s.threadAboutToBeDeleted thread)
      else s.toPlacement := by
  have loop : ∀ (categories : List IdType) (s : EntityCollection),
      (categories.foldl (fun s category =>
        DiscussionCategory.deleteDiscussionThreadIfNoOtherTagsReferenceIt ctx category s thread
          deleteMessages) s).toPlacement =
      categories.foldl (fun p category =>
        if p.Shares thread category then p else p.unplace category {thread} s.threadAboutToBeDeleted)
        s.toPlacement := by
    intro categories
    induction categories with
    | nil => intro s; rfl
    | cons category categories ih =>
      intro s
      rw [List.foldl_cons, ih, List.foldl_cons,
        (DiscussionCategory.ownershipKept_deleteDiscussionThreadIfNoOtherTagsReferenceIt ctx s category thread
          deleteMessages).1,
        DiscussionCategory.toPlacement_deleteDiscussionThreadIfNoOtherTagsReferenceIt]
  unfold deleteDiscussionThread
  by_cases h : thread ∈ s.tagThreads tag
  · cases deleteMessages
    all_goals
      simp only [h, if_true, if_false, Bool.false_eq_true, EntityCollection.toStore_prepareUpdate,
        EntityCollection.toStore_finishUpdate, loop, foldl_unplace _ _ _ (nodup_ascending _), mem_ascending]
      simp only [Store.setThreads, Store.threads, EntityCollection.addTagMessageCount,
        EntityCollection.toStore_threadsRemove, EntityCollection.toStore_prepareUpdate, toFinset_ascending]
      rfl
  · cases deleteMessages <;> simp [h]

end DiscussionTag

/-! ### Leaving the placement alone -/

theorem toPlacement_foldl {α : Type*} {f : EntityCollection → α → EntityCollection} {l : List α}
    (h : ∀ s, ∀ x ∈ l, (f s x).toPlacement = s.toPlacement) : (l.foldl f s).toPlacement = s.toPlacement :=
  foldl_view (fun s : EntityCollection => s.toPlacement) h

namespace DiscussionCategory

variable (category thread : IdType)

@[simp] theorem toPlacement_updateMessageCount (delta : ℤ) :
    (updateMessageCount category s thread delta).toPlacement = s.toPlacement := by
  have hparents : ∀ (categories : List IdType) (s : EntityCollection),
      (categories.foldl (fun s c => s.modifyTotals c fun T => { T with messageCount := T.messageCount + delta })
        s).toPlacement = s.toPlacement := fun categories s => toPlacement_foldl s fun _ _ _ => rfl
  simp only [updateMessageCount, EntityCollection.toStore_finishUpdate, hparents]
  simp [EntityCollection.modifyTotals, EntityCollection.addCategoryMessageCount]

@[simp] theorem toPlacement_removeTotalsFromChild (child : IdType) :
    (removeTotalsFromChild category s child).toPlacement = s.toPlacement :=
  toPlacement_foldl s fun _ _ _ => rfl

@[simp] theorem toPlacement_addTotalsFromChild (child : IdType) :
    (addTotalsFromChild category s child).toPlacement = s.toPlacement :=
  toPlacement_foldl s fun _ _ _ => rfl

@[simp] theorem toPlacement_updateName (name : NameType) :
    (updateName category s name).toPlacement = s.toPlacement := by
  simp [updateName, EntityCollection.modifyCategory]

@[simp] theorem toPlacement_updateDisplayOrder (value : ℤ) :
    (updateDisplayOrder category s value).toPlacement = s.toPlacement := by
  unfold updateDisplayOrder
  split_ifs <;> simp [EntityCollection.modifyCategory]

@[simp] theorem toPlacement_updateParent (newParent : Option IdType) :
    (updateParent category s newParent).toPlacement =
      { s.toPlacement with categoryParent := Function.update s.categoryParent category newParent } := by
  simp [updateParent]

end DiscussionCategory

namespace DiscussionTag

variable (tag : IdType)

@[simp] theorem toPlacement_updateName (name : NameType) : (updateName tag s name).toPlacement = s.toPlacement := by
  simp [updateName, EntityCollection.modifyTag]

@[simp] theorem toPlacement_updateMessageCount (delta : ℤ) :
    (updateMessageCount tag s delta).toPlacement = s.toPlacement := by
  unfold updateMessageCount
  split_ifs <;> simp [EntityCollection.addTagMessageCount]

end DiscussionTag

namespace EntityCollection

variable (message : IdType)

@[simp] theorem toPlacement_deleteMessageComment (comment : IdType) :
    (s.deleteMessageComment comment).toPlacement = s.toPlacement := by
  unfold deleteMessageComment
  split_ifs
  · simp [Store.setComments]
  · rfl

@[simp] theorem toPlacement_detachMessageFromThread (thread : IdType) :
    (detachMessageFromThread ctx s message thread).toPlacement = s.toPlacement := by
  have htags : ∀ (tags : List IdType) (s : EntityCollection),
      (tags.foldl (fun s tag => DiscussionTag.updateMessageCount tag s (-1)) s).toPlacement = s.toPlacement :=
    fun tags s => toPlacement_foldl s fun s g _ => DiscussionTag.toPlacement_updateMessageCount s g (-1)
  have hcategories : ∀ (categories : List IdType) (s : EntityCollection),
      (categories.foldl (fun s category => DiscussionCategory.updateMessageCount category s thread (-1))
        s).toPlacement = s.toPlacement := fun categories s =>
    toPlacement_foldl s fun s c _ => DiscussionCategory.toPlacement_updateMessageCount s c thread (-1)
  simp [detachMessageFromThread, htags, hcategories, DiscussionThread.setLatestVisibleChange,
    DiscussionThread.resetVisitorsSinceLastEdit, modifyThread]

@[simp] theorem toPlacement_deleteDiscussionThreadMessage (alsoFromUser : Bool) :
    (deleteDiscussionThreadMessage ctx s message alsoFromUser).toPlacement = s.toPlacement := by
  have hvotes : ∀ (users : List IdType) (s : EntityCollection),
      (users.foldl (fun s user => User.removeVote user s message) s).toPlacement = s.toPlacement :=
    fun users s => toPlacement_foldl s fun _ _ _ => rfl
  have hattachments : ∀ (attachments : List IdType) (s : EntityCollection),
      (attachments.foldl (fun s attachment => s.eraseAttachmentMessage attachment message) s).toPlacement =
        s.toPlacement := fun attachments s => toPlacement_foldl s fun _ _ _ => rfl
  have hcomments : ∀ (comments : List IdType) (s : EntityCollection),
      (comments.foldl deleteMessageComment s).toPlacement = s.toPlacement :=
    fun comments s => toPlacement_foldl s fun s c _ => toPlacement_deleteMessageComment s c
  unfold deleteDiscussionThreadMessage
  dsimp only
  split_ifs <;> simp [hvotes, hattachments, hcomments, Store.setMessages]

@[simp] theorem toPlacement_detachComment (comment : IdType) :
    (s.detachComment comment).toPlacement = s.toPlacement := by
  unfold detachComment
  dsimp only
  split_ifs <;> simp [Store.setComments, DiscussionThreadMessage.changeSolvedCommentsCount, modifyMessage]

@[simp] theorem toPlacement_attachmentsAdd (c : AttachmentCollectionRef) (attachment : IdType) :
    (s.attachmentsAdd c attachment).toPlacement = s.toPlacement := by
  by_cases h : attachment ∈ s.attachments c
  · simp [attachmentsAdd, h]
  · rw [toStore_attachmentsAdd _ _ _ h]
    cases c <;> rfl

@[simp] theorem toPlacement_attachmentsRemove (c : AttachmentCollectionRef) (attachment : IdType) :
    (s.attachmentsRemove c attachment).toPlacement = s.toPlacement := by
  by_cases h : attachment ∈ s.attachments c
  · rw [toStore_attachmentsRemove _ _ _ h]
    cases c <;> rfl
  · simp [attachmentsRemove, h]

@[simp] theorem toPlacement_deleteAttachment (attachment : IdType) (alsoFromUser : Bool) :
    (s.deleteAttachment attachment alsoFromUser).toPlacement = s.toPlacement := by
  have hmessages : ∀ (messages : List IdType) (s : EntityCollection),
      (messages.foldl (fun s message => DiscussionThreadMessage.removeAttachment message s attachment)
        s).toPlacement = s.toPlacement := fun messages s => toPlacement_foldl s fun _ _ _ => rfl
  unfold deleteAttachment
  dsimp only
  split_ifs <;> simp [hmessages]

end EntityCollection

end Forum.Entities
