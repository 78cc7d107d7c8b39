import Forum.Entities.PlacementRelations

/-!
# What the operations do to the counters

The message counts of tags and categories when messages come and go, and what deleting messages and
threads does to the whole store. A thread that is being deleted takes its messages with it without
telling its tags and categories of each.
-/

namespace Forum.Entities

open Forum.Library

variable (ctx : Context) (s : EntityCollection)

/-- Two stores with the same parts. -/
theorem Store.ext_parts {s : Store} {o : Ownership} {p : Placement} {c : Counters} {f : Properties} {b : Bool}
    (ho : s.toOwnership = o) (hp : s.toPlacement = p) (hc : s.toCounters = c) (hf : s.toProperties = f)
    (hb : s.batchInsertInProgress = b) :
    s = { toOwnership := o, toPlacement := p, toCounters := c, toProperties := f, batchInsertInProgress := b } := by
  subst ho hp hc hf hb
  rfl

/-! ### Message counts -/

/-- More messages in the threads counted. -/
def TotalThreads.addMessages (T : TotalThreads) (delta : ℤ) : TotalThreads :=
  { T with messageCount := T.messageCount + delta }

/-- The categories whose totals `updateMessageCount` changes: the category, and its parents up to the
first that holds the thread itself. -/
def Store.countingCategories (s : Store) (category thread : IdType) : List IdType :=
  category :: (s.categoryParents category).takeWhile fun c => thread ∉ s.categoryThreads c

theorem DiscussionCategory.toStore_updateMessageCount (category thread : IdType) (delta : ℤ) :
    (updateMessageCount category s thread delta).toStore =
      { s.toStore with
        categoryMessageCount :=
          Function.update s.categoryMessageCount category (s.categoryMessageCount category + delta)
        totalThreads := updateEach (s.countingCategories category thread) (·.addMessages delta) s.totalThreads } := by
  have hparents : ∀ (categories : List IdType) (s : EntityCollection),
      (categories.foldl (fun s c => s.modifyTotals c fun T => { T with messageCount := T.messageCount + delta }) s).toStore =
        { s.toStore with totalThreads := updateEach categories (·.addMessages delta) s.totalThreads } :=
    fun categories s => toStore_foldl_modifyTotals s categories (f := fun _ T => T.addMessages delta) fun _ _ _ => rfl
  unfold updateMessageCount
  simp only [EntityCollection.toStore_finishUpdate, hparents]
  simp only [EntityCollection.modifyTotals, EntityCollection.addCategoryMessageCount,
    EntityCollection.toStore_prepareUpdate, Store.countingCategories, Store.categoryParents]
  rfl

theorem DiscussionTag.toStore_updateMessageCount (tag : IdType) (delta : ℤ) :
    (updateMessageCount tag s delta).toStore =
      { s.toStore with
        tagMessageCount := Function.update s.tagMessageCount tag (s.tagMessageCount tag + delta) } := by
  unfold updateMessageCount
  split_ifs with h
  · simp [h]
  · simp [EntityCollection.addTagMessageCount]

/-- Telling several tags. -/
theorem toStore_foldl_updateMessageCount_tag (delta : ℤ) {tags : List IdType} (hn : tags.Nodup) :
    (tags.foldl (fun s tag => DiscussionTag.updateMessageCount tag s delta) s).toStore =
      { s.toStore with
        tagMessageCount := fun tag =>
          if tag ∈ tags then s.tagMessageCount tag + delta else s.tagMessageCount tag } := by
  induction tags generalizing s with
  | nil => simp
  | cons tag tags ih =>
    obtain ⟨ht, hn⟩ := List.nodup_cons.1 hn
    rw [List.foldl_cons, ih _ hn, DiscussionTag.toStore_updateMessageCount]
    simp only [Store.mk.injEq, Counters.mk.injEq, true_and, and_true]
    funext g
    by_cases hg : g = tag
    · subst hg; simp [ht]
    · simp [hg]

/-- Telling several categories. -/
theorem toStore_foldl_updateMessageCount_category (thread : IdType) (delta : ℤ) {categories : List IdType}
    (hn : categories.Nodup) :
    (categories.foldl (fun s category => DiscussionCategory.updateMessageCount category s thread delta) s).toStore =
      { s.toStore with
        categoryMessageCount := fun category =>
          if category ∈ categories then s.categoryMessageCount category + delta else s.categoryMessageCount category
        totalThreads := categories.foldl (fun totals category =>
          updateEach (s.countingCategories category thread) (·.addMessages delta) totals) s.totalThreads } := by
  induction categories generalizing s with
  | nil => simp
  | cons category categories ih =>
    obtain ⟨hc, hn⟩ := List.nodup_cons.1 hn
    have hwalk : ∀ c, (DiscussionCategory.updateMessageCount category s thread delta).countingCategories c thread =
        s.countingCategories c thread := by
      intro c
      rw [DiscussionCategory.toStore_updateMessageCount]
      rfl
    rw [List.foldl_cons, ih _ hn]
    simp only [hwalk]
    simp only [DiscussionCategory.toStore_updateMessageCount, List.foldl_cons, Store.mk.injEq,
      Counters.mk.injEq, true_and, and_true]
    funext c
    by_cases hcc : c = category
    · subst hcc; simp [hc]
    · simp [hcc]

/-! ### Deleting messages -/

namespace EntityCollection

variable (message thread : IdType)

/-- A message leaves its thread, which tells its tags and categories. -/
theorem toStore_detachMessageFromThread :
    (detachMessageFromThread ctx s message thread).toStore =
      { s.toStore with
        threadMessages := Function.update s.threadMessages thread ((s.threadMessages thread).erase message)
        latestMessageCreated := Function.update s.latestMessageCreated thread
          (DiscussionThread.lastCreated thread (s.messagesRemove (.ofThread thread) message))
        thread := Function.update s.thread thread
          { (s.thread thread).touched ctx with visitorsSinceLastEdit := ∅ }
        tagMessageCount := fun tag =>
          if tag ∈ s.threadTags thread then s.tagMessageCount tag + -1 else s.tagMessageCount tag
        categoryMessageCount := fun category =>
          if category ∈ s.threadCategories thread then s.categoryMessageCount category + -1
          else s.categoryMessageCount category
        totalThreads := (ascending (s.threadCategories thread)).foldl (fun totals category =>
          updateEach (s.countingCategories category thread) (·.addMessages (-1)) totals) s.totalThreads } := by
  unfold detachMessageFromThread
  simp only [toStore_foldl_updateMessageCount_category _ _ _ (nodup_ascending _),
    toStore_foldl_updateMessageCount_tag _ _ (nodup_ascending _), DiscussionThread.setLatestVisibleChange,
    DiscussionThread.resetVisitorsSinceLastEdit, modifyThread, DiscussionThread.toStore_deleteDiscussionThreadMessage,
    mem_ascending, Store.countingCategories, Store.categoryParents]
  simp [DiscussionThread.touched]

/-- Deleting a message of a thread that is being deleted itself changes the ownership only. -/
theorem toStore_deleteDiscussionThreadMessage_of_aboutToBeDeleted (alsoFromUser : Bool)
    (hd : s.threadAboutToBeDeleted (s.messageParentThread message) = true) :
    (s.deleteDiscussionThreadMessage ctx message alsoFromUser).toStore =
      { s.toStore with toOwnership := s.toOwnership.deleteMessages {message} alsoFromUser } := by
  obtain ⟨ho, hb⟩ := toOwnership_deleteDiscussionThreadMessage ctx s message alsoFromUser
  have hp := toPlacement_deleteDiscussionThreadMessage ctx s message alsoFromUser
  have hc : (s.deleteDiscussionThreadMessage ctx message alsoFromUser).toCounters = s.toCounters ∧
      (s.deleteDiscussionThreadMessage ctx message alsoFromUser).toProperties = s.toProperties := by
    unfold deleteDiscussionThreadMessage
    cases alsoFromUser <;> by_cases hm : message ∈ s.allMessages <;>
      simp [hm, hd, toStore_foldl_eraseAttachmentMessage, toStore_foldl_removeVote,
        toStore_foldl_deleteMessageComment, Store.setMessages, Ownership.messages]
  exact Store.ext_parts ho hp hc.1 hc.2 hb

theorem toStore_foldl_deleteDiscussionThreadMessage_of_aboutToBeDeleted (alsoFromUser : Bool) (messages : List IdType)
    (hd : ∀ m ∈ messages, s.threadAboutToBeDeleted (s.messageParentThread m) = true) :
    (messages.foldl (fun s message => deleteDiscussionThreadMessage ctx s message alsoFromUser) s).toStore =
      { s.toStore with toOwnership := s.toOwnership.deleteMessages messages.toFinset alsoFromUser } := by
  induction messages generalizing s with
  | nil => simp [Ownership.deleteMessages_empty]
  | cons message messages ih =>
    have hstep := toStore_deleteDiscussionThreadMessage_of_aboutToBeDeleted ctx s message alsoFromUser
      (hd message List.mem_cons_self)
    rw [List.foldl_cons, ih _ (by rw [hstep]; exact fun m hm => hd m (List.mem_cons_of_mem _ hm)), hstep]
    simp only [Ownership.deleteMessages_deleteMessages, List.toFinset_cons, Finset.insert_eq]

/-- Deleting a message of a thread that stays: the thread and its tags and categories are told. -/
theorem toStore_deleteDiscussionThreadMessage_of_stays (alsoFromUser : Bool) (hm : message ∈ s.allMessages)
    (hd : s.threadAboutToBeDeleted (s.messageParentThread message) = false) :
    let thread := s.messageParentThread message
    ∃ created, (s.deleteDiscussionThreadMessage ctx message alsoFromUser).toStore =
      { s.toStore with
        toOwnership := s.toOwnership.deleteMessages {message} alsoFromUser
        latestMessageCreated := Function.update s.latestMessageCreated thread created
        thread := Function.update s.thread thread
          { (s.thread thread).touched ctx with visitorsSinceLastEdit := ∅ }
        tagMessageCount := fun tag =>
          if tag ∈ s.threadTags thread then s.tagMessageCount tag + -1 else s.tagMessageCount tag
        categoryMessageCount := fun category =>
          if category ∈ s.threadCategories thread then s.categoryMessageCount category + -1
          else s.categoryMessageCount category
        totalThreads := (ascending (s.threadCategories thread)).foldl (fun totals category =>
          updateEach (s.countingCategories category thread) (·.addMessages (-1)) totals) s.totalThreads } := by
  intro thread
  obtain ⟨ho, hb⟩ := toOwnership_deleteDiscussionThreadMessage ctx s message alsoFromUser
  have hp := toPlacement_deleteDiscussionThreadMessage ctx s message alsoFromUser
  -- what is left to do is done in a state with the counters and properties of `s`
  obtain ⟨s', hs', hplacement, hcounters, hproperties, hids⟩ : ∃ s' : EntityCollection,
      s.deleteDiscussionThreadMessage ctx message alsoFromUser = detachMessageFromThread ctx s' message thread ∧
        s'.toPlacement = s.toPlacement ∧ s'.toCounters = s.toCounters ∧ s'.toProperties = s.toProperties ∧
        s'.issuedIds = s.issuedIds := by
    unfold deleteDiscussionThreadMessage
    rw [if_pos hm]
    dsimp only
    generalize hs' : (List.foldl (fun s attachment => s.eraseAttachmentMessage attachment message) _ _ :
      EntityCollection) = s'
    have hkept : s'.toPlacement = s.toPlacement ∧ s'.toCounters = s.toCounters ∧
        s'.toProperties = s.toProperties ∧ s'.issuedIds = s.issuedIds ∧
        s'.messageParentThread = s.messageParentThread ∧ s'.threadAboutToBeDeleted = s.threadAboutToBeDeleted := by
      subst hs'
      cases alsoFromUser <;>
        simp [toStore_foldl_eraseAttachmentMessage, toStore_foldl_removeVote, toStore_foldl_deleteMessageComment,
          Store.setMessages, Ownership.messages]
    obtain ⟨h₁, h₂, h₃, h₄, h₅, h₆⟩ := hkept
    refine ⟨s', ?_, h₁, h₂, h₃, h₄⟩
    rw [h₅, h₆, hd]
    exact if_neg Bool.false_ne_true
  have hwalk : ∀ c, s'.countingCategories c thread = s.countingCategories c thread := by
    intro c
    unfold Store.countingCategories Store.categoryParents
    rw [hplacement, hids]
  have hdetach := toStore_detachMessageFromThread ctx s' message thread
  refine ⟨DiscussionThread.lastCreated thread (s'.messagesRemove (.ofThread thread) message),
    Store.ext_parts ho hp ?_ ?_ hb⟩
  · rw [hs', hdetach]
    simp only [hplacement, hcounters, hwalk]
  · rw [hs', hdetach]
    simp only [hproperties]

end EntityCollection

/-! ### Deleting threads -/

variable (thread : IdType) (deleteMessages : Bool)

/-- A thread that is being deleted leaves its categories; the totals of each and of its parents drop
it. -/
theorem toStore_foldl_deleteDiscussionThread_category {categories : List IdType} (hn : categories.Nodup)
    (hd : s.threadAboutToBeDeleted thread = true) :
    (categories.foldl (fun s category =>
      DiscussionCategory.deleteDiscussionThread ctx category s thread deleteMessages false) s).toStore =
      { s.toStore with
        categoryThreads := fun c =>
          if c ∈ categories then (s.categoryThreads c).erase thread else s.categoryThreads c
        categoryMessageCount := fun c =>
          if deleteMessages ∧ c ∈ categories ∧ thread ∈ s.categoryThreads c then
            s.categoryMessageCount c - s.threadMessageCount thread
          else s.categoryMessageCount c
        totalThreads := categories.foldl (fun totals c =>
          if thread ∈ s.categoryThreads c then
            updateEach (s.categoryAndParents c) (fun T => T.remove s.threadMessageCount thread) totals
          else totals) s.totalThreads } := by
  induction categories generalizing s with
  | nil => simp
  | cons category categories ih =>
    obtain ⟨hc, hn⟩ := List.nodup_cons.1 hn
    have hstep := DiscussionCategory.toStore_deleteDiscussionThread ctx s category thread deleteMessages false
    have hkept := DiscussionCategory.ownershipKept_deleteDiscussionThread ctx s category thread deleteMessages false
    rw [List.foldl_cons, ih _ hn (by rw [hkept.1]; exact hd)]
    by_cases hmem : thread ∈ s.categoryThreads category
    · simp only [hstep, hmem, hd, if_true, Bool.false_eq_true, if_false, List.foldl_cons, Store.mk.injEq,
        Placement.mk.injEq, Counters.mk.injEq, true_and, and_true]
      refine ⟨?_, ?_, ?_⟩
      · funext c
        by_cases hcc : c = category
        · subst hcc; simp [hc]
        · simp [hcc]
      · funext c
        by_cases hcc : c = category
        · subst hcc
          cases deleteMessages <;> simp [hc, hmem]
        · cases deleteMessages <;> simp [hcc]
      · refine List.foldl_ext _ _ _ fun totals c hcl => ?_
        have hcc : c ≠ category := fun heq => hc (heq ▸ hcl)
        rw [Function.update_of_ne hcc]
        rfl
    · simp only [hstep, hmem, if_false, List.foldl_cons, Store.mk.injEq, Placement.mk.injEq, Counters.mk.injEq,
        true_and, and_true]
      refine ⟨?_, ?_⟩
      · funext c
        by_cases hcc : c = category
        · subst hcc; simp [hc, Finset.erase_eq_of_notMem hmem]
        · simp [hcc]
      · funext c
        by_cases hcc : c = category
        · subst hcc; simp [hmem]
        · simp [hcc]

/-- A thread leaves a tag, and no category. -/
theorem toStore_deleteDiscussionThread_tag {tag : IdType}
    (hshares : thread ∈ s.tagThreads tag → ∀ category ∈ s.tagCategories tag, s.Shares thread category) :
    (DiscussionTag.deleteDiscussionThread ctx tag s thread deleteMessages).toStore =
      { s.toStore with
        tagThreads := Function.update s.tagThreads tag ((s.tagThreads tag).erase thread)
        tagMessageCount := Function.update s.tagMessageCount tag
          (if deleteMessages ∧ thread ∈ s.tagThreads tag then s.tagMessageCount tag - s.threadMessageCount thread
          else s.tagMessageCount tag) } := by
  -- as the categories of the tag keep the thread, the loop does nothing
  have hloop : ∀ (categories : List IdType) (s : EntityCollection),
      (∀ c ∈ categories, s.Shares thread c) →
        categories.foldl (fun s category =>
          DiscussionCategory.deleteDiscussionThreadIfNoOtherTagsReferenceIt ctx category s thread deleteMessages) s = s := by
    intro categories s hs
    refine foldl_keeps (P := fun s' => s' = s) rfl fun s' c hc heq => ?_
    subst heq
    exact if_pos (hs c hc)
  unfold DiscussionTag.deleteDiscussionThread
  by_cases hmem : thread ∈ s.tagThreads tag
  · have hs : ∀ s' : EntityCollection, s'.tagCategories = s.tagCategories → s'.threadTags = s.threadTags →
        s'.categoryTags = s.categoryTags → ∀ c ∈ ascending (s'.tagCategories tag), s'.Shares thread c := by
      intro s' h₁ h₂ h₃ c hc
      unfold Placement.Shares
      rw [h₂, h₃]
      exact hshares hmem c (h₁ ▸ mem_ascending.1 hc)
    cases deleteMessages
    · simp only [Bool.false_eq_true, if_false, EntityCollection.toStore_prepareUpdate, hmem, if_true,
        EntityCollection.toStore_finishUpdate]
      rw [hloop _ _ (hs _ (by simp [Store.setThreads]) (by simp [Store.setThreads]) (by simp [Store.setThreads]))]
      simp [Store.setThreads, Store.threads]
    · simp only [if_true, EntityCollection.toStore_prepareUpdate, hmem, EntityCollection.toStore_finishUpdate]
      rw [hloop _ _ (hs _ (by simp [EntityCollection.addTagMessageCount, Store.setThreads])
        (by simp [EntityCollection.addTagMessageCount, Store.setThreads])
        (by simp [EntityCollection.addTagMessageCount, Store.setThreads]))]
      simp [EntityCollection.addTagMessageCount, Store.setThreads, Store.threads, sub_eq_add_neg]
  · cases deleteMessages <;> simp [hmem]

/-- A thread that is being deleted leaves its tags. The categories of the tags share them with the
thread as long as it has them, so the tags leave the categories alone. -/
theorem toStore_foldl_deleteDiscussionThread_tag {tags : List IdType} (hn : tags.Nodup)
    (hshares : ∀ tag ∈ tags, thread ∈ s.tagThreads tag → ∀ category ∈ s.tagCategories tag, s.Shares thread category) :
    (tags.foldl (fun s tag => DiscussionTag.deleteDiscussionThread ctx tag s thread deleteMessages) s).toStore =
      { s.toStore with
        tagThreads := fun g => if g ∈ tags then (s.tagThreads g).erase thread else s.tagThreads g
        tagMessageCount := fun g =>
          if deleteMessages ∧ g ∈ tags ∧ thread ∈ s.tagThreads g then
            s.tagMessageCount g - s.threadMessageCount thread
          else s.tagMessageCount g } := by
  induction tags generalizing s with
  | nil => simp
  | cons tag tags ih =>
    obtain ⟨ht, hn⟩ := List.nodup_cons.1 hn
    have hstep := toStore_deleteDiscussionThread_tag ctx s thread deleteMessages
      fun hmem => hshares tag List.mem_cons_self hmem
    rw [List.foldl_cons, ih _ hn]
    · simp only [hstep, Store.mk.injEq, Placement.mk.injEq, Counters.mk.injEq, true_and, and_true]
      refine ⟨?_, ?_⟩
      · funext g
        by_cases hg : g = tag
        · subst hg; simp [ht]
        · simp [hg]
      · funext g
        by_cases hg : g = tag
        · subst hg; simp [ht]
        · simp [hg]
    · intro g hg hmem c hc
      rw [hstep] at hmem hc ⊢
      have hgt : g ≠ tag := fun heq => ht (heq ▸ hg)
      refine hshares g (List.mem_cons_of_mem _ hg) ?_ c hc
      simpa [Function.update_of_ne hgt] using hmem

/-- Deleting a thread whose tags and categories know it: it leaves them, and the totals above the
categories drop it; its messages go without a word to them. -/
theorem EntityCollection.toStore_deleteDiscussionThread_of_parent (alsoFromUser : Bool) (ht : thread ∈ s.allThreads)
    (hparent : deleteMessages = true → ∀ m ∈ s.threadMessages thread, s.messageParentThread m = thread)
    (hshares : ∀ tag ∈ s.threadTags thread, thread ∈ s.tagThreads tag → ∀ category ∈ s.tagCategories tag,
      s.Shares thread category) :
    (s.deleteDiscussionThread ctx thread deleteMessages alsoFromUser).toStore =
      { s.toStore with
        toOwnership := s.toOwnership.deleteThread thread deleteMessages alsoFromUser
        tagThreads := fun g =>
          if g ∈ s.threadTags thread then (s.tagThreads g).erase thread else s.tagThreads g
        categoryThreads := fun c =>
          if c ∈ s.threadCategories thread then (s.categoryThreads c).erase thread else s.categoryThreads c
        tagMessageCount := fun g =>
          if deleteMessages ∧ g ∈ s.threadTags thread ∧ thread ∈ s.tagThreads g then
            s.tagMessageCount g - s.threadMessageCount thread
          else s.tagMessageCount g
        categoryMessageCount := fun c =>
          if deleteMessages ∧ c ∈ s.threadCategories thread ∧ thread ∈ s.categoryThreads c then
            s.categoryMessageCount c - s.threadMessageCount thread
          else s.categoryMessageCount c
        totalThreads := (ascending (s.threadCategories thread)).foldl (fun totals c =>
          if thread ∈ s.categoryThreads c then
            updateEach (s.categoryAndParents c) (fun T => T.remove s.threadMessageCount thread) totals
          else totals) s.totalThreads } := by
  obtain ⟨ho, hb⟩ := toOwnership_deleteDiscussionThread ctx s thread deleteMessages alsoFromUser
  -- the state in which the categories are told
  obtain ⟨s', hs', hplacement, hcounters, hproperties, hflag, hmessages, hmessageParent, hids⟩ : ∃ s' : EntityCollection,
      s.deleteDiscussionThread ctx thread deleteMessages alsoFromUser =
        (let s := (ascending (s'.threadCategories thread)).foldl (fun s category =>
          DiscussionCategory.deleteDiscussionThread ctx category s thread deleteMessages false) s'
        let s := (ascending (s.threadTags thread)).foldl (fun s tag =>
          DiscussionTag.deleteDiscussionThread ctx tag s thread deleteMessages) s
        let s := (ascending (s.threadSubscribedUsers thread)).foldl (fun s user =>
          s.threadsRemove (.subscribedBy user) thread) s
        if deleteMessages then
          (ascending (s.threadMessages thread)).foldl (fun s message =>
            deleteDiscussionThreadMessage ctx s message true) s
        else s) ∧
      s'.toPlacement = s.toPlacement ∧ s'.toCounters = s.toCounters ∧ s'.toProperties = s.toProperties ∧
        s'.threadAboutToBeDeleted thread = true ∧ s'.threadMessages = s.threadMessages ∧
        s'.messageParentThread = s.messageParentThread ∧ s'.issuedIds = s.issuedIds := by
    unfold deleteDiscussionThread
    rw [if_pos ht]
    refine ⟨_, rfl, ?_⟩
    cases alsoFromUser <;> simp [DiscussionThread.setAboutToBeDeleted, Store.setThreads]
  have hcategories := toStore_foldl_deleteDiscussionThread_category ctx s' thread deleteMessages
    (nodup_ascending (s'.threadCategories thread)) hflag
  simp only [hplacement] at hcategories hs'
  have hthreadTags := congrArg (fun s => s.threadTags thread) hcategories
  dsimp only at hthreadTags
  rw [hthreadTags] at hs'
  generalize (ascending (s.threadCategories thread)).foldl (fun s category =>
    DiscussionCategory.deleteDiscussionThread ctx category s thread deleteMessages false) s' = sc at hs' hcategories
  have htags := toStore_foldl_deleteDiscussionThread_tag ctx sc thread deleteMessages
    (nodup_ascending (s.threadTags thread)) (by
      rw [hcategories]
      exact fun tag htag => hshares tag (mem_ascending.1 htag))
  rw [hcategories] at htags
  generalize (ascending (s.threadTags thread)).foldl (fun s tag =>
    DiscussionTag.deleteDiscussionThread ctx tag s thread deleteMessages) sc = st at hs' htags
  generalize ascending (st.threadSubscribedUsers thread) = users at hs'
  have hsubscribers := toStore_foldl_threadsRemove_subscribedBy st thread users
  rw [htags] at hsubscribers
  generalize users.foldl (fun s user => s.threadsRemove (.subscribedBy user) thread) st = ss at hs' hsubscribers
  have hcount : s'.threadMessageCount = s.threadMessageCount := by
    funext t
    unfold Ownership.threadMessageCount
    rw [hmessages]
  have hwalk : s'.categoryAndParents = s.categoryAndParents := by
    funext c
    unfold Store.categoryAndParents Store.categoryParents
    rw [hplacement, hids]
  -- deleting the messages is a matter of ownership
  have hrest : (s.deleteDiscussionThread ctx thread deleteMessages alsoFromUser).toPlacement = ss.toPlacement ∧
      (s.deleteDiscussionThread ctx thread deleteMessages alsoFromUser).toCounters = ss.toCounters ∧
      (s.deleteDiscussionThread ctx thread deleteMessages alsoFromUser).toProperties = ss.toProperties := by
    rw [hs']
    split_ifs with hdelete
    · rw [toStore_foldl_deleteDiscussionThreadMessage_of_aboutToBeDeleted]
      · exact ⟨rfl, rfl, rfl⟩
      · intro m hm
        rw [hsubscribers] at hm ⊢
        rw [mem_ascending, hmessages] at hm
        simp only [hmessageParent, hparent hdelete m hm, hflag]
    · exact ⟨rfl, rfl, rfl⟩
  obtain ⟨hp, hc, hf⟩ := hrest
  refine Store.ext_parts ho (hp.trans ?_) (hc.trans ?_) (hf.trans ?_) hb
  · rw [hsubscribers]
    simp only [mem_ascending]
  · rw [hsubscribers]
    simp only [hcounters, hcount, hwalk, mem_ascending]
  · rw [hsubscribers]
    exact hproperties

/-- So it is when the messages of the thread know it, too. -/
theorem EntityCollection.toStore_deleteDiscussionThread (alsoFromUser : Bool) (ht : thread ∈ s.allThreads)
    (hparent : ∀ m ∈ s.threadMessages thread, s.messageParentThread m = thread)
    (hshares : ∀ tag ∈ s.threadTags thread, thread ∈ s.tagThreads tag → ∀ category ∈ s.tagCategories tag,
      s.Shares thread category) :
    (s.deleteDiscussionThread ctx thread deleteMessages alsoFromUser).toStore =
      { s.toStore with
        toOwnership := s.toOwnership.deleteThread thread deleteMessages alsoFromUser
        tagThreads := fun g =>
          if g ∈ s.threadTags thread then (s.tagThreads g).erase thread else s.tagThreads g
        categoryThreads := fun c =>
          if c ∈ s.threadCategories thread then (s.categoryThreads c).erase thread else s.categoryThreads c
        tagMessageCount := fun g =>
          if deleteMessages ∧ g ∈ s.threadTags thread ∧ thread ∈ s.tagThreads g then
            s.tagMessageCount g - s.threadMessageCount thread
          else s.tagMessageCount g
        categoryMessageCount := fun c =>
          if deleteMessages ∧ c ∈ s.threadCategories thread ∧ thread ∈ s.categoryThreads c then
            s.categoryMessageCount c - s.threadMessageCount thread
          else s.categoryMessageCount c
        totalThreads := (ascending (s.threadCategories thread)).foldl (fun totals c =>
          if thread ∈ s.categoryThreads c then
            updateEach (s.categoryAndParents c) (fun T => T.remove s.threadMessageCount thread) totals
          else totals) s.totalThreads } :=
  EntityCollection.toStore_deleteDiscussionThread_of_parent ctx s thread deleteMessages alsoFromUser ht
    (fun _ => hparent) hshares

end Forum.Entities
