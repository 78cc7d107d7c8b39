import Forum.Entities.CounterEffects
import Forum.Repository.Authors
import Forum.Repository.Comments

/-!
# What a deletion takes with it

Deleting a thread is to remove it with its messages, their comments and their votes from wherever
they are held, and to leave everything else as it is; deleting a message, the same for the message
alone. Two things can stay behind. A comment whose author was deleted is no longer held by its
message, and so stays in the store when the message goes. A thread stays in the totals of a category
that is not above any category of the thread; a category keeps such a thread after some of its
descendants have moved elsewhere.
-/

namespace Forum.Repository

open Forum.Entities Forum.Library

/-- The comments of the store that were made on some messages. -/
def commentsOn (o : Ownership) (messages : Finset IdType) : Finset IdType :=
  o.allComments.filter fun comment => o.commentParentMessage comment ∈ messages

/-- Each side of a relation holds what is in the store and holds it in turn. -/
structure RelationsSymmetric (s : Store) : Prop where
  subscriptions : ∀ thread ∈ s.allThreads, s.threadSubscribedUsers thread =
    (insert anonymousUser s.users).filter fun user => thread ∈ s.userSubscribedThreads user
  votes : ∀ message ∈ s.allMessages, s.messageUpVotes message ∪ s.messageDownVotes message =
    (insert anonymousUser s.users).filter fun user => message ∈ s.userVotedMessages user
  tags : ∀ thread ∈ s.allThreads,
    s.threadTags thread = s.tags.filter fun tag => thread ∈ s.tagThreads tag
  categories : ∀ thread ∈ s.allThreads,
    s.threadCategories thread = s.categories.filter fun category => thread ∈ s.categoryThreads category
  tagCategories : ∀ tag ∈ s.tags,
    s.tagCategories tag = s.categories.filter fun category => tag ∈ s.categoryTags category
  attachments : ∀ message ∈ s.allMessages,
    s.messageAttachments message = s.allAttachments.filter fun attachment => message ∈ s.attachmentMessages attachment

/-- Does a change to the thread concern the totals of the category, that is, is the category one of
the thread or above one? -/
def Above (s : Store) (category thread : IdType) : Prop :=
  ∃ c ∈ s.threadCategories thread, category ∈ s.categoryAndParents c

instance (s : Store) (category thread : IdType) : Decidable (Above s category thread) :=
  inferInstanceAs (Decidable (∃ c ∈ s.threadCategories thread, category ∈ s.categoryAndParents c))

/-- Threads and messages, and the comments made on these messages, leave every collection, and
nothing that does not involve them changes. A thread that stays but loses a message involves it. -/
structure DeletesExactly (s s' : Store) (threads messages : Finset IdType) : Prop where
  allThreads : s'.allThreads = s.allThreads \ threads
  allMessages : s'.allMessages = s.allMessages \ messages
  allComments : s'.allComments = s.allComments \ commentsOn s.toOwnership messages
  userThreads : ∀ user, UserObject s.toOwnership user → s'.userThreads user = s.userThreads user \ threads
  userSubscribedThreads : ∀ user, UserObject s.toOwnership user →
    s'.userSubscribedThreads user = s.userSubscribedThreads user \ threads
  userMessages : ∀ user, UserObject s.toOwnership user → s'.userMessages user = s.userMessages user \ messages
  userVotedMessages : ∀ user, UserObject s.toOwnership user →
    s'.userVotedMessages user = s.userVotedMessages user \ messages
  userComments : ∀ user, UserObject s.toOwnership user →
    s'.userComments user = s.userComments user \ commentsOn s.toOwnership messages
  tagThreads : ∀ tag ∈ s.tags, s'.tagThreads tag = s.tagThreads tag \ threads
  categoryThreads : ∀ category ∈ s.categories, s'.categoryThreads category = s.categoryThreads category \ threads
  totalThreads : ∀ category ∈ s.categories,
    (s'.totalThreads category).byId = (s.totalThreads category).byId \ threads
  attachmentMessages : ∀ attachment ∈ s.allAttachments,
    s'.attachmentMessages attachment = s.attachmentMessages attachment \ messages
  threadMessages : ∀ thread ∈ s'.allThreads, s'.threadMessages thread = s.threadMessages thread \ messages
  threadAboutToBeDeleted : ∀ thread ∈ s'.allThreads,
    s'.threadAboutToBeDeleted thread = s.threadAboutToBeDeleted thread
  /-- Nothing else changes about users, threads, messages, comments and attachments. -/
  ownership : s'.toOwnership =
    { s.toOwnership with
      allThreads := s'.allThreads
      allMessages := s'.allMessages
      allComments := s'.allComments
      userThreads := s'.userThreads
      userSubscribedThreads := s'.userSubscribedThreads
      userMessages := s'.userMessages
      userVotedMessages := s'.userVotedMessages
      userComments := s'.userComments
      attachmentMessages := s'.attachmentMessages
      threadMessages := s'.threadMessages
      threadAboutToBeDeleted := s'.threadAboutToBeDeleted }
  /-- Nothing else changes about tags and categories. -/
  placement : s'.toPlacement =
    { s.toPlacement with tagThreads := s'.tagThreads, categoryThreads := s'.categoryThreads }
  tagMessageCount : ∀ tag ∈ s.tags,
    (∀ thread ∈ threads ∪ messages.image s.messageParentThread, thread ∉ s.tagThreads tag) →
      s'.tagMessageCount tag = s.tagMessageCount tag
  categoryMessageCount : ∀ category ∈ s.categories,
    (∀ thread ∈ threads ∪ messages.image s.messageParentThread, thread ∉ s.categoryThreads category) →
      s'.categoryMessageCount category = s.categoryMessageCount category
  totals : ∀ category ∈ s.categories,
    (∀ thread ∈ threads ∪ messages.image s.messageParentThread, ¬Above s category thread) →
      s'.totalThreads category = s.totalThreads category
  referenceCount : ∀ category ∈ s.categories, ∀ thread ∉ threads,
    (s'.totalThreads category).referenceCount.lookup thread = (s.totalThreads category).referenceCount.lookup thread
  latestMessageCreated : ∀ thread ∉ threads ∪ messages.image s.messageParentThread,
    s'.latestMessageCreated thread = s.latestMessageCreated thread
  attachmentsTotalSize : s'.attachmentsTotalSize = s.attachmentsTotalSize
  /-- Nor do the plain fields, but for when a thread that lost a message has changed. -/
  properties : s'.toProperties = { s.toProperties with thread := s'.thread }
  thread : ∀ thread ∉ threads, s'.thread thread = s.thread thread ∨
    thread ∈ messages.image s.messageParentThread ∧ s'.thread thread =
      { s.thread thread with
        latestVisibleChange := (s'.thread thread).latestVisibleChange
        visitorsSinceLastEdit := (s'.thread thread).visitorsSinceLastEdit }
  batchInsertInProgress : s'.batchInsertInProgress = s.batchInsertInProgress

/-- Every comment made on one of the messages is held by it. -/
def CommentsHeld (o : Ownership) (messages : Finset IdType) : Prop :=
  ∀ comment ∈ o.allComments, o.commentParentMessage comment ∈ messages →
    comment ∈ o.messageComments (o.commentParentMessage comment)

/-- Every category whose totals have the thread is one of the thread or above one. -/
def TotalsAbove (s : Store) (thread : IdType) : Prop :=
  ∀ category ∈ s.categories, thread ∈ (s.totalThreads category).byId → Above s category thread

/-! ### Messages -/

section

variable {o : Ownership} {messages : Finset IdType}

/-- The comments of deleted messages are those made on them, except for those no longer held. -/
theorem exists_mem_messageComments (h : Commented o) (hm : messages ⊆ o.allMessages)
    (held : CommentsHeld o messages) {comment : IdType} (hc : comment ∈ o.allComments) :
    (∃ message ∈ messages ∩ o.allMessages, comment ∈ o.messageComments message) ↔
      o.commentParentMessage comment ∈ messages := by
  constructor
  · rintro ⟨message, hmessage, hmem⟩
    obtain ⟨hmessage, hall⟩ := Finset.mem_inter.1 hmessage
    rw [(h.messageComments message hall comment hmem).2]
    exact hmessage
  · intro hmem
    exact ⟨_, Finset.mem_inter.2 ⟨hmem, hm hmem⟩, held comment hc hmem⟩

theorem allComments_deleteMessages_iff (h : Commented o) (hm : messages ⊆ o.allMessages) (alsoFromUser : Bool) :
    (o.deleteMessages messages alsoFromUser).allComments = o.allComments \ commentsOn o messages ↔
      CommentsHeld o messages := by
  constructor
  · intro heq c hc hmem
    have hnot : c ∉ o.allComments \ commentsOn o messages := fun hc' =>
      (Finset.mem_sdiff.1 hc').2 (Finset.mem_filter.2 ⟨hc, hmem⟩)
    rw [← heq] at hnot
    obtain ⟨message, hmessage, hheld⟩ : ∃ message ∈ messages ∩ o.allMessages, c ∈ o.messageComments message := by
      by_contra hnone
      exact hnot (Finset.mem_filter.2 ⟨hc, hnone⟩)
    rw [(h.messageComments message (Finset.mem_inter.1 hmessage).2 c hheld).2]
    exact hheld
  · intro held
    ext c
    simp only [Ownership.deleteMessages, commentsOn, Finset.mem_filter, Finset.mem_sdiff]
    refine and_congr_right fun hc => ?_
    rw [exists_mem_messageComments h hm held hc]
    simp [hc]

theorem userComments_deleteMessages (h : Commented o) (hm : messages ⊆ o.allMessages) (alsoFromUser : Bool)
    (held : CommentsHeld o messages) {user : IdType} (hu : UserObject o user) :
    (o.deleteMessages messages alsoFromUser).userComments user = o.userComments user \ commentsOn o messages := by
  ext c
  simp only [Ownership.deleteMessages, commentsOn, Finset.mem_filter, Finset.mem_sdiff]
  refine and_congr_right fun hc => not_congr ?_
  obtain ⟨hall, hauthor⟩ := (h.userComments user hu c).1 hc
  simp only [hall, hauthor, true_and]
  exact exists_mem_messageComments h hm held hall

theorem userMessages_deleteMessages (h : Authored o) (hm : messages ⊆ o.allMessages) {user : IdType}
    (hu : UserObject o user) :
    (o.deleteMessages messages true).userMessages user = o.userMessages user \ messages := by
  ext m
  simp only [Ownership.deleteMessages, Finset.mem_filter, Finset.mem_sdiff, Finset.inter_eq_left.2 hm]
  refine and_congr_right fun hmem => not_congr ?_
  simp [((h.userMessages user hu m).1 hmem).2]

end

section

variable {s : Store} {messages : Finset IdType}

theorem userVotedMessages_deleteMessages (h : RelationsSymmetric s) (hm : messages ⊆ s.allMessages)
    (alsoFromUser : Bool) {user : IdType} (hu : UserObject s.toOwnership user) :
    (s.deleteMessages messages alsoFromUser).userVotedMessages user = s.userVotedMessages user \ messages := by
  ext m
  simp only [Ownership.deleteMessages, Finset.mem_filter, Finset.mem_sdiff, Finset.inter_eq_left.2 hm]
  refine and_congr_right fun hvoted => not_congr (and_iff_left_of_imp fun hmem => ?_)
  rw [← Finset.mem_union, h.votes m (hm hmem), Finset.mem_filter, Finset.mem_insert]
  exact ⟨hu, hvoted⟩

theorem attachmentMessages_deleteMessages (h : RelationsSymmetric s) (hm : messages ⊆ s.allMessages)
    (alsoFromUser : Bool) {attachment : IdType} (ha : attachment ∈ s.allAttachments) :
    (s.deleteMessages messages alsoFromUser).attachmentMessages attachment =
      s.attachmentMessages attachment \ messages := by
  ext m
  simp only [Ownership.deleteMessages, Finset.mem_filter, Finset.mem_sdiff, Finset.inter_eq_left.2 hm]
  refine and_congr_right fun hattached => not_congr (and_iff_left_of_imp fun hmem => ?_)
  rw [h.attachments m (hm hmem), Finset.mem_filter]
  exact ⟨ha, hattached⟩

end

/-! ### Threads -/

theorem userThreads_dropThread {o : Ownership} (h : Authored o) {thread user : IdType} (hu : UserObject o user) :
    (o.dropThread thread true).userThreads user = o.userThreads user \ {thread} := by
  ext t
  simp only [Ownership.dropThread, Finset.mem_filter, Finset.mem_sdiff, Finset.mem_singleton]
  refine and_congr_right fun hmem => not_congr ?_
  constructor
  · exact fun hdropped => hdropped.2.1
  · rintro rfl
    exact ⟨trivial, rfl, ((h.userThreads user hu t).1 hmem).2.symm⟩

section

variable {s : Store} {category thread : IdType}

theorem userSubscribedThreads_dropThread (h : RelationsSymmetric s) (ht : thread ∈ s.allThreads) (alsoFromUser : Bool)
    {user : IdType} (hu : UserObject s.toOwnership user) :
    (s.dropThread thread alsoFromUser).userSubscribedThreads user = s.userSubscribedThreads user \ {thread} := by
  ext t
  simp only [Ownership.dropThread, Finset.mem_filter, Finset.mem_sdiff, Finset.mem_singleton]
  refine and_congr_right fun hmem => not_congr (and_iff_left_of_imp ?_)
  rintro rfl
  rw [h.subscriptions t ht, Finset.mem_filter, Finset.mem_insert]
  exact ⟨hu, hmem⟩

namespace RelationsSymmetric

theorem mem_threadTags (h : RelationsSymmetric s) (ht : thread ∈ s.allThreads) (tag : IdType) :
    tag ∈ s.threadTags thread ↔ tag ∈ s.tags ∧ thread ∈ s.tagThreads tag := by
  rw [h.tags thread ht, Finset.mem_filter]

theorem mem_threadCategories (h : RelationsSymmetric s) (ht : thread ∈ s.allThreads) (category : IdType) :
    category ∈ s.threadCategories thread ↔ category ∈ s.categories ∧ thread ∈ s.categoryThreads category := by
  rw [h.categories thread ht, Finset.mem_filter]

/-- A thread shares its tag with each category of the tag. -/
theorem shares (h : RelationsSymmetric s) (ht : thread ∈ s.allThreads) {tag : IdType} (htag : tag ∈ s.threadTags thread)
    (hcategory : category ∈ s.tagCategories tag) : s.Shares thread category := by
  rw [h.tagCategories tag ((h.mem_threadTags ht tag).1 htag).1, Finset.mem_filter] at hcategory
  exact ⟨tag, htag, hcategory.2⟩

end RelationsSymmetric

/-! ### Totals -/

/-- A thread that leaves some categories and their parents leaves the totals of exactly these. -/
theorem totalThreads_foldl_remove (messageCount : IdType → ℤ) (categories : List IdType) :
    categories.foldl (fun totals c =>
        if thread ∈ s.categoryThreads c then
          updateEach (s.categoryAndParents c) (fun T => T.remove messageCount thread) totals
        else totals) s.totalThreads category =
      if ∃ c ∈ categories, thread ∈ s.categoryThreads c ∧ category ∈ s.categoryAndParents c then
        (s.totalThreads category).remove messageCount thread
      else s.totalThreads category := by
  have hwalks : ∀ (totals : IdType → TotalThreads) (c : IdType),
      (if thread ∈ s.categoryThreads c then
          updateEach (s.categoryAndParents c) (fun T => T.remove messageCount thread) totals
        else totals) =
        updateEach (if thread ∈ s.categoryThreads c then s.categoryAndParents c else [])
          (fun T => T.remove messageCount thread) totals := by
    intro totals c
    split_ifs <;> rfl
  have hremove := updateEach_apply_of_idempotent (f := fun T : TotalThreads => T.remove messageCount thread) (by
    intro T
    by_cases hT : thread ∈ T.byId <;> simp [TotalThreads.remove, hT])
    (categories.flatMap fun c => if thread ∈ s.categoryThreads c then s.categoryAndParents c else []) s.totalThreads category
  simp only [hwalks, foldl_updateEach, hremove, List.mem_flatMap]
  refine if_congr (exists_congr fun c => and_congr_right fun _ => ?_) rfl rfl
  split_ifs with h <;> simp [h]

/-- The totals that drop a thread that leaves all its categories are those above it. -/
theorem totalThreads_foldl_remove_threadCategories (h : RelationsSymmetric s) (ht : thread ∈ s.allThreads)
    (category : IdType) (messageCount : IdType → ℤ) :
    (ascending (s.threadCategories thread)).foldl (fun totals c =>
        if thread ∈ s.categoryThreads c then
          updateEach (s.categoryAndParents c) (fun T => T.remove messageCount thread) totals
        else totals) s.totalThreads category =
      if Above s category thread then (s.totalThreads category).remove messageCount thread
      else s.totalThreads category := by
  rw [totalThreads_foldl_remove]
  refine if_congr (exists_congr fun c => ?_) rfl rfl
  rw [mem_ascending]
  exact and_congr_right fun hc => and_iff_right ((h.mem_threadCategories ht c).1 hc).2

/-- Counting messages leaves the threads counted alone. -/
theorem totalThreads_foldl_addMessages (category thread : IdType) (delta : ℤ) (categories : List IdType) :
    let totals := categories.foldl (fun totals c =>
      updateEach (s.countingCategories c thread) (·.addMessages delta) totals) s.totalThreads
    (totals category).byId = (s.totalThreads category).byId ∧
      (totals category).referenceCount = (s.totalThreads category).referenceCount ∧
      ((∀ c ∈ categories, category ∉ s.categoryAndParents c) → totals category = s.totalThreads category) := by
  simp only [foldl_updateEach]
  refine ⟨updateEach_view TotalThreads.byId (by intro T; rfl) _ _ _,
    updateEach_view TotalThreads.referenceCount (by intro T; rfl) _ _ _, fun hnot => ?_⟩
  refine updateEach_apply_of_not_mem fun hmem => ?_
  obtain ⟨c, hc, hmem⟩ := List.mem_flatMap.1 hmem
  refine hnot c hc ?_
  rcases List.mem_cons.1 hmem with rfl | hmem
  · exact List.mem_cons_self
  · exact List.mem_cons_of_mem _ (List.takeWhile_subset _ hmem)

end

/-! ### The cascade -/

variable {admissible : Context → EntityCollection → Operation → Prop} {s : EntityCollection}

/-- Deleting a message of a state reached. -/
theorem deletesExactly_deleteDiscussionThreadMessage_iff (h : Reachable admissible s)
    (hs : RelationsSymmetric s.toStore) (ctx : Context) {message : IdType} (hm : message ∈ s.allMessages) :
    DeletesExactly s.toStore (s.deleteDiscussionThreadMessage ctx message true).toStore ∅ {message} ↔
      CommentsHeld s.toOwnership {message} := by
  have hauthored := h.authored
  have hcommented := h.commented
  have hsub : {message} ⊆ s.allMessages := Finset.singleton_subset_iff.2 hm
  have hthread := hauthored.messageParent message hm
  have hstays := hauthored.notAboutToBeDeleted _ hthread
  obtain ⟨created, hstore⟩ := s.toStore_deleteDiscussionThreadMessage_of_stays ctx message true hm hstays
  rw [hstore]
  refine ⟨fun hexact => (allComments_deleteMessages_iff hcommented hsub true).1 hexact.allComments, fun held => ?_⟩
  have htotals := fun category => totalThreads_foldl_addMessages (s := s.toStore) category
    (s.messageParentThread message) (-1) (ascending (s.threadCategories (s.messageParentThread message)))
  constructor
  case allThreads => exact Finset.sdiff_empty.symm
  case allMessages => rfl
  case allComments => exact (allComments_deleteMessages_iff hcommented hsub true).2 held
  case userThreads | userSubscribedThreads => exact fun _ _ => Finset.sdiff_empty.symm
  case userMessages => exact fun _ hu => userMessages_deleteMessages hauthored hsub hu
  case userVotedMessages => exact fun _ hu => userVotedMessages_deleteMessages hs hsub true hu
  case userComments => exact fun _ hu => userComments_deleteMessages hcommented hsub true held hu
  case tagThreads | categoryThreads => exact fun _ _ => Finset.sdiff_empty.symm
  case totalThreads => exact fun category _ => (htotals category).1.trans Finset.sdiff_empty.symm
  case attachmentMessages => exact fun _ ha => attachmentMessages_deleteMessages hs hsub true ha
  case threadMessages =>
    intro t ht
    ext m
    simp only [Ownership.deleteMessages, Finset.mem_filter, Finset.mem_sdiff, Finset.inter_eq_left.2 hsub]
    refine and_congr_right fun hmem => not_congr (and_iff_left_of_imp fun _ => ?_)
    refine ⟨((hauthored.threadMessages t ht m).1 hmem).2, ?_⟩
    simp [hauthored.notAboutToBeDeleted t ht]
  case threadAboutToBeDeleted => exact fun _ _ => rfl
  case ownership => rfl
  case placement => rfl
  case tagMessageCount =>
    intro tag htag hnot
    have hnone : tag ∉ s.threadTags (s.messageParentThread message) := by
      rw [hs.tags _ hthread, Finset.mem_filter]
      exact fun hmem => hnot _ (by simp) hmem.2
    exact if_neg hnone
  case categoryMessageCount =>
    intro category hcategory hnot
    have hnone : category ∉ s.threadCategories (s.messageParentThread message) := by
      rw [hs.categories _ hthread, Finset.mem_filter]
      exact fun hmem => hnot _ (by simp) hmem.2
    exact if_neg hnone
  case totals =>
    intro category _ hnot
    refine (htotals category).2.2 fun c hc hmem => ?_
    exact hnot (s.messageParentThread message) (by simp) ⟨c, mem_ascending.1 hc, hmem⟩
  case referenceCount =>
    intro category _ t _
    dsimp only
    rw [(htotals category).2.1]
  case latestMessageCreated =>
    intro t ht
    have hne : t ≠ s.messageParentThread message := by simpa using ht
    exact Function.update_of_ne hne _ _
  case attachmentsTotalSize | properties | batchInsertInProgress => rfl
  case thread =>
    intro t _
    by_cases hne : t = s.messageParentThread message
    · subst hne
      refine .inr ⟨by simp, ?_⟩
      simp [DiscussionThread.touched]
    · exact .inl (Function.update_of_ne hne _ _)

/-- Deleting a thread of a state reached. -/
theorem deletesExactly_deleteDiscussionThread_iff (h : Reachable admissible s)
    (hs : RelationsSymmetric s.toStore) (ctx : Context) {thread : IdType} (ht : thread ∈ s.allThreads) :
    DeletesExactly s.toStore (s.deleteDiscussionThread ctx thread true true).toStore {thread} (s.threadMessages thread) ↔
      CommentsHeld s.toOwnership (s.threadMessages thread) ∧ TotalsAbove s.toStore thread := by
  have hauthored := h.authored
  have hcommented := h.commented
  have hmessages := hauthored.threadMessages thread ht
  have hsub : s.threadMessages thread ⊆ s.allMessages := fun m hm => ((hmessages m).1 hm).1
  have hparent : ∀ m ∈ s.threadMessages thread, s.messageParentThread m = thread :=
    fun m hm => ((hmessages m).1 hm).2
  have htags := hs.mem_threadTags ht
  have hcategories := hs.mem_threadCategories ht
  have hinvolved : ∀ t, t ∈ {thread} ∪ (s.threadMessages thread).image s.messageParentThread ↔ t = thread := by
    intro t
    simp only [Finset.mem_union, Finset.mem_singleton, Finset.mem_image, or_iff_left_iff_imp]
    rintro ⟨m, hm, rfl⟩
    exact hparent m hm
  have hstore := s.toStore_deleteDiscussionThread ctx thread true true ht hparent
    fun tag htag _ category hcategory => hs.shares ht htag hcategory
  have hownership : s.deleteThread thread true true = (s.dropThread thread true).deleteMessages (s.threadMessages thread) true := by
    unfold Ownership.deleteThread
    rw [if_pos ht, if_pos rfl]
  rw [hownership] at hstore
  rw [hstore]
  have htotals := fun category => totalThreads_foldl_remove_threadCategories hs ht category s.threadMessageCount
  constructor
  · intro hexact
    refine ⟨(allComments_deleteMessages_iff hcommented hsub true).1 hexact.allComments, fun category hcategory hmem => ?_⟩
    by_contra hnot
    have hdropped := (congrArg TotalThreads.byId (htotals category)).symm.trans (hexact.totalThreads category hcategory)
    rw [if_neg hnot] at hdropped
    rw [hdropped] at hmem
    exact (Finset.mem_sdiff.1 hmem).2 (Finset.mem_singleton_self _)
  · rintro ⟨held, habove⟩
    constructor
    case allThreads => exact Finset.erase_eq _ _
    case allMessages => rfl
    case allComments => exact (allComments_deleteMessages_iff hcommented hsub true).2 held
    case userThreads => exact fun _ hu => userThreads_dropThread hauthored hu
    case userSubscribedThreads => exact fun _ hu => userSubscribedThreads_dropThread hs ht true hu
    case userMessages => exact fun _ hu => userMessages_deleteMessages hauthored hsub hu
    case userVotedMessages => exact fun _ hu => userVotedMessages_deleteMessages hs hsub true hu
    case userComments => exact fun _ hu => userComments_deleteMessages hcommented hsub true held hu
    case tagThreads =>
      intro tag htag
      by_cases hmem : thread ∈ s.tagThreads tag
      · exact (if_pos ((htags tag).2 ⟨htag, hmem⟩)).trans (Finset.erase_eq _ _)
      · rw [Finset.sdiff_singleton_eq_erase, Finset.erase_eq_of_notMem hmem]
        exact if_neg fun htag => hmem ((htags tag).1 htag).2
    case categoryThreads =>
      intro category hcategory
      by_cases hmem : thread ∈ s.categoryThreads category
      · exact (if_pos ((hcategories category).2 ⟨hcategory, hmem⟩)).trans (Finset.erase_eq _ _)
      · rw [Finset.sdiff_singleton_eq_erase, Finset.erase_eq_of_notMem hmem]
        exact if_neg fun hcategory => hmem ((hcategories category).1 hcategory).2
    case totalThreads =>
      intro category hcategory
      refine (congrArg TotalThreads.byId (htotals category)).trans ?_
      rw [Finset.sdiff_singleton_eq_erase]
      by_cases hmem : thread ∈ (s.totalThreads category).byId
      · rw [if_pos (habove category hcategory hmem), TotalThreads.remove, if_pos hmem]
      · rw [Finset.erase_eq_of_notMem hmem]
        split_ifs
        · rw [TotalThreads.remove, if_neg hmem]
        · rfl
    case attachmentMessages => exact fun _ ha => attachmentMessages_deleteMessages hs hsub true ha
    case threadMessages =>
      intro t htmem
      obtain ⟨hne, htall⟩ := Finset.mem_erase.1 htmem
      have hother : ∀ m ∈ s.threadMessages t, m ∉ s.threadMessages thread := fun m hm hm' =>
        hne (((hauthored.threadMessages t htall m).1 hm).2.symm.trans (hparent m hm'))
      ext m
      simp only [Ownership.deleteMessages, Ownership.dropThread, Finset.mem_filter, Finset.mem_sdiff, Finset.mem_inter]
      refine and_congr_right fun hm => iff_of_true ?_ (hother m hm)
      exact fun hdeleted => hother m hm hdeleted.1.1
    case threadAboutToBeDeleted =>
      intro t htmem
      exact Function.update_of_ne (Finset.mem_erase.1 htmem).1 _ _
    case ownership => rfl
    case placement => rfl
    case tagMessageCount =>
      intro tag _ hnot
      exact if_neg fun htag => hnot thread ((hinvolved thread).2 rfl) htag.2.2
    case categoryMessageCount =>
      intro category _ hnot
      exact if_neg fun hcategory => hnot thread ((hinvolved thread).2 rfl) hcategory.2.2
    case totals =>
      intro category _ hnot
      exact (htotals category).trans (if_neg (hnot thread ((hinvolved thread).2 rfl)))
    case referenceCount =>
      intro category _ t hne
      have hne : t ≠ thread := by simpa using hne
      refine (congrArg (fun T => T.referenceCount.lookup t) (htotals category)).trans ?_
      split_ifs
      · by_cases hmem : thread ∈ (s.totalThreads category).byId
        · rw [TotalThreads.remove, if_pos hmem, Finmap.lookup_erase_ne hne]
        · rw [TotalThreads.remove, if_neg hmem]
      · rfl
    case latestMessageCreated => exact fun _ _ => rfl
    case attachmentsTotalSize | properties | batchInsertInProgress => rfl
    case thread => exact fun _ _ => .inl rfl

/-- In every state reached whose relations are symmetric, deleting a thread removes exactly the thread,
its messages and what hangs on them if and only if its messages hold all the comments made on them
and no category but those above the thread counts it; deleting a message, if and only if the message
holds all the comments made on it. -/
theorem deletesExactly_iff (h : Reachable admissible s) (hs : RelationsSymmetric s.toStore) (ctx : Context) :
    (∀ thread ∈ s.allThreads,
      (DeletesExactly s.toStore (s.deleteDiscussionThread ctx thread true true).toStore {thread}
          (s.threadMessages thread) ↔
        CommentsHeld s.toOwnership (s.threadMessages thread) ∧ TotalsAbove s.toStore thread)) ∧
      ∀ message ∈ s.allMessages,
        (DeletesExactly s.toStore (s.deleteDiscussionThreadMessage ctx message true).toStore ∅ {message} ↔
          CommentsHeld s.toOwnership {message}) :=
  ⟨fun _ ht => deletesExactly_deleteDiscussionThread_iff h hs ctx ht,
    fun _ hm => deletesExactly_deleteDiscussionThreadMessage_iff h hs ctx hm⟩

/-- A thread in a category under another, with a message and a comment on it by a second user. -/
def commentedThread : List (Context × Operation) :=
  [({ currentUserId := 0, currentTime := 1 }, .addNewUser 1 { sortKey := [1] } "auth"),
    ({ currentUserId := 0, currentTime := 1 }, .addNewUser 5 { sortKey := [5] } "second"),
    ({ currentUserId := 1, currentTime := 2 }, .addNewDiscussionThread 2 { sortKey := [2] } true),
    ({ currentUserId := 1, currentTime := 3 }, .addNewDiscussionMessageInThread 3 2 true (.text "message")),
    ({ currentUserId := 5, currentTime := 4 }, .addCommentToDiscussionThreadMessage 6 3 "comment"),
    ({ currentUserId := 1, currentTime := 5 }, .addNewDiscussionTag 20 { sortKey := [20] }),
    ({ currentUserId := 1, currentTime := 5 }, .addNewDiscussionCategory 10 { sortKey := [10] } 0),
    ({ currentUserId := 1, currentTime := 5 }, .addNewDiscussionCategory 11 { sortKey := [11] } 10),
    ({ currentUserId := 1, currentTime := 5 }, .addDiscussionTagToCategory 20 11),
    ({ currentUserId := 1, currentTime := 5 }, .addDiscussionTagToThread 20 2)]

theorem relationsSymmetric_commentedThread : RelationsSymmetric (run commentedThread .empty).toStore := by
  constructor <;> decide +kernel

/-- The thread takes its message, the comment and its place in both totals with it. -/
theorem deletesExactly_commentedThread :
    DeletesExactly (run commentedThread .empty).toStore
      ((run commentedThread .empty).deleteDiscussionThread { currentUserId := 1, currentTime := 6 } 2 true true).toStore
      {2} {3} := by
  have hexact := (deletesExactly_iff (Reachable.empty.run commentedThread (by decide +kernel))
    relationsSymmetric_commentedThread { currentUserId := 1, currentTime := 6 }).1 2 (by decide +kernel)
  have hmessages : (run commentedThread .empty).threadMessages 2 = {3} := by decide +kernel
  rw [hmessages] at hexact
  refine hexact.2 ⟨?_, ?_⟩
  · unfold CommentsHeld
    decide +kernel
  · unfold TotalsAbove
    decide +kernel

/-- The second user is deleted, and the lower category moves away. -/
def detachedThread : List (Context × Operation) :=
  commentedThread ++
    [({ currentUserId := 1, currentTime := 6 }, .deleteUser 5),
      ({ currentUserId := 1, currentTime := 6 }, .changeDiscussionCategoryParent 11 0)]

theorem relationsSymmetric_detachedThread : RelationsSymmetric (run detachedThread .empty).toStore := by
  constructor <;> decide +kernel

/-- The comment now stays when the message is deleted, and the thread stays in the totals of the upper
category when it is deleted itself. -/
theorem not_deletesExactly_detachedThread :
    (¬∀ s, Reachable anyOperation s → RelationsSymmetric s.toStore → ∀ ctx, ∀ thread ∈ s.allThreads,
      DeletesExactly s.toStore (s.deleteDiscussionThread ctx thread true true).toStore {thread}
        (s.threadMessages thread)) ∧
      ¬∀ s, Reachable anyOperation s → RelationsSymmetric s.toStore → ∀ ctx, ∀ message ∈ s.allMessages,
        DeletesExactly s.toStore (s.deleteDiscussionThreadMessage ctx message true).toStore ∅ {message} := by
  have hreached := Reachable.empty.run detachedThread (by decide +kernel)
  constructor
  · intro h
    have hexact := h _ hreached relationsSymmetric_detachedThread { currentUserId := 1, currentTime := 7 } 2
      (by decide +kernel)
    exact absurd (hexact.totalThreads 10 (by decide +kernel)) (by decide +kernel)
  · intro h
    have hexact := h _ hreached relationsSymmetric_detachedThread { currentUserId := 1, currentTime := 7 } 3
      (by decide +kernel)
    exact absurd hexact.allComments (by decide +kernel)

end Forum.Repository
