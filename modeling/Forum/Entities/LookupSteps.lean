import Forum.Entities.LookupEffects

/-!
# Lookups through the operations

The functions of threads, tags and categories and the deletions, and what they do to the lookups and
the indexes of users, tags and categories. Functions of a thread leave them alone. A category changes
its message count, between finding itself in the index and replacing itself there; a tag changes the
number of its threads and of its messages in the same way, and while it does, changes its categories.
-/

namespace Forum.Entities

open Forum.Library EntityCollection

variable {except : List IndexRef} {changing : List (IndexRef × IdType)} {s s' : EntityCollection}

/-! ### Threads and messages -/

namespace DiscussionThread

variable (ctx : Context) (thread : IdType) (s : EntityCollection)

/-- A key of a thread changes. -/
theorem lookupsKept_bracket (key : ThreadKey)
    (h : LookupsKept except changing (s.onPrepareUpdateDiscussionThread key thread) s') :
    LookupsKept except changing s (s'.onUpdateDiscussionThread key thread) :=
  (LookupsKept.onUpdateDiscussionThread key thread s').trans'
    (h.trans' (.onPrepareUpdateDiscussionThread key thread s))

theorem lookupsKept_updateName (name : NameType) : LookupsKept except changing s (updateName thread s name) :=
  lookupsKept_bracket thread s .name (.modifyThread thread _ _)

theorem lookupsKept_updateLastUpdated (value : Timestamp) :
    LookupsKept except changing s (updateLastUpdated thread s value) := by
  unfold updateLastUpdated
  dsimp only
  split_ifs
  · exact .modifyThread thread _ s
  · exact (lookupsKept_bracket thread _ .lastUpdated (.modifyThread thread _ _)).trans' (.modifyThread thread _ s)

theorem lookupsKept_updatePinDisplayOrder (value : ℕ) :
    LookupsKept except changing s (updatePinDisplayOrder thread s value) :=
  lookupsKept_bracket thread s .pinDisplayOrder (.modifyThread thread _ _)

theorem lookupsKept_updateLatestMessageCreated (value : Timestamp) :
    LookupsKept except changing s (updateLatestMessageCreated thread s value) :=
  lookupsKept_bracket thread s .latestMessageCreated (.of_lookupFields rfl rfl)

theorem lookupsKept_setAboutToBeDeleted (value : Bool) :
    LookupsKept except changing s (setAboutToBeDeleted thread s value) := .of_lookupFields rfl rfl

theorem lookupsKept_addTag (tag : IdType) : LookupsKept except changing s (addTag thread s ctx tag) :=
  .of_lookupFields rfl rfl

theorem lookupsKept_removeTag (tag : IdType) : LookupsKept except changing s (removeTag thread s ctx tag) :=
  .of_lookupFields rfl rfl

theorem lookupsKept_addCategory (category : IdType) :
    LookupsKept except changing s (addCategory thread s ctx category) := .of_lookupFields rfl rfl

theorem lookupsKept_removeCategory (category : IdType) :
    LookupsKept except changing s (removeCategory thread s ctx category) := .of_lookupFields rfl rfl

theorem lookupsKept_setLatestVisibleChange (value : Timestamp) :
    LookupsKept except changing s (setLatestVisibleChange thread s value) := .modifyThread thread _ s

theorem lookupsKept_resetVisitorsSinceLastEdit :
    LookupsKept except changing s (resetVisitorsSinceLastEdit thread s) := .modifyThread thread _ s

theorem lookupsKept_insertSubscribedUser (user : IdType) :
    LookupsKept except changing s (insertSubscribedUser thread s user) := .of_lookupFields rfl rfl

theorem lookupsKept_eraseSubscribedUser (user : IdType) :
    LookupsKept except changing s (eraseSubscribedUser thread s user) := .of_lookupFields rfl rfl

theorem lookupsKept_setParentThread (message : IdType) :
    LookupsKept except changing s (DiscussionThreadMessage.setParentThread message s thread) := .of_lookupFields rfl rfl

theorem lookupsStep_insertMessage (message : IdType) : LookupsStep s (insertMessage thread s message) :=
  (LookupsStep.of_kept_nil (lookupsKept_updateLatestMessageCreated thread _ _)).trans'
    (.messagesAdd message (.ofThread thread) s)

theorem lookupsStep_insertMessages (messages : Finset IdType) :
    LookupsStep s (insertMessages thread s messages) :=
  (LookupsStep.of_kept_nil (lookupsKept_updateLatestMessageCreated thread _ _)).trans'
    (.messagesAddAll (.ofThread thread) messages s)

theorem lookupsStep_deleteDiscussionThreadMessage (message : IdType) :
    LookupsStep s (deleteDiscussionThreadMessage thread s message) := by
  unfold deleteDiscussionThreadMessage refreshLatestMessageCreated
  exact (LookupsStep.of_kept_nil (lookupsKept_updateLatestMessageCreated thread _ _)).trans'
    (.messagesRemove message (.ofThread thread) s)

end DiscussionThread

/-! ### Categories -/

namespace DiscussionCategory

variable (ctx : Context) (category thread tag : IdType) (s : EntityCollection)

theorem lookupsKept_foldl_modifyTotals (categories : List IdType)
    (f : EntityCollection → IdType → TotalThreads → TotalThreads) :
    LookupsKept except changing s (categories.foldl (fun s c => s.modifyTotals c (f s c)) s) :=
  .foldl (fun _ _ _ => .of_lookupFields rfl rfl) (.refl _ _ s)

/-- The message count of a category changes. -/
theorem lookupsKept_addCategoryMessageCount (delta : ℤ) :
    LookupsKept except [(.categories .messageCount, category)] s (s.addCategoryMessageCount category delta) := by
  refine ⟨⟨rfl, fun _ _ _ => rfl, rfl⟩, fun ref href _ => ⟨rfl, ?_, fun x _ hx => ?_, .of_toIndexes rfl⟩⟩
  · cases ref <;> rfl
  · match ref with
    | .users .created | .users .lastSeen | .users .threadCount | .users .messageCount | .tags .threadCount
    | .tags .messageCount | .categories .displayOrderRootPriority => rfl
    | .categories .messageCount =>
      have hne : x ≠ category := by simpa using hx
      simp [Store.indexKey, addCategoryMessageCount, hne]

theorem lookupsSound_insertNewDiscussionThreads (threads : List IdType) :
    LookupsSound (.categories .messageCount) s (insertNewDiscussionThreads ctx category s threads) := by
  refine LookupsSound.trans' (.of_kept trivial (.foldl (fun s c _ => ?_) (.refl _ _ _))) (.bracket trivial ?_)
  · exact .foldl (fun _ _ _ => .of_lookupFields rfl rfl) (.refl _ _ s)
  · refine LookupsKept.foldl (fun s t _ => ?_) ((LookupsKept.threadsAddRange (c := .category category)
      (by simp) threads _).mono (List.Subset.refl []) (List.nil_subset _))
    exact (DiscussionThread.lookupsKept_addCategory ctx t _ category).trans'
      (lookupsKept_addCategoryMessageCount category s _)

theorem lookupsSound_insertDiscussionThreads (threads : List IdType) :
    LookupsSound (.categories .messageCount) s (insertDiscussionThreads ctx category s threads) := by
  unfold insertDiscussionThreads
  dsimp only
  split_ifs
  · exact .refl _ s
  · exact lookupsSound_insertNewDiscussionThreads ctx category s _

theorem lookupsSound_deleteDiscussionThread (deleteMessages onlyThisCategory : Bool) :
    LookupsSound (.categories .messageCount) s
      (deleteDiscussionThread ctx category s thread deleteMessages onlyThisCategory) := by
  have hremove : ∀ s : EntityCollection, LookupsKept [] [] s (s.threadsRemove (.category category) thread) :=
    fun s => .threadsRemove (c := .category category) thread (by simp) s
  have hforget : ∀ (s : EntityCollection) (changing : List (IndexRef × IdType)), LookupsKept [] changing s
      (if s.threadAboutToBeDeleted thread then s else DiscussionThread.removeCategory thread s ctx category) := by
    intro s changing
    split_ifs
    · exact .refl _ _ s
    · exact DiscussionThread.lookupsKept_removeCategory ctx thread s category
  have htotals : ∀ s : EntityCollection, LookupsSound (.categories .messageCount) s
      (if onlyThisCategory then s else (s.categoryAndParents category).foldl (fun s c =>
        s.modifyTotals c fun T => T.remove s.threadMessageCount thread) s) := by
    intro s
    split_ifs
    · exact .refl _ s
    · exact .of_kept trivial (lookupsKept_foldl_modifyTotals s _ _)
  unfold deleteDiscussionThread
  cases deleteMessages
  · simp only [Bool.false_eq_true, if_false]
    split
    · exact (htotals _).trans' (.of_kept trivial ((hforget _ []).trans' (hremove s)))
    · exact .refl _ s
  · simp only [if_true]
    split
    · refine (htotals _).trans' (.bracket trivial ?_)
      exact (hforget _ _).trans' ((lookupsKept_addCategoryMessageCount category _ _).trans'
        ((hremove _).mono (by simp) (by simp)))
    · exact .prepareUpdate _ category s

theorem lookupsSound_deleteDiscussionThreadIfNoOtherTagsReferenceIt (deleteMessages : Bool) :
    LookupsSound (.categories .messageCount) s
      (deleteDiscussionThreadIfNoOtherTagsReferenceIt ctx category s thread deleteMessages) := by
  unfold deleteDiscussionThreadIfNoOtherTagsReferenceIt
  split_ifs
  · exact .refl _ s
  · exact LookupsSound.trans' (.of_kept trivial (lookupsKept_foldl_modifyTotals _ _ _))
      (lookupsSound_deleteDiscussionThread ctx category thread s deleteMessages true)

theorem lookupsSound_addTag : LookupsSound (.categories .messageCount) s (addTag ctx category s tag) := by
  unfold addTag insertDiscussionThreadsOfTag
  dsimp only
  split_ifs
  · exact .refl _ s
  · exact .of_kept trivial (.of_lookupFields rfl rfl)
  · exact (lookupsSound_insertNewDiscussionThreads ctx category _ _).trans'
      (.of_kept trivial (.of_lookupFields rfl rfl))

theorem lookupsSound_removeTag : LookupsSound (.categories .messageCount) s (removeTag ctx category s tag) := by
  unfold removeTag
  split_ifs
  · exact .foldl (fun s t _ => lookupsSound_deleteDiscussionThreadIfNoOtherTagsReferenceIt ctx category t s true)
      (.of_kept trivial (.of_lookupFields rfl rfl))
  · exact .refl _ s

theorem lookupsSound_updateMessageCount (delta : ℤ) :
    LookupsSound (.categories .messageCount) s (updateMessageCount category s thread delta) := by
  refine .bracket trivial ?_
  have htotals : ∀ (f : TotalThreads → TotalThreads) (s : EntityCollection),
      LookupsKept [] [(.categories .messageCount, category)] s (s.modifyTotals category f) :=
    fun _ _ => .of_lookupFields rfl rfl
  exact (lookupsKept_foldl_modifyTotals _ _ _).trans'
    ((htotals _ _).trans' (lookupsKept_addCategoryMessageCount category _ delta))

theorem lookupsKept_removeTotalsFromChild (child : IdType) :
    LookupsKept except changing s (removeTotalsFromChild category s child) := lookupsKept_foldl_modifyTotals s _ _

theorem lookupsKept_removeChild (child : IdType) : LookupsKept except changing s (removeChild category s child) :=
  .of_lookupFields rfl rfl

theorem lookupsKept_addChild (child : IdType) : LookupsKept except changing s (addChild category s child) :=
  .of_lookupFields rfl rfl

theorem lookupsKept_addTotalsFromChild (child : IdType) :
    LookupsKept except changing s (addTotalsFromChild category s child) := lookupsKept_foldl_modifyTotals s _ _

/-- The display order of a category, or whether it is a root, changes. -/
theorem lookupsStep_updateDisplayOrder (value : ℤ) : LookupsStep s (updateDisplayOrder category s value) := by
  unfold updateDisplayOrder
  split_ifs
  · exact .refl s
  · refine .bracket (by simp) trivial ⟨⟨rfl, fun ref x _ => ?_, rfl⟩, fun ref href _ =>
      ⟨rfl, ?_, fun x _ hx => ?_, .of_toIndexes rfl⟩⟩
    · cases ref with
      | usersByAuth | usersByName | tagsByName => rfl
      | categoriesByName =>
        by_cases hx : x = category
        · subst hx
          simp [Store.uniqueKey, modifyCategory]
        · simp [Store.uniqueKey, modifyCategory, hx]
    · cases ref <;> rfl
    · cases ref with
      | users key | tags key => cases key <;> rfl
      | categories key =>
        cases key with
        | messageCount => rfl
        | displayOrderRootPriority =>
          have hne : x ≠ category := by simpa using hx
          simp [Store.indexKey, Store.displayOrderWithRootPriority, modifyCategory, hne]
      | threads | messages | attachments | comments | privateMessages => exact href.elim

theorem lookupsStep_updateParent (newParent : Option IdType) : LookupsStep s (updateParent category s newParent) := by
  refine .bracket (by simp) trivial ⟨⟨rfl, fun _ _ _ => rfl, rfl⟩, fun ref href _ =>
    ⟨rfl, ?_, fun x _ hx => ?_, .of_toIndexes rfl⟩⟩
  · cases ref <;> rfl
  · match ref with
    | .users .created | .users .lastSeen | .users .threadCount | .users .messageCount | .tags .threadCount
    | .tags .messageCount | .categories .messageCount => rfl
    | .categories .displayOrderRootPriority =>
      have hne : x ≠ category := by simpa using hx
      simp [Store.indexKey, Store.displayOrderWithRootPriority, hne]

theorem lookupsStep_addTag : LookupsStep s (addTag ctx category s tag) :=
  .of_sound (by simp) (lookupsSound_addTag ctx category tag s)

theorem lookupsStep_removeTag : LookupsStep s (removeTag ctx category s tag) :=
  .of_sound (by simp) (lookupsSound_removeTag ctx category tag s)

end DiscussionCategory

/-! ### Tags -/

namespace DiscussionTag

variable (ctx : Context) (tag thread : IdType) (s : EntityCollection)

/-- The message count of a tag changes. -/
theorem lookupsKept_addTagMessageCount (delta : ℤ) :
    LookupsKept except [(.tags .messageCount, tag)] s (s.addTagMessageCount tag delta) := by
  refine ⟨⟨rfl, fun _ _ _ => rfl, rfl⟩, fun ref href _ => ⟨rfl, ?_, fun x _ hx => ?_, .of_toIndexes rfl⟩⟩
  · cases ref <;> rfl
  · match ref with
    | .users .created | .users .lastSeen | .users .threadCount | .users .messageCount | .tags .threadCount
    | .categories .messageCount | .categories .displayOrderRootPriority => rfl
    | .tags .messageCount =>
      have hne : x ≠ tag := by simpa using hx
      simp [Store.indexKey, addTagMessageCount, hne]

theorem lookupsStep_updateMessageCount (delta : ℤ) : LookupsStep s (updateMessageCount tag s delta) := by
  unfold updateMessageCount
  split_ifs
  · exact .refl s
  · exact .bracket (by simp) trivial (lookupsKept_addTagMessageCount tag _ delta)

variable {s}

/-- The number of threads of a tag changes, and meanwhile its categories do. -/
theorem lookupsStep_bracket {tag : IdType}
    (h : LookupsKept [.categories .messageCount] [(.tags .threadCount, tag)]
      (s.prepareUpdate (.tags .threadCount) tag) s')
    (hsound : IndexSound (s.prepareUpdate (.tags .threadCount) tag) (.categories .messageCount) →
      IndexSound s' (.categories .messageCount)) :
    LookupsStep s (s'.finishUpdate (.tags .threadCount) tag) := by
  have hprepare : LookupsKept [.tags .threadCount] [] s (s.prepareUpdate (.tags .threadCount) tag) :=
    .prepareUpdate (by simp) tag s
  have hfinish : LookupsKept [.tags .threadCount] [] s' (s'.finishUpdate (.tags .threadCount) tag) :=
    .finishUpdate (by simp) tag s'
  have hinner := h.drop [.categories .messageCount, .tags .threadCount] (by simp) (by simp)
  refine .of_kept ((hfinish.mono (by simp) (by simp)).trans' (hinner.trans' (hprepare.mono (by simp) (by simp))))
    (by simp) fun ref hmem href hs => ?_
  rcases List.mem_pair.1 hmem with rfl | rfl
  · exact hfinish.keeps_sound href (by simp) (hsound (hprepare.keeps_sound href (by simp) hs))
  · exact (h.ref _ href (by simp)).bracket hs fun y hy => by simpa using hy

/-- So do both its counts: the two are looked up one after the other and replaced in the same order. -/
theorem lookupsStep_bracket₂ {tag : IdType}
    (h : LookupsKept [.categories .messageCount] [(.tags .threadCount, tag), (.tags .messageCount, tag)]
      ((s.prepareUpdate (.tags .threadCount) tag).prepareUpdate (.tags .messageCount) tag) s')
    (hsound : IndexSound ((s.prepareUpdate (.tags .threadCount) tag).prepareUpdate (.tags .messageCount) tag)
      (.categories .messageCount) → IndexSound s' (.categories .messageCount)) :
    LookupsStep s ((s'.finishUpdate (.tags .threadCount) tag).finishUpdate (.tags .messageCount) tag) := by
  have hprepare : ∀ ref s, LookupsKept [ref] [] s (s.prepareUpdate ref tag) := fun ref s => .prepareUpdate (by simp) tag s
  have hfinish : ∀ ref s, LookupsKept [ref] [] s (s.finishUpdate ref tag) := fun ref s => .finishUpdate (by simp) tag s
  have hinner := h.drop [.categories .messageCount, .tags .threadCount, .tags .messageCount] (by simp) (by simp)
  have hkept : LookupsKept [.categories .messageCount, .tags .threadCount, .tags .messageCount] [] s
      ((s'.finishUpdate (.tags .threadCount) tag).finishUpdate (.tags .messageCount) tag) := by
    refine ((hfinish _ _).mono (by simp) (by simp)).trans' (((hfinish _ _).mono (by simp) (by simp)).trans' ?_)
    exact hinner.trans' (((hprepare _ _).mono (by simp) (by simp)).trans' ((hprepare _ _).mono (by simp) (by simp)))
  refine .of_kept hkept (by simp) fun ref hmem href hs => ?_
  obtain rfl | rfl | rfl : ref = .categories .messageCount ∨ ref = .tags .threadCount ∨ ref = .tags .messageCount := by
    simpa using hmem
  · have hopen := (hprepare (.tags .messageCount) _).keeps_sound href (by simp)
      ((hprepare (.tags .threadCount) s).keeps_sound href (by simp) hs)
    exact (hfinish (.tags .messageCount) _).keeps_sound href (by simp)
      ((hfinish (.tags .threadCount) _).keeps_sound href (by simp) (hsound hopen))
  · have hthreads : RefKept (.tags .threadCount) (fun x => x = tag) (s.prepareUpdate (.tags .threadCount) tag) s' :=
      ((h.ref _ href (by simp)).mono fun x hx => by simpa using hx).trans'
        (((hprepare _ _).ref _ href (by simp)).mono fun x hx => by cases hx)
    exact (hfinish _ _).keeps_sound href (by simp) (hthreads.bracket hs fun y hy => hy)
  · have hmessages : RefKept (.tags .messageCount) (fun x => x = tag)
        ((s.prepareUpdate (.tags .threadCount) tag).prepareUpdate (.tags .messageCount) tag)
        (s'.finishUpdate (.tags .threadCount) tag) :=
      (((hfinish _ _).ref _ href (by simp)).mono fun x hx => by cases hx).trans'
        ((h.ref _ href (by simp)).mono fun x hx => by simpa using hx)
    exact hmessages.bracket ((hprepare _ s).keeps_sound href (by simp) hs) fun y hy => hy

variable (s)

theorem lookupsStep_insertDiscussionThreads (threads : List IdType) :
    LookupsStep s (insertDiscussionThreads ctx tag s threads) := by
  -- the categories of the tag each keep their own index sound
  have hcategories : ∀ (categories : List IdType) (acc : List IdType × EntityCollection),
      LookupsSound (.categories .messageCount) acc.2
        (categories.foldl (fun (acc : List IdType × EntityCollection) category =>
          (DiscussionCategory.compactThreads category acc.2 acc.1,
            DiscussionCategory.insertDiscussionThreads ctx category acc.2 acc.1)) acc).2 :=
    fun categories acc => foldl_keeps
      (P := fun acc' : List IdType × EntityCollection => LookupsSound (.categories .messageCount) acc.2 acc'.2)
      (.refl _ _) fun acc' category _ h =>
        (DiscussionCategory.lookupsSound_insertDiscussionThreads ctx category acc'.2 acc'.1).trans' h
  have hcounts : ∀ (s : EntityCollection) (threads : List IdType),
      LookupsKept [] [(.tags .threadCount, tag), (.tags .messageCount, tag)] s
        (threads.foldl (fun s thread => s.addTagMessageCount tag (s.threadMessageCount thread))
          (s.threadsAddRange (.tag tag) threads)) := fun s threads =>
    .foldl (fun s t _ => (lookupsKept_addTagMessageCount tag s _).mono (List.Subset.refl []) (by simp))
      ((LookupsKept.threadsAddRange (c := .tag tag) (by simp) threads s).mono (List.Subset.refl [])
        (by simp [ThreadCollectionRef.countKeys]))
  unfold insertDiscussionThreads
  dsimp only
  split
  · exact .refl s
  · refine lookupsStep_bracket₂ ?_ fun hs => ?_
    · exact ((hcategories _ (_, _)).kept.mono (by simp) (by simp)).trans' ((hcounts _ _).mono (by simp) (by simp))
    · exact (hcategories _ (_, _)).sound ((hcounts _ _).keeps_sound trivial (by simp) hs)

theorem lookupsStep_deleteDiscussionThread (deleteMessages : Bool) :
    LookupsStep s (deleteDiscussionThread ctx tag s thread deleteMessages) := by
  have hcategories : ∀ (categories : List IdType) (s : EntityCollection),
      LookupsSound (.categories .messageCount) s (categories.foldl (fun s category =>
        DiscussionCategory.deleteDiscussionThreadIfNoOtherTagsReferenceIt ctx category s thread deleteMessages) s) :=
    fun categories s => .foldl (fun s category _ =>
      DiscussionCategory.lookupsSound_deleteDiscussionThreadIfNoOtherTagsReferenceIt ctx category thread s _) (.refl _ s)
  have hremove : ∀ s : EntityCollection, LookupsKept [] [(.tags .threadCount, tag)] s (s.threadsRemove (.tag tag) thread) :=
    fun s => .threadsRemove (c := .tag tag) thread (by simp) s
  unfold deleteDiscussionThread
  cases deleteMessages
  · simp only [Bool.false_eq_true, if_false]
    split
    · refine lookupsStep_bracket ?_ fun hs => ?_
      · exact ((hcategories _ _).kept.mono (by simp) (by simp)).trans' ((hremove _).mono (by simp) (by simp))
      · exact (hcategories _ _).sound ((hremove _).keeps_sound trivial (by simp) hs)
    · exact .of_sound (by simp) (.prepareUpdate _ tag s)
  · simp only [if_true]
    have hcount : ∀ (s : EntityCollection) (delta : ℤ),
        LookupsKept [] [(.tags .threadCount, tag), (.tags .messageCount, tag)] s
          ((s.threadsRemove (.tag tag) thread).addTagMessageCount tag delta) := fun s delta =>
      ((lookupsKept_addTagMessageCount tag _ delta).mono (List.Subset.refl []) (by simp)).trans'
        ((hremove s).mono (by simp) (by simp))
    split
    · refine lookupsStep_bracket₂ ?_ fun hs => ?_
      · exact ((hcategories _ _).kept.mono (by simp) (by simp)).trans' ((hcount _ _).mono (by simp) (by simp))
      · exact (hcategories _ _).sound ((hcount _ _).keeps_sound trivial (by simp) hs)
    · exact (LookupsStep.of_sound (by simp) (.prepareUpdate _ tag _)).trans'
        (.of_sound (by simp) (.prepareUpdate _ tag s))

end DiscussionTag

/-! ### Deletions -/

namespace EntityCollection

variable (ctx : Context) (s : EntityCollection)

theorem lookupsKept_deleteMessageComment (comment : IdType) :
    LookupsKept except changing s (s.deleteMessageComment comment) := by
  unfold deleteMessageComment
  split_ifs
  · exact (LookupsKept.commentsRemove comment _ _).trans' (.commentsRemove comment .all s)
  · exact .refl _ _ s

theorem lookupsKept_deletePrivateMessage (message : IdType) (fromSource fromDestination : Bool) :
    LookupsKept except changing s (s.deletePrivateMessage message fromSource fromDestination) := by
  have hremove : ∀ (b : Bool) (c : PrivateMessageCollectionRef) (s : EntityCollection),
      LookupsKept except changing s (if b then s.privateMessagesRemove c message else s) := by
    intro b c s
    split_ifs
    · exact .privateMessagesRemove message c s
    · exact .refl _ _ s
  unfold deletePrivateMessage
  split
  · exact (hremove _ _ _).trans' ((hremove _ _ _).trans' (.privateMessagesRemove message .all s))
  · exact .refl _ _ s

theorem lookupsKept_deleteAttachment (attachment : IdType) (alsoFromUser : Bool) :
    LookupsKept except changing s (s.deleteAttachment attachment alsoFromUser) := by
  have hremove : ∀ s : EntityCollection, LookupsKept except changing s
      (if alsoFromUser then s.attachmentsRemove (.createdBy (s.attachmentCreatedBy attachment)) attachment else s) := by
    intro s
    split_ifs
    · exact .attachmentsRemove attachment _ s
    · exact .refl _ _ s
  unfold deleteAttachment
  split
  · exact .foldl (fun _ _ _ => .of_lookupFields rfl rfl) ((hremove _).trans' (.attachmentsRemove attachment .all s))
  · exact .refl _ _ s

theorem lookupsStep_detachMessageFromThread (message thread : IdType) :
    LookupsStep s (detachMessageFromThread ctx s message thread) := by
  refine .foldl (fun s category _ =>
    .of_sound (by simp) (DiscussionCategory.lookupsSound_updateMessageCount category thread s (-1)))
    (.foldl (fun s tag _ => DiscussionTag.lookupsStep_updateMessageCount tag s (-1)) ?_)
  exact (LookupsStep.of_kept_nil ((LookupsKept.modifyThread thread _ _).trans' (.modifyThread thread _ _))).trans'
    (DiscussionThread.lookupsStep_deleteDiscussionThreadMessage thread s message)

theorem lookupsStep_deleteDiscussionThreadMessage (message : IdType) (alsoFromUser : Bool) :
    LookupsStep s (s.deleteDiscussionThreadMessage ctx message alsoFromUser) := by
  have hremove : ∀ s : EntityCollection, LookupsStep s
      (if alsoFromUser then s.messagesRemove (.createdBy (s.messageCreatedBy message)) message else s) := by
    intro s
    split_ifs
    · exact .messagesRemove message _ s
    · exact .refl s
  have hdetach : ∀ s : EntityCollection, LookupsStep s
      (if s.threadAboutToBeDeleted (s.messageParentThread message) then s
      else detachMessageFromThread ctx s message (s.messageParentThread message)) := by
    intro s
    split_ifs
    · exact .refl s
    · exact lookupsStep_detachMessageFromThread ctx s message _
  have hfold : ∀ {f : EntityCollection → IdType → EntityCollection} (l : List IdType) (s : EntityCollection),
      (∀ s x, LookupsKept [] [] s (f s x)) → LookupsStep s (l.foldl f s) := fun l s hf =>
    .of_kept_nil (.foldl (fun s x _ => hf s x) (.refl _ _ s))
  unfold deleteDiscussionThreadMessage
  split
  · refine (hdetach _).trans' ((hfold _ _ fun s x => ?_).trans' ((hfold _ _ fun s x => ?_).trans'
      ((hfold _ _ fun s x => ?_).trans' ((hfold _ _ fun s x => ?_).trans'
        ((hremove _).trans' (.messagesRemove message .all s))))))
    · exact .of_lookupFields rfl rfl
    · exact .of_lookupFields rfl rfl
    · exact .of_lookupFields rfl rfl
    · exact lookupsKept_deleteMessageComment s x
  · exact .refl s

theorem lookupsStep_deleteDiscussionThread (thread : IdType) (deleteMessages alsoFromUser : Bool) :
    LookupsStep s (s.deleteDiscussionThread ctx thread deleteMessages alsoFromUser) := by
  have hremove : ∀ s : EntityCollection, LookupsStep s
      (if alsoFromUser then s.threadsRemove (.createdBy (s.threadCreatedBy thread)) thread else s) := by
    intro s
    split_ifs
    · exact .threadsRemove thread (by simp) s
    · exact .refl s
  have hmessages : ∀ s : EntityCollection, LookupsStep s
      (if deleteMessages then (ascending (s.threadMessages thread)).foldl (fun s message =>
        deleteDiscussionThreadMessage ctx s message true) s
      else s) := by
    intro s
    split_ifs
    · exact .foldl (fun s m _ => lookupsStep_deleteDiscussionThreadMessage ctx s m true) (.refl s)
    · exact .refl s
  unfold deleteDiscussionThread
  split
  · refine (hmessages _).trans' (.foldl (fun s user _ => .threadsRemove thread (by simp) s) (.foldl (fun s tag _ =>
      DiscussionTag.lookupsStep_deleteDiscussionThread ctx tag thread s deleteMessages) (.foldl (fun s category _ =>
        .of_sound (by simp) (DiscussionCategory.lookupsSound_deleteDiscussionThread ctx category thread s _ _)) ?_)))
    exact (hremove _).trans' (LookupsStep.trans'
      (.of_kept_nil (DiscussionThread.lookupsKept_setAboutToBeDeleted thread _ true))
      (.threadsRemove thread (by simp) s))
  · exact .refl s

/-- After the tag has left the collection. -/
theorem lookupsStep_deleteDiscussionTag {tag : IdType} (htag : tag ∈ s.tags) :
    LookupsStep (s.tagsRemove tag) (s.deleteDiscussionTag ctx tag) := by
  unfold deleteDiscussionTag
  rw [if_pos htag]
  exact .foldl (fun s thread _ => .of_kept_nil (DiscussionThread.lookupsKept_removeTag ctx thread s tag))
    (.foldl (fun s category _ => DiscussionCategory.lookupsStep_removeTag ctx category tag s) (.refl _))

/-- After the category has left the collection. -/
theorem lookupsStep_deleteDiscussionCategory {category : IdType} (hcategory : category ∈ s.categories) :
    LookupsStep (s.categoriesRemove category) (s.deleteDiscussionCategory ctx category) := by
  unfold deleteDiscussionCategory
  rw [if_pos hcategory]
  have htags : ∀ (tags : List IdType) (s : EntityCollection), LookupsStep s
      (tags.foldl (fun s tag => DiscussionTag.removeCategory tag s category) s) := fun tags s =>
    .of_kept_nil (.foldl (fun _ _ _ => .of_lookupFields rfl rfl) (.refl _ _ s))
  have hthreads : ∀ (threads : List IdType) (s : EntityCollection), LookupsStep s
      (threads.foldl (fun s thread => DiscussionThread.removeCategory thread s ctx category) s) := fun threads s =>
    .of_kept_nil (.foldl (fun s t _ => DiscussionThread.lookupsKept_removeCategory ctx t s category) (.refl _ _ s))
  extract_lets s₁ s₂ s₃
  have h₃ : LookupsStep s₁ s₃ := (hthreads _ s₂).trans' (htags _ s₁)
  split
  · exact h₃
  · refine LookupsStep.trans' ?_ h₃
    exact LookupsStep.trans' (.of_kept_nil (DiscussionCategory.lookupsKept_removeChild _ _ category))
      (.of_kept_nil (DiscussionCategory.lookupsKept_removeTotalsFromChild _ s₃ category))

theorem lookupsStep_detachComment (comment : IdType) : LookupsStep s (s.detachComment comment) := by
  unfold detachComment
  dsimp only
  refine (LookupsStep.of_kept_nil (.commentsRemove comment _ _)).trans' ?_
  split_ifs
  · exact .of_kept_nil (.modifyMessage _ _ s)
  · exact .refl s

/-- After the user has left the collection. -/
theorem lookupsStep_deleteUser {user : IdType} (huser : user ∈ s.users) :
    LookupsStep (s.usersRemove user) (s.deleteUser ctx user) := by
  have hvote : ∀ (s : EntityCollection) (message : IdType),
      LookupsStep s (DiscussionThreadMessage.removeVote message s user).2 := by
    intro s message
    unfold DiscussionThreadMessage.removeVote
    split_ifs
    · exact .of_kept_nil (.of_lookupFields rfl rfl)
    · exact .of_kept_nil (.of_lookupFields rfl rfl)
    · exact .refl s
  unfold deleteUser
  rw [if_pos huser]
  refine .foldl (fun s a _ => .of_kept_nil (lookupsKept_deleteAttachment s a false)) ?_
  refine .foldl (fun s m _ => .of_kept_nil (lookupsKept_deletePrivateMessage s m false true)) ?_
  refine .foldl (fun s m _ => .of_kept_nil (lookupsKept_deletePrivateMessage s m true false)) ?_
  refine .foldl (fun s t _ => lookupsStep_deleteDiscussionThread ctx s t true false) ?_
  refine .foldl (fun s m _ => lookupsStep_deleteDiscussionThreadMessage ctx s m false) ?_
  refine .foldl (fun s t _ => .of_kept_nil (.of_lookupFields rfl rfl)) ?_
  exact .foldl (fun s c _ => lookupsStep_detachComment s c) (.foldl (fun s m _ => hvote s m) (.refl _))

end EntityCollection

end Forum.Entities
