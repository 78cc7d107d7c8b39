import Forum.Entities.PlacementDeletion
import Forum.Entities.ThreadCollections
import Forum.Library.CachedSum

/-!
# Message counts

A tag and a category cache how many messages their threads have. Threads that come and go bring and take their
messages; of messages that come and go in a thread, the tags and categories of the thread are told, before or
after. How far a cache is off, its surplus, is what each function is characterized by.
-/

namespace Forum.Entities

open Forum.Library

/-- The collections whose messages are counted. -/
inductive CountingRef
  | tag (id : IdType)
  | category (id : IdType)
  deriving DecidableEq

/-- The collection of the threads. -/
def CountingRef.collection : CountingRef → ThreadCollectionRef
  | .tag id => .tag id
  | .category id => .category id

/-- `messageCount_`. -/
def Store.messageCountOf (s : Store) : CountingRef → ℤ
  | .tag tag => s.tagMessageCount tag
  | .category category => s.categoryMessageCount category

/-- How many messages are counted that the threads do not have. -/
def Store.messageSurplus (s : Store) (r : CountingRef) : ℤ :=
  surplus (s.messageCountOf r) (s.threads r.collection) s.threadMessageCount

/-- Does the thread say that it is in the collection? -/
def Store.Named (s : Store) (thread : IdType) : CountingRef → Prop
  | .tag tag => tag ∈ s.threadTags thread
  | .category category => category ∈ s.threadCategories thread

instance Store.decidableNamed (s : Store) (thread : IdType) : (r : CountingRef) → Decidable (s.Named thread r)
  | .tag tag => inferInstanceAs (Decidable (tag ∈ s.threadTags thread))
  | .category category => inferInstanceAs (Decidable (category ∈ s.threadCategories thread))

variable (ctx : Context) {s : EntityCollection} {r : CountingRef} {thread : IdType}

/-- In an exact placement a thread is where it says. -/
theorem named_iff {s : Store} (h : Placed s.allThreads s.toPlacement) (hr : s.Live r.collection)
    (ht : thread ∈ s.allThreads) : s.Named thread r ↔ thread ∈ s.threads r.collection := by
  cases r with
  | tag tag => exact (and_iff_right ht).symm.trans (h.tagThreads tag hr thread).symm
  | category category => exact (h.threadCategories thread ht category).trans (and_iff_right hr)

theorem live_congr {s s' : Store} (h : s'.toPlacement = s.toPlacement) :
    s'.Live r.collection ↔ s.Live r.collection := by
  cases r <;> simp [Store.Live, CountingRef.collection, h]

/-- What nobody counts. -/
theorem Store.messageSurplus_congr {s s' : Store} (hcount : s'.messageCountOf r = s.messageCountOf r)
    (hthreads : s'.threads r.collection = s.threads r.collection)
    (hmessages : ∀ t ∈ s.threads r.collection, s'.threadMessages t = s.threadMessages t) :
    s'.messageSurplus r = s.messageSurplus r := by
  unfold Store.messageSurplus
  rw [hcount, hthreads]
  exact surplus_congr fun t ht => congrArg (fun S : Finset IdType => (S.card : ℤ)) (hmessages t ht)

/-- The order by message counts shows them. -/
theorem IndexKey.descending_injective : Function.Injective IndexKey.descending := fun _ _ h =>
  neg_injective (Prod.mk.inj (toLex.injective h)).2

/-- Who leaves the collection and the count alone does not count. -/
theorem messageSurplus_of_collectionKept {s' : EntityCollection} (h : CollectionKept r.collection s s')
    (hcount : s'.messageCountOf r = s.messageCountOf r) : s'.messageSurplus r = s.messageSurplus r := by
  unfold Store.messageSurplus
  rw [hcount, h.threads]
  exact surplus_congr fun t ht => IndexKey.descending_injective (congrFun (h.threadKey t ht) .messageCount)

/-- The messages of a thread change, and a count. -/
theorem Store.messageSurplus_setMessages {s s' : Store} {messages : Finset IdType} {a d : ℤ}
    (hcount : s'.messageCountOf r = s.messageCountOf r + a)
    (hthreads : s'.threads r.collection = s.threads r.collection)
    (hmessages : s'.threadMessages = Function.update s.threadMessages thread messages)
    (hd : (messages.card : ℤ) = s.threadMessageCount thread + d) :
    s'.messageSurplus r = s.messageSurplus r + a - if thread ∈ s.threads r.collection then d else 0 := by
  have hn : s'.threadMessageCount =
      Function.update s.threadMessageCount thread (s.threadMessageCount thread + d) := by
    funext t
    by_cases ht : t = thread
    · subst ht
      simp [Ownership.threadMessageCount, hmessages, hd]
    · simp [Ownership.threadMessageCount, hmessages, ht]
  unfold Store.messageSurplus
  rw [hcount, hthreads, hn, surplus_update, surplus_add]

/-- A new tag or category has no threads, and counts no messages. -/
theorem messageSurplus_construct_self {id : IdType} (hr : r.collection.owner = some id) :
    (s.construct id).messageSurplus r = 0 := by
  have hthreads : (s.construct id).threads r.collection = ∅ := threads_construct_self hr
  have hcount : (s.construct id).messageCountOf r = 0 := by
    cases r with
    | tag g | category g =>
      obtain rfl : g = id := by simpa [CountingRef.collection, ThreadCollectionRef.owner] using hr
      exact Function.update_self _ _ _
  unfold Store.messageSurplus
  rw [hthreads, hcount, surplus_empty]

theorem messageSurplus_construct_of_ne {id : IdType} (hr : r.collection.owner ≠ some id)
    (hid : id ∉ s.threads r.collection) : (s.construct id).messageSurplus r = s.messageSurplus r := by
  refine Store.messageSurplus_congr ?_ (threads_construct_of_ne hr) fun t ht => ?_
  · cases r with
    | tag g | category g =>
      have hne : g ≠ id := by simpa [CountingRef.collection, ThreadCollectionRef.owner] using hr
      exact Function.update_of_ne hne _ _
  · have hne : t ≠ id := fun he => hid (he ▸ ht)
    exact Function.update_of_ne hne _ _

theorem messageSurplus_foldl {α : Type*} {f : EntityCollection → α → EntityCollection} {l : List α}
    (s : EntityCollection) (h : ∀ s, ∀ x ∈ l, (f s x).messageSurplus r = s.messageSurplus r) :
    (l.foldl f s).messageSurplus r = s.messageSurplus r :=
  foldl_view (fun s : EntityCollection => s.messageSurplus r) h

/-! ### Threads -/

namespace DiscussionThread

theorem messageSurplus_insertMessage {message : IdType} (h : message ∉ s.threadMessages thread) :
    (insertMessage thread s message).messageSurplus r =
      s.messageSurplus r - if thread ∈ s.threads r.collection then 1 else 0 := by
  rw [toStore_insertMessage]
  refine (Store.messageSurplus_setMessages (a := 0) (d := 1) (by cases r <;> simp [Store.messageCountOf])
    (by cases r <;> rfl) rfl ?_).trans (by rw [add_zero])
  simp [Finset.card_insert_of_notMem h, Ownership.threadMessageCount]

theorem messageSurplus_insertMessages {messages : Finset IdType} (h : Disjoint (s.threadMessages thread) messages) :
    (insertMessages thread s messages).messageSurplus r =
      s.messageSurplus r - if thread ∈ s.threads r.collection then (messages.card : ℤ) else 0 := by
  rw [toStore_insertMessages]
  refine (Store.messageSurplus_setMessages (a := 0) (by cases r <;> simp [Store.messageCountOf])
    (by cases r <;> rfl) rfl ?_).trans (by rw [add_zero])
  simp [Finset.card_union_of_disjoint h, Ownership.threadMessageCount]

theorem messageSurplus_deleteDiscussionThreadMessage {message : IdType} (h : message ∈ s.threadMessages thread) :
    (deleteDiscussionThreadMessage thread s message).messageSurplus r =
      s.messageSurplus r + if thread ∈ s.threads r.collection then 1 else 0 := by
  rw [toStore_deleteDiscussionThreadMessage]
  refine (Store.messageSurplus_setMessages (a := 0) (d := -1) (by cases r <;> simp [Store.messageCountOf])
    (by cases r <;> rfl) rfl ?_).trans ?_
  · have := Finset.card_erase_add_one h
    simp only [Ownership.threadMessageCount]
    omega
  · split_ifs <;> simp

end DiscussionThread

/-! ### Categories -/

namespace DiscussionCategory

variable {category tag : IdType}

/-- New threads bring their messages. -/
theorem messageSurplus_insertNewDiscussionThreads {threads : List IdType} (hn : threads.Nodup)
    (hx : ∀ x ∈ threads, x ∉ s.categoryThreads category) :
    (insertNewDiscussionThreads ctx category s threads).messageSurplus r = s.messageSurplus r := by
  have hsum : (threads.map s.threadMessageCount).sum = ∑ t ∈ threads.toFinset, s.threadMessageCount t :=
    (List.sum_toFinset _ hn).symm
  have hdisjoint : Disjoint (s.categoryThreads category) threads.toFinset :=
    Finset.disjoint_right.2 fun x hx' => hx x (List.mem_toFinset.1 hx')
  rw [toStore_insertNewDiscussionThreads]
  cases r with
  | tag => rfl
  | category c =>
    by_cases hc : c = category
    · subst hc
      simp only [Store.messageSurplus, Store.messageCountOf, CountingRef.collection, Store.threads,
        Function.update_self, hsum]
      exact surplus_union hdisjoint
    · simp only [Store.messageSurplus, Store.messageCountOf, CountingRef.collection, Store.threads,
        Function.update_of_ne hc]

theorem messageSurplus_insertDiscussionThreads {threads : List IdType} (hn : threads.Nodup) :
    (insertDiscussionThreads ctx category s threads).messageSurplus r = s.messageSurplus r := by
  unfold insertDiscussionThreads
  dsimp only
  split_ifs
  · rfl
  · exact messageSurplus_insertNewDiscussionThreads ctx (hn.filter _) fun x hx => by
      simpa using (List.mem_filter.1 hx).2

/-- A thread that leaves with its messages takes them along. -/
theorem messageSurplus_deleteDiscussionThread (onlyThisCategory : Bool) :
    (deleteDiscussionThread ctx category s thread true onlyThisCategory).messageSurplus r = s.messageSurplus r := by
  rw [toStore_deleteDiscussionThread]
  by_cases hmem : thread ∈ s.categoryThreads category
  · rw [if_pos hmem]
    cases r with
    | tag => rfl
    | category c =>
      by_cases hc : c = category
      · subst hc
        simp only [Store.messageSurplus, Store.messageCountOf, CountingRef.collection, Store.threads, if_true,
          Function.update_self, sub_eq_add_neg]
        rw [surplus_erase hmem, surplus_add, neg_add_cancel_right]
      · simp only [Store.messageSurplus, Store.messageCountOf, CountingRef.collection, Store.threads, if_true,
          Function.update_of_ne hc]
  · rw [if_neg hmem]

theorem messageSurplus_foldl_modifyTotals (categories : List IdType) {f : EntityCollection → TotalThreads → TotalThreads}
    (s : EntityCollection) :
    (categories.foldl (fun s c => s.modifyTotals c (f s)) s).messageSurplus r = s.messageSurplus r :=
  messageSurplus_foldl s fun _ _ _ => by cases r <;> rfl

theorem messageSurplus_deleteDiscussionThreadIfNoOtherTagsReferenceIt :
    (deleteDiscussionThreadIfNoOtherTagsReferenceIt ctx category s thread true).messageSurplus r =
      s.messageSurplus r := by
  unfold deleteDiscussionThreadIfNoOtherTagsReferenceIt
  split_ifs
  · rfl
  · exact (messageSurplus_foldl_modifyTotals _ _).trans (messageSurplus_deleteDiscussionThread ctx true)

theorem messageSurplus_addTag (hn : (s.iterateThreads (.tag tag)).Nodup) :
    (addTag ctx category s tag).messageSurplus r = s.messageSurplus r := by
  unfold addTag
  split_ifs
  · rfl
  · refine (messageSurplus_insertDiscussionThreads ctx hn).trans ?_
    cases r <;> rfl

theorem messageSurplus_removeTag : (removeTag ctx category s tag).messageSurplus r = s.messageSurplus r := by
  unfold removeTag
  split_ifs
  · refine (messageSurplus_foldl _ fun _ _ _ =>
      messageSurplus_deleteDiscussionThreadIfNoOtherTagsReferenceIt ctx).trans ?_
    cases r <;> rfl
  · rfl

theorem messageCountOf_removeTotalsFromChild (child : IdType) :
    (removeTotalsFromChild category s child).messageCountOf r = s.messageCountOf r :=
  foldl_view (fun s : EntityCollection => s.messageCountOf r) fun _ _ _ => by cases r <;> rfl

theorem messageCountOf_addTotalsFromChild (child : IdType) :
    (addTotalsFromChild category s child).messageCountOf r = s.messageCountOf r :=
  foldl_view (fun s : EntityCollection => s.messageCountOf r) fun _ _ _ => by cases r <;> rfl

theorem messageCountOf_removeChild (child : IdType) :
    (removeChild category s child).messageCountOf r = s.messageCountOf r := by cases r <;> rfl

theorem messageCountOf_addChild (child : IdType) :
    (addChild category s child).messageCountOf r = s.messageCountOf r := by cases r <;> rfl

end DiscussionCategory

/-! ### Tags -/

namespace DiscussionTag

variable {tag : IdType}

/-- A new thread brings its messages. -/
theorem messageSurplus_insertDiscussionThread :
    (insertDiscussionThread ctx tag s thread).messageSurplus r = s.messageSurplus r := by
  have loop : ∀ (categories : List IdType) (s : EntityCollection),
      (categories.foldl (fun (acc : List IdType × EntityCollection) category =>
        (DiscussionCategory.compactThreads category acc.2 acc.1,
          DiscussionCategory.insertDiscussionThreads ctx category acc.2 acc.1)) ([thread], s)).2.messageSurplus r =
        s.messageSurplus r := by
    intro categories s
    refine (foldl_keeps (P := fun acc : List IdType × EntityCollection =>
      acc.1 = [thread] ∧ acc.2.messageSurplus r = s.messageSurplus r) ⟨rfl, rfl⟩ ?_).2
    rintro ⟨threads, s⟩ category _ ⟨rfl, h⟩
    refine ⟨?_, (DiscussionCategory.messageSurplus_insertDiscussionThreads ctx (List.nodup_singleton thread)).trans h⟩
    -- an array of one thread is the same after it was compacted
    unfold DiscussionCategory.compactThreads
    by_cases hc : thread ∈ s.categoryThreads category <;> simp [hc]
  unfold insertDiscussionThread insertDiscussionThreads
  by_cases ht : thread ∈ s.tagThreads tag
  · simp [ht]
  · simp only [ht, List.filter_cons, not_false_eq_true, decide_true, if_true, List.filter_nil, List.cons_ne_nil,
      if_false, EntityCollection.toStore_finishUpdate, loop]
    simp only [List.foldl_cons, List.foldl_nil, EntityCollection.addTagMessageCount,
      EntityCollection.toStore_threadsAddRange, EntityCollection.toStore_prepareUpdate, Store.setThreads]
    cases r with
    | category => rfl
    | tag g =>
      by_cases hg : g = tag
      · subst hg
        simp only [Store.messageSurplus, Store.messageCountOf, CountingRef.collection, Store.threads,
          Function.update_self]
        have hunion : surplus (s.tagMessageCount g + ∑ t ∈ {thread}, s.threadMessageCount t) (s.tagThreads g ∪ {thread})
            s.threadMessageCount = surplus (s.tagMessageCount g) (s.tagThreads g) s.threadMessageCount :=
          surplus_union (Finset.disjoint_singleton_right.2 ht)
        simpa using hunion
      · simp only [Store.messageSurplus, Store.messageCountOf, CountingRef.collection, Store.threads,
          Function.update_of_ne hg]

/-- A thread that leaves with its messages takes them along, from the categories of the tag, too. -/
theorem messageSurplus_deleteDiscussionThread :
    (deleteDiscussionThread ctx tag s thread true).messageSurplus r = s.messageSurplus r := by
  have loop : ∀ (categories : List IdType) (s : EntityCollection),
      (categories.foldl (fun s category => DiscussionCategory.deleteDiscussionThreadIfNoOtherTagsReferenceIt ctx
        category s thread true) s).messageSurplus r = s.messageSurplus r := fun categories s =>
    messageSurplus_foldl s fun _ _ _ =>
      DiscussionCategory.messageSurplus_deleteDiscussionThreadIfNoOtherTagsReferenceIt ctx
  unfold deleteDiscussionThread
  by_cases ht : thread ∈ s.tagThreads tag
  · simp only [ht, if_true, EntityCollection.toStore_finishUpdate, EntityCollection.toStore_prepareUpdate, loop]
    simp only [EntityCollection.addTagMessageCount, EntityCollection.toStore_threadsRemove,
      EntityCollection.toStore_prepareUpdate, Store.setThreads]
    cases r with
    | category => rfl
    | tag g =>
      by_cases hg : g = tag
      · subst hg
        simp only [Store.messageSurplus, Store.messageCountOf, CountingRef.collection, Store.threads,
          Function.update_self]
        rw [surplus_erase ht, surplus_add, neg_add_cancel_right]
      · simp only [Store.messageSurplus, Store.messageCountOf, CountingRef.collection, Store.threads,
          Function.update_of_ne hg]
  · simp [ht]

end DiscussionTag

/-! ### Messages -/

namespace EntityCollection

variable {message : IdType}

/-- A message goes, and the tags and categories of its thread are told, unless the thread is going, too. -/
theorem messageSurplus_deleteDiscussionThreadMessage
    (hnamed : s.Named (s.messageParentThread message) r ↔ s.messageParentThread message ∈ s.threads r.collection)
    (hmem : message ∈ s.allMessages → s.threadAboutToBeDeleted (s.messageParentThread message) = false →
      message ∈ s.threadMessages (s.messageParentThread message)) (alsoFromUser : Bool) :
    (s.deleteDiscussionThreadMessage ctx message alsoFromUser).messageSurplus r = s.messageSurplus r := by
  by_cases hm : message ∈ s.allMessages
  swap
  · rw [deleteDiscussionThreadMessage, if_neg hm]
  cases hd : s.threadAboutToBeDeleted (s.messageParentThread message)
  · have hin := hmem hm hd
    obtain ⟨created, hstore⟩ := toStore_deleteDiscussionThreadMessage_of_stays ctx s message alsoFromUser hm hd
    rw [hstore]
    have hmessages : (s.toOwnership.deleteMessages {message} alsoFromUser).threadMessages =
        Function.update s.threadMessages (s.messageParentThread message)
          ((s.threadMessages (s.messageParentThread message)).erase message) := by
      funext t
      by_cases ht : t = s.messageParentThread message
      · subst ht
        ext m
        by_cases hmm : m = message
        · subst hmm
          simp [Ownership.deleteMessages, hm, hd]
        · simp [Ownership.deleteMessages, hmm]
      · rw [Function.update_of_ne ht]
        refine Finset.filter_true_of_mem fun m _ => ?_
        rintro ⟨hmm, hparent, -⟩
        rw [Finset.singleton_inter_of_mem hm, Finset.mem_singleton] at hmm
        exact ht (by rw [← hparent, hmm])
    refine (Store.messageSurplus_setMessages (s := s.toStore)
      (a := if s.Named (s.messageParentThread message) r then -1 else 0) (d := -1) ?_ (by cases r <;> rfl) hmessages
      ?_).trans ?_
    · cases r with
      | tag g =>
        by_cases hg : g ∈ s.threadTags (s.messageParentThread message) <;>
          simp [Store.messageCountOf, Store.Named, hg]
      | category c =>
        by_cases hc : c ∈ s.threadCategories (s.messageParentThread message) <;>
          simp [Store.messageCountOf, Store.Named, hc]
    · have := Finset.card_erase_add_one hin
      simp only [Ownership.threadMessageCount]
      omega
    · simp only [hnamed]
      split_ifs <;> simp
  · rw [toStore_deleteDiscussionThreadMessage_of_aboutToBeDeleted ctx s message alsoFromUser hd]
    refine Store.messageSurplus_congr (by cases r <;> rfl) (by cases r <;> rfl) fun t ht => ?_
    refine Finset.filter_true_of_mem fun m _ => ?_
    rintro ⟨hmm, hparent, habout⟩
    rw [Finset.singleton_inter_of_mem hm, Finset.mem_singleton] at hmm
    rw [← hparent, hmm, hd] at habout
    exact habout rfl

/-! ### Deletions -/

/-- A thread goes; its tags and categories are told of its messages if these go, too. -/
theorem messageSurplus_deleteDiscussionThread (hnamed : s.Named thread r ↔ thread ∈ s.threads r.collection)
    (ht : thread ∈ s.allThreads) {deleteMessages : Bool}
    (hparent : deleteMessages = true → ∀ m ∈ s.threadMessages thread, s.messageParentThread m = thread)
    (hshares : ∀ tag ∈ s.threadTags thread, thread ∈ s.tagThreads tag → ∀ category ∈ s.tagCategories tag,
      s.Shares thread category) (alsoFromUser : Bool) :
    (s.deleteDiscussionThread ctx thread deleteMessages alsoFromUser).messageSurplus r =
      s.messageSurplus r +
        if deleteMessages = false ∧ thread ∈ s.threads r.collection then s.threadMessageCount thread else 0 := by
  rw [toStore_deleteDiscussionThread_of_parent ctx s thread deleteMessages alsoFromUser ht hparent hshares]
  -- the messages that are deleted stay in the thread, which is let go of as a whole
  have hmessages : (s.toOwnership.deleteThread thread deleteMessages alsoFromUser).threadMessages = s.threadMessages := by
    cases hdelete : deleteMessages
    · simp [Ownership.deleteThread, ht, Ownership.dropThread]
    · have hparent := hparent hdelete
      simp only [Ownership.deleteThread, ht, if_true, Ownership.deleteMessages, Ownership.dropThread]
      funext t
      refine Finset.filter_true_of_mem fun m _ => ?_
      rintro ⟨hm, hp, habout⟩
      rw [hparent m (Finset.mem_of_mem_inter_left hm)] at hp
      subst hp
      exact habout (Function.update_self _ _ _)
  have hcount : (s.toOwnership.deleteThread thread deleteMessages alsoFromUser).threadMessageCount =
      s.threadMessageCount := by
    unfold Ownership.threadMessageCount
    rw [hmessages]
  by_cases hmem : thread ∈ s.threads r.collection
  · have hnamed := hnamed.2 hmem
    have herase : surplus (s.messageCountOf r) ((s.threads r.collection).erase thread) s.threadMessageCount =
        s.messageSurplus r + s.threadMessageCount thread := surplus_erase hmem
    cases r with
    | tag g =>
      have hg : thread ∈ s.tagThreads g := hmem
      have hgt : g ∈ s.threadTags thread := hnamed
      simp only [Store.messageSurplus, Store.messageCountOf, CountingRef.collection, Store.threads, hcount, hg, hgt,
        if_true, and_true] at herase ⊢
      cases deleteMessages
      · simpa using herase
      · simpa [sub_eq_add_neg, surplus_add] using congrArg (· + -s.threadMessageCount thread) herase
    | category c =>
      have hc : thread ∈ s.categoryThreads c := hmem
      have hct : c ∈ s.threadCategories thread := hnamed
      simp only [Store.messageSurplus, Store.messageCountOf, CountingRef.collection, Store.threads, hcount, hc, hct,
        if_true, and_true] at herase ⊢
      cases deleteMessages
      · simpa using herase
      · simpa [sub_eq_add_neg, surplus_add] using congrArg (· + -s.threadMessageCount thread) herase
  · have hnot := fun h => hmem (hnamed.1 h)
    rw [if_neg fun h => hmem h.2, add_zero]
    refine Store.messageSurplus_congr ?_ ?_ fun t _ => congrFun hmessages t
    · cases r with
      | tag g => exact if_neg fun h => hnot h.2.1
      | category c => exact if_neg fun h => hnot h.2.1
    · cases r with
      | tag g => exact if_neg hnot
      | category c => exact if_neg hnot

/-- A tag goes; the categories that lose threads with it lose their messages. -/
theorem messageSurplus_deleteDiscussionTag (tag : IdType) :
    (s.deleteDiscussionTag ctx tag).messageSurplus r = s.messageSurplus r := by
  unfold deleteDiscussionTag
  dsimp only
  split_ifs
  · refine (messageSurplus_foldl _ fun _ _ _ => by cases r <;> rfl).trans ?_
    refine (messageSurplus_foldl _ fun _ _ _ => DiscussionCategory.messageSurplus_removeTag ctx).trans ?_
    rw [toStore_tagsRemove]
    cases r <;> rfl
  · rfl

theorem messageCountOf_attachmentsAdd (c : AttachmentCollectionRef) (attachment : IdType) :
    (s.attachmentsAdd c attachment).messageCountOf r = s.messageCountOf r := by
  by_cases h : attachment ∈ s.attachments c
  · rw [attachmentsAdd, if_pos h]
  · rw [toStore_attachmentsAdd _ _ _ h]
    cases r <;> cases c <;> rfl

theorem messageCountOf_deleteAttachment (attachment : IdType) (alsoFromUser : Bool) :
    (s.deleteAttachment attachment alsoFromUser).messageCountOf r = s.messageCountOf r := by
  have hremove : ∀ (c : AttachmentCollectionRef) (s : EntityCollection),
      (s.attachmentsRemove c attachment).messageCountOf r = s.messageCountOf r := by
    intro c s
    by_cases h : attachment ∈ s.attachments c
    · rw [toStore_attachmentsRemove _ _ _ h]
      cases r <;> cases c <;> rfl
    · rw [attachmentsRemove, if_neg h]
  have hmessages : ∀ (messages : List IdType) (s : EntityCollection),
      (messages.foldl (fun s message => DiscussionThreadMessage.removeAttachment message s attachment)
        s).messageCountOf r = s.messageCountOf r := fun messages s =>
    foldl_view (fun s : EntityCollection => s.messageCountOf r) fun _ _ _ => by cases r <;> rfl
  unfold deleteAttachment
  dsimp only
  split_ifs
  · rw [hmessages, hremove, hremove]
  · rw [hmessages, hremove]
  · rfl

theorem messageCountOf_deletePrivateMessage (message : IdType) (fromSource fromDestination : Bool) :
    (s.deletePrivateMessage message fromSource fromDestination).messageCountOf r = s.messageCountOf r := by
  rw [toStore_deletePrivateMessage]
  cases r <;> rfl

theorem messageCountOf_deleteDiscussionCategory (category : IdType) :
    (s.deleteDiscussionCategory ctx category).messageCountOf r = s.messageCountOf r := by
  have htags : ∀ (tags : List IdType) (s : EntityCollection),
      (tags.foldl (fun s tag => DiscussionTag.removeCategory tag s category) s).messageCountOf r =
        s.messageCountOf r := fun tags s =>
    foldl_view (fun s : EntityCollection => s.messageCountOf r) fun _ _ _ => by cases r <;> rfl
  have hthreads : ∀ (threads : List IdType) (s : EntityCollection),
      (threads.foldl (fun s thread => DiscussionThread.removeCategory thread s ctx category) s).messageCountOf r =
        s.messageCountOf r := fun threads s =>
    foldl_view (fun s : EntityCollection => s.messageCountOf r) fun _ _ _ => by cases r <;> rfl
  have hremove : (s.categoriesRemove category).messageCountOf r = s.messageCountOf r := by
    rw [toStore_categoriesRemove]
    cases r <;> rfl
  unfold deleteDiscussionCategory
  dsimp only
  split_ifs
  · split
    · rw [hthreads, htags, hremove]
    · rw [DiscussionCategory.messageCountOf_removeChild, DiscussionCategory.messageCountOf_removeTotalsFromChild,
        hthreads, htags, hremove]
  · rfl

theorem messageSurplus_foldl_deleteDiscussionThreadMessage {messages : List IdType}
    (hnamed : ∀ m ∈ messages,
      s.Named (s.messageParentThread m) r ↔ s.messageParentThread m ∈ s.threads r.collection)
    (hmem : ∀ m ∈ s.allMessages, s.threadAboutToBeDeleted (s.messageParentThread m) = false →
      m ∈ s.threadMessages (s.messageParentThread m)) (alsoFromUser : Bool) :
    (messages.foldl (fun s message => s.deleteDiscussionThreadMessage ctx message alsoFromUser) s).messageSurplus r =
      s.messageSurplus r := by
  induction messages generalizing s with
  | nil => rfl
  | cons m messages ih =>
    have ho := (toOwnership_deleteDiscussionThreadMessage ctx s m alsoFromUser).1
    have hp := toPlacement_deleteDiscussionThreadMessage ctx s m alsoFromUser
    refine (ih (fun m' hm' => ?_) fun m' hm' hd => ?_).trans
      (messageSurplus_deleteDiscussionThreadMessage ctx (hnamed m List.mem_cons_self) (hmem m) alsoFromUser)
    · have h := hnamed m' (List.mem_cons_of_mem _ hm')
      cases r <;> simpa [Store.Named, Store.threads, CountingRef.collection, ho, hp, Ownership.deleteMessages] using h
    · rw [ho] at hm' hd ⊢
      obtain ⟨hall, hne⟩ := Finset.mem_sdiff.1 hm'
      refine Finset.mem_filter.2 ⟨hmem m' hall hd, fun h => ?_⟩
      exact hne (Finset.mem_of_mem_inter_left h.1)

theorem messageSurplus_detachUser (user : IdType) :
    (s.detachUser user).messageSurplus r = s.messageSurplus r := by
  refine messageSurplus_of_collectionKept (collectionKept_detachUser user) ?_
  have hcomments : ∀ (comments : List IdType) (s : EntityCollection),
      (comments.foldl detachComment s).messageCountOf r = s.messageCountOf r := by
    refine fun comments s => foldl_view (fun s : EntityCollection => s.messageCountOf r) fun s c _ => ?_
    unfold detachComment
    dsimp only
    split_ifs <;> simp only [toStore_commentsRemove] <;> cases r <;> rfl
  unfold detachUser
  rw [toStore_foldl_eraseSubscribedUser]
  have hvotes := toStore_foldl_removeVote_message (s.usersRemove user) user
    (ascending ((s.usersRemove user).userVotedMessages user)) (nodup_ascending _)
  cases r <;> refine (hcomments _ _).trans ?_ <;> rw [hvotes, toStore_usersRemove] <;> rfl

/-- A user goes with all messages of its own, and then with the threads, whose other messages go, too. -/
theorem messageSurplus_deleteUser {user : IdType} (h : Placed s.allThreads s.toPlacement)
    (hknown : TagsKnown s.allThreads s.toPlacement) (hr : s.Live r.collection) (hu : user ∈ s.users)
    (hthreads : ∀ t ∈ s.userThreads user, t ∈ s.allThreads)
    (hmessages : ∀ m ∈ s.userMessages user, s.messageParentThread m ∈ s.allThreads)
    (hmem : ∀ m ∈ s.allMessages, m ∈ s.threadMessages (s.messageParentThread m))
    (hparent : ∀ t ∈ s.allThreads, ∀ m ∈ s.threadMessages t, s.messageParentThread m = t) :
    (s.deleteUser ctx user).messageSurplus r = s.messageSurplus r := by
  have ho := toOwnership_detachUser (s := s) user
  have hp := toPlacement_detachUser (s := s) user
  have hmp : (s.detachUser user).messageParentThread = s.messageParentThread := by
    rw [ho]
    rfl
  refine (deleteUser_keeps ctx (P := fun s' => s'.messageSurplus r = s.messageSurplus r ∧ s'.Live r.collection) h
    hknown hu hthreads hparent ?_ ?_ ?_ ?_).2.1
  · refine ⟨(messageSurplus_foldl_deleteDiscussionThreadMessage ctx (fun m hm => ?_) (fun m hm _ => ?_) false).trans
      (messageSurplus_detachUser user), ?_⟩
    · have hnamed := named_iff h hr (hmessages m (mem_ascending.1 hm))
      cases r <;> simpa [Store.Named, Store.threads, CountingRef.collection, hmp, hp] using hnamed
    · rw [ho] at hm ⊢
      exact hmem m hm
    · have hplacement : ((ascending (s.userMessages user)).foldl (fun s message =>
          s.deleteDiscussionThreadMessage ctx message false) (s.detachUser user)).toPlacement = s.toPlacement :=
        (toPlacement_foldl _ fun s m _ => toPlacement_deleteDiscussionThreadMessage ctx s m false).trans hp
      exact (live_congr hplacement).2 hr
  · rintro s' t hplaced hknown ht hparent ⟨hs, hlive⟩
    refine ⟨(messageSurplus_deleteDiscussionThread ctx (named_iff hplaced hlive ht) ht (fun _ => hparent)
      (fun tag htag _ category hcategory => hplaced.shares hknown ht htag hcategory) false).trans ?_, ?_⟩
    · simpa using hs
    · have hplacement : (s'.deleteDiscussionThread ctx t true false).toPlacement = s'.toPlacement.deleteThread t :=
        toPlacement_deleteDiscussionThread ctx hplaced hknown ht (fun _ => hparent) false
      cases r <;> simpa [Store.Live, CountingRef.collection, hplacement, Placement.deleteThread] using hlive
  · rintro s' m fromSource fromDestination ⟨hs, hlive⟩
    refine ⟨(messageSurplus_of_collectionKept (collectionKept_deletePrivateMessage m _ _)
      (messageCountOf_deletePrivateMessage m _ _)).trans hs, (live_congr ?_).2 hlive⟩
    rw [toStore_deletePrivateMessage]
  · rintro s' a ⟨hs, hlive⟩
    exact ⟨(messageSurplus_of_collectionKept (collectionKept_deleteAttachment a false)
      (messageCountOf_deleteAttachment a false)).trans hs, (live_congr (toPlacement_deleteAttachment s' a false)).2 hlive⟩

end EntityCollection

end Forum.Entities
