import Forum.Entities.CounterEffects
import Forum.Entities.PlacementInvariants
import Forum.Entities.ThreadIndexEffects

/-!
# What deleting does to an exact placement

In an exact placement the loops that delete a thread, a tag or a category reach everything that knows it,
so they come down to `Placement.deleteThread`, `deleteTag` and `deleteCategory`. The loops over a tag or a
category follow a listing of its threads, which must be complete.
-/

namespace Forum.Entities

open Forum.Library

variable (ctx : Context) {s : EntityCollection} {r : ThreadCollectionRef}

/-- A thread shares each of its tags with the categories of the tag. -/
theorem Placed.shares {threads : Finset IdType} {p : Placement} {tag thread category : IdType}
    (h : Placed threads p) (hknown : TagsKnown threads p) (ht : thread ∈ threads) (htag : tag ∈ p.threadTags thread)
    (hcategory : category ∈ p.tagCategories tag) : p.Shares thread category :=
  ⟨tag, htag, ((h.tagCategories tag (hknown.threadTags thread ht htag) category).1 hcategory).2⟩

namespace EntityCollection

/-! ### Threads -/

variable {thread : IdType}

theorem toPlacement_deleteDiscussionThread (h : Placed s.allThreads s.toPlacement)
    (hknown : TagsKnown s.allThreads s.toPlacement) (ht : thread ∈ s.allThreads)
    {deleteMessages : Bool}
    (hparent : deleteMessages = true → ∀ m ∈ s.threadMessages thread, s.messageParentThread m = thread)
    (alsoFromUser : Bool) :
    (s.deleteDiscussionThread ctx thread deleteMessages alsoFromUser).toPlacement =
      s.toPlacement.deleteThread thread := by
  rw [toStore_deleteDiscussionThread_of_parent ctx s thread deleteMessages alsoFromUser ht hparent
    fun tag htag _ category hcategory => h.shares hknown ht htag hcategory]
  rfl

/-- What several deleted threads leave behind, one after the other. -/
theorem foldl_deleteDiscussionThread_keeps {P : EntityCollection → Prop}
    (step : ∀ (s : EntityCollection) t, Placed s.allThreads s.toPlacement → TagsKnown s.allThreads s.toPlacement →
      t ∈ s.allThreads → (∀ m ∈ s.threadMessages t, s.messageParentThread m = t) → P s →
        P (s.deleteDiscussionThread ctx t true false))
    (h : Placed s.allThreads s.toPlacement) (hknown : TagsKnown s.allThreads s.toPlacement) {threads : List IdType}
    (hn : threads.Nodup) (hthreads : ∀ t ∈ threads, t ∈ s.allThreads)
    (hparent : ∀ t ∈ threads, ∀ m ∈ s.threadMessages t, s.messageParentThread m = t) (hP : P s) :
    let s' := threads.foldl (fun s thread => s.deleteDiscussionThread ctx thread true false) s
    s'.toPlacement = threads.foldl Placement.deleteThread s.toPlacement ∧ P s' := by
  induction threads generalizing s with
  | nil => exact ⟨rfl, hP⟩
  | cons t threads ih =>
    obtain ⟨htn, hn⟩ := List.nodup_cons.1 hn
    have ht := hthreads t List.mem_cons_self
    have hp : (s.deleteDiscussionThread ctx t true false).toPlacement = s.toPlacement.deleteThread t :=
      toPlacement_deleteDiscussionThread ctx h hknown ht (fun _ => hparent t List.mem_cons_self) false
    have ho := (toOwnership_deleteDiscussionThread ctx s t true false).1
    have hall : (s.deleteDiscussionThread ctx t true false).allThreads = s.allThreads.erase t := by
      rw [ho]
      simp [Ownership.deleteThread, ht, Ownership.deleteMessages, Ownership.dropThread]
    obtain ⟨hplacement, hP'⟩ := ih (s := s.deleteDiscussionThread ctx t true false)
      (by rw [hall, hp]; exact h.deleteThread ht) (by rw [hall, hp]; exact hknown.deleteThread t) hn
      (fun x hx => by
        rw [hall, Finset.mem_erase]
        exact ⟨fun he => htn (he ▸ hx), hthreads x (List.mem_cons_of_mem _ hx)⟩)
      (fun x hx m hm => by
        rw [ho] at hm ⊢
        simp only [Ownership.deleteThread, ht, if_true, Ownership.deleteMessages, Ownership.dropThread] at hm ⊢
        exact hparent x (List.mem_cons_of_mem _ hx) m (Finset.mem_of_mem_filter m hm))
      (step s t h hknown ht (hparent t List.mem_cons_self) hP)
    exact ⟨hplacement.trans (by rw [hp]; rfl), hP'⟩

/-! ### Tags -/

/-- A category that gives a tag up changes no collection but its own. -/
theorem collectionKept_removeTag (category tag : IdType) (hr : ∀ c, r ≠ .category c) :
    CollectionKept r s (DiscussionCategory.removeTag ctx category s tag) := by
  unfold DiscussionCategory.removeTag
  split_ifs
  · refine .foldl (fun s t _ => ?_) (.of_store rfl (by cases r <;> rfl) rfl rfl)
    exact DiscussionCategory.deleteDiscussionThreadIfNoOtherTagsReferenceIt_keeps (P := fun s' => CollectionKept r s s')
      ctx (fun _ _ hk h => hk.trans' h) (fun s' h => (CollectionKept.threadsRemove s' (hr category) t).trans' h) true
      (.refl r s)
  · exact .refl r s

theorem toPlacement_removeTag {tag category : IdType} (htag : tag ∈ s.categoryTags category)
    (hlist : (s.iterateThreads (.tag tag)).toFinset = s.tagThreads tag)
    (hstays : ∀ t ∈ s.tagThreads tag, s.threadAboutToBeDeleted t = false) :
    (DiscussionCategory.removeTag ctx category s tag).toPlacement = s.toPlacement.dropTag tag category := by
  rw [DiscussionCategory.toPlacement_removeTag, if_pos htag, hlist]
  simp only [Placement.dropTag, Placement.unplace, Placement.mk.injEq, true_and, and_true]
  funext t
  by_cases ht : t ∈ s.tagThreads tag
  · simp [hstays t ht]
  · simp [ht]

/-- A deleted tag leaves its categories one after the other. -/
theorem toPlacement_foldl_removeTag {tag : IdType} {categories : List IdType} (hn : categories.Nodup)
    (htag : ∀ c ∈ categories, tag ∈ s.categoryTags c)
    (hlist : (s.iterateThreads (.tag tag)).toFinset = s.tagThreads tag)
    (hstays : ∀ t ∈ s.tagThreads tag, s.threadAboutToBeDeleted t = false) :
    let s' := categories.foldl (fun s category => DiscussionCategory.removeTag ctx category s tag) s
    s'.toPlacement = categories.foldl (fun p category => p.dropTag tag category) s.toPlacement ∧
      CollectionKept (.tag tag) s s' := by
  induction categories generalizing s with
  | nil => exact ⟨rfl, .refl _ s⟩
  | cons category categories ih =>
    obtain ⟨hc, hn⟩ := List.nodup_cons.1 hn
    have hp := toPlacement_removeTag ctx (htag category List.mem_cons_self) hlist hstays
    have hk : CollectionKept (.tag tag) s (DiscussionCategory.removeTag ctx category s tag) :=
      collectionKept_removeTag ctx category tag (by simp)
    have hthreads : (DiscussionCategory.removeTag ctx category s tag).tagThreads tag = s.tagThreads tag := hk.threads
    obtain ⟨hplacement, hkept⟩ := ih (s := DiscussionCategory.removeTag ctx category s tag) hn
      (fun c hcs => by
        have hne : c ≠ category := fun he => hc (he ▸ hcs)
        rw [hp]
        simpa [Placement.dropTag, Placement.unplace, hne] using htag c (List.mem_cons_of_mem _ hcs))
      (by rw [hk.iterateThreads, hlist, hthreads])
      (by
        rw [hthreads, (DiscussionCategory.ownershipKept_removeTag ctx s category tag).1]
        exact hstays)
    exact ⟨hplacement.trans (by rw [hp]; rfl), hkept.trans' hk⟩

theorem toPlacement_foldl_removeTag_thread (tag : IdType) (threads : List IdType) :
    (threads.foldl (fun s thread => DiscussionThread.removeTag thread s ctx tag) s).toPlacement =
      { s.toPlacement with
        threadTags := fun t => if t ∈ threads then (s.threadTags t).erase tag else s.threadTags t } := by
  induction threads generalizing s with
  | nil => rfl
  | cons thread threads ih =>
    rw [List.foldl_cons, ih]
    simp only [DiscussionThread.removeTag, DiscussionThread.setLatestVisibleChange, modifyThread, Placement.mk.injEq,
      true_and, and_true]
    funext t
    by_cases ht : t = thread
    · subst ht
      simp
    · simp [ht]

theorem toPlacement_deleteDiscussionTag {tag : IdType} (h : Placed s.allThreads s.toPlacement) (htag : tag ∈ s.tags)
    (hlist : (s.iterateThreads (.tag tag)).toFinset = s.tagThreads tag)
    (hstays : ∀ t ∈ s.allThreads, s.threadAboutToBeDeleted t = false) :
    (s.deleteDiscussionTag ctx tag).toPlacement = s.toPlacement.deleteTag tag := by
  have hk : CollectionKept (.tag tag) s (s.tagsRemove tag) := .tagsRemove tag
  have hstore := toStore_tagsRemove s tag
  obtain ⟨hplacement, hkept⟩ := toPlacement_foldl_removeTag ctx (s := s.tagsRemove tag)
    (nodup_ascending (s.tagCategories tag))
    (fun c hc => by
      rw [hstore]
      exact ((h.tagCategories tag htag c).1 (mem_ascending.1 hc)).2)
    (by rw [hk.iterateThreads, hlist, hstore])
    (by
      rw [hstore]
      exact fun t ht => hstays t ((h.tagThreads tag htag t).1 ht).1)
  have hcategories : (s.tagsRemove tag).tagCategories = s.tagCategories := by rw [hstore]
  unfold deleteDiscussionTag
  rw [if_pos htag]
  dsimp only
  rw [hcategories, toPlacement_foldl_removeTag_thread]
  generalize hs' : (ascending (s.tagCategories tag)).foldl (fun s category =>
    DiscussionCategory.removeTag ctx category s tag) (s.tagsRemove tag) = s' at hplacement hkept
  have hlist' : (s'.iterateThreads (.tag tag)).toFinset = s'.tagThreads tag := by
    have hthreads : s'.tagThreads tag = (s.tagsRemove tag).tagThreads tag := hkept.threads
    rw [hkept.iterateThreads, hk.iterateThreads, hlist, hthreads, hstore]
  have hmem : ∀ t, t ∈ s'.iterateThreads (.tag tag) ↔ t ∈ s'.tagThreads tag := fun t => by
    rw [← hlist', List.mem_toFinset]
  simp only [hmem]
  rw [hplacement, hstore]
  rfl

/-! ### Categories -/

theorem toPlacement_foldl_removeCategory_tag (category : IdType) (tags : List IdType) :
    (tags.foldl (fun s tag => DiscussionTag.removeCategory tag s category) s).toPlacement =
      { s.toPlacement with
        tagCategories := fun g =>
          if g ∈ tags then (s.tagCategories g).erase category else s.tagCategories g } := by
  induction tags generalizing s with
  | nil => rfl
  | cons tag tags ih =>
    rw [List.foldl_cons, ih]
    simp only [DiscussionTag.removeCategory, Placement.mk.injEq, true_and, and_true]
    funext g
    by_cases hg : g = tag
    · subst hg
      simp
    · simp [hg]

theorem toPlacement_foldl_removeCategory_thread (category : IdType) (threads : List IdType) :
    (threads.foldl (fun s thread => DiscussionThread.removeCategory thread s ctx category) s).toPlacement =
      { s.toPlacement with
        threadCategories := fun t =>
          if t ∈ threads then (s.threadCategories t).erase category else s.threadCategories t } := by
  induction threads generalizing s with
  | nil => rfl
  | cons thread threads ih =>
    rw [List.foldl_cons, ih]
    simp only [DiscussionThread.removeCategory, DiscussionThread.setLatestVisibleChange, modifyThread,
      Placement.mk.injEq, true_and, and_true]
    funext t
    by_cases ht : t = thread
    · subst ht
      simp
    · simp [ht]

theorem withoutHierarchy_deleteDiscussionCategory {category : IdType} (hcategory : category ∈ s.categories)
    (hlist : (s.iterateThreads (.category category)).toFinset = s.categoryThreads category) :
    (s.deleteDiscussionCategory ctx category).withoutHierarchy =
      (s.toPlacement.deleteCategory category).withoutHierarchy := by
  have hk : CollectionKept (.category category) s (s.categoriesRemove category) := .categoriesRemove category
  have hstore := toStore_categoriesRemove s category
  unfold deleteDiscussionCategory
  rw [if_pos hcategory]
  dsimp only
  have htags := toPlacement_foldl_removeCategory_tag (s := s.categoriesRemove category) category
    (ascending (s.categoryTags category))
  have hkept : CollectionKept (.category category) s ((ascending (s.categoryTags category)).foldl (fun s tag =>
      DiscussionTag.removeCategory tag s category) (s.categoriesRemove category)) :=
    .foldl (fun _ _ _ => .of_store rfl rfl rfl rfl) hk
  have hcategoryTags : (s.categoriesRemove category).categoryTags = s.categoryTags := by rw [hstore]
  rw [hcategoryTags]
  generalize (ascending (s.categoryTags category)).foldl (fun s tag =>
    DiscussionTag.removeCategory tag s category) (s.categoriesRemove category) = s₂ at htags hkept
  have hmem : ∀ t, t ∈ s₂.iterateThreads (.category category) ↔ t ∈ s.categoryThreads category := fun t => by
    rw [hkept.iterateThreads, ← hlist, List.mem_toFinset]
  have hthreads := toPlacement_foldl_removeCategory_thread ctx (s := s₂) category
    (s₂.iterateThreads (.category category))
  generalize (s₂.iterateThreads (.category category)).foldl (fun s thread =>
    DiscussionThread.removeCategory thread s ctx category) s₂ = s₃ at hthreads
  have hs₃ : s₃.withoutHierarchy = (s.toPlacement.deleteCategory category).withoutHierarchy := by
    rw [hthreads, htags, hstore]
    simp only [hmem, mem_ascending]
    rfl
  split
  · exact hs₃
  · simpa [DiscussionCategory.removeChild, Placement.withoutHierarchy] using hs₃

/-! ### Users -/

/-- Deleting messages leads to the same collections of each thread as before. -/
theorem held_deleteDiscussionThreadMessage {t : IdType} (held : Held s.toStore r t) (message : IdType)
    (alsoFromUser : Bool) : Held (s.deleteDiscussionThreadMessage ctx message alsoFromUser).toStore r t := by
  have hthreads : (s.deleteDiscussionThreadMessage ctx message alsoFromUser).threads r = s.threads r := by
    cases r <;> simp [Store.threads, Ownership.deleteMessages]
  have hholders : (s.deleteDiscussionThreadMessage ctx message alsoFromUser).threadHolders t = s.threadHolders t := by
    simp [Store.threadHolders, Ownership.deleteMessages]
  unfold Held
  rw [hthreads, hholders]
  exact held

theorem collectionSound_foldl_deleteDiscussionThreadMessage {messages : List IdType} (h : CollectionSound s r)
    (held : ∀ m ∈ messages, Held s.toStore r (s.messageParentThread m)) (alsoFromUser : Bool) :
    CollectionSound (messages.foldl (fun s message => s.deleteDiscussionThreadMessage ctx message alsoFromUser) s) r := by
  induction messages generalizing s with
  | nil => exact h
  | cons m messages ih =>
    refine ih (collectionSound_deleteDiscussionThreadMessage ctx h (held m List.mem_cons_self) alsoFromUser)
      fun m' hm' => ?_
    rw [(toOwnership_deleteDiscussionThreadMessage ctx s m alsoFromUser).1]
    exact held_deleteDiscussionThreadMessage ctx (held m' (List.mem_cons_of_mem _ hm')) m alsoFromUser

theorem collectionKept_detachComment (comment : IdType) : CollectionKept r s (s.detachComment comment) := by
  unfold detachComment
  dsimp only
  split_ifs
  · exact (CollectionKept.commentsRemove comment _).trans' (.of_store rfl (by cases r <;> rfl) rfl rfl)
  · exact .commentsRemove comment _

theorem collectionKept_deletePrivateMessage (message : IdType) (fromSource fromDestination : Bool) :
    CollectionKept r s (s.deletePrivateMessage message fromSource fromDestination) := by
  have hone : ∀ (b : Bool) (c : PrivateMessageCollectionRef) (s : EntityCollection),
      CollectionKept r s (if b then s.privateMessagesRemove c message else s) := by
    intro b c s
    split_ifs
    · exact .privateMessagesRemove message c
    · exact .refl r s
  unfold deletePrivateMessage
  split_ifs with hm
  all_goals
    first
      | exact .refl r s
      | exact (CollectionKept.privateMessagesRemove message _).trans'
          ((CollectionKept.privateMessagesRemove message _).trans' (.privateMessagesRemove message _))
      | exact (CollectionKept.privateMessagesRemove message _).trans' (.privateMessagesRemove message _)
      | exact .privateMessagesRemove message _

theorem collectionKept_deleteAttachment (attachment : IdType) (alsoFromUser : Bool) :
    CollectionKept r s (s.deleteAttachment attachment alsoFromUser) := by
  have hmessages : ∀ (messages : List IdType) (s : EntityCollection), CollectionKept r s
      (messages.foldl (fun s message => DiscussionThreadMessage.removeAttachment message s attachment) s) :=
    fun messages s => .foldl (fun _ _ _ => .setOwnership rfl rfl rfl rfl) (.refl r s)
  unfold deleteAttachment
  dsimp only
  split_ifs
  · exact (hmessages _ _).trans' ((CollectionKept.attachmentsRemove attachment _).trans' (.attachmentsRemove attachment _))
  · exact (hmessages _ _).trans' (.attachmentsRemove attachment _)
  · exact .refl r s

/-- What `deleteUser` does first: votes, comments and subscriptions of the user leave what they were made on. -/
def detachUser (s : EntityCollection) (user : IdType) : EntityCollection :=
  let s := s.usersRemove user
  let s := (ascending (s.userVotedMessages user)).foldl (fun s message =>
    (DiscussionThreadMessage.removeVote message s user).2) s
  let s := (ascending (s.userComments user)).foldl detachComment s
  (ascending (s.userSubscribedThreads user)).foldl (fun s thread =>
    DiscussionThread.eraseSubscribedUser thread s user) s

theorem toOwnership_detachUser (user : IdType) :
    (s.detachUser user).toOwnership = s.toOwnership.detachUser user := by
  simp [detachUser, toStore_foldl_removeVote_message, nodup_ascending, toOwnership_foldl_detachComment,
    toStore_foldl_eraseSubscribedUser, Ownership.detachUser]

theorem toPlacement_detachUser (user : IdType) : (s.detachUser user).toPlacement = s.toPlacement := by
  have hcomments : ∀ (comments : List IdType) (s : EntityCollection),
      (comments.foldl detachComment s).toPlacement = s.toPlacement := fun comments s =>
    toPlacement_foldl s fun s c _ => toPlacement_detachComment s c
  simp only [detachUser, toStore_foldl_eraseSubscribedUser, hcomments,
    toStore_foldl_removeVote_message _ _ _ (nodup_ascending _), toStore_usersRemove]

theorem collectionKept_detachUser (user : IdType) : CollectionKept r s (s.detachUser user) := by
  unfold detachUser
  refine .foldl (fun _ _ _ => .setOwnership rfl rfl rfl rfl) ?_
  refine .foldl (fun s c _ => collectionKept_detachComment c) ?_
  refine .foldl (fun s m _ => ?_) (.usersRemove user)
  unfold DiscussionThreadMessage.removeVote
  split_ifs
  · exact .setOwnership rfl rfl rfl rfl
  · exact .setOwnership rfl rfl rfl rfl
  · exact .refl r s

/-- The user's messages go before the threads; what the user leaves behind then has nothing to do with threads. -/
theorem deleteUser_keeps {user : IdType} {P : EntityCollection → Prop} (h : Placed s.allThreads s.toPlacement)
    (hknown : TagsKnown s.allThreads s.toPlacement) (hu : user ∈ s.users)
    (hthreads : ∀ t ∈ s.userThreads user, t ∈ s.allThreads)
    (hparent : ∀ t ∈ s.allThreads, ∀ m ∈ s.threadMessages t, s.messageParentThread m = t)
    (messages : P ((ascending (s.userMessages user)).foldl (fun s message =>
      s.deleteDiscussionThreadMessage ctx message false) (s.detachUser user)))
    (thread : ∀ (s : EntityCollection) t, Placed s.allThreads s.toPlacement → TagsKnown s.allThreads s.toPlacement →
      t ∈ s.allThreads → (∀ m ∈ s.threadMessages t, s.messageParentThread m = t) → P s →
        P (s.deleteDiscussionThread ctx t true false))
    (privateMessage : ∀ (s : EntityCollection) m fromSource fromDestination, P s →
      P (s.deletePrivateMessage m fromSource fromDestination))
    (attachment : ∀ (s : EntityCollection) a, P s → P (s.deleteAttachment a false)) :
    (s.deleteUser ctx user).toPlacement = (ascending (s.userThreads user)).foldl Placement.deleteThread s.toPlacement ∧
      P (s.deleteUser ctx user) := by
  have hown₄ := toOwnership_detachUser (s := s) user
  have hplacement₄ := toPlacement_detachUser (s := s) user
  have hmessages : (s.detachUser user).userMessages user = s.userMessages user := by rw [hown₄]; rfl
  have hdelete : s.deleteUser ctx user =
      (let s := (ascending ((s.detachUser user).userMessages user)).foldl (fun s message =>
        deleteDiscussionThreadMessage ctx s message false) (s.detachUser user)
      let s := (ascending (s.userThreads user)).foldl (fun s thread =>
        deleteDiscussionThread ctx s thread true false) s
      let s := (ascending (s.userReceivedPrivateMessages user)).foldl (fun s message =>
        s.deletePrivateMessage message true false) s
      let s := (ascending (s.userSentPrivateMessages user)).foldl (fun s message =>
        s.deletePrivateMessage message false true) s
      (ascending (s.userAttachments user)).foldl (fun s attachment => s.deleteAttachment attachment false) s) := by
    unfold deleteUser detachUser
    rw [if_pos hu]
  rw [hdelete, hmessages]
  generalize s.detachUser user = s₄ at messages hown₄ hplacement₄
  extract_lets s₅ s₆ s₇ s₈
  have hown₅ : s₅.toOwnership = (s.toOwnership.detachUser user).deleteMessages (s.userMessages user) false := by
    refine (toOwnership_foldl_deleteDiscussionThreadMessage ctx s₄ _ false).1.trans ?_
    rw [hown₄, toFinset_ascending]
  have hplacement₅ : s₅.toPlacement = s.toPlacement :=
    (toPlacement_foldl s₄ fun s m _ => toPlacement_deleteDiscussionThreadMessage ctx s m false).trans hplacement₄
  have hall₅ : s₅.allThreads = s.allThreads := by rw [hown₅]; rfl
  have huser₅ : s₅.userThreads user = s.userThreads user := by rw [hown₅]; rfl
  have hP₅ : P s₅ := messages
  obtain ⟨hplacement₆, hP₆⟩ := foldl_deleteDiscussionThread_keeps ctx thread (s := s₅)
    (by rw [hall₅, hplacement₅]; exact h) (by rw [hall₅, hplacement₅]; exact hknown)
    (nodup_ascending (s₅.userThreads user))
    (fun t ht => by
      rw [huser₅] at ht
      rw [hall₅]
      exact hthreads t (mem_ascending.1 ht))
    (fun t ht m hm => by
      rw [huser₅] at ht
      rw [hown₅] at hm ⊢
      exact hparent t (hthreads t (mem_ascending.1 ht)) m (Finset.mem_of_mem_filter m hm)) hP₅
  refine ⟨?_, ?_⟩
  · have hplacement₈ : s₈.toPlacement = s₆.toPlacement := by
      simp only [s₈, s₇, toStore_foldl_deletePrivateMessage]
    refine (toPlacement_foldl s₈ fun s a _ => toPlacement_deleteAttachment s a false).trans (hplacement₈.trans ?_)
    exact hplacement₆.trans (by rw [huser₅, hplacement₅])
  · have hP₇ : P s₇ := foldl_keeps hP₆ fun s m _ hs => privateMessage s m true false hs
    have hP₈ : P s₈ := foldl_keeps hP₇ fun s m _ hs => privateMessage s m false true hs
    exact foldl_keeps hP₈ fun s a _ hs => attachment s a hs

/-- The collections of threads that a deleted user leaves behind. -/
theorem collectionSound_deleteUser {user : IdType} (h : Placed s.allThreads s.toPlacement)
    (hknown : TagsKnown s.allThreads s.toPlacement) (hu : user ∈ s.users)
    (hthreads : ∀ t ∈ s.userThreads user, t ∈ s.allThreads)
    (hparent : ∀ t ∈ s.allThreads, ∀ m ∈ s.threadMessages t, s.messageParentThread m = t)
    (hr : r ≠ .subscribedBy user) (hsound : CollectionSound s r)
    (held : ∀ m ∈ s.userMessages user, Held s.toStore r (s.messageParentThread m)) :
    CollectionSound (s.deleteUser ctx user) r := by
  refine (deleteUser_keeps ctx (P := (CollectionSound · r)) h hknown hu hthreads hparent ?_
    (fun s t _ _ _ hparent hs => collectionSound_deleteDiscussionThread ctx hs (fun _ => hparent) false)
    (fun s m _ _ hs => hs.kept (collectionKept_deletePrivateMessage m _ _))
    fun s a hs => hs.kept (collectionKept_deleteAttachment a false)).2
  refine collectionSound_foldl_deleteDiscussionThreadMessage ctx (hsound.kept (collectionKept_detachUser user))
    (fun m hm => ?_) false
  have hparent₄ : (s.detachUser user).messageParentThread m = s.messageParentThread m := by
    rw [toOwnership_detachUser]
    rfl
  -- only the user's own subscriptions are gone
  have hholders : r ∈ (s.detachUser user).threadHolders (s.messageParentThread m) ↔
      r ∈ s.threadHolders (s.messageParentThread m) := by
    unfold Store.threadHolders
    rw [toOwnership_detachUser, toPlacement_detachUser]
    cases r with
    | subscribedBy u =>
      have hne : u ≠ user := fun he => hr (he ▸ rfl)
      simp [Ownership.detachUser, hne]
    | _ => simp [Ownership.detachUser]
  rw [hparent₄]
  intro hmem
  rw [(collectionKept_detachUser user).threads] at hmem
  exact hholders.2 (held m (mem_ascending.1 hm) hmem)

theorem toPlacement_deleteUser {user : IdType} (h : Placed s.allThreads s.toPlacement)
    (hknown : TagsKnown s.allThreads s.toPlacement) (hu : user ∈ s.users)
    (hthreads : ∀ t ∈ s.userThreads user, t ∈ s.allThreads)
    (hparent : ∀ t ∈ s.allThreads, ∀ m ∈ s.threadMessages t, s.messageParentThread m = t) :
    (s.deleteUser ctx user).toPlacement = (ascending (s.userThreads user)).foldl Placement.deleteThread s.toPlacement :=
  (deleteUser_keeps ctx (P := fun _ => True) h hknown hu hthreads hparent trivial (fun _ _ _ _ _ _ _ => trivial)
    (fun _ _ _ _ _ => trivial) fun _ _ _ => trivial).1

end EntityCollection

end Forum.Entities
