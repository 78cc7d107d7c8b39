import Forum.Repository.Subscriptions

/-!
# Authors and parents

Who created the threads and messages of the store, and which thread a message is in. A user's
collections hold exactly what the user created, a thread holds exactly the messages that name it as
their parent, and every author is registered or anonymous. This holds in every run.

With it the cascade of `deleteUser` has a closed form: the user's messages are deleted, then the
user's threads all at once with the messages left in them.
-/

namespace Forum.Entities.Ownership

open Forum.Library

variable {o : Ownership}

/-- Threads leave the store and the collections of their subscribers, but not of their authors. -/
def dropThreads (o : Ownership) (threads : Finset IdType) : Ownership :=
  { o with
    allThreads := o.allThreads \ threads
    threadAboutToBeDeleted := fun thread => if thread ∈ threads then true else o.threadAboutToBeDeleted thread
    userSubscribedThreads := fun user => (o.userSubscribedThreads user).filter fun thread =>
      ¬(thread ∈ threads ∧ user ∈ o.threadSubscribedUsers thread) }

/-- Dropping further threads after one was deleted with its messages. -/
theorem dropThreads_deleteThread {t : IdType} (threads : Finset IdType) (ht : t ∈ o.allThreads)
    (hparent : ∀ m ∈ o.threadMessages t, o.messageParentThread m = t) :
    (o.deleteThread t true false).dropThreads threads =
      (o.dropThreads (insert t threads)).deleteMessages (o.threadMessages t) true := by
  have hdelete : o.deleteThread t true false = (o.dropThread t false).deleteMessages (o.threadMessages t) true := by
    simp [deleteThread, ht]
  rw [hdelete]
  simp only [deleteMessages, dropThreads, dropThread, Ownership.mk.injEq, true_and, and_true]
  refine ⟨?_, ?_, ?_, ?_, ?_, rfl, rfl, rfl, rfl⟩
  · ext y
    simp only [Finset.mem_sdiff, Finset.mem_erase, Finset.mem_insert]
    tauto
  · simp
  · funext u
    ext y
    simp only [Finset.mem_filter, Finset.mem_insert]
    grind
  · funext y
    by_cases hy : y = t <;> simp [hy]
  · funext y
    ext m
    simp only [Finset.mem_filter, Finset.mem_inter]
    grind

/-- Deleting threads one after the other, each with the messages that name it as their parent. -/
theorem foldl_deleteThread {threads : List IdType} (hn : threads.Nodup) (hall : ∀ t ∈ threads, t ∈ o.allThreads)
    (hparent : ∀ t ∈ threads, ∀ m ∈ o.threadMessages t, o.messageParentThread m = t) :
    threads.foldl (fun o thread => o.deleteThread thread true false) o =
      (o.dropThreads threads.toFinset).deleteMessages (threads.toFinset.biUnion o.threadMessages) true := by
  induction threads generalizing o with
  | nil => simp [dropThreads, deleteMessages]
  | cons t threads ih =>
    obtain ⟨ht, hn⟩ := List.nodup_cons.1 hn
    have htall := hall t List.mem_cons_self
    have htparent := hparent t List.mem_cons_self
    have hdelete : o.deleteThread t true false = (o.dropThread t false).deleteMessages (o.threadMessages t) true := by
      simp [deleteThread, htall]
    -- the messages of the thread are in no other, so the others keep theirs
    have hmessages : (o.deleteThread t true false).threadMessages = o.threadMessages := by
      rw [hdelete]
      funext t'
      refine Finset.filter_true_of_mem fun m _ => ?_
      rintro ⟨hm, hp, habout⟩
      exact habout (by simp [← hp, dropThread, htparent m (Finset.mem_inter.1 hm).1])
    rw [List.foldl_cons, ih hn, hmessages, dropThreads_deleteThread _ htall htparent,
      deleteMessages_deleteMessages, List.toFinset_cons, Finset.biUnion_insert]
    · intro t' ht'
      have hne : t' ≠ t := fun he => ht (he ▸ ht')
      simp [hdelete, deleteMessages, dropThread, hne, hall t' (List.mem_cons_of_mem _ ht')]
    · intro t' ht' m hm
      rw [hmessages] at hm
      rw [hdelete]
      exact hparent t' (List.mem_cons_of_mem _ ht') m hm

end Forum.Entities.Ownership

namespace Forum.Repository

open Forum.Entities Forum.Library

/-- The collections of threads and messages hold what their owner says they do. -/
structure Authored (o : Ownership) : Prop where
  threadAuthor : ∀ thread ∈ o.allThreads, UserObject o (o.threadCreatedBy thread)
  userThreads : ∀ user, UserObject o user → ∀ thread,
    thread ∈ o.userThreads user ↔ thread ∈ o.allThreads ∧ o.threadCreatedBy thread = user
  notAboutToBeDeleted : ∀ thread ∈ o.allThreads, o.threadAboutToBeDeleted thread = false
  messageAuthor : ∀ message ∈ o.allMessages, UserObject o (o.messageCreatedBy message)
  userMessages : ∀ user, UserObject o user → ∀ message,
    message ∈ o.userMessages user ↔ message ∈ o.allMessages ∧ o.messageCreatedBy message = user
  messageParent : ∀ message ∈ o.allMessages, o.messageParentThread message ∈ o.allThreads
  threadMessages : ∀ thread ∈ o.allThreads, ∀ message,
    message ∈ o.threadMessages thread ↔ message ∈ o.allMessages ∧ o.messageParentThread message = thread

namespace Authored

variable {o o' : Ownership} {user id : IdType} {op : Operation}

/-- The invariant reads users, threads and messages only. -/
theorem congr (h : Authored o) (hu : o'.users = o.users) (ht : o'.allThreads = o.allThreads)
    (hut : o'.userThreads = o.userThreads) (htc : o'.threadCreatedBy = o.threadCreatedBy)
    (hta : o'.threadAboutToBeDeleted = o.threadAboutToBeDeleted) (hm : o'.allMessages = o.allMessages)
    (hum : o'.userMessages = o.userMessages) (htm : o'.threadMessages = o.threadMessages)
    (hmc : o'.messageCreatedBy = o.messageCreatedBy) (hmp : o'.messageParentThread = o.messageParentThread) :
    Authored o' := by
  obtain ⟨h₁, h₂, h₃, h₄, h₅, h₆, h₇⟩ := h
  constructor
  · simpa only [UserObject, hu, ht, htc] using h₁
  · simpa only [UserObject, hu, ht, hut, htc] using h₂
  · simpa only [ht, hta] using h₃
  · simpa only [UserObject, hu, hm, hmc] using h₄
  · simpa only [UserObject, hu, hm, hum, hmc] using h₅
  · simpa only [ht, hm, hmp] using h₆
  · simpa only [ht, hm, htm, hmp] using h₇

/-- A new entity is none of those the invariant is about. -/
theorem construct (h : Authored o) (hissued : Issued o) (hid : id ≠ 0 ∧ id ∉ o.issuedIds) :
    Authored (o.construct id) := by
  have hthread : ∀ t ∈ o.allThreads, t ≠ id := fun t ht he => hid.2 (he ▸ hissued.threads ht)
  have huser : ∀ u, UserObject o u → u ≠ id := by
    rintro u (rfl | hu) he
    · exact hid.1 he.symm
    · exact hid.2 (he ▸ hissued.users hu)
  refine ⟨h.threadAuthor, fun u hu t => ?_, fun t ht => ?_, h.messageAuthor, fun u hu m => ?_, h.messageParent,
    fun t ht m => ?_⟩
  · simpa [Ownership.construct, huser u hu] using h.userThreads u hu t
  · simpa [Ownership.construct, hthread t ht] using h.notAboutToBeDeleted t ht
  · simpa [Ownership.construct, huser u hu] using h.userMessages u hu m
  · simpa [Ownership.construct, hthread t ht] using h.threadMessages t ht m

theorem addUser (h : Authored o) (hissued : Issued o) (hid : id ≠ 0 ∧ id ∉ o.issuedIds) :
    Authored { o.construct id with users := insert id o.users } := by
  have hc := h.construct hissued hid
  have hobject : ∀ u, UserObject o u → UserObject { o.construct id with users := insert id o.users } u :=
    fun u hu => hu.imp_right Finset.mem_insert_of_mem
  have hnot : ∀ u, UserObject o u → u ≠ id := by
    rintro u (rfl | hu) he
    · exact hid.1 he.symm
    · exact hid.2 (he ▸ hissued.users hu)
  have hcases : ∀ u, UserObject { o.construct id with users := insert id o.users } u → u = id ∨ UserObject o u := by
    rintro u (rfl | hu)
    · exact .inr (.inl rfl)
    · exact (Finset.mem_insert.1 hu).imp_right .inr
  refine ⟨fun t ht => hobject _ (hc.threadAuthor t ht), fun u hu t => ?_, hc.notAboutToBeDeleted,
    fun m hm => hobject _ (hc.messageAuthor m hm), fun u hu m => ?_, hc.messageParent, hc.threadMessages⟩
  · rcases hcases u hu with rfl | hu
    · refine iff_of_false (by simp [Ownership.construct]) fun ht => ?_
      exact hnot _ (h.threadAuthor t ht.1) ht.2
    · exact hc.userThreads u hu t
  · rcases hcases u hu with rfl | hu
    · refine iff_of_false (by simp [Ownership.construct]) fun hm => ?_
      exact hnot _ (h.messageAuthor m hm.1) hm.2
    · exact hc.userMessages u hu m

theorem addThread (h : Authored o) (hissued : Issued o) (hid : id ≠ 0 ∧ id ∉ o.issuedIds)
    (hu : UserObject o user) : Authored (o.addThread id user) := by
  have hc := h.construct hissued hid
  have hthread : ∀ t ∈ o.allThreads, t ≠ id := fun t ht he => hid.2 (he ▸ hissued.threads ht)
  refine ⟨fun t ht => ?_, fun u hu' t => ?_, fun t ht => ?_, hc.messageAuthor, hc.userMessages, fun m hm => ?_,
    fun t ht m => ?_⟩
  · rcases Finset.mem_insert.1 ht with rfl | ht
    · simpa [Ownership.addThread, Ownership.construct, UserObject] using hu
    · simpa [Ownership.addThread, Ownership.construct, UserObject, hthread t ht] using h.threadAuthor t ht
  · have := hc.userThreads u hu' t
    by_cases ht : t = id
    · subst ht
      have hnot : t ∉ o.allThreads := fun ht => hthread t ht rfl
      have hnot' : t ∉ (o.construct t).userThreads u := fun h' => hnot (this.1 h').1
      simp only [Ownership.addThread, mem_update_insert, hnot', Function.update_self, Finset.mem_insert_self,
        true_and, false_or]
      exact eq_comm
    · simp only [Ownership.addThread, mem_update_insert, Function.update_of_ne ht, Finset.mem_insert, ht, this,
        false_and, or_false, false_or]
  · rcases Finset.mem_insert.1 ht with rfl | ht
    · simp [Ownership.addThread, Ownership.construct]
    · exact hc.notAboutToBeDeleted t ht
  · exact Finset.mem_insert_of_mem (hc.messageParent m hm)
  · rcases Finset.mem_insert.1 ht with rfl | ht
    · refine iff_of_false (by simp [Ownership.addThread, Ownership.construct]) fun hm => ?_
      exact hthread _ (h.messageParent m hm.1) hm.2
    · exact hc.threadMessages t ht m

theorem constructMessage (h : Authored o) (hissued : Issued o) (hid : id ≠ 0 ∧ id ∉ o.issuedIds)
    (thread : IdType) : Authored (o.constructMessage id thread user) := by
  have hc := h.construct hissued hid
  have hmessage : ∀ m ∈ o.allMessages, m ≠ id := fun m hm he => hid.2 (he ▸ hissued.messages hm)
  refine ⟨hc.threadAuthor, hc.userThreads, hc.notAboutToBeDeleted, fun m hm => ?_, fun u hu m => ?_,
    fun m hm => ?_, fun t ht m => ?_⟩
  · simpa [Ownership.constructMessage, Ownership.construct, UserObject, hmessage m hm] using h.messageAuthor m hm
  · have := hc.userMessages u hu m
    by_cases hm : m ∈ o.allMessages
    · simpa [Ownership.constructMessage, hmessage m hm] using this
    · exact iff_of_false (fun h' => hm (this.1 h').1) fun h' => hm h'.1
  · simpa [Ownership.constructMessage, hmessage m hm] using hc.messageParent m hm
  · have := hc.threadMessages t ht m
    by_cases hm : m ∈ o.allMessages
    · simpa [Ownership.constructMessage, hmessage m hm] using this
    · exact iff_of_false (fun h' => hm (this.1 h').1) fun h' => hm h'.1

theorem addMessage (h : Authored o) (hissued : Issued o) (hid : id ≠ 0 ∧ id ∉ o.issuedIds) {thread : IdType}
    (ht : thread ∈ o.allThreads) (hu : UserObject o user) : Authored (o.addMessage id thread user) := by
  have hc : Authored (o.constructMessage id thread user) := h.constructMessage hissued hid thread
  have hmessage : ∀ m ∈ o.allMessages, m ≠ id := fun m hm he => hid.2 (he ▸ hissued.messages hm)
  have hnew : (o.constructMessage id thread user).messageCreatedBy id = user ∧
      (o.constructMessage id thread user).messageParentThread id = thread := by
    simp [Ownership.constructMessage]
  refine ⟨hc.threadAuthor, hc.userThreads, hc.notAboutToBeDeleted, fun m hm => ?_, fun u hu' m => ?_,
    fun m hm => ?_, fun t ht' m => ?_⟩
  · rcases Finset.mem_insert.1 hm with rfl | hm
    · exact hnew.1.symm ▸ hu
    · exact hc.messageAuthor m hm
  · have := hc.userMessages u hu' m
    simp only [Ownership.addMessage, mem_update_insert, Finset.mem_insert, this]
    by_cases hm : m = id
    · subst hm
      rw [hnew.1]
      have : m ∉ o.allMessages := fun hm => hmessage m hm rfl
      grind [Ownership.constructMessage, Ownership.construct]
    · grind
  · rcases Finset.mem_insert.1 hm with rfl | hm
    · exact hnew.2.symm ▸ ht
    · exact hc.messageParent m hm
  · have := hc.threadMessages t ht' m
    simp only [Ownership.addMessage, mem_update_insert, Finset.mem_insert, this]
    by_cases hm : m = id
    · subst hm
      rw [hnew.2]
      have : m ∉ o.allMessages := fun hm => hmessage m hm rfl
      grind [Ownership.constructMessage, Ownership.construct]
    · grind

/-- Deleted messages leave their authors' collections and their threads. -/
theorem deleteMessages (h : Authored o) (messages : Finset IdType) : Authored (o.deleteMessages messages true) := by
  refine ⟨h.threadAuthor, h.userThreads, h.notAboutToBeDeleted,
    fun m hm => h.messageAuthor m (Finset.mem_sdiff.1 hm).1, fun u hu m => ?_,
    fun m hm => h.messageParent m (Finset.mem_sdiff.1 hm).1, fun t ht m => ?_⟩
  · have := h.userMessages u hu m
    simp only [Ownership.deleteMessages, Finset.mem_filter, Finset.mem_sdiff, Finset.mem_inter, this, true_and]
    tauto
  · have := h.threadMessages t ht m
    have habout := h.notAboutToBeDeleted t ht
    simp only [Ownership.deleteMessages, Finset.mem_filter, Finset.mem_sdiff, Finset.mem_inter, this, habout]
    tauto

/-- A deleted thread leaves its author's collection, and its messages leave the store. -/
theorem deleteThread (h : Authored o) {thread : IdType} (ht : thread ∈ o.allThreads) :
    Authored (o.deleteThread thread true true) := by
  have hdelete : o.deleteThread thread true true =
      (o.dropThread thread true).deleteMessages (o.threadMessages thread) true := by
    simp [Ownership.deleteThread, ht]
  rw [hdelete]
  have hmem := h.threadMessages thread ht
  refine ⟨fun t ht' => h.threadAuthor t (Finset.mem_of_mem_erase ht'), fun u hu t => ?_, fun t ht' => ?_,
    fun m hm => h.messageAuthor m (Finset.mem_sdiff.1 hm).1, fun u hu m => ?_, fun m hm => ?_, fun t ht' m => ?_⟩
  · have := h.userThreads u hu t
    simp only [Ownership.deleteMessages, Ownership.dropThread, Finset.mem_filter, Finset.mem_erase, this]
    grind
  · obtain ⟨hne, ht'⟩ := Finset.mem_erase.1 ht'
    simpa [Ownership.deleteMessages, Ownership.dropThread, hne] using h.notAboutToBeDeleted t ht'
  · have := h.userMessages u hu m
    simp only [Ownership.deleteMessages, Ownership.dropThread, Finset.mem_filter, Finset.mem_sdiff,
      Finset.mem_inter, this, true_and]
    tauto
  · obtain ⟨hm, hnot⟩ := Finset.mem_sdiff.1 hm
    refine Finset.mem_erase.2 ⟨fun hp => hnot ((hmem m).2 ⟨hm, hp⟩), h.messageParent m hm⟩
  · obtain ⟨hne, ht'⟩ := Finset.mem_erase.1 ht'
    have := h.threadMessages t ht' m
    simp only [Ownership.deleteMessages, Ownership.dropThread, Finset.mem_filter, Finset.mem_sdiff,
      Finset.mem_inter, this, hmem]
    grind

/-- The messages of a merged thread have a new parent when the thread is deleted. -/
theorem mergeThreads (h : Authored o) {fromId intoId : IdType} (hne : fromId ≠ intoId)
    (hfrom : fromId ∈ o.allThreads) (hinto : intoId ∈ o.allThreads) : Authored (o.mergeThreads fromId intoId) := by
  have hmem := h.threadMessages fromId hfrom
  unfold Ownership.mergeThreads Ownership.deleteThread
  simp only [hfrom, if_true, Bool.false_eq_true, if_false]
  refine ⟨fun t ht' => h.threadAuthor t (Finset.mem_of_mem_erase ht'), fun u hu t => ?_, fun t ht' => ?_,
    h.messageAuthor, h.userMessages, fun m hm => ?_, fun t ht' m => ?_⟩
  · have := h.userThreads u hu t
    simp only [Ownership.dropThread, Finset.mem_filter, Finset.mem_erase, this]
    grind
  · obtain ⟨hne, ht'⟩ := Finset.mem_erase.1 ht'
    simpa [Ownership.dropThread, hne] using h.notAboutToBeDeleted t ht'
  · have hp := h.messageParent m hm
    by_cases hm' : m ∈ o.threadMessages fromId
    · simp [Ownership.dropThread, hm', hne.symm, hinto]
    · have : o.messageParentThread m ≠ fromId := fun he => hm' ((hmem m).2 ⟨hm, he⟩)
      simp [Ownership.dropThread, hm', this, hp]
  · obtain ⟨hne, ht'⟩ := Finset.mem_erase.1 ht'
    have := h.threadMessages t ht' m
    by_cases ht : t = intoId
    · subst ht
      simp only [Ownership.dropThread, Function.update_self, Finset.mem_union, this, hmem]
      grind
    · simp only [Ownership.dropThread, Function.update_of_ne ht, this, hmem]
      grind

theorem moveMessage (h : Authored o) {message intoThread : IdType} (hinto : intoThread ∈ o.allThreads)
    (hm : message ∈ o.allMessages) (hne : o.messageParentThread message ≠ intoThread) : Authored (o.moveMessage message intoThread) := by
  refine ⟨h.threadAuthor, h.userThreads, h.notAboutToBeDeleted, h.messageAuthor, h.userMessages, fun m hm' => ?_,
    fun t ht m => ?_⟩
  · by_cases hmm : m = message
    · subst hmm
      simpa [Ownership.moveMessage] using hinto
    · simpa [Ownership.moveMessage, hmm] using h.messageParent m hm'
  · have := h.threadMessages t ht m
    simp only [Ownership.moveMessage]
    grind

/-- Under the invariant, the store after `deleteUser` but for its private messages and attachments. -/
theorem deleteUser_eq (h : Authored o) (hu : user ∈ o.users) :
    o.deleteUser user =
      let o' := (o.detachUser user).deleteMessages (o.userMessages user) false
      let o' := (o'.dropThreads (o.userThreads user)).deleteMessages
        ((o.userThreads user).biUnion o'.threadMessages) true
      let o' := o'.deletePrivateMessages (o.userReceivedPrivateMessages user) true false
      let o' := o'.deletePrivateMessages (o'.userSentPrivateMessages user) false true
      o'.deleteAttachments (o.userAttachments user) false := by
  have hthreads := h.userThreads user (.inr hu)
  unfold Ownership.deleteUser
  rw [if_pos hu]
  dsimp only
  rw [Ownership.foldl_deleteThread (nodup_ascending _)]
  · rw [toFinset_ascending]
    rfl
  · intro t ht
    exact ((hthreads t).1 (mem_ascending.1 ht)).1
  · intro t ht m hm
    have ht := ((hthreads t).1 (mem_ascending.1 ht)).1
    exact ((h.threadMessages t ht m).1 (Finset.mem_of_mem_filter m hm)).2

/-- The messages in the user's threads, once the user's own messages are gone. -/
theorem mem_biUnion_deleteUser (h : Authored o) (hu : user ∈ o.users) (m : IdType) :
    m ∈ (o.userThreads user).biUnion
        ((o.detachUser user).deleteMessages (o.userMessages user) false).threadMessages ↔
      m ∈ o.allMessages ∧ o.messageCreatedBy m ≠ user ∧ o.threadCreatedBy (o.messageParentThread m) = user := by
  have hthreads := h.userThreads user (.inr hu)
  have hmessages := h.userMessages user (.inr hu)
  simp only [Finset.mem_biUnion, hthreads, Ownership.deleteMessages, Ownership.detachUser, Finset.mem_filter,
    Finset.mem_inter, hmessages]
  constructor
  · rintro ⟨t, ⟨ht, htu⟩, hm, hnot⟩
    obtain ⟨hm, hp⟩ := (h.threadMessages t ht m).1 hm
    have habout := h.notAboutToBeDeleted t ht
    exact ⟨hm, fun hmu => hnot ⟨⟨⟨hm, hmu⟩, hm⟩, hp, by simp [habout]⟩, by rw [hp, htu]⟩
  · rintro ⟨hm, hmu, hp⟩
    have ht := h.messageParent m hm
    exact ⟨_, ⟨ht, hp⟩, (h.threadMessages _ ht m).2 ⟨hm, rfl⟩, fun hnot => hmu hnot.1.1.2⟩

/-- The messages that stay are those of other users in threads of other users. -/
theorem mem_allMessages_deleteUser (h : Authored o) (hu : user ∈ o.users) (m : IdType) :
    m ∈ (o.deleteUser user).allMessages ↔
      m ∈ o.allMessages ∧ o.messageCreatedBy m ≠ user ∧ o.threadCreatedBy (o.messageParentThread m) ≠ user := by
  have hmessages := h.userMessages user (.inr hu)
  have hbi := h.mem_biUnion_deleteUser hu m
  rw [h.deleteUser_eq hu]
  change m ∈ (o.allMessages \ o.userMessages user) \ _ ↔ _
  rw [Finset.mem_sdiff, Finset.mem_sdiff, hmessages, hbi]
  tauto

/-- The threads that stay are those of other users. -/
theorem mem_allThreads_deleteUser (h : Authored o) (hu : user ∈ o.users) (t : IdType) :
    t ∈ (o.deleteUser user).allThreads ↔ t ∈ o.allThreads ∧ o.threadCreatedBy t ≠ user := by
  have hthreads := h.userThreads user (.inr hu)
  rw [h.deleteUser_eq hu]
  change t ∈ o.allThreads \ o.userThreads user ↔ _
  rw [Finset.mem_sdiff, hthreads]
  tauto

theorem deleteUser (h : Authored o) (hzero : 0 ∉ o.users) (hu : user ∈ o.users) : Authored (o.deleteUser user) := by
  have hthreads := h.userThreads user (.inr hu)
  have hmessages := h.userMessages user (.inr hu)
  have hbi := h.mem_biUnion_deleteUser hu
  have hall := h.mem_allMessages_deleteUser hu
  have hallThreads := h.mem_allThreads_deleteUser hu
  have heq := h.deleteUser_eq hu
  have husers : ∀ u, UserObject (o.deleteUser user) u ↔ UserObject o u ∧ u ≠ user := by
    intro u
    rw [heq]
    change u = 0 ∨ u ∈ o.users.erase user ↔ (u = 0 ∨ u ∈ o.users) ∧ u ≠ user
    grind
  have hcreated : (o.deleteUser user).threadCreatedBy = o.threadCreatedBy := by rw [heq]; rfl
  have hmcreated : (o.deleteUser user).messageCreatedBy = o.messageCreatedBy := by rw [heq]; rfl
  have hparent : (o.deleteUser user).messageParentThread = o.messageParentThread := by rw [heq]; rfl
  have huserThreads : (o.deleteUser user).userThreads = o.userThreads := by rw [heq]; rfl
  refine ⟨fun t ht => ?_, fun u hu' t => ?_, fun t ht => ?_, fun m hm => ?_, fun u hu' m => ?_, fun m hm => ?_,
    fun t ht m => ?_⟩
  · obtain ⟨ht, hne⟩ := (hallThreads t).1 ht
    rw [hcreated, husers]
    exact ⟨h.threadAuthor t ht, hne⟩
  · obtain ⟨hu', hne⟩ := (husers u).1 hu'
    rw [huserThreads, hcreated, h.userThreads u hu' t, hallThreads]
    grind
  · obtain ⟨ht, hne⟩ := (hallThreads t).1 ht
    have hnot : t ∉ o.userThreads user := fun ht' => hne ((hthreads t).1 ht').2
    rw [heq]
    change (if t ∈ o.userThreads user then true else o.threadAboutToBeDeleted t) = false
    rw [if_neg hnot]
    exact h.notAboutToBeDeleted t ht
  · obtain ⟨hm, hne, -⟩ := (hall m).1 hm
    rw [hmcreated, husers]
    exact ⟨h.messageAuthor m hm, hne⟩
  · obtain ⟨hu', hne⟩ := (husers u).1 hu'
    have := h.userMessages u hu' m
    rw [hmcreated, hall, heq]
    simp only [Ownership.deleteMessages, Ownership.dropThreads, Ownership.detachUser,
      Ownership.deletePrivateMessages, Ownership.deleteAttachments, Finset.mem_filter] at hbi ⊢
    grind
  · obtain ⟨hm, hne, hpne⟩ := (hall m).1 hm
    rw [hparent, hallThreads]
    exact ⟨h.messageParent m hm, hpne⟩
  · obtain ⟨ht, hne⟩ := (hallThreads t).1 ht
    have := h.threadMessages t ht m
    have habout := h.notAboutToBeDeleted t ht
    rw [hparent, hall, heq]
    simp only [Ownership.deleteMessages, Ownership.dropThreads, Ownership.detachUser,
      Ownership.deletePrivateMessages, Ownership.deleteAttachments, Finset.mem_filter] at hbi ⊢
    grind

theorem step (hstep : OwnershipStep user op o o') (hfresh : op.FreshFor o) (hissued : Issued o)
    (hu : UserObject o user) (h : Authored o) : Authored o' := by
  have hzero : 0 ∉ o.users := fun h0 => hissued.zero (hissued.users h0)
  have hnew : ∀ {id}, op.newId = some id → Authored (o.construct id) :=
    fun hid => h.construct hissued (hfresh _ hid)
  cases hstep with
  | keep => exact h
  | addNewUser => exact h.addUser hissued (hfresh _ rfl)
  | deleteUser known => exact h.deleteUser hzero known
  | addNewDiscussionThread => exact h.addThread hissued (hfresh _ rfl) hu
  | deleteDiscussionThread known => exact h.deleteThread known
  | mergeDiscussionThreads ne known intoKnown => exact h.mergeThreads ne known intoKnown
  | constructMessage => exact h.constructMessage hissued (hfresh _ rfl) _
  | addNewDiscussionMessageInThread known => exact h.addMessage hissued (hfresh _ rfl) known hu
  | deleteDiscussionMessage => exact h.deleteMessages _
  | moveDiscussionThreadMessage known intoKnown ne => exact h.moveMessage intoKnown known ne
  | resetVoteDiscussionThreadMessage =>
    unfold Ownership.resetVote
    split_ifs <;> exact h.congr rfl rfl rfl rfl rfl rfl rfl rfl rfl rfl
  | sendPrivateMessage | addNewAttachment | addCommentToDiscussionThreadMessage | addNewDiscussionTag
  | addNewDiscussionCategory => exact (hnew rfl).congr rfl rfl rfl rfl rfl rfl rfl rfl rfl rfl
  | deletePrivateMessage | deleteAttachment | addAttachmentToDiscussionThreadMessage
  | removeAttachmentFromDiscussionThreadMessage | upVoteDiscussionThreadMessage
  | downVoteDiscussionThreadMessage | subscribeToDiscussionThread | unsubscribeFromDiscussionThread =>
    exact h.congr rfl rfl rfl rfl rfl rfl rfl rfl rfl rfl

end Authored

/-- In every state reached, threads and messages are where their authors and parents say. -/
theorem Reachable.authored {admissible : Context → EntityCollection → Operation → Prop} {s : EntityCollection}
    (h : Reachable admissible s) : Authored s.toOwnership :=
  h.ownership (by constructor <;> simp) fun ctx s _ _ hreached _ hfresh hstep ih =>
    ih.step hstep hfresh hreached.issued (userObject_getCurrentUser ctx s)

end Forum.Repository
