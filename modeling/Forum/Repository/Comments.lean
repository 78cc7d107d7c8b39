import Forum.Repository.Subscriptions

/-!
# Comments

Where a comment is held. The comments of a message and those of a user are in the store and name
them. The converse holds for users only: a comment of a user that was deleted has left the message
it was made on, but not the store.
-/

namespace Forum.Repository

open Forum.Entities Forum.Library

/-- The comments of messages and users are comments of the store that name them. -/
structure Commented (o : Ownership) : Prop where
  messageComments : ∀ message ∈ o.allMessages, ∀ comment ∈ o.messageComments message,
    comment ∈ o.allComments ∧ o.commentParentMessage comment = message
  userComments : ∀ user, UserObject o user → ∀ comment,
    comment ∈ o.userComments user ↔ comment ∈ o.allComments ∧ o.commentCreatedBy comment = user
  author : ∀ comment ∈ o.allComments, o.commentCreatedBy comment = 0 ∨ o.commentCreatedBy comment ∈ o.issuedIds

namespace Commented

variable {o o' : Ownership} {user id : IdType} {op : Operation}

/-- The invariant reads users, messages and comments only. -/
theorem congr (h : Commented o) (hu : o'.users = o.users) (hm : o'.allMessages = o.allMessages)
    (hc : o'.allComments = o.allComments) (hmc : o'.messageComments = o.messageComments)
    (huc : o'.userComments = o.userComments) (hparent : o'.commentParentMessage = o.commentParentMessage)
    (hauthor : o'.commentCreatedBy = o.commentCreatedBy) (hids : o.issuedIds ⊆ o'.issuedIds) : Commented o' := by
  obtain ⟨messageComments, userComments, author⟩ := h
  refine ⟨?_, ?_, fun c hcs => ?_⟩
  · simpa only [hm, hc, hmc, hparent] using messageComments
  · simpa only [UserObject, hu, hc, huc, hauthor] using userComments
  · rw [hauthor]
    exact (author c (hc ▸ hcs)).imp_right fun hmem => hids hmem

/-- Deleted messages take their comments with them. -/
theorem deleteMessages (h : Commented o) (messages : Finset IdType) (alsoFromUser : Bool) :
    Commented (o.deleteMessages messages alsoFromUser) := by
  refine ⟨fun m hm c hc => ?_, fun u hu c => ?_, fun c hc => ?_⟩
  · obtain ⟨hm, hnot⟩ := Finset.mem_sdiff.1 hm
    obtain ⟨hall, hparent⟩ := h.messageComments m hm c hc
    refine ⟨Finset.mem_filter.2 ⟨hall, ?_⟩, hparent⟩
    rintro ⟨m', hm', hc'⟩
    obtain ⟨hdeleted, hm'⟩ := Finset.mem_inter.1 hm'
    have heq := (h.messageComments m' hm' c hc').2
    exact hnot ((hparent.symm.trans heq) ▸ hdeleted)
  · have hiff := h.userComments u hu c
    simp only [Ownership.deleteMessages, Finset.mem_filter, hiff]
    generalize (∃ message ∈ messages ∩ o.allMessages, c ∈ o.messageComments message) = deleted
    tauto
  · exact h.author c (Finset.mem_filter.1 hc).1

theorem deleteThread (h : Commented o) (thread : IdType) (deleteMessages alsoFromUser : Bool) :
    Commented (o.deleteThread thread deleteMessages alsoFromUser) := by
  have hdrop : Commented (o.dropThread thread alsoFromUser) := h.congr rfl rfl rfl rfl rfl rfl rfl (by rfl)
  unfold Ownership.deleteThread
  split_ifs
  · exact hdrop.deleteMessages _ _
  · exact hdrop
  · exact h

theorem construct (h : Commented o) (hissued : Issued o) (hid : id ≠ 0 ∧ id ∉ o.issuedIds) :
    Commented (o.construct id) := by
  have hmessage : ∀ m ∈ o.allMessages, m ≠ id := fun m hm he => hid.2 (he ▸ hissued.messages hm)
  refine ⟨fun m hm c hc => ?_, fun u hu c => ?_, fun c hc => ?_⟩
  · exact h.messageComments m hm c (by simpa [Ownership.construct, hmessage m hm] using hc)
  · have hne : u ≠ id := by
      rintro rfl
      exact hu.elim hid.1 fun hu => hid.2 (hissued.users hu)
    simpa [Ownership.construct, hne] using h.userComments u hu c
  · exact (h.author c hc).imp_right (Finset.mem_insert_of_mem ·)

/-- Nobody made a comment before coming into being. -/
theorem addUser (h : Commented o) (hissued : Issued o) (hid : id ≠ 0 ∧ id ∉ o.issuedIds) :
    Commented { o.construct id with users := insert id o.users } := by
  obtain ⟨messageComments, userComments, author⟩ := h.construct hissued hid
  refine ⟨messageComments, fun u hu c => ?_, author⟩
  by_cases hui : u = id
  · subst hui
    have hnone : ¬(c ∈ o.allComments ∧ o.commentCreatedBy c = u) := by
      rintro ⟨hc, rfl⟩
      exact (h.author c hc).elim hid.1 hid.2
    simpa [Ownership.construct] using hnone
  · refine userComments u (hu.imp_right fun hu => ?_) c
    exact (Finset.mem_insert.1 hu).resolve_left hui

/-- A new message has no comments. -/
theorem addMessage (h : Commented o) (hissued : Issued o) (hid : id ≠ 0 ∧ id ∉ o.issuedIds) (thread : IdType) :
    Commented (o.addMessage id thread user) := by
  obtain ⟨messageComments, userComments, author⟩ := h.construct hissued hid
  refine ⟨fun m hm c hc => ?_, userComments, author⟩
  rcases Finset.mem_insert.1 hm with rfl | hm
  · have hempty : (o.construct m).messageComments m = ∅ := Function.update_self _ _ _
    have hmem : c ∈ (o.construct m).messageComments m := hc
    rw [hempty] at hmem
    cases hmem
  · exact messageComments m hm c hc

theorem addComment (h : Commented o) (hissued : Issued o) (hid : id ≠ 0 ∧ id ∉ o.issuedIds)
    (hu : UserObject o user) {message : IdType} : Commented (o.addComment id message user) := by
  obtain ⟨messageComments, userComments, author⟩ := h.construct hissued hid
  have hold : ∀ c ∈ o.allComments, c ≠ id := fun c hc he => hid.2 (he ▸ hissued.comments hc)
  refine ⟨fun m hm c hc => ?_, fun u hu' c => ?_, fun c hc => ?_⟩
  · by_cases hci : c = id
    · subst hci
      refine ⟨Finset.mem_insert_self _ _, ?_⟩
      have hmem : m = message := by
        by_contra hne
        have hmem : c ∈ (o.construct c).messageComments m := by
          simpa [Ownership.addComment, hne] using hc
        exact hold c (messageComments m hm c hmem).1 rfl
      simp [Ownership.addComment, hmem]
    · have hmem : c ∈ (o.construct id).messageComments m := by
        simp only [Ownership.addComment, mem_update_insert] at hc
        exact hc.resolve_right fun hc => hci hc.1
      obtain ⟨hall, hparent⟩ := messageComments m hm c hmem
      refine ⟨Finset.mem_insert_of_mem hall, ?_⟩
      simpa [Ownership.addComment, hci] using hparent
  · have hiff := userComments u hu' c
    simp only [Ownership.addComment, mem_update_insert, Finset.mem_insert, hiff]
    by_cases hci : c = id
    · subst hci
      have hnot : c ∉ o.allComments := fun hc => hold c hc rfl
      simp [Ownership.construct, hnot, eq_comm]
    · simp [Ownership.construct, hci]
  · rcases Finset.mem_insert.1 hc with rfl | hc
    · have hself : (o.addComment c message user).commentCreatedBy c = user := Function.update_self _ _ _
      rw [hself]
      exact hu.imp_right fun hu => Finset.mem_insert_of_mem (hissued.users hu)
    · have hself : (o.addComment id message user).commentCreatedBy c = o.commentCreatedBy c :=
        Function.update_of_ne (hold c hc) _ _
      rw [hself]
      exact author c hc

/-- The comments of a user that is deleted leave their messages, and the user leaves the store. -/
theorem detachUser (h : Commented o) (user : IdType) : Commented (o.detachUser user) := by
  refine ⟨fun m hm c hc => ?_, fun u hu c => ?_, h.author⟩
  · exact h.messageComments m hm c (Finset.mem_filter.1 hc).1
  · exact h.userComments u (hu.imp_right Finset.mem_of_mem_erase) c

theorem deleteUser (h : Commented o) (user : IdType) : Commented (o.deleteUser user) :=
  Ownership.deleteUser_keeps h (fun _ => h.detachUser user) (fun _ _ h => h.deleteMessages _ _)
    (fun _ _ h => h.deleteThread _ _ _) (fun _ _ _ _ h => h.congr rfl rfl rfl rfl rfl rfl rfl (by rfl))
    fun _ _ h => h.congr rfl rfl rfl rfl rfl rfl rfl (by rfl)

theorem step (hstep : OwnershipStep user op o o') (hfresh : op.FreshFor o) (hissued : Issued o)
    (hu : UserObject o user) (h : Commented o) : Commented o' := by
  have hnew : ∀ {id}, op.newId = some id → Commented (o.construct id) :=
    fun hid => h.construct hissued (hfresh _ hid)
  cases hstep with
  | keep => exact h
  | addNewUser => exact h.addUser hissued (hfresh _ rfl)
  | deleteUser => exact h.deleteUser _
  | deleteDiscussionThread => exact h.deleteThread _ _ _
  | mergeDiscussionThreads =>
    refine Commented.deleteThread ?_ _ _ _
    exact h.congr rfl rfl rfl rfl rfl rfl rfl (by rfl)
  | addNewDiscussionMessageInThread => exact h.addMessage hissued (hfresh _ rfl) _
  | deleteDiscussionMessage => exact h.deleteMessages _ _
  | addCommentToDiscussionThreadMessage => exact h.addComment hissued (hfresh _ rfl) hu
  | resetVoteDiscussionThreadMessage =>
    unfold Ownership.resetVote
    split_ifs <;> exact h.congr rfl rfl rfl rfl rfl rfl rfl (by rfl)
  | sendPrivateMessage | addNewAttachment | constructMessage | addNewDiscussionTag | addNewDiscussionCategory
  | addNewDiscussionThread => exact (hnew rfl).congr rfl rfl rfl rfl rfl rfl rfl (by rfl)
  | deletePrivateMessage | deleteAttachment | addAttachmentToDiscussionThreadMessage
  | removeAttachmentFromDiscussionThreadMessage | moveDiscussionThreadMessage | upVoteDiscussionThreadMessage
  | downVoteDiscussionThreadMessage | subscribeToDiscussionThread | unsubscribeFromDiscussionThread =>
    exact h.congr rfl rfl rfl rfl rfl rfl rfl (by rfl)

end Commented

/-- In every state reached, the comments of messages and users are in the store and name them. -/
theorem Reachable.commented {admissible : Context → EntityCollection → Operation → Prop} {s : EntityCollection}
    (h : Reachable admissible s) : Commented s.toOwnership :=
  h.ownership (by constructor <;> simp) fun ctx s _ _ hreached _ hfresh hstep ih =>
    ih.step hstep hfresh hreached.issued (userObject_getCurrentUser ctx s)

end Forum.Repository
