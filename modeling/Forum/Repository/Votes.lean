import Forum.Repository.Subscriptions

/-!
# Votes

The messages a user has voted on and the voters of a message are two sides of one relation, and no
user is on both sides of a vote. They agree in every run in which no registered user takes back a
vote: that removes the vote from the message only.
-/

namespace Forum.Repository

open Forum.Entities Forum.Library

/-- The two sides of every vote of a registered user agree, no vote goes both ways, and no user has
voted on a deleted message. -/
structure VotesSymmetric (o : Ownership) : Prop where
  /-- A user has voted on a message when the message says so. -/
  symmetric : ∀ user ∈ o.users, ∀ message ∈ o.allMessages,
    (message ∈ o.userVotedMessages user ↔
      user ∈ o.messageUpVotes message ∨ user ∈ o.messageDownVotes message)
  /-- No vote goes both ways. -/
  exclusive : ∀ user ∈ o.users, ∀ message ∈ o.allMessages,
    ¬(user ∈ o.messageUpVotes message ∧ user ∈ o.messageDownVotes message)
  /-- What a user has voted on is in the store. -/
  alive : ∀ user ∈ o.users, o.userVotedMessages user ⊆ o.allMessages

/-- The votes agree, and the voters of a message are user objects. -/
structure VoteInvariant (o : Ownership) : Prop extends VotesSymmetric o where
  voters : ∀ message ∈ o.allMessages, ∀ user,
    user ∈ o.messageUpVotes message ∨ user ∈ o.messageDownVotes message → UserObject o user

namespace VoteInvariant

variable {o o' : Ownership} {user id : IdType} {op : Operation}

/-- The invariant reads users, messages and votes only. -/
theorem congr (h : VoteInvariant o) (hu : o'.users = o.users) (hm : o'.allMessages = o.allMessages)
    (hv : o'.userVotedMessages = o.userVotedMessages) (hup : o'.messageUpVotes = o.messageUpVotes)
    (hdown : o'.messageDownVotes = o.messageDownVotes) : VoteInvariant o' := by
  obtain ⟨⟨symmetric, exclusive, alive⟩, voters⟩ := h
  refine ⟨⟨?_, ?_, ?_⟩, ?_⟩
  · simpa only [hu, hm, hv, hup, hdown] using symmetric
  · simpa only [hu, hm, hup, hdown] using exclusive
  · simpa only [hu, hm, hv] using alive
  · simpa only [UserObject, hu, hm, hup, hdown] using voters

/-- Deleted messages leave the users who have voted on them, which are all that have them. -/
theorem deleteMessages (h : VoteInvariant o) (messages : Finset IdType) (alsoFromUser : Bool) :
    VoteInvariant (o.deleteMessages messages alsoFromUser) := by
  refine ⟨⟨fun u hu m hm => ?_, fun u hu m hm => ?_, fun u hu m hm => ?_⟩, fun m hm u hu => ?_⟩
  · obtain ⟨hm, hnot⟩ := Finset.mem_sdiff.1 hm
    simp [Ownership.deleteMessages, hnot, h.symmetric u hu m hm]
  · exact h.exclusive u hu m (Finset.mem_sdiff.1 hm).1
  · obtain ⟨hm, hnot⟩ := Finset.mem_filter.1 hm
    have hall := h.alive u hu hm
    refine Finset.mem_sdiff.2 ⟨hall, fun hmem => hnot ⟨Finset.mem_inter.2 ⟨hmem, hall⟩, ?_⟩⟩
    exact (h.symmetric u hu m hall).1 hm
  · exact h.voters m (Finset.mem_sdiff.1 hm).1 u hu

theorem deleteThread (h : VoteInvariant o) (thread : IdType) (deleteMessages alsoFromUser : Bool) :
    VoteInvariant (o.deleteThread thread deleteMessages alsoFromUser) := by
  have hdrop : VoteInvariant (o.dropThread thread alsoFromUser) := h.congr rfl rfl rfl rfl rfl
  unfold Ownership.deleteThread
  split_ifs
  · exact hdrop.deleteMessages _ _
  · exact hdrop
  · exact h

theorem construct (h : VoteInvariant o) (hissued : Issued o) (hid : id ≠ 0 ∧ id ∉ o.issuedIds) :
    VoteInvariant (o.construct id) := by
  have hmessage : ∀ m ∈ o.allMessages, m ≠ id := fun m hm he => hid.2 (he ▸ hissued.messages hm)
  have huser : ∀ u ∈ o.users, u ≠ id := fun u hu he => hid.2 (he ▸ hissued.users hu)
  refine ⟨⟨fun u hu m hm => ?_, fun u hu m hm => ?_, fun u hu m hm => ?_⟩, fun m hm u hu => ?_⟩
  · simpa [Ownership.construct, hmessage m hm, huser u hu] using h.symmetric u hu m hm
  · simpa [Ownership.construct, hmessage m hm] using h.exclusive u hu m hm
  · exact h.alive u hu (by simpa [Ownership.construct, huser u hu] using hm)
  · exact h.voters m hm u (by simpa [Ownership.construct, hmessage m hm] using hu)

/-- A user that is deleted first takes back its votes, up or else down. -/
theorem detachUser (h : VoteInvariant o) (hu : user ∈ o.users) : VoteInvariant (o.detachUser user) := by
  refine ⟨⟨fun u hu' m hm => ?_, fun u hu' m hm => ?_, fun u hu' m hm => ?_⟩, fun m hm u hu' => ?_⟩
  · obtain ⟨hne, hu'⟩ := Finset.mem_erase.1 hu'
    simpa [Ownership.detachUser, hne] using h.symmetric u hu' m hm
  · obtain ⟨hne, hu'⟩ := Finset.mem_erase.1 hu'
    simpa [Ownership.detachUser, hne] using h.exclusive u hu' m hm
  · exact h.alive u (Finset.mem_of_mem_erase hu') hm
  · have hvoted := h.symmetric user hu m hm
    have hne : u ≠ user := by
      rintro rfl
      have := h.exclusive u hu m hm
      rcases hu' with hu' | hu'
      · obtain ⟨hmem, hnot⟩ := Finset.mem_filter.1 hu'
        exact hnot ⟨rfl, hvoted.2 (.inl hmem)⟩
      · obtain ⟨hmem, hnot⟩ := Finset.mem_filter.1 hu'
        exact hnot ⟨rfl, hvoted.2 (.inr hmem), fun hup => this ⟨hup, hmem⟩⟩
    have hobject := h.voters m hm u
      (hu'.imp (fun hu' => (Finset.mem_filter.1 hu').1) fun hu' => (Finset.mem_filter.1 hu').1)
    exact hobject.imp_right fun hreg => Finset.mem_erase.2 ⟨hne, hreg⟩

theorem deleteUser (h : VoteInvariant o) (user : IdType) : VoteInvariant (o.deleteUser user) :=
  Ownership.deleteUser_keeps h (fun hu => h.detachUser hu) (fun _ _ h => h.deleteMessages _ _)
    (fun _ _ h => h.deleteThread _ _ _) (fun _ _ _ _ h => h.congr rfl rfl rfl rfl rfl)
    fun _ _ h => h.congr rfl rfl rfl rfl rfl

theorem addUser (h : VoteInvariant o) (hissued : Issued o) (hid : id ≠ 0 ∧ id ∉ o.issuedIds) :
    VoteInvariant { o.construct id with users := insert id o.users } := by
  obtain ⟨⟨symmetric, exclusive, alive⟩, voters⟩ := h.construct hissued hid
  have hnew : ∀ m ∈ o.allMessages,
      ¬(id ∈ (o.construct id).messageUpVotes m ∨ id ∈ (o.construct id).messageDownVotes m) := by
    intro m hm hv
    rcases voters m hm id hv with h0 | h0
    · exact hid.1 h0
    · exact hid.2 (hissued.users h0)
  refine ⟨⟨fun u hu m hm => ?_, fun u hu m hm => ?_, fun u hu m hm => ?_⟩, fun m hm u hu => ?_⟩
  · rcases Finset.mem_insert.1 hu with rfl | hu
    · exact iff_of_false (by simp [Ownership.construct]) (hnew m hm)
    · exact symmetric u hu m hm
  · rcases Finset.mem_insert.1 hu with rfl | hu
    · exact fun hv => hnew m hm (.inl hv.1)
    · exact exclusive u hu m hm
  · rcases Finset.mem_insert.1 hu with rfl | hu
    · simp [Ownership.construct] at hm
    · exact alive u hu hm
  · exact (voters m hm u hu).imp_right Finset.mem_insert_of_mem

/-- A new message has no votes. -/
theorem addMessage (h : VoteInvariant o) (hissued : Issued o) (hid : id ≠ 0 ∧ id ∉ o.issuedIds)
    {thread : IdType} : VoteInvariant (o.addMessage id thread user) := by
  obtain ⟨⟨symmetric, exclusive, alive⟩, voters⟩ := h.construct hissued hid
  refine ⟨⟨fun u hu m hm => ?_, fun u hu m hm => ?_, fun u hu m hm => ?_⟩, fun m hm u hu => ?_⟩
  · rcases Finset.mem_insert.1 hm with rfl | hm
    · refine iff_of_false (fun hmem => hid.2 (hissued.messages (alive u hu hmem))) ?_
      simp [Ownership.addMessage, Ownership.constructMessage, Ownership.construct]
    · exact symmetric u hu m hm
  · rcases Finset.mem_insert.1 hm with rfl | hm
    · simp [Ownership.addMessage, Ownership.constructMessage, Ownership.construct]
    · exact exclusive u hu m hm
  · exact Finset.mem_insert_of_mem (alive u hu hm)
  · rcases Finset.mem_insert.1 hm with rfl | hm
    · simp [Ownership.addMessage, Ownership.constructMessage, Ownership.construct] at hu
    · exact voters m hm u hu

/-- Both sides of a vote are added, for a user that has not voted. -/
theorem vote (h : VoteInvariant o) (hu : UserObject o user) (hid : id ∈ o.allMessages)
    (hup : user ∉ o.messageUpVotes id) (hdown : user ∉ o.messageDownVotes id) (up : Bool) :
    VoteInvariant (o.vote id user up) := by
  refine ⟨⟨fun u hu' m hm => ?_, fun u hu' m hm => ?_, fun u hu' m hm => ?_⟩, fun m hm u hu' => ?_⟩
  · have := h.symmetric u hu' m hm
    cases up <;> simp only [Ownership.vote, mem_update_insert, if_true, if_false, Bool.false_eq_true] <;> tauto
  · have := h.exclusive u hu' m hm
    cases up <;> simp only [Ownership.vote, mem_update_insert, if_true, if_false, Bool.false_eq_true]
    · rintro ⟨hmem, hmem' | ⟨rfl, rfl⟩⟩
      · exact this ⟨hmem, hmem'⟩
      · exact hup hmem
    · rintro ⟨hmem | ⟨rfl, rfl⟩, hmem'⟩
      · exact this ⟨hmem, hmem'⟩
      · exact hdown hmem'
  · rcases mem_update_insert.1 hm with hm | ⟨rfl, -⟩
    · exact h.alive u hu' hm
    · exact hid
  · have := h.voters m hm u
    cases up <;> simp only [Ownership.vote, mem_update_insert, if_true, if_false, Bool.false_eq_true] at hu'
    · rcases hu' with hu' | hu' | ⟨rfl, -⟩
      · exact this (.inl hu')
      · exact this (.inr hu')
      · exact hu
    · rcases hu' with (hu' | ⟨rfl, -⟩) | hu'
      · exact this (.inl hu')
      · exact hu
      · exact this (.inr hu')

/-- The anonymous user may take back votes. -/
theorem resetVote (h : VoteInvariant o) (hzero : 0 ∉ o.users) : VoteInvariant (o.resetVote id 0) := by
  have hne : ∀ u ∈ o.users, u ≠ 0 := fun u hu he => hzero (he ▸ hu)
  unfold Ownership.resetVote
  split_ifs
  all_goals
    refine ⟨⟨fun u hu m hm => ?_, fun u hu m hm => ?_, h.alive⟩, fun m hm u hu => ?_⟩
    · have := h.symmetric u hu m hm
      simp only [mem_update_erase, hne u hu, false_and, not_false_eq_true, and_true]
      exact this
    · have := h.exclusive u hu m hm
      simp only [mem_update_erase]
      tauto
    · have := h.voters m hm u
      simp only [mem_update_erase] at hu
      exact this (by tauto)

/-- A step keeps the invariant unless a registered user takes back a vote. -/
theorem step (hstep : OwnershipStep user op o o') (hfresh : op.FreshFor o) (hissued : Issued o)
    (hu : UserObject o user) (h : VoteInvariant o)
    (hreset : ∀ id, op = .resetVoteDiscussionThreadMessage id → id ∈ o.allMessages →
      user ∈ o.messageUpVotes id ∨ user ∈ o.messageDownVotes id → user = anonymousUser) :
    VoteInvariant o' := by
  have hzero : 0 ∉ o.users := fun h0 => hissued.zero (hissued.users h0)
  have hnew : ∀ {id}, op.newId = some id → VoteInvariant (o.construct id) :=
    fun hid => h.construct hissued (hfresh _ hid)
  cases hstep with
  | keep => exact h
  | addNewUser => exact h.addUser hissued (hfresh _ rfl)
  | deleteUser => exact h.deleteUser _
  | deleteDiscussionThread => exact h.deleteThread _ _ _
  | mergeDiscussionThreads =>
    refine VoteInvariant.deleteThread ?_ _ _ _
    exact h.congr rfl rfl rfl rfl rfl
  | addNewDiscussionMessageInThread => exact h.addMessage hissued (hfresh _ rfl)
  | deleteDiscussionMessage => exact h.deleteMessages _ _
  | upVoteDiscussionThreadMessage known up down => exact h.vote hu known up down true
  | downVoteDiscussionThreadMessage known up down => exact h.vote hu known up down false
  | resetVoteDiscussionThreadMessage known voted =>
    rw [hreset _ rfl known voted]
    exact h.resetVote hzero
  | sendPrivateMessage | addNewAttachment | constructMessage | addCommentToDiscussionThreadMessage
  | addNewDiscussionTag | addNewDiscussionCategory | addNewDiscussionThread =>
    exact (hnew rfl).congr rfl rfl rfl rfl rfl
  | deletePrivateMessage | deleteAttachment | addAttachmentToDiscussionThreadMessage
  | removeAttachmentFromDiscussionThreadMessage | moveDiscussionThreadMessage
  | subscribeToDiscussionThread | unsubscribeFromDiscussionThread => exact h.congr rfl rfl rfl rfl rfl

end VoteInvariant

/-! ### Runs -/

/-- The operation takes back no vote of a registered user. -/
def KeepsVotes (ctx : Context) (s : EntityCollection) (op : Operation) : Prop :=
  ∀ id, op = .resetVoteDiscussionThreadMessage id → id ∈ s.allMessages →
    getCurrentUser ctx s ∈ s.messageUpVotes id ∨ getCurrentUser ctx s ∈ s.messageDownVotes id →
      getCurrentUser ctx s = anonymousUser

theorem voteInvariant_of_reachable {s : EntityCollection} (h : Reachable KeepsVotes s) :
    VoteInvariant s.toOwnership := by
  refine h.ownership (P := VoteInvariant) ?_ ?_
  · exact ⟨⟨by simp, by simp, by simp⟩, by simp⟩
  · exact fun ctx s op o hreached hadmitted hfresh hstep ih =>
      ih.step hstep hfresh hreached.issued (userObject_getCurrentUser ctx s) hadmitted

/-- A vote that a registered user takes back leaves the message, and stays with the user. -/
theorem keepsVotes_of_symmetric {ctx : Context} {s : EntityCollection} {op : Operation}
    (hs : VotesSymmetric s.toOwnership) (h : VotesSymmetric (op.perform ctx s).2.toOwnership) :
    KeepsVotes ctx s op := by
  rintro id rfl hm hv
  by_contra hu
  have hreg : getCurrentUser ctx s ∈ s.users := (getCurrentUser_spec ctx s).resolve_left hu
  have ho : (Operation.perform ctx s (.resetVoteDiscussionThreadMessage id)).2.toOwnership =
      s.toOwnership.resetVote id (getCurrentUser ctx s) :=
    toOwnership_resetVoteDiscussionThreadMessage ctx s hm hv
  rw [ho] at h
  have hvoted := (hs.symmetric _ hreg id hm).2 hv
  have hex := hs.exclusive _ hreg id hm
  unfold Ownership.resetVote at h
  split_ifs at h with hup
  · have := (h.symmetric _ hreg id hm).1 hvoted
    simp only [mem_update_erase] at this
    tauto
  · have := (h.symmetric _ hreg id hm).1 hvoted
    simp only [mem_update_erase] at this
    tauto

/-- In every run in which no registered user takes back a vote, the votes agree; and the next step
keeps them so exactly if it does not take one back either. -/
theorem votesSymmetric_of_reachable {s : EntityCollection} (h : Reachable KeepsVotes s) :
    VotesSymmetric s.toOwnership ∧ ∀ ctx op, Callable s op →
      (VotesSymmetric (op.perform ctx s).2.toOwnership ↔ KeepsVotes ctx s op) := by
  have hs := (voteInvariant_of_reachable h).toVotesSymmetric
  refine ⟨hs, fun ctx op hcallable => ⟨keepsVotes_of_symmetric hs, fun hop => ?_⟩⟩
  exact (voteInvariant_of_reachable (.step ctx op h hcallable hop)).toVotesSymmetric

/-- A registered user votes on its own message, and the message is deleted. -/
theorem votesSymmetric_of_vote :
    VotesSymmetric (run
      [({ currentUserId := 0, currentTime := 1 }, .addNewUser 1 { sortKey := [1] } "auth"),
        ({ currentUserId := 1, currentTime := 2 }, .addNewDiscussionThread 2 { sortKey := [2] } true),
        ({ currentUserId := 1, currentTime := 3 },
          .addNewDiscussionMessageInThread 3 2 true (.text "message")),
        ({ currentUserId := 1, currentTime := 4 }, .upVoteDiscussionThreadMessage 3),
        ({ currentUserId := 1, currentTime := 5 }, .deleteDiscussionMessage 3)] .empty).toOwnership := by
  refine (votesSymmetric_of_reachable (.step _ _ (.step _ _ (.step _ _ (.step _ _ (.step _ _ .empty
    ?_ ?_) ?_ ?_) ?_ ?_) ?_ ?_) ?_ ?_)).1
  all_goals first | decide +kernel | rintro _ ⟨⟩

/-- A user votes on a message and takes the vote back: the message is still among those the user has
voted on. -/
theorem not_votesSymmetric_of_reset : ¬∀ s, Reachable anyOperation s → VotesSymmetric s.toOwnership := by
  intro h
  have hrun := h _ (Reachable.empty.run
    [({ currentUserId := 0, currentTime := 1 }, .addNewUser 1 { sortKey := [1] } "auth"),
      ({ currentUserId := 1, currentTime := 2 }, .addNewDiscussionThread 2 { sortKey := [2] } true),
      ({ currentUserId := 1, currentTime := 3 },
        .addNewDiscussionMessageInThread 3 2 true (.text "message")),
      ({ currentUserId := 1, currentTime := 4 }, .upVoteDiscussionThreadMessage 3),
      ({ currentUserId := 1, currentTime := 5 }, .resetVoteDiscussionThreadMessage 3)] (by decide +kernel))
  exact absurd ((hrun.symmetric 1 (by decide +kernel) 3 (by decide +kernel)).1 (by decide +kernel))
    (by decide +kernel)

end Forum.Repository
