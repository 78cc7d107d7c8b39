import Forum.Repository.OwnershipInvariants

/-!
# Subscriptions

A user's subscribed threads and a thread's subscribed users are two sides of one relation. They
agree in every run in which a thread that the anonymous user posts to has the anonymous user among
its subscribers already: posting subscribes the author, and for the anonymous user only on the
author's side.
-/

namespace Forum.Repository

open Forum.Entities Forum.Library

/-- A user object: a registered user or the anonymous one. -/
def UserObject (o : Ownership) (user : IdType) : Prop := user = anonymousUser ∨ user ∈ o.users

/-- The two sides of every subscription agree, and no user is subscribed to a deleted thread. -/
structure SubscriptionsSymmetric (o : Ownership) : Prop where
  /-- A user is subscribed to a thread when the thread says so. -/
  symmetric : ∀ user, UserObject o user → ∀ thread ∈ o.allThreads,
    (thread ∈ o.userSubscribedThreads user ↔ user ∈ o.threadSubscribedUsers thread)
  /-- What a user is subscribed to is in the store. -/
  alive : ∀ user, UserObject o user → o.userSubscribedThreads user ⊆ o.allThreads

/-- The users whose subscriptions are looked at: the registered ones, and perhaps the anonymous
one. -/
def Covered (anonymous : Prop) (o : Ownership) (user : IdType) : Prop := anonymous ∧ user = 0 ∨ user ∈ o.users

/-- The subscriptions of the covered users agree, and the subscribers of a thread are user
objects. -/
structure SubscriptionInvariant (anonymous : Prop) (o : Ownership) : Prop where
  symmetric : ∀ user, Covered anonymous o user → ∀ thread ∈ o.allThreads,
    (thread ∈ o.userSubscribedThreads user ↔ user ∈ o.threadSubscribedUsers thread)
  alive : ∀ user, Covered anonymous o user → o.userSubscribedThreads user ⊆ o.allThreads
  subscribers : ∀ thread ∈ o.allThreads, ∀ user ∈ o.threadSubscribedUsers thread, UserObject o user

namespace SubscriptionInvariant

variable {anonymous : Prop} {o o' : Ownership} {user id : IdType} {op : Operation}

theorem subscriptionsSymmetric (h : SubscriptionInvariant True o) : SubscriptionsSymmetric o where
  symmetric user hu := h.symmetric user (hu.imp_left fun h0 => ⟨trivial, h0⟩)
  alive user hu := h.alive user (hu.imp_left fun h0 => ⟨trivial, h0⟩)

/-- The invariant reads users, threads and subscriptions only. -/
theorem congr (h : SubscriptionInvariant anonymous o) (hu : o'.users = o.users) (ht : o'.allThreads = o.allThreads)
    (hs : o'.userSubscribedThreads = o.userSubscribedThreads)
    (hs' : o'.threadSubscribedUsers = o.threadSubscribedUsers) : SubscriptionInvariant anonymous o' := by
  obtain ⟨symmetric, alive, subscribers⟩ := h
  refine ⟨?_, ?_, ?_⟩
  · simpa only [Covered, hu, ht, hs, hs'] using symmetric
  · simpa only [Covered, hu, ht, hs] using alive
  · simpa only [UserObject, hu, ht, hs'] using subscribers

theorem deleteMessages (h : SubscriptionInvariant anonymous o) (messages : Finset IdType) (alsoFromUser : Bool) :
    SubscriptionInvariant anonymous (o.deleteMessages messages alsoFromUser) :=
  h.congr rfl rfl rfl rfl

/-- A deleted thread leaves the collections of its subscribers, and it is in no other. -/
theorem dropThread (h : SubscriptionInvariant anonymous o) {thread : IdType} (ht : thread ∈ o.allThreads)
    (alsoFromUser : Bool) : SubscriptionInvariant anonymous (o.dropThread thread alsoFromUser) where
  symmetric u hu t ht' := by
    obtain ⟨hne, ht'⟩ := Finset.mem_erase.1 ht'
    simp [Ownership.dropThread, hne, h.symmetric u hu t ht']
  alive u hu t hmem' := by
    obtain ⟨hmem, hnot⟩ := Finset.mem_filter.1 hmem'
    refine Finset.mem_erase.2 ⟨?_, h.alive u hu hmem⟩
    rintro rfl
    exact hnot ⟨rfl, (h.symmetric u hu t ht).1 hmem⟩
  subscribers t ht' u hu := h.subscribers t (Finset.mem_of_mem_erase ht') u hu

theorem deleteThread (h : SubscriptionInvariant anonymous o) (thread : IdType) (deleteMessages alsoFromUser : Bool) :
    SubscriptionInvariant anonymous (o.deleteThread thread deleteMessages alsoFromUser) := by
  unfold Ownership.deleteThread
  split_ifs with ht
  · exact (h.dropThread ht alsoFromUser).deleteMessages _ _
  · exact h.dropThread ht alsoFromUser
  · exact h

theorem construct (h : SubscriptionInvariant anonymous o) (hissued : Issued o) (hid : id ≠ 0 ∧ id ∉ o.issuedIds) :
    SubscriptionInvariant anonymous (o.construct id) := by
  have hthread : ∀ t ∈ o.allThreads, t ≠ id := fun t ht he => hid.2 (he ▸ hissued.threads ht)
  have huser : ∀ u, Covered anonymous o u → u ≠ id := by
    rintro u (⟨-, rfl⟩ | hu) he
    · exact hid.1 he.symm
    · exact hid.2 (he ▸ hissued.users hu)
  refine ⟨fun u hu t ht => ?_, fun u hu t ht => ?_, fun t ht u hu => ?_⟩
  · simpa [Ownership.construct, hthread t ht, huser u hu] using h.symmetric u hu t ht
  · exact h.alive u hu (by simpa [Ownership.construct, huser u hu] using ht)
  · exact h.subscribers t ht u (by simpa [Ownership.construct, hthread t ht] using hu)

/-- A user that is deleted first leaves the threads it is subscribed to, which are all that know it. -/
theorem detachUser (h : SubscriptionInvariant anonymous o) (hzero : 0 ∉ o.users) (hu : user ∈ o.users) :
    SubscriptionInvariant anonymous (o.detachUser user) := by
  have hother : ∀ u, Covered anonymous (o.detachUser user) u → u ≠ user ∧ Covered anonymous o u := by
    rintro u (⟨ha, rfl⟩ | hu')
    · exact ⟨fun he => hzero (by rwa [← he] at hu), .inl ⟨ha, rfl⟩⟩
    · exact ⟨Finset.ne_of_mem_erase hu', .inr (Finset.mem_of_mem_erase hu')⟩
  refine ⟨fun u hu' t ht => ?_, fun u hu' t ht => ?_, fun t ht u hu' => ?_⟩
  · obtain ⟨hne, hobj⟩ := hother u hu'
    simpa [Ownership.detachUser, hne] using h.symmetric u hobj t ht
  · exact h.alive u (hother u hu').2 ht
  · obtain ⟨hmem, hnot⟩ := Finset.mem_filter.1 hu'
    rcases h.subscribers t ht u hmem with rfl | hreg
    · exact .inl rfl
    · refine .inr (Finset.mem_erase.2 ⟨?_, hreg⟩)
      rintro rfl
      exact hnot ⟨rfl, (h.symmetric u (.inr hu) t ht).2 hmem⟩

theorem deleteUser (h : SubscriptionInvariant anonymous o) (hzero : 0 ∉ o.users) (user : IdType) :
    SubscriptionInvariant anonymous (o.deleteUser user) :=
  Ownership.deleteUser_keeps h (fun hu => h.detachUser hzero hu) (fun _ _ h => h.deleteMessages _ _)
    (fun _ _ h => h.deleteThread _ _ _) (fun _ _ _ _ h => h.congr rfl rfl rfl rfl)
    fun _ _ h => h.congr rfl rfl rfl rfl

/-- Both sides of a subscription are added. -/
theorem subscribe (h : SubscriptionInvariant anonymous o) (hu : UserObject o user) (hid : id ∈ o.allThreads) :
    SubscriptionInvariant anonymous
      { o with
        threadSubscribedUsers :=
          Function.update o.threadSubscribedUsers id (insert user (o.threadSubscribedUsers id))
        userSubscribedThreads :=
          Function.update o.userSubscribedThreads user (insert id (o.userSubscribedThreads user)) } := by
  refine ⟨fun u hu' t ht => ?_, fun u hu' t ht => ?_, fun t ht u hu' => ?_⟩
  · have := h.symmetric u hu' t ht
    simp only [mem_update_insert]
    tauto
  · rcases mem_update_insert.1 ht with ht | ⟨rfl, -⟩
    · exact h.alive u hu' ht
    · exact hid
  · rcases mem_update_insert.1 hu' with hu' | ⟨rfl, -⟩
    · exact h.subscribers t ht u hu'
    · exact hu

/-- Both sides of a subscription are removed. -/
theorem unsubscribe (h : SubscriptionInvariant anonymous o) :
    SubscriptionInvariant anonymous
      { o with
        threadSubscribedUsers :=
          Function.update o.threadSubscribedUsers id ((o.threadSubscribedUsers id).erase user)
        userSubscribedThreads :=
          Function.update o.userSubscribedThreads user ((o.userSubscribedThreads user).erase id) } := by
  refine ⟨fun u hu' t ht => ?_, fun u hu' t ht => ?_, fun t ht u hu' => ?_⟩
  · have := h.symmetric u hu' t ht
    simp only [mem_update_erase]
    tauto
  · exact h.alive u hu' (mem_update_erase.1 ht).1
  · exact h.subscribers t ht u (mem_update_erase.1 hu').1

theorem mergeThreads (h : SubscriptionInvariant anonymous o) {fromId intoId : IdType}
    (hfrom : fromId ∈ o.allThreads) (hinto : intoId ∈ o.allThreads) :
    SubscriptionInvariant anonymous (o.mergeThreads fromId intoId) := by
  refine SubscriptionInvariant.deleteThread ?_ _ _ _
  refine ⟨fun u hu t ht => ?_, fun u hu t ht => ?_, fun t ht u hu => ?_⟩
  · have := h.symmetric u hu t ht
    by_cases hi : t = intoId
    · subst hi
      by_cases hm : u ∈ o.threadSubscribedUsers fromId <;> simp [hm, this]
    · by_cases hm : u ∈ o.threadSubscribedUsers fromId <;> simp [hm, hi, this]
  · by_cases hm : u ∈ o.threadSubscribedUsers fromId
    · rcases Finset.mem_insert.1 (by simpa [hm] using ht) with rfl | ht
      · exact hinto
      · exact h.alive u hu ht
    · exact h.alive u hu (by simpa [hm] using ht)
  · by_cases hi : t = intoId
    · subst hi
      rcases Finset.mem_union.1 (by simpa using hu) with hu | hu
      · exact h.subscribers t ht u hu
      · exact h.subscribers fromId hfrom u hu
    · exact h.subscribers t ht u (by simpa [hi] using hu)

/-- A new thread has no subscribers. -/
theorem addThread (h : SubscriptionInvariant anonymous o) (hissued : Issued o) (hid : id ≠ 0 ∧ id ∉ o.issuedIds) :
    SubscriptionInvariant anonymous (o.addThread id user) := by
  obtain ⟨symmetric, alive, subscribers⟩ := h.construct hissued hid
  have hnew : ∀ u, Covered anonymous o u → id ∉ (o.construct id).userSubscribedThreads u := fun u hu hmem =>
    hid.2 (hissued.threads (alive u hu hmem))
  refine ⟨fun u hu t ht => ?_, fun u hu t ht => ?_, fun t ht u hu => ?_⟩
  · rcases Finset.mem_insert.1 ht with rfl | ht
    · refine iff_of_false (hnew u hu) ?_
      simp [Ownership.addThread, Ownership.construct]
    · exact symmetric u hu t ht
  · exact Finset.mem_insert_of_mem (alive u hu ht)
  · rcases Finset.mem_insert.1 ht with rfl | ht
    · simp [Ownership.addThread, Ownership.construct] at hu
    · exact subscribers t ht u hu

/-- Posting subscribes the author; for the anonymous user the thread does not follow. -/
theorem addMessage (h : SubscriptionInvariant anonymous o) (hissued : Issued o) (hid : id ≠ 0 ∧ id ∉ o.issuedIds)
    {thread : IdType} (ht : thread ∈ o.allThreads) (hu : UserObject o user)
    (hanonymous : anonymous → user = 0 → 0 ∈ o.threadSubscribedUsers thread) :
    SubscriptionInvariant anonymous (o.addMessage id thread user) := by
  have hc := h.construct hissued hid
  by_cases hzero : user = 0
  · subst hzero
    have hne : thread ≠ id := fun he => hid.2 (he ▸ hissued.threads ht)
    have hmem : anonymous → thread ∈ (o.construct id).userSubscribedThreads 0 := by
      refine fun ha => (hc.symmetric 0 (.inl ⟨ha, rfl⟩) thread ht).2 ?_
      simpa [Ownership.construct, hne] using hanonymous ha rfl
    have hsubscribed : ∀ u, Covered anonymous o u →
        (o.addMessage id thread 0).userSubscribedThreads u = (o.construct id).userSubscribedThreads u := by
      intro u hu'
      by_cases hu0 : u = 0
      · subst hu0
        rcases hu' with ⟨ha, -⟩ | h0
        · simp [Ownership.addMessage, Ownership.constructMessage, Finset.insert_eq_of_mem (hmem ha)]
        · exact absurd (hissued.users h0) hissued.zero
      · simp [Ownership.addMessage, Ownership.constructMessage, hu0]
    have hsubscribers : (o.addMessage id thread 0).threadSubscribedUsers = (o.construct id).threadSubscribedUsers := by
      simp [Ownership.addMessage, Ownership.constructMessage]
    refine ⟨fun u hu' t ht' => ?_, fun u hu' t ht' => ?_, fun t ht' u hu' => ?_⟩
    · rw [hsubscribed u hu', hsubscribers]
      exact hc.symmetric u hu' t ht'
    · rw [hsubscribed u hu'] at ht'
      exact hc.alive u hu' ht'
    · rw [hsubscribers] at hu'
      exact hc.subscribers t ht' u hu'
  · refine (hc.subscribe hu ht).congr rfl rfl rfl ?_
    simp [Ownership.addMessage, Ownership.constructMessage, hzero]

theorem addUser (h : SubscriptionInvariant anonymous o) (hissued : Issued o) (hid : id ≠ 0 ∧ id ∉ o.issuedIds) :
    SubscriptionInvariant anonymous { o.construct id with users := insert id o.users } := by
  obtain ⟨symmetric, alive, subscribers⟩ := h.construct hissued hid
  have hcovered : ∀ u, Covered anonymous { o.construct id with users := insert id o.users } u →
      u = id ∨ Covered anonymous o u := by
    rintro u (hu | hu)
    · exact .inr (.inl hu)
    · exact (Finset.mem_insert.1 hu).imp_right .inr
  refine ⟨fun u hu t ht => ?_, fun u hu t ht => ?_, fun t ht u hu => ?_⟩
  · rcases hcovered u hu with rfl | hu
    · refine iff_of_false (by simp [Ownership.construct]) fun hmem => ?_
      rcases subscribers t ht u hmem with h0 | h0
      · exact hid.1 h0
      · exact hid.2 (hissued.users h0)
    · exact symmetric u hu t ht
  · rcases hcovered u hu with rfl | hu
    · simp [Ownership.construct] at ht
    · exact alive u hu ht
  · exact (subscribers t ht u hu).imp_right (Finset.mem_insert_of_mem)

/-- A step keeps the invariant unless it posts a message of the anonymous user, if that is covered, to
a thread without this subscriber. -/
theorem step (hstep : OwnershipStep user op o o') (hfresh : op.FreshFor o) (hissued : Issued o)
    (hu : UserObject o user) (h : SubscriptionInvariant anonymous o)
    (hpost : anonymous → ∀ id thread approved content,
      op = .addNewDiscussionMessageInThread id thread approved content →
      thread ∈ o.allThreads → content ≠ .mapped none → user = 0 → 0 ∈ o.threadSubscribedUsers thread) :
    SubscriptionInvariant anonymous o' := by
  have hnew : ∀ {id}, op.newId = some id → SubscriptionInvariant anonymous (o.construct id) :=
    fun hid => h.construct hissued (hfresh _ hid)
  cases hstep with
  | keep => exact h
  | addNewUser => exact h.addUser hissued (hfresh _ rfl)
  | deleteUser => exact h.deleteUser (fun h0 => hissued.zero (hissued.users h0)) _
  | addNewDiscussionThread => exact h.addThread hissued (hfresh _ rfl)
  | deleteDiscussionThread => exact h.deleteThread _ _ _
  | mergeDiscussionThreads _ hfrom hinto => exact h.mergeThreads hfrom hinto
  | subscribeToDiscussionThread known => exact h.subscribe hu known
  | unsubscribeFromDiscussionThread => exact h.unsubscribe
  | addNewDiscussionMessageInThread known found =>
    exact h.addMessage hissued (hfresh _ rfl) known hu fun ha => hpost ha _ _ _ _ rfl known found
  | sendPrivateMessage | addNewAttachment | constructMessage | addCommentToDiscussionThreadMessage
  | addNewDiscussionTag | addNewDiscussionCategory => exact (hnew rfl).congr rfl rfl rfl rfl
  | resetVoteDiscussionThreadMessage =>
    unfold Ownership.resetVote
    split_ifs <;> exact h.congr rfl rfl rfl rfl
  | deletePrivateMessage | deleteAttachment | addAttachmentToDiscussionThreadMessage
  | removeAttachmentFromDiscussionThreadMessage | deleteDiscussionMessage | moveDiscussionThreadMessage
  | upVoteDiscussionThreadMessage | downVoteDiscussionThreadMessage => exact h.congr rfl rfl rfl rfl

end SubscriptionInvariant

/-! ### Runs -/

/-- The operation does not post for the anonymous user to a thread without this subscriber. -/
def KeepsSubscriptions (ctx : Context) (s : EntityCollection) (op : Operation) : Prop :=
  ∀ id thread approved content, op = .addNewDiscussionMessageInThread id thread approved content →
    thread ∈ s.allThreads → content ≠ .mapped none → getCurrentUser ctx s = anonymousUser →
      anonymousUser ∈ s.threadSubscribedUsers thread

theorem userObject_getCurrentUser (ctx : Context) (s : EntityCollection) :
    UserObject s.toOwnership (getCurrentUser ctx s) := getCurrentUser_spec ctx s

/-- The subscriptions of registered users agree in every run. -/
theorem Reachable.registeredSubscriptions {admissible : Context → EntityCollection → Operation → Prop}
    {s : EntityCollection} (h : Reachable admissible s) : SubscriptionInvariant False s.toOwnership := by
  refine h.ownership (P := SubscriptionInvariant False) ?_ ?_
  · exact ⟨by simp, by simp [Covered], by simp⟩
  · exact fun ctx s op o hreached _ hfresh hstep ih =>
      ih.step hstep hfresh hreached.issued (userObject_getCurrentUser ctx s) False.elim

theorem subscriptionInvariant_of_reachable {s : EntityCollection} (h : Reachable KeepsSubscriptions s) :
    SubscriptionInvariant True s.toOwnership := by
  refine h.ownership (P := SubscriptionInvariant True) ?_ ?_
  · exact ⟨by simp, by simp, by simp⟩
  · exact fun ctx s op o hreached hadmitted hfresh hstep ih =>
      ih.step hstep hfresh hreached.issued (userObject_getCurrentUser ctx s) fun _ => hadmitted

/-- A post of the anonymous user to a thread without this subscriber leaves the thread in the
user's collection only. -/
theorem keepsSubscriptions_of_symmetric {ctx : Context} {s : EntityCollection} {op : Operation}
    (hissued : Issued s.toOwnership) (hcallable : Callable s op)
    (h : SubscriptionsSymmetric (op.perform ctx s).2.toOwnership) : KeepsSubscriptions ctx s op := by
  rintro id thread approved content rfl ht hfound hu
  have hid := hcallable.fresh id rfl
  have hne : thread ≠ id := fun he => hid.2 (he ▸ hissued.threads ht)
  have ho : (Operation.perform ctx s (.addNewDiscussionMessageInThread id thread approved content)).2.toOwnership =
      s.toOwnership.addMessage id thread 0 := by
    have hu' : getCurrentUser ctx s = 0 := hu
    rw [← hu']
    rcases content with content | _ | content
    · exact (toOwnership_addNewDiscussionMessageInThread ctx s id ht approved content).1
    · exact absurd rfl hfound
    · exact (toOwnership_addNewDiscussionMessageInThread ctx s id ht approved content).2
  rw [ho] at h
  have hsymm := (h.symmetric 0 (.inl rfl) thread ht).1 (by simp [Ownership.addMessage])
  change 0 ∈ s.threadSubscribedUsers thread
  simpa [Ownership.addMessage, Ownership.constructMessage, Ownership.construct, hne] using hsymm

/-- In every run that does not post for the anonymous user to a thread without this subscriber, the
subscriptions agree; and the next step keeps them so exactly if it does not either. -/
theorem subscriptionsSymmetric_of_reachable {s : EntityCollection} (h : Reachable KeepsSubscriptions s) :
    SubscriptionsSymmetric s.toOwnership ∧ ∀ ctx op, Callable s op →
      (SubscriptionsSymmetric (op.perform ctx s).2.toOwnership ↔ KeepsSubscriptions ctx s op) := by
  refine ⟨(subscriptionInvariant_of_reachable h).subscriptionsSymmetric, fun ctx op hcallable => ⟨?_, ?_⟩⟩
  · exact keepsSubscriptions_of_symmetric h.issued hcallable
  · exact fun hop =>
      (subscriptionInvariant_of_reachable (.step ctx op h hcallable hop)).subscriptionsSymmetric

/-- A registered user posts to a thread of its own, and is subscribed to it on both sides. -/
theorem subscriptionsSymmetric_of_post :
    SubscriptionsSymmetric (run
      [({ currentUserId := 0, currentTime := 1 }, .addNewUser 1 { sortKey := [1] } "auth"),
        ({ currentUserId := 1, currentTime := 2 }, .addNewDiscussionThread 2 { sortKey := [2] } true),
        ({ currentUserId := 1, currentTime := 3 },
          .addNewDiscussionMessageInThread 3 2 true (.text "message"))] .empty).toOwnership := by
  refine (subscriptionsSymmetric_of_reachable (.step _ _ (.step _ _ (.step _ _ .empty ?_ ?_) ?_ ?_) ?_ ?_)).1
  · decide +kernel
  · rintro _ _ _ _ ⟨⟩
  · decide +kernel
  · rintro _ _ _ _ ⟨⟩
  · decide +kernel
  · rintro _ _ _ _ ⟨⟩ _ _ h
    exact absurd h (by decide +kernel)

/-- The anonymous user posts to its thread: the thread is among those it is subscribed to, and does
not know it. -/
theorem not_subscriptionsSymmetric_of_anonymous_post :
    ¬∀ s, Reachable anyOperation s → SubscriptionsSymmetric s.toOwnership := by
  intro h
  have hrun := h _ (Reachable.empty.run
    [({ currentUserId := 0, currentTime := 2 }, .addNewDiscussionThread 2 { sortKey := [2] } true),
      ({ currentUserId := 0, currentTime := 3 },
        .addNewDiscussionMessageInThread 3 2 true (.text "message"))] (by decide +kernel))
  exact absurd ((hrun.symmetric 0 (.inl rfl) 2 (by decide +kernel)).1 (by decide +kernel)) (by decide +kernel)

end Forum.Repository
