import Forum.Repository.OwnershipSteps

/-!
# Invariants of the ownership relations

What every run keeps of the ownership relations: the entities of the store have ids that were given
out. The rule `Reachable.ownership` is how such facts are proved, by cases on the ownership steps.
-/

namespace Forum.Repository

open Forum.Entities Forum.Library

/-- The id an operation gives to a new entity is not empty and was not given out before. -/
def Operation.FreshFor (op : Operation) (o : Ownership) : Prop := ∀ id, op.newId = some id → id ≠ 0 ∧ id ∉ o.issuedIds

/-- A property of the ownership relations that every admissible step keeps holds in every state
reached. -/
theorem Reachable.ownership {admissible : Context → EntityCollection → Operation → Prop}
    {P : Ownership → Prop} {s : EntityCollection} (h : Reachable admissible s) (empty : P {})
    (step : ∀ ctx s op o, Reachable admissible s → admissible ctx s op → op.FreshFor s.toOwnership →
      OwnershipStep (getCurrentUser ctx s) op s.toOwnership o → P s.toOwnership → P o) :
    P s.toOwnership := by
  induction h with
  | empty => exact empty
  | step ctx op reached callable admitted ih =>
    exact step ctx _ op _ reached admitted callable.fresh (ownershipStep_perform ctx _ op) ih

/-! ### Deletion gives out no ids and adds nothing to the store -/

/-- `o'` has no entities that `o` does not have, and no id was given out in between. -/
structure Shrinks (o o' : Ownership) : Prop where
  issuedIds : o'.issuedIds = o.issuedIds
  users : o'.users ⊆ o.users
  threads : o'.allThreads ⊆ o.allThreads
  messages : o'.allMessages ⊆ o.allMessages
  comments : o'.allComments ⊆ o.allComments
  privateMessages : o'.allPrivateMessages ⊆ o.allPrivateMessages
  attachments : o'.allAttachments ⊆ o.allAttachments

namespace Shrinks

variable {o o' o'' : Ownership}

theorem refl (o : Ownership) : Shrinks o o := ⟨rfl, by rfl, by rfl, by rfl, by rfl, by rfl, by rfl⟩

theorem trans' (h' : Shrinks o' o'') (h : Shrinks o o') : Shrinks o o'' where
  issuedIds := h'.issuedIds.trans h.issuedIds
  users := h'.users.trans h.users
  threads := h'.threads.trans h.threads
  messages := h'.messages.trans h.messages
  comments := h'.comments.trans h.comments
  privateMessages := h'.privateMessages.trans h.privateMessages
  attachments := h'.attachments.trans h.attachments

theorem deleteMessages (o : Ownership) (messages : Finset IdType) (alsoFromUser : Bool) :
    Shrinks o (o.deleteMessages messages alsoFromUser) :=
  ⟨rfl, by rfl, by rfl, Finset.sdiff_subset, Finset.filter_subset _ _, by rfl, by rfl⟩

theorem dropThread (o : Ownership) (thread : IdType) (alsoFromUser : Bool) :
    Shrinks o (o.dropThread thread alsoFromUser) :=
  ⟨rfl, by rfl, Finset.erase_subset _ _, by rfl, by rfl, by rfl, by rfl⟩

theorem deleteThread (o : Ownership) (thread : IdType) (deleteMessages alsoFromUser : Bool) :
    Shrinks o (o.deleteThread thread deleteMessages alsoFromUser) := by
  unfold Ownership.deleteThread
  split_ifs
  · exact (Shrinks.deleteMessages _ _ _).trans' (dropThread o thread alsoFromUser)
  · exact dropThread o thread alsoFromUser
  · exact refl o

theorem deletePrivateMessages (o : Ownership) (messages : Finset IdType) (fromSource fromDestination : Bool) :
    Shrinks o (o.deletePrivateMessages messages fromSource fromDestination) :=
  ⟨rfl, by rfl, by rfl, by rfl, by rfl, Finset.sdiff_subset, by rfl⟩

theorem deleteAttachments (o : Ownership) (attachments : Finset IdType) (alsoFromUser : Bool) :
    Shrinks o (o.deleteAttachments attachments alsoFromUser) :=
  ⟨rfl, by rfl, by rfl, by rfl, by rfl, by rfl, Finset.sdiff_subset⟩

theorem detachUser (o : Ownership) (user : IdType) : Shrinks o (o.detachUser user) :=
  ⟨rfl, Finset.erase_subset _ _, by rfl, by rfl, by rfl, by rfl, by rfl⟩

theorem deleteUser (o : Ownership) (user : IdType) : Shrinks o (o.deleteUser user) :=
  Ownership.deleteUser_keeps (refl o) (fun _ => detachUser o user)
    (fun _ _ h => (Shrinks.deleteMessages _ _ _).trans' h) (fun _ _ h => (deleteThread _ _ _ _).trans' h)
    (fun _ _ _ _ h => (deletePrivateMessages _ _ _ _).trans' h) fun _ _ h => (deleteAttachments _ _ _).trans' h

end Shrinks

/-! ### Ids -/

/-- No step takes an id back. -/
theorem OwnershipStep.issuedIds_subset {user : IdType} {op : Operation} {o o' : Ownership}
    (hstep : OwnershipStep user op o o') : o.issuedIds ⊆ o'.issuedIds := by
  cases hstep with
  | keep => rfl
  | deleteUser => exact (Shrinks.deleteUser _ _).issuedIds.superset
  | deletePrivateMessage => exact (Shrinks.deletePrivateMessages _ _ _ _).issuedIds.superset
  | deleteAttachment => exact (Shrinks.deleteAttachments _ _ _).issuedIds.superset
  | deleteDiscussionThread => exact (Shrinks.deleteThread _ _ _ _).issuedIds.superset
  | mergeDiscussionThreads =>
    unfold Ownership.mergeThreads
    rw [(Shrinks.deleteThread _ _ _ _).issuedIds]
  | deleteDiscussionMessage => exact (Shrinks.deleteMessages _ _ _).issuedIds.superset
  | subscribeToDiscussionThread | unsubscribeFromDiscussionThread | moveDiscussionThreadMessage
  | upVoteDiscussionThreadMessage | downVoteDiscussionThreadMessage | addAttachmentToDiscussionThreadMessage
  | removeAttachmentFromDiscussionThreadMessage => rfl
  | resetVoteDiscussionThreadMessage =>
    unfold Ownership.resetVote
    split_ifs <;> rfl
  | addNewDiscussionTag | addNewDiscussionCategory | constructMessage | addNewUser | sendPrivateMessage
  | addNewAttachment | addNewDiscussionThread | addNewDiscussionMessageInThread
  | addCommentToDiscussionThreadMessage => exact Finset.subset_insert _ _

/-- Everything in the store has an id that was given out; the empty id was not. -/
structure Issued (o : Ownership) : Prop where
  zero : 0 ∉ o.issuedIds
  users : o.users ⊆ o.issuedIds
  threads : o.allThreads ⊆ o.issuedIds
  messages : o.allMessages ⊆ o.issuedIds
  comments : o.allComments ⊆ o.issuedIds
  privateMessages : o.allPrivateMessages ⊆ o.issuedIds
  attachments : o.allAttachments ⊆ o.issuedIds

namespace Issued

variable {o o' : Ownership} {user id : IdType} {op : Operation}

theorem shrinks (h : Issued o) (hs : Shrinks o o') : Issued o' where
  zero := by rw [hs.issuedIds]; exact h.zero
  users := by rw [hs.issuedIds]; exact hs.users.trans h.users
  threads := by rw [hs.issuedIds]; exact hs.threads.trans h.threads
  messages := by rw [hs.issuedIds]; exact hs.messages.trans h.messages
  comments := by rw [hs.issuedIds]; exact hs.comments.trans h.comments
  privateMessages := by rw [hs.issuedIds]; exact hs.privateMessages.trans h.privateMessages
  attachments := by rw [hs.issuedIds]; exact hs.attachments.trans h.attachments

theorem construct (h : Issued o) (hid : id ≠ 0) : Issued (o.construct id) where
  zero := by simp [Ownership.construct, h.zero, hid.symm]
  users := h.users.trans (Finset.subset_insert _ _)
  threads := h.threads.trans (Finset.subset_insert _ _)
  messages := h.messages.trans (Finset.subset_insert _ _)
  comments := h.comments.trans (Finset.subset_insert _ _)
  privateMessages := h.privateMessages.trans (Finset.subset_insert _ _)
  attachments := h.attachments.trans (Finset.subset_insert _ _)

theorem step (hstep : OwnershipStep user op o o') (hfresh : op.FreshFor o) (h : Issued o) : Issued o' := by
  have hnew : ∀ {id}, op.newId = some id → Issued (o.construct id) := fun hid => h.construct (hfresh _ hid).1
  cases hstep with
  | keep => exact h
  | deleteUser => exact h.shrinks (.deleteUser _ _)
  | deletePrivateMessage => exact h.shrinks (.deletePrivateMessages _ _ _ _)
  | deleteAttachment => exact h.shrinks (.deleteAttachments _ _ _)
  | deleteDiscussionThread => exact h.shrinks (.deleteThread _ _ _ _)
  | mergeDiscussionThreads =>
    refine Issued.shrinks ?_ (.deleteThread _ _ _ _)
    exact ⟨h.zero, h.users, h.threads, h.messages, h.comments, h.privateMessages, h.attachments⟩
  | deleteDiscussionMessage => exact h.shrinks (.deleteMessages _ _ _)
  | subscribeToDiscussionThread | unsubscribeFromDiscussionThread | moveDiscussionThreadMessage
  | upVoteDiscussionThreadMessage | downVoteDiscussionThreadMessage | addAttachmentToDiscussionThreadMessage
  | removeAttachmentFromDiscussionThreadMessage =>
    exact ⟨h.zero, h.users, h.threads, h.messages, h.comments, h.privateMessages, h.attachments⟩
  | resetVoteDiscussionThreadMessage =>
    unfold Ownership.resetVote
    split_ifs <;> exact ⟨h.zero, h.users, h.threads, h.messages, h.comments, h.privateMessages, h.attachments⟩
  | addNewDiscussionTag | addNewDiscussionCategory | constructMessage =>
    have h := hnew rfl
    exact ⟨h.zero, h.users, h.threads, h.messages, h.comments, h.privateMessages, h.attachments⟩
  | addNewUser =>
    have h := hnew rfl
    exact ⟨h.zero, Finset.insert_subset_insert _ (Issued.users ‹_›), h.threads, h.messages, h.comments,
      h.privateMessages, h.attachments⟩
  | sendPrivateMessage =>
    have h' := hnew rfl
    exact ⟨h'.zero, h'.users, h'.threads, h'.messages, h'.comments,
      Finset.insert_subset_insert _ h.privateMessages, h'.attachments⟩
  | addNewAttachment =>
    have h' := hnew rfl
    exact ⟨h'.zero, h'.users, h'.threads, h'.messages, h'.comments, h'.privateMessages,
      Finset.insert_subset_insert _ h.attachments⟩
  | addNewDiscussionThread =>
    have h' := hnew rfl
    exact ⟨h'.zero, h'.users, Finset.insert_subset_insert _ h.threads, h'.messages, h'.comments,
      h'.privateMessages, h'.attachments⟩
  | addNewDiscussionMessageInThread =>
    have h' := hnew rfl
    exact ⟨h'.zero, h'.users, h'.threads, Finset.insert_subset_insert _ h.messages, h'.comments,
      h'.privateMessages, h'.attachments⟩
  | addCommentToDiscussionThreadMessage =>
    have h' := hnew rfl
    exact ⟨h'.zero, h'.users, h'.threads, h'.messages, Finset.insert_subset_insert _ h.comments,
      h'.privateMessages, h'.attachments⟩

end Issued

/-- In every state reached, everything has an id that was given out. -/
theorem Reachable.issued {admissible : Context → EntityCollection → Operation → Prop} {s : EntityCollection}
    (h : Reachable admissible s) : Issued s.toOwnership :=
  h.ownership (by constructor <;> simp) fun _ _ _ _ _ _ hfresh hstep ih => ih.step hstep hfresh

end Forum.Repository
