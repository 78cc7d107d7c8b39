import Forum.Repository.OwnershipInvariants

/-!
# Attachments

The messages an attachment is attached to and the attachments of a message are two sides of one
relation, and neither side has anything that was deleted.
-/

namespace Forum.Repository

open Forum.Entities Forum.Library

/-- The two sides of the relation agree, and hold only what is in the store. -/
structure AttachmentsSymmetric (o : Ownership) : Prop where
  /-- An attachment is attached to a message when the message says so. -/
  symmetric : ∀ attachment ∈ o.allAttachments, ∀ message ∈ o.allMessages,
    (message ∈ o.attachmentMessages attachment ↔ attachment ∈ o.messageAttachments message)
  messages : ∀ attachment ∈ o.allAttachments, o.attachmentMessages attachment ⊆ o.allMessages
  attachments : ∀ message ∈ o.allMessages, o.messageAttachments message ⊆ o.allAttachments

namespace AttachmentsSymmetric

variable {o o' : Ownership} {user id : IdType} {op : Operation}

/-- The relation reads messages and attachments only. -/
theorem congr (h : AttachmentsSymmetric o) (hm : o'.allMessages = o.allMessages)
    (ha : o'.allAttachments = o.allAttachments) (ham : o'.attachmentMessages = o.attachmentMessages)
    (hma : o'.messageAttachments = o.messageAttachments) : AttachmentsSymmetric o' := by
  obtain ⟨symmetric, messages, attachments⟩ := h
  refine ⟨?_, ?_, ?_⟩
  · simpa only [hm, ha, ham, hma] using symmetric
  · simpa only [hm, ha, ham] using messages
  · simpa only [hm, ha, hma] using attachments

/-- Deleted messages leave the attachments, which all are among their own. -/
theorem deleteMessages (h : AttachmentsSymmetric o) (messages : Finset IdType) (alsoFromUser : Bool) :
    AttachmentsSymmetric (o.deleteMessages messages alsoFromUser) := by
  refine ⟨fun a ha m hm => ?_, fun a ha m hm => ?_, fun m hm => h.attachments m (Finset.mem_sdiff.1 hm).1⟩
  · obtain ⟨hm, hnot⟩ := Finset.mem_sdiff.1 hm
    simp [Ownership.deleteMessages, hnot, h.symmetric a ha m hm]
  · obtain ⟨hm, hnot⟩ := Finset.mem_filter.1 hm
    have hall := h.messages a ha hm
    refine Finset.mem_sdiff.2 ⟨hall, fun hmem => hnot ⟨Finset.mem_inter.2 ⟨hmem, hall⟩, ?_⟩⟩
    exact (h.symmetric a ha m hall).1 hm

/-- Deleted attachments leave the messages they are attached to. -/
theorem deleteAttachments (h : AttachmentsSymmetric o) (attachments : Finset IdType) (alsoFromUser : Bool) :
    AttachmentsSymmetric (o.deleteAttachments attachments alsoFromUser) := by
  refine ⟨fun a ha m hm => ?_, fun a ha => h.messages a (Finset.mem_sdiff.1 ha).1, fun m hm a ha => ?_⟩
  · obtain ⟨ha, hnot⟩ := Finset.mem_sdiff.1 ha
    simp [Ownership.deleteAttachments, hnot, h.symmetric a ha m hm]
  · obtain ⟨ha, hnot⟩ := Finset.mem_filter.1 ha
    have hall := h.attachments m hm ha
    refine Finset.mem_sdiff.2 ⟨hall, fun hmem => hnot ⟨Finset.mem_inter.2 ⟨hmem, hall⟩, ?_⟩⟩
    exact (h.symmetric a hall m hm).2 ha

theorem deleteThread (h : AttachmentsSymmetric o) (thread : IdType) (deleteMessages alsoFromUser : Bool) :
    AttachmentsSymmetric (o.deleteThread thread deleteMessages alsoFromUser) := by
  have hdrop : AttachmentsSymmetric (o.dropThread thread alsoFromUser) := h.congr rfl rfl rfl rfl
  unfold Ownership.deleteThread
  split_ifs
  · exact hdrop.deleteMessages _ _
  · exact hdrop
  · exact h

theorem deleteUser (h : AttachmentsSymmetric o) (user : IdType) : AttachmentsSymmetric (o.deleteUser user) :=
  Ownership.deleteUser_keeps h (fun _ => h.congr rfl rfl rfl rfl) (fun _ _ h => h.deleteMessages _ _)
    (fun _ _ h => h.deleteThread _ _ _) (fun _ _ _ _ h => h.congr rfl rfl rfl rfl)
    fun _ _ h => h.deleteAttachments _ _

/-- A new entity is attached to nothing. -/
theorem construct (h : AttachmentsSymmetric o) (hissued : Issued o) (hid : id ≠ 0 ∧ id ∉ o.issuedIds) :
    AttachmentsSymmetric (o.construct id) := by
  have hmessage : ∀ m ∈ o.allMessages, m ≠ id := fun m hm he => hid.2 (he ▸ hissued.messages hm)
  have hattachment : ∀ a ∈ o.allAttachments, a ≠ id := fun a ha he => hid.2 (he ▸ hissued.attachments ha)
  refine ⟨fun a ha m hm => ?_, fun a ha => ?_, fun m hm => ?_⟩
  · simpa [Ownership.construct, hmessage m hm, hattachment a ha] using h.symmetric a ha m hm
  · simpa [Ownership.construct, hattachment a ha] using h.messages a ha
  · simpa [Ownership.construct, hmessage m hm] using h.attachments m hm

theorem addMessage (h : AttachmentsSymmetric o) (hissued : Issued o) (hid : id ≠ 0 ∧ id ∉ o.issuedIds)
    (thread : IdType) : AttachmentsSymmetric (o.addMessage id thread user) := by
  obtain ⟨symmetric, messages, attachments⟩ := h.construct hissued hid
  refine ⟨fun a ha m hm => ?_, fun a ha => (messages a ha).trans (Finset.subset_insert _ _), fun m hm => ?_⟩
  · rcases Finset.mem_insert.1 hm with rfl | hm
    · refine iff_of_false (fun hmem => hid.2 (hissued.messages (messages a ha hmem))) ?_
      simp [Ownership.addMessage, Ownership.constructMessage, Ownership.construct]
    · exact symmetric a ha m hm
  · rcases Finset.mem_insert.1 hm with rfl | hm
    · simp [Ownership.addMessage, Ownership.constructMessage, Ownership.construct]
    · exact attachments m hm

theorem addAttachment (h : AttachmentsSymmetric o) (hissued : Issued o) (hid : id ≠ 0 ∧ id ∉ o.issuedIds) :
    AttachmentsSymmetric (o.addAttachment id user) := by
  obtain ⟨symmetric, messages, attachments⟩ := h.construct hissued hid
  refine ⟨fun a ha m hm => ?_, fun a ha => ?_, fun m hm => (attachments m hm).trans (Finset.subset_insert _ _)⟩
  · rcases Finset.mem_insert.1 ha with rfl | ha
    · refine iff_of_false ?_ fun hmem => hid.2 (hissued.attachments (attachments m hm hmem))
      simp [Ownership.addAttachment, Ownership.construct]
    · exact symmetric a ha m hm
  · rcases Finset.mem_insert.1 ha with rfl | ha
    · simp [Ownership.addAttachment, Ownership.construct]
    · exact messages a ha

theorem attach (h : AttachmentsSymmetric o) {attachment message : IdType} (ha : attachment ∈ o.allAttachments)
    (hm : message ∈ o.allMessages) : AttachmentsSymmetric (o.attach attachment message) := by
  refine ⟨fun a ha' m hm' => ?_, fun a ha' m hmem => ?_, fun m hm' a hmem => ?_⟩
  · have := h.symmetric a ha' m hm'
    simp only [Ownership.attach, mem_update_insert]
    tauto
  · rcases mem_update_insert.1 hmem with hmem | ⟨rfl, -⟩
    · exact h.messages a ha' hmem
    · exact hm
  · rcases mem_update_insert.1 hmem with hmem | ⟨rfl, -⟩
    · exact h.attachments m hm' hmem
    · exact ha

theorem detach (h : AttachmentsSymmetric o) (attachment message : IdType) :
    AttachmentsSymmetric (o.detach attachment message) := by
  refine ⟨fun a ha m hm => ?_, fun a ha m hmem => ?_, fun m hm a hmem => ?_⟩
  · have := h.symmetric a ha m hm
    simp only [Ownership.detach, mem_update_erase]
    tauto
  · exact h.messages a ha (mem_update_erase.1 hmem).1
  · exact h.attachments m hm (mem_update_erase.1 hmem).1

/-- Every step keeps the two sides in agreement. -/
theorem step (hstep : OwnershipStep user op o o') (hfresh : op.FreshFor o) (hissued : Issued o)
    (h : AttachmentsSymmetric o) : AttachmentsSymmetric o' := by
  have hnew : ∀ {id}, op.newId = some id → AttachmentsSymmetric (o.construct id) :=
    fun hid => h.construct hissued (hfresh _ hid)
  cases hstep with
  | keep => exact h
  | deleteUser => exact h.deleteUser _
  | deleteDiscussionThread => exact h.deleteThread _ _ _
  | mergeDiscussionThreads =>
    refine AttachmentsSymmetric.deleteThread ?_ _ _ _
    exact h.congr rfl rfl rfl rfl
  | addNewDiscussionMessageInThread => exact h.addMessage hissued (hfresh _ rfl) _
  | deleteDiscussionMessage => exact h.deleteMessages _ _
  | addNewAttachment => exact h.addAttachment hissued (hfresh _ rfl)
  | deleteAttachment => exact h.deleteAttachments _ _
  | addAttachmentToDiscussionThreadMessage known messageKnown => exact h.attach known messageKnown
  | removeAttachmentFromDiscussionThreadMessage => exact h.detach _ _
  | resetVoteDiscussionThreadMessage =>
    unfold Ownership.resetVote
    split_ifs <;> exact h.congr rfl rfl rfl rfl
  | addNewUser | sendPrivateMessage | constructMessage | addCommentToDiscussionThreadMessage | addNewDiscussionTag
  | addNewDiscussionCategory | addNewDiscussionThread => exact (hnew rfl).congr rfl rfl rfl rfl
  | upVoteDiscussionThreadMessage | downVoteDiscussionThreadMessage | deletePrivateMessage
  | moveDiscussionThreadMessage | subscribeToDiscussionThread | unsubscribeFromDiscussionThread =>
    exact h.congr rfl rfl rfl rfl

end AttachmentsSymmetric

/-- Attachments and messages agree in every state of the store. -/
theorem Reachable.attachmentsSymmetric {admissible : Context → EntityCollection → Operation → Prop}
    {s : EntityCollection} (h : Reachable admissible s) : AttachmentsSymmetric s.toOwnership := by
  refine h.ownership (P := AttachmentsSymmetric) ⟨by simp, by simp, by simp⟩ ?_
  exact fun ctx s op o hreached _ hfresh hstep ih => ih.step hstep hfresh hreached.issued

end Forum.Repository
