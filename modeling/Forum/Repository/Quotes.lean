import Forum.Helpers.UuidExtraction
import Forum.Library.Bytes
import Forum.Repository.ContentRequests
import Forum.Repository.PrivilegeRange

/-!
# Quotes of an edited message

A message quotes the users its content refers to. When the content is edited, those users are to be told that it
did not refer to before. Both contents are searched for references, but the one that was there before is looked
for in the message, where the new one has replaced it already: no reference is ever a new one.
-/

namespace Forum.Repository

open Forum.Library Forum.Entities Forum.Helpers MemoryRepositoryDiscussionThreadMessage

variable (env : ContentEnvironment) (config : ChangeReasonConfig) (ctx : Context) (state : ForumState)

/-- Is a user quoted by the new content of a message, but not by the one the message has? -/
def NewlyQuoted (s : EntityCollection) (message : IdType) (newContent : String) (user : IdType) : Prop :=
  user ∈ s.users ∧ user ∈ env.extractUuidReferences newContent ∧
    user ∉ env.extractUuidReferences (s.message message).content

/-- Is the event that of a quote of a user in a message? -/
def ForumEvent.quotes (message user : IdType) : ForumEvent → Bool
  | .content (.quoteUserInMessage m u) => m = message ∧ u = user
  | _ => false

/-- A response to an edited message: the users who are newly quoted receive one entry each, with one event, and the
quotes of the others stay as they are. -/
def QuotesNewlyQuoted (message : IdType) (newContent : String) (response : ContentResponse) : Prop :=
  ∀ user,
    (NewlyQuoted env state.collection.toEntityCollection message newContent user →
      (response.state.collection.user user).quoteHistory =
          User.pushBack (state.collection.user user).quoteHistory message ∧
        response.emissions.countP (fun emission => emission.event.quotes message user) = 1) ∧
    (¬NewlyQuoted env state.collection.toEntityCollection message newContent user →
      (response.state.collection.user user).quoteHistory = (state.collection.user user).quoteHistory)

/-- By the time references are compared, the message has its new content. -/
theorem quoteNewReferences_eq {id : IdType} {newContent : String} {written : ForumState}
    (h : (written.collection.message id).content = newContent) :
    quoteNewReferences env ctx id newContent written = (written, []) := by
  have hnone : (env.extractUuidReferences newContent).filter (· ∉ env.extractUuidReferences newContent) = [] :=
    List.filter_eq_nil_iff.2 fun user huser => by simpa using huser
  unfold quoteNewReferences
  rw [h]
  dsimp only
  rw [hnone]
  rfl

/-- Bringing the last seen time up to date leaves quotes alone. -/
theorem quoteHistory_getAndUpdate (s : EntityCollection) (user : IdType) :
    ((getAndUpdate env.toEnvironment ctx s).user user).quoteHistory = (s.user user).quoteHistory := by
  unfold getAndUpdate User.updateLastSeen
  split_ifs
  · rfl
  · by_cases hu : user = ctx.currentUserId
    · subst hu
      simp [EntityCollection.modifyUser]
    · simp [EntityCollection.modifyUser, hu]
  · rfl

/-- An accepted edit changes the content and no user. -/
theorem changeDiscussionThreadMessageContent_spec {s : EntityCollection} {id : IdType} (h : id ∈ s.allMessages)
    (content reason : String) :
    let s' := ((Operation.changeDiscussionThreadMessageContent id content reason).perform ctx s).2
    (s'.message id).content = content ∧ s'.user = s.user := by
  simp [Operation.perform, Repository.changeDiscussionThreadMessageContent, h,
    DiscussionThread.setLatestVisibleChange, DiscussionThread.resetVisitorsSinceLastEdit,
    EntityCollection.modifyThread, EntityCollection.modifyMessage]

/-- An accepted edit quotes nobody: it leaves all quotes as they are, and emits no event of a quote. -/
theorem quoteHistory_of_accepted {id : IdType} {newContent changeReason : String}
    (haccepted : ((ContentRequest.changeDiscussionThreadMessageContent id newContent changeReason).perform env config ctx
      state).status = .ok) (user : IdType) :
    let response := (ContentRequest.changeDiscussionThreadMessageContent id newContent changeReason).perform env config
      ctx state
    (response.state.collection.user user).quoteHistory = (state.collection.user user).quoteHistory ∧
      response.emissions.countP (fun emission => emission.event.quotes id user) = 0 := by
  obtain ⟨-, asked, written, hwritten, heq⟩ := EntityRequest.perform_accepted env ctx state _ _ haccepted
  have hid : id ∈ asked.collection.allMessages := by
    have hchecked := hwritten.checked
    rw [← hwritten.store_asked] at hchecked
    by_contra hid
    simp [MemoryRepositoryDiscussionThreadMessage.changeDiscussionThreadMessageContent, findMessage, hid] at hchecked
  obtain ⟨hcontent, hsame⟩ := changeDiscussionThreadMessageContent_spec ctx hid newContent changeReason
  have hstore := hwritten.store_written
  dsimp only [MemoryRepositoryDiscussionThreadMessage.changeDiscussionThreadMessageContent] at hstore
  have hnew : (written.collection.message id).content = newContent := by rw [hstore, hcontent]
  have huser : (written.collection.user user).quoteHistory = (state.collection.user user).quoteHistory := by
    rw [hstore, hsame, hwritten.store_asked]
    exact quoteHistory_getAndUpdate env ctx state.collection.toEntityCollection user
  dsimp only [ContentRequest.perform]
  rw [heq, quoteNewReferences_eq env ctx hnew]
  exact ⟨huser, rfl⟩

/-- An accepted edit quotes exactly the users it should when there are none. -/
theorem quotesNewlyQuoted_iff {id : IdType} {newContent changeReason : String}
    (haccepted : ((ContentRequest.changeDiscussionThreadMessageContent id newContent changeReason).perform env config ctx
      state).status = .ok) :
    QuotesNewlyQuoted env state id newContent
        ((ContentRequest.changeDiscussionThreadMessageContent id newContent changeReason).perform env config ctx state) ↔
      ∀ user, ¬NewlyQuoted env state.collection.toEntityCollection id newContent user := by
  constructor
  · intro h user hnew
    have hone := ((h user).1 hnew).2
    rw [(quoteHistory_of_accepted env config ctx state haccepted user).2] at hone
    exact absurd hone (by decide)
  · intro hnone user
    exact ⟨fun hnew => absurd hnew (hnone user), fun _ =>
      (quoteHistory_of_accepted env config ctx state haccepted user).1⟩

/-! ### A message of one user, and another user -/

/-- The number that stands for a uuid. -/
def idOfUuid (data : Uuid) : IdType := ofBytes (List.ofFn data).reverse

/-- The ids that a content refers to, as the set that they are collected in. -/
def quotedIds (content : String) : List IdType :=
  ascending (((UuidString.extractUuidReferences content.toUTF8.toList).getD []).map idOfUuid).toFinset

theorem quotedIds_reader : quotedIds "@00000000-0000-0000-0000-000000000005@" = [5] := by decide +kernel

theorem quotedIds_seeReader : quotedIds "see @00000000-0000-0000-0000-000000000005@" = [5] := by decide +kernel

/-- An environment that finds references in contents. -/
def quotingEnvironment : ContentEnvironment := { plainEnvironment with extractUuidReferences := quotedIds }

theorem extractUuidReferences_quotingEnvironment : quotingEnvironment.extractUuidReferences = quotedIds := by
  simp only [quotingEnvironment]

/-- A user's message, and another user. -/
def messageAndReader (content : String) : List (Context × Operation) :=
  [(⟨0, 1, ""⟩, .addNewUser 1 ⟨"author", [1]⟩ "auth1"), (⟨0, 1, ""⟩, .addNewUser 5 ⟨"reader", [2]⟩ "auth5"),
    (⟨1, 2, ""⟩, .addNewDiscussionThread 2 ⟨"thread", [1]⟩ true),
    (⟨1, 3, ""⟩, .addNewDiscussionMessageInThread 3 2 true (.text content))]

/-- A forum with the message, where every user may do everything. -/
def forumWithReader (content : String) : ForumState :=
  { plainConfiguration.initial with
    collection :=
      { plainConfiguration.initial.collection with toEntityCollection := run (messageAndReader content) .empty } }

/-- A content that refers to the other user, and an edited one that does, too. -/
def referringContent : String := "@00000000-0000-0000-0000-000000000005@"

/-- The content that the message is changed to. -/
def editedContent : String := "see @00000000-0000-0000-0000-000000000005@"

theorem quotedIds_forumWithReader :
    quotedIds ((forumWithReader referringContent).collection.message 3).content = [5] := by
  decide +kernel

/-- The author changes the message, which referred to the other user before. -/
theorem quotesNewlyQuoted_sameReference :
    QuotesNewlyQuoted quotingEnvironment (forumWithReader referringContent) 3 editedContent
        ((ContentRequest.changeDiscussionThreadMessageContent 3 editedContent "").perform quotingEnvironment ⟨0, 100⟩
          ⟨1, 4, ""⟩ (forumWithReader referringContent)) ∧
      quotedIds referringContent = [5] ∧ quotedIds editedContent = [5] := by
  refine ⟨?_, quotedIds_reader, quotedIds_seeReader⟩
  refine (quotesNewlyQuoted_iff quotingEnvironment ⟨0, 100⟩ ⟨1, 4, ""⟩ (forumWithReader referringContent)
    (by decide +kernel)).2 ?_
  rintro user ⟨-, hquoted, hbefore⟩
  rw [extractUuidReferences_quotingEnvironment, editedContent, quotedIds_seeReader] at hquoted
  rw [extractUuidReferences_quotingEnvironment, quotedIds_forumWithReader] at hbefore
  exact hbefore hquoted

/-- The author refers to the other user, who is not told. -/
theorem not_quotesNewlyQuoted_reader :
    let newContent := "see @00000000-0000-0000-0000-000000000005@"
    let state := forumWithReader "message"
    let response := (ContentRequest.changeDiscussionThreadMessageContent 3 newContent "").perform quotingEnvironment
      ⟨0, 100⟩ ⟨1, 4, ""⟩ state
    Reachable anyOperation state.collection.toEntityCollection ∧ response.status = .ok ∧
      ¬QuotesNewlyQuoted quotingEnvironment state 3 newContent response := by
  refine ⟨.run .empty (messageAndReader "message") (by decide +kernel), by decide +kernel, fun h => ?_⟩
  have hone := ((h 5).1 ⟨by decide +kernel, ?_, ?_⟩).2
  · revert hone
    decide +kernel
  · rw [extractUuidReferences_quotingEnvironment, quotedIds_seeReader]
    exact List.mem_cons_self
  · rw [extractUuidReferences_quotingEnvironment]
    decide +kernel

end Forum.Repository
