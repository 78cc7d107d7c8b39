import Forum.Repository.Users
import Forum.Repository.Threads
import Forum.Repository.Categories

/-!
# Runs of the store

The direct writes as one type of operations, and the states that sequences of them lead to from the
empty store. Each runs under its own context: the operations of different users at different times
interleave freely. A batch insert may start and stop anywhere in between.

`Callable` is what the callers of a direct write promise. An id for a new entity comes from
`generateUniqueId`, live or recorded in the event log, and so is not empty and was never used. A
category is not moved under itself, which the public request refuses; the direct write would make
it its own parent and then follow parents forever.

`Reachable admissible s` says that `s` is the end of a run whose every step satisfies `admissible`;
with no restriction it is every state the store can be in.
-/

namespace Forum.Repository

open Forum.Entities

/-- The direct writes, and the other calls that change the store. -/
inductive Operation
  | addNewUser (id : IdType) (name : NameType) (auth : String)
  | changeUserName (id : IdType) (name : NameType)
  | changeUserInfo (id : IdType) (info : String)
  | changeUserTitle (id : IdType) (title : String)
  | changeUserSignature (id : IdType) (signature : String)
  | changeUserAttachmentQuota (id : IdType) (quota : ℕ)
  | changeUserLogo (id : IdType) (logo : String)
  | deleteUserLogo (id : IdType)
  | deleteUser (id : IdType)
  | updateUserLastSeen (id : IdType) (value : Timestamp)
  | sendPrivateMessage (id destination : IdType) (content : String)
  | deletePrivateMessage (id : IdType)
  | addNewAttachment (id : IdType) (name : NameType) (size : ℕ) (approved : Bool)
  | changeAttachmentName (id : IdType) (name : NameType)
  | changeAttachmentApproval (id : IdType) (approved : Bool)
  | deleteAttachment (id : IdType)
  | addAttachmentToDiscussionThreadMessage (attachment message : IdType)
  | removeAttachmentFromDiscussionThreadMessage (attachment message : IdType)
  | addNewDiscussionThread (id : IdType) (name : NameType) (approved : Bool)
  | changeDiscussionThreadName (id : IdType) (name : NameType)
  | changeDiscussionThreadPinDisplayOrder (id : IdType) (value : ℕ)
  | changeDiscussionThreadApproval (id : IdType) (approved : Bool)
  | deleteDiscussionThread (id : IdType)
  | mergeDiscussionThreads (fromId intoId : IdType)
  | subscribeToDiscussionThread (id : IdType)
  | unsubscribeFromDiscussionThread (id : IdType)
  | addNewDiscussionMessageInThread (id thread : IdType) (approved : Bool) (content : MessageContent)
  | deleteDiscussionMessage (id : IdType)
  | changeDiscussionThreadMessageContent (id : IdType) (content reason : String)
  | changeDiscussionThreadMessageApproval (id : IdType) (approved : Bool)
  | moveDiscussionThreadMessage (message intoThread : IdType)
  | upVoteDiscussionThreadMessage (id : IdType)
  | downVoteDiscussionThreadMessage (id : IdType)
  | resetVoteDiscussionThreadMessage (id : IdType)
  | addCommentToDiscussionThreadMessage (id message : IdType) (content : String)
  | setMessageCommentToSolved (id : IdType)
  | quoteUserInMessage (message user : IdType)
  | addNewDiscussionTag (id : IdType) (name : NameType)
  | changeDiscussionTagName (id : IdType) (name : NameType)
  | changeDiscussionTagUiBlob (id : IdType) (blob : String)
  | deleteDiscussionTag (id : IdType)
  | addDiscussionTagToThread (tag thread : IdType)
  | removeDiscussionTagFromThread (tag thread : IdType)
  | mergeDiscussionTags (fromId intoId : IdType)
  | addNewDiscussionCategory (id : IdType) (name : NameType) (parentId : IdType)
  | changeDiscussionCategoryName (id : IdType) (name : NameType)
  | changeDiscussionCategoryDescription (id : IdType) (description : String)
  | changeDiscussionCategoryParent (id newParentId : IdType)
  | changeDiscussionCategoryDisplayOrder (id : IdType) (displayOrder : ℤ)
  | deleteDiscussionCategory (id : IdType)
  | addDiscussionTagToCategory (tag category : IdType)
  | removeDiscussionTagFromCategory (tag category : IdType)
  | startBatchInsert
  | stopBatchInsert

/-- Perform an operation. -/
def Operation.perform (ctx : Context) (s : EntityCollection) : Operation → Result
  | .addNewUser id name auth => Repository.addNewUser ctx s id name auth
  | .changeUserName id name => Repository.changeUserName s id name
  | .changeUserInfo id info => Repository.changeUserInfo s id info
  | .changeUserTitle id title => Repository.changeUserTitle s id title
  | .changeUserSignature id signature => Repository.changeUserSignature s id signature
  | .changeUserAttachmentQuota id quota => Repository.changeUserAttachmentQuota s id quota
  | .changeUserLogo id logo => Repository.changeUserLogo s id logo
  | .deleteUserLogo id => Repository.deleteUserLogo s id
  | .deleteUser id => Repository.deleteUser ctx s id
  | .updateUserLastSeen id value => Repository.updateUserLastSeen s id value
  | .sendPrivateMessage id destination content => Repository.sendPrivateMessage ctx s id destination content
  | .deletePrivateMessage id => Repository.deletePrivateMessage s id
  | .addNewAttachment id name size approved => Repository.addNewAttachment ctx s id name size approved
  | .changeAttachmentName id name => Repository.changeAttachmentName s id name
  | .changeAttachmentApproval id approved => Repository.changeAttachmentApproval s id approved
  | .deleteAttachment id => Repository.deleteAttachment s id
  | .addAttachmentToDiscussionThreadMessage attachment message =>
    Repository.addAttachmentToDiscussionThreadMessage s attachment message
  | .removeAttachmentFromDiscussionThreadMessage attachment message =>
    Repository.removeAttachmentFromDiscussionThreadMessage s attachment message
  | .addNewDiscussionThread id name approved => Repository.addNewDiscussionThread ctx s id name approved
  | .changeDiscussionThreadName id name => Repository.changeDiscussionThreadName ctx s id name
  | .changeDiscussionThreadPinDisplayOrder id value =>
    Repository.changeDiscussionThreadPinDisplayOrder ctx s id value
  | .changeDiscussionThreadApproval id approved => Repository.changeDiscussionThreadApproval ctx s id approved
  | .deleteDiscussionThread id => Repository.deleteDiscussionThread ctx s id
  | .mergeDiscussionThreads fromId intoId => Repository.mergeDiscussionThreads ctx s fromId intoId
  | .subscribeToDiscussionThread id => Repository.subscribeToDiscussionThread ctx s id
  | .unsubscribeFromDiscussionThread id => Repository.unsubscribeFromDiscussionThread ctx s id
  | .addNewDiscussionMessageInThread id thread approved content =>
    Repository.addNewDiscussionMessageInThread ctx s id thread approved content
  | .deleteDiscussionMessage id => Repository.deleteDiscussionMessage ctx s id
  | .changeDiscussionThreadMessageContent id content reason =>
    Repository.changeDiscussionThreadMessageContent ctx s id content reason
  | .changeDiscussionThreadMessageApproval id approved =>
    Repository.changeDiscussionThreadMessageApproval s id approved
  | .moveDiscussionThreadMessage message intoThread =>
    Repository.moveDiscussionThreadMessage ctx s message intoThread
  | .upVoteDiscussionThreadMessage id => Repository.upVoteDiscussionThreadMessage ctx s id
  | .downVoteDiscussionThreadMessage id => Repository.downVoteDiscussionThreadMessage ctx s id
  | .resetVoteDiscussionThreadMessage id => Repository.resetVoteDiscussionThreadMessage ctx s id
  | .addCommentToDiscussionThreadMessage id message content =>
    Repository.addCommentToDiscussionThreadMessage ctx s id message content
  | .setMessageCommentToSolved id => Repository.setMessageCommentToSolved s id
  | .quoteUserInMessage message user => Repository.quoteUserInMessage s message user
  | .addNewDiscussionTag id name => Repository.addNewDiscussionTag ctx s id name
  | .changeDiscussionTagName id name => Repository.changeDiscussionTagName ctx s id name
  | .changeDiscussionTagUiBlob id blob => Repository.changeDiscussionTagUiBlob s id blob
  | .deleteDiscussionTag id => Repository.deleteDiscussionTag ctx s id
  | .addDiscussionTagToThread tag thread => Repository.addDiscussionTagToThread ctx s tag thread
  | .removeDiscussionTagFromThread tag thread => Repository.removeDiscussionTagFromThread ctx s tag thread
  | .mergeDiscussionTags fromId intoId => Repository.mergeDiscussionTags ctx s fromId intoId
  | .addNewDiscussionCategory id name parentId => Repository.addNewDiscussionCategory ctx s id name parentId
  | .changeDiscussionCategoryName id name => Repository.changeDiscussionCategoryName ctx s id name
  | .changeDiscussionCategoryDescription id description =>
    Repository.changeDiscussionCategoryDescription ctx s id description
  | .changeDiscussionCategoryParent id newParentId =>
    Repository.changeDiscussionCategoryParent ctx s id newParentId
  | .changeDiscussionCategoryDisplayOrder id displayOrder =>
    Repository.changeDiscussionCategoryDisplayOrder ctx s id displayOrder
  | .deleteDiscussionCategory id => Repository.deleteDiscussionCategory ctx s id
  | .addDiscussionTagToCategory tag category => Repository.addDiscussionTagToCategory ctx s tag category
  | .removeDiscussionTagFromCategory tag category =>
    Repository.removeDiscussionTagFromCategory ctx s tag category
  | .startBatchInsert => (.ok, s.startBatchInsert)
  | .stopBatchInsert => (.ok, s.stopBatchInsert)

/-- The id an operation gives to a new entity. -/
def Operation.newId : Operation → Option IdType
  | .addNewUser id _ _ | .sendPrivateMessage id _ _ | .addNewAttachment id _ _ _
  | .addNewDiscussionThread id _ _ | .addNewDiscussionMessageInThread id _ _ _
  | .addCommentToDiscussionThreadMessage id _ _ | .addNewDiscussionTag id _
  | .addNewDiscussionCategory id _ _ => some id
  | _ => none

/-- What callers promise: the id of a new entity is fresh, and a category is not moved under
itself. -/
structure Callable (s : EntityCollection) (op : Operation) : Prop where
  /-- A new id is not empty and was not given out before. -/
  fresh : ∀ id, op.newId = some id → id ≠ 0 ∧ id ∉ s.issuedIds
  /-- A category does not become its own parent. -/
  parent_ne : ∀ id, op ≠ .changeDiscussionCategoryParent id id

/-- Does the operation move a category under itself? -/
def Operation.movesUnderItself : Operation → Bool
  | .changeDiscussionCategoryParent id newParentId => decide (id = newParentId)
  | _ => false

theorem callable_iff {s : EntityCollection} {op : Operation} :
    Callable s op ↔ (∀ id ∈ op.newId, id ≠ 0 ∧ id ∉ s.issuedIds) ∧ op.movesUnderItself = false := by
  constructor
  · rintro ⟨hfresh, hparent⟩
    refine ⟨hfresh, ?_⟩
    cases op
    case changeDiscussionCategoryParent id newParentId =>
      refine decide_eq_false fun h => hparent id ?_
      rw [h]
    all_goals rfl
  · rintro ⟨hfresh, hparent⟩
    refine ⟨hfresh, ?_⟩
    rintro id rfl
    simp [Operation.movesUnderItself] at hparent

instance (s : EntityCollection) (op : Operation) : Decidable (Callable s op) :=
  decidable_of_iff _ callable_iff.symm

/-- The states reached by runs whose every step is admissible. -/
inductive Reachable (admissible : Context → EntityCollection → Operation → Prop) : EntityCollection → Prop
  /-- A run starts with the empty store. -/
  | empty : Reachable admissible .empty
  /-- A run goes on with a further operation. -/
  | step {s : EntityCollection} (ctx : Context) (op : Operation) (reached : Reachable admissible s)
      (callable : Callable s op) (admitted : admissible ctx s op) :
      Reachable admissible (op.perform ctx s).2

/-- No restriction on the steps. -/
def anyOperation (_ : Context) (_ : EntityCollection) (_ : Operation) : Prop := True

variable {admissible admissible' : Context → EntityCollection → Operation → Prop}

/-- What holds of the empty store and is kept by every admissible step holds in every state reached. -/
theorem Reachable.invariant {P : EntityCollection → Prop} {s : EntityCollection} (h : Reachable admissible s)
    (empty : P .empty)
    (step : ∀ s ctx op, Callable s op → admissible ctx s op → P s → P (op.perform ctx s).2) : P s := by
  induction h with
  | empty => exact empty
  | step ctx op _ callable admitted ih => exact step _ ctx op callable admitted ih

/-! ### Running a list of operations -/

/-- Perform operations one after the other. -/
def run (ops : List (Context × Operation)) (s : EntityCollection) : EntityCollection :=
  ops.foldl (fun s step => (step.2.perform step.1 s).2) s

/-- Every operation of the list may be called when its turn comes. -/
def CallableRun : List (Context × Operation) → EntityCollection → Prop
  | [], _ => True
  | (ctx, op) :: ops, s => Callable s op ∧ CallableRun ops (op.perform ctx s).2

instance decidableCallableRun : (ops : List (Context × Operation)) → (s : EntityCollection) →
    Decidable (CallableRun ops s)
  | [], _ => inferInstanceAs (Decidable True)
  | (ctx, op) :: ops, s =>
    have := decidableCallableRun ops (op.perform ctx s).2
    inferInstanceAs (Decidable (Callable s op ∧ CallableRun ops (op.perform ctx s).2))

/-- A list of callable operations is a run. -/
theorem Reachable.run {s : EntityCollection} (h : Reachable anyOperation s) (ops : List (Context × Operation))
    (hops : CallableRun ops s) : Reachable anyOperation (Repository.run ops s) := by
  induction ops generalizing s with
  | nil => exact h
  | cons step ops ih => exact ih (.step step.1 step.2 h hops.1 trivial) hops.2

end Forum.Repository
