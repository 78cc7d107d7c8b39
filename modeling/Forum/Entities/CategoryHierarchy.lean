import Forum.Library.Hierarchy
import Forum.Entities.PlacementRelations

/-!
# The hierarchy of categories

The categories with their parents and children, read off the placement. Placing threads, counting
them and keeping the indexes leave it alone; only creating, moving and deleting a category change
it, and they do so as the operations of `Hierarchy`.
-/

namespace Forum.Entities

open Forum.Library

/-- The categories with their parents and children. -/
def Placement.hierarchy (p : Placement) : Hierarchy IdType where
  nodes := p.categories
  parent := p.categoryParent
  children := p.categoryChildren

namespace Placement

variable (p : Placement)

@[simp] theorem hierarchy_place (category : IdType) (threads : Finset IdType) :
    (p.place category threads).hierarchy = p.hierarchy := rfl

@[simp] theorem hierarchy_unplace (category : IdType) (threads : Finset IdType) (aboutToBeDeleted : IdType → Bool) :
    (p.unplace category threads aboutToBeDeleted).hierarchy = p.hierarchy := rfl

@[simp] theorem hierarchy_attach (tag thread : IdType) : (p.attach tag thread).hierarchy = p.hierarchy := rfl

@[simp] theorem hierarchy_detach (tag thread : IdType) (aboutToBeDeleted : Bool) :
    (p.detach tag thread aboutToBeDeleted).hierarchy = p.hierarchy := rfl

/-- An entity that is created is nobody's parent or child. -/
@[simp] theorem hierarchy_construct (id : IdType) :
    (p.construct id).hierarchy =
      { p.hierarchy with
        parent := Function.update p.hierarchy.parent id none
        children := Function.update p.hierarchy.children id ∅ } := rfl

end Placement

namespace Store

variable (s : Store)

@[simp] theorem hierarchy_setThreads (x : Finset IdType) (c : ThreadCollectionRef) :
    (s.setThreads x c).hierarchy = s.hierarchy := by
  cases c <;> rfl

@[simp] theorem toPlacement_setMessages (x : Finset IdType) (c : MessageCollectionRef) :
    (s.setMessages x c).toPlacement = s.toPlacement := by
  cases c <;> rfl

@[simp] theorem toPlacement_setComments (x : Finset IdType) (c : CommentCollectionRef) :
    (s.setComments x c).toPlacement = s.toPlacement := by
  cases c <;> rfl

@[simp] theorem toPlacement_setPrivateMessages (x : Finset IdType) (c : PrivateMessageCollectionRef) :
    (s.setPrivateMessages x c).toPlacement = s.toPlacement := by
  cases c <;> rfl

end Store

theorem hierarchy_foldl {α : Type*} {f : EntityCollection → α → EntityCollection} {l : List α} {s : EntityCollection}
    (h : ∀ s, ∀ x ∈ l, (f s x).hierarchy = s.hierarchy) : (l.foldl f s).hierarchy = s.hierarchy :=
  foldl_view (fun s : EntityCollection => s.hierarchy) h

variable (ctx : Context) (s : EntityCollection)

namespace DiscussionCategory

variable (category thread tag : IdType)

@[simp] theorem hierarchy_deleteDiscussionThreadIfNoOtherTagsReferenceIt (deleteMessages : Bool) :
    (deleteDiscussionThreadIfNoOtherTagsReferenceIt ctx category s thread deleteMessages).hierarchy = s.hierarchy := by
  rw [toPlacement_deleteDiscussionThreadIfNoOtherTagsReferenceIt]
  split_ifs <;> rfl

@[simp] theorem hierarchy_addTag : (addTag ctx category s tag).hierarchy = s.hierarchy := by
  rw [toPlacement_addTag]
  split_ifs <;> rfl

@[simp] theorem hierarchy_removeTag : (removeTag ctx category s tag).hierarchy = s.hierarchy := by
  rw [toPlacement_removeTag]
  split_ifs <;> rfl

end DiscussionCategory

namespace DiscussionTag

variable (tag thread : IdType)

@[simp] theorem hierarchy_insertDiscussionThreads (threads : List IdType) :
    (insertDiscussionThreads ctx tag s threads).hierarchy = s.hierarchy := by
  have hcategories : ∀ (categories threads : List IdType) (s : EntityCollection),
      (categories.foldl (fun (acc : List IdType × EntityCollection) category =>
        (DiscussionCategory.compactThreads category acc.2 acc.1,
          DiscussionCategory.insertDiscussionThreads ctx category acc.2 acc.1)) (threads, s)).2.hierarchy =
        s.hierarchy := fun categories threads s =>
    foldl_view (fun acc : List IdType × EntityCollection => acc.2.hierarchy) fun acc category _ => by simp
  have hcount : ∀ (threads : List IdType) (s : EntityCollection),
      (threads.foldl (fun s thread => s.addTagMessageCount tag (s.threadMessageCount thread)) s).hierarchy =
        s.hierarchy := fun threads s => hierarchy_foldl fun _ _ _ => rfl
  unfold insertDiscussionThreads
  dsimp only
  split_ifs <;> simp [hcategories, hcount]

@[simp] theorem hierarchy_insertDiscussionThread :
    (insertDiscussionThread ctx tag s thread).hierarchy = s.hierarchy :=
  hierarchy_insertDiscussionThreads ctx s tag [thread]

@[simp] theorem hierarchy_deleteDiscussionThread (deleteMessages : Bool) :
    (deleteDiscussionThread ctx tag s thread deleteMessages).hierarchy = s.hierarchy := by
  rw [toPlacement_deleteDiscussionThread]
  split_ifs <;> rfl

end DiscussionTag

/-! ### Walks -/

namespace DiscussionCategory

/-- The later of the latest messages of a category, as found so far, and of a child. -/
def laterMessage (s : EntityCollection) : Option IdType → Option IdType → Option IdType
  | result, none => result
  | none, some childLatestMessage => some childLatestMessage
  | some result, some childLatestMessage =>
    if (s.message result).created < (s.message childLatestMessage).created then some childLatestMessage
    else some result

/-- `DiscussionCategory::latestMessage`; nothing when the recursion into the children has not ended
within the fuel. -/
def latestMessage (s : EntityCollection) : ℕ → IdType → Option (Option IdType)
  | 0, _ => none
  | fuel + 1, category =>
    let own := (s.index (.threads (.category category) .latestMessageCreated)).getLast?.bind fun thread =>
      (s.index (.messages (.ofThread thread))).getLast?
    (ascending (s.categoryChildren category)).foldlM (fun result child =>
      (latestMessage s fuel child).map (laterMessage s result)) own

end DiscussionCategory

/-- A loop that may fail does not when no step does. -/
theorem isSome_foldlM {α β : Type*} {f : β → α → Option β} {l : List α} (h : ∀ b, ∀ x ∈ l, (f b x).isSome) (b : β) :
    (l.foldlM f b).isSome := by
  induction l generalizing b with
  | nil => rfl
  | cons x l ih =>
    obtain ⟨b', hb'⟩ := Option.isSome_iff_exists.1 (h b x List.mem_cons_self)
    rw [List.foldlM_cons, hb']
    exact ih (fun b y hy => h b y (List.mem_cons_of_mem _ hy)) b'

/-- The recursion of `latestMessage` ends in a forest. -/
theorem DiscussionCategory.isSome_latestMessage (h : s.hierarchy.IsForest) {category : IdType}
    (hc : category ∈ s.categories) : (latestMessage s s.categories.card category).isSome := by
  refine h.descend (P := fun fuel category => (latestMessage s fuel category).isSome) (fun fuel a _ ih => ?_)
    category hc
  unfold latestMessage
  refine isSome_foldlM (fun result child hchild => ?_) _
  rw [Option.isSome_map]
  exact ih child (mem_ascending.1 hchild)

/-! ### Deleting entities -/

namespace EntityCollection

@[simp] theorem hierarchy_deletePrivateMessage (message : IdType) (fromSource fromDestination : Bool) :
    (s.deletePrivateMessage message fromSource fromDestination).hierarchy = s.hierarchy := by
  unfold deletePrivateMessage
  dsimp only
  split_ifs <;> simp

@[simp] theorem hierarchy_deleteDiscussionThread (thread : IdType) (deleteMessages alsoFromUser : Bool) :
    (s.deleteDiscussionThread ctx thread deleteMessages alsoFromUser).hierarchy = s.hierarchy := by
  have hcategories : ∀ (categories : List IdType) (s : EntityCollection),
      (categories.foldl (fun s category =>
        DiscussionCategory.deleteDiscussionThread ctx category s thread deleteMessages false) s).hierarchy =
        s.hierarchy := fun categories s => hierarchy_foldl fun s category _ => by simp
  have htags : ∀ (tags : List IdType) (s : EntityCollection),
      (tags.foldl (fun s tag => DiscussionTag.deleteDiscussionThread ctx tag s thread deleteMessages) s).hierarchy =
        s.hierarchy := fun tags s =>
    hierarchy_foldl fun s tag _ => DiscussionTag.hierarchy_deleteDiscussionThread ctx s tag thread deleteMessages
  have hsubscribers : ∀ (users : List IdType) (s : EntityCollection),
      (users.foldl (fun s user => s.threadsRemove (.subscribedBy user) thread) s).hierarchy = s.hierarchy :=
    fun users s => hierarchy_foldl fun s user _ => by simp
  have hmessages : ∀ (messages : List IdType) (s : EntityCollection),
      (messages.foldl (fun s message => deleteDiscussionThreadMessage ctx s message true) s).hierarchy = s.hierarchy :=
    fun messages s => hierarchy_foldl fun s message _ => by simp
  unfold deleteDiscussionThread
  dsimp only
  split_ifs <;> simp [hcategories, htags, hsubscribers, hmessages, DiscussionThread.setAboutToBeDeleted]

@[simp] theorem hierarchy_deleteDiscussionTag (tag : IdType) :
    (s.deleteDiscussionTag ctx tag).hierarchy = s.hierarchy := by
  have hcategories : ∀ (categories : List IdType) (s : EntityCollection),
      (categories.foldl (fun s category => DiscussionCategory.removeTag ctx category s tag) s).hierarchy =
        s.hierarchy := fun categories s =>
    hierarchy_foldl fun s category _ => DiscussionCategory.hierarchy_removeTag ctx s category tag
  have hthreads : ∀ (threads : List IdType) (s : EntityCollection),
      (threads.foldl (fun s thread => DiscussionThread.removeTag thread s ctx tag) s).hierarchy = s.hierarchy :=
    fun threads s => hierarchy_foldl fun _ _ _ => rfl
  unfold deleteDiscussionTag
  split_ifs
  · simp only [hthreads, hcategories, toStore_tagsRemove]
    rfl
  · rfl

@[simp] theorem hierarchy_deleteUser (user : IdType) : (s.deleteUser ctx user).hierarchy = s.hierarchy := by
  have hloop : ∀ (f : EntityCollection → IdType → EntityCollection), (∀ s x, (f s x).hierarchy = s.hierarchy) →
      ∀ (l : List IdType) (s : EntityCollection), (l.foldl f s).hierarchy = s.hierarchy :=
    fun f hf l s => hierarchy_foldl fun s x _ => hf s x
  have hsubscriptions := hloop (fun s thread => DiscussionThread.eraseSubscribedUser thread s user) fun _ _ => rfl
  have hvotes := hloop (fun s message => (DiscussionThreadMessage.removeVote message s user).2) fun s message => by
    unfold DiscussionThreadMessage.removeVote
    split_ifs <;> rfl
  unfold deleteUser
  dsimp only
  split_ifs
  · rw [hloop _ fun s x => by simp, hloop _ fun s x => by simp, hloop _ fun s x => by simp, hloop _ fun s x => by simp,
      hloop _ fun s x => by simp, hsubscriptions, hloop _ fun s x => by simp, hvotes, toStore_usersRemove]
  · rfl

/-- A category that nobody has as a parent leaves the hierarchy. -/
theorem hierarchy_deleteDiscussionCategory (category : IdType) (h : category ∈ s.categories) :
    (s.deleteDiscussionCategory ctx category).hierarchy = s.hierarchy.remove category := by
  have htags : ∀ (tags : List IdType) (s : EntityCollection),
      (tags.foldl (fun s tag => DiscussionTag.removeCategory tag s category) s).hierarchy = s.hierarchy :=
    fun tags s => hierarchy_foldl fun _ _ _ => rfl
  have hthreads : ∀ (threads : List IdType) (s : EntityCollection),
      (threads.foldl (fun s thread => DiscussionThread.removeCategory thread s ctx category) s).hierarchy =
        s.hierarchy := fun threads s => hierarchy_foldl fun _ _ _ => rfl
  unfold deleteDiscussionCategory
  rw [if_pos h]
  dsimp only
  generalize hs : (List.foldl (fun s thread => DiscussionThread.removeCategory thread s ctx category) _ _ :
    EntityCollection) = s'
  have hs' : s'.hierarchy = { s.hierarchy with nodes := s.categories.erase category } := by
    rw [← hs, hthreads, htags, toStore_categoriesRemove]
    rfl
  have hparent : s'.categoryParent = s.categoryParent := congrArg Hierarchy.parent hs'
  have hchildren : s'.categoryChildren = s.categoryChildren := congrArg Hierarchy.children hs'
  have hnodes : s'.categories = s.categories.erase category := congrArg Hierarchy.nodes hs'
  rw [hparent]
  cases hp : s.categoryParent category with
  | none =>
    simp only
    rw [hs']
    simp [Hierarchy.remove, Placement.hierarchy, hp]
  | some parent =>
    simp only
    have hremove : (DiscussionCategory.removeTotalsFromChild parent s' category).toPlacement = s'.toPlacement := by simp
    simp only [DiscussionCategory.removeChild, Placement.hierarchy, Hierarchy.remove, Hierarchy.mk.injEq, hremove, hparent,
      hchildren, hnodes, true_and]
    funext p
    by_cases hpp : p = parent
    · subst hpp; simp [hp]
    · simp [hp, hpp, Ne.symm hpp]

end EntityCollection

end Forum.Entities
