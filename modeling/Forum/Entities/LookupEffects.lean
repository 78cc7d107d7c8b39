import Forum.Library.UniqueIndex
import Forum.Entities.IndexEffects

/-!
# What the operations do to users, tags and categories

The lookups by name and by auth string, and the indexes of the user, tag and category collections.
Some of their keys are counts of other collections: the threads and messages of a user, the threads
of a tag, the messages in a tag or a category. `RefKept ref changing s s'` says that an index is left
alone while only the keys of some elements change; with one such element between `prepareUpdate` and
`finishUpdate`, the index stays sound. `LookupsStep` collects what an operation keeps that neither
adds nor removes a user, a tag or a category.
-/

namespace Forum.Entities

open Forum.Library EntityCollection

/-- The collection a unique index belongs to. -/
def Store.uniqueById (s : Store) : UniqueIndexRef → Finset IdType
  | .usersByAuth | .usersByName => s.users
  | .tagsByName => s.tags
  | .categoriesByName => s.categories

/-- Is it an index of the users, the tags or the categories? -/
def IndexRef.OfEntities : IndexRef → Prop
  | .users _ | .tags _ | .categories _ => True
  | _ => False

/-! ### Leaving an index alone -/

/-- The index is left alone, and only certain elements may change their keys. -/
structure RefKept (ref : IndexRef) (changing : IdType → Prop) (s s' : EntityCollection) : Prop where
  batch : s'.batchInsertInProgress = s.batchInsertInProgress
  byId : s'.byId ref = s.byId ref
  indexKey : ∀ x ∈ s.byId ref, ¬changing x → s'.indexKey ref x = s.indexKey ref x
  index : IndexKept ref s s'

namespace RefKept

variable {ref : IndexRef} {P Q : IdType → Prop} {s s' s'' : EntityCollection} {x : IdType}

theorem refl (ref : IndexRef) (P : IdType → Prop) (s : EntityCollection) : RefKept ref P s s :=
  ⟨rfl, rfl, fun _ _ _ => rfl, .refl ref s⟩

theorem trans' (h' : RefKept ref P s' s'') (h : RefKept ref P s s') : RefKept ref P s s'' where
  batch := h'.batch.trans h.batch
  byId := h'.byId.trans h.byId
  indexKey x hx hP := (h'.indexKey x (h.byId ▸ hx) hP).trans (h.indexKey x hx hP)
  index := h'.index.trans' h.index

theorem mono (h : RefKept ref P s s') (hPQ : ∀ x, P x → Q x) : RefKept ref Q s s' :=
  { h with indexKey := fun x hx hQ => h.indexKey x hx fun hP => hQ (hPQ x hP) }

theorem of_toStore (hs : s'.toStore = s.toStore) (h : IndexKept ref s s') : RefKept ref P s s' :=
  ⟨by rw [hs], by rw [hs], fun x _ _ => by rw [hs], h⟩

theorem sound (hk : RefKept ref P s s') (h : IndexSound s ref) (hP : ∀ x ∈ s.byId ref, ¬P x) : IndexSound s' ref :=
  h.kept hk.index hk.batch hk.byId fun x hx => hk.indexKey x hx (hP x hx)

/-- A change of one key between finding the element and replacing it. -/
theorem bracket (hk : RefKept ref P (s.prepareUpdate ref x) s') (h : IndexSound s ref) (hP : ∀ y, P y → y = x) :
    IndexSound (s'.finishUpdate ref x) ref :=
  ((h.prepareUpdate x).kept hk.index hk.batch hk.byId fun y hy hyx =>
    hk.indexKey y hy fun hPy => hyx (hP y hPy)).finishUpdate

end RefKept

/-! ### Leaving the lookups alone -/

/-- The users, tags and categories and their names and auth strings are the same, as are the unique
indexes. -/
structure UniqueKept (s s' : EntityCollection) : Prop where
  uniqueById : s'.uniqueById = s.uniqueById
  uniqueKey : ∀ ref, ∀ x ∈ s.uniqueById ref, s'.uniqueKey ref x = s.uniqueKey ref x
  uniqueIndex : s'.uniqueIndex = s.uniqueIndex

namespace UniqueKept

variable {s s' s'' : EntityCollection}

theorem refl (s : EntityCollection) : UniqueKept s s := ⟨rfl, fun _ _ _ => rfl, rfl⟩

theorem trans' (h' : UniqueKept s' s'') (h : UniqueKept s s') : UniqueKept s s'' where
  uniqueById := h'.uniqueById.trans h.uniqueById
  uniqueKey ref x hx := (h'.uniqueKey ref x (h.uniqueById ▸ hx)).trans (h.uniqueKey ref x hx)
  uniqueIndex := h'.uniqueIndex.trans h.uniqueIndex

theorem of_toStore (hs : s'.toStore = s.toStore) (h : s'.uniqueIndex = s.uniqueIndex) : UniqueKept s s' :=
  ⟨by rw [hs], fun ref x _ => by rw [hs], h⟩

end UniqueKept

/-- The lookups are left alone, and so are the indexes of users, tags and categories, but for those
excepted; only certain keys change. -/
structure LookupsKept (except : List IndexRef) (changing : List (IndexRef × IdType)) (s s' : EntityCollection) :
    Prop where
  unique : UniqueKept s s'
  ref : ∀ ref, ref.OfEntities → ref ∉ except → RefKept ref (fun x => (ref, x) ∈ changing) s s'

namespace LookupsKept

variable {except except' : List IndexRef} {changing changing' : List (IndexRef × IdType)}
variable {s s' s'' : EntityCollection} {ref : IndexRef} {x : IdType}

theorem refl (except : List IndexRef) (changing : List (IndexRef × IdType)) (s : EntityCollection) :
    LookupsKept except changing s s :=
  ⟨.refl s, fun _ _ _ => .refl _ _ s⟩

theorem trans' (h' : LookupsKept except changing s' s'') (h : LookupsKept except changing s s') :
    LookupsKept except changing s s'' where
  unique := h'.unique.trans' h.unique
  ref ref href hnot := (h'.ref ref href hnot).trans' (h.ref ref href hnot)

theorem mono (h : LookupsKept except changing s s') (he : except ⊆ except') (hc : changing ⊆ changing') :
    LookupsKept except' changing' s s' :=
  ⟨h.unique, fun ref href hnot => (h.ref ref href fun hmem => hnot (he hmem)).mono fun _ hx => hc hx⟩

/-- The keys of an index excepted may change. -/
theorem drop (h : LookupsKept except changing s s') (except' : List IndexRef) (he : except ⊆ except') (hc : ∀ p ∈ changing, p.1 ∈ except') :
    LookupsKept except' [] s s' :=
  ⟨h.unique, fun ref href hnot => (h.ref ref href fun hmem => hnot (he hmem)).mono fun _ hx => (hnot (hc _ hx)).elim⟩

theorem keeps_sound (h : LookupsKept except changing s s') (href : ref.OfEntities) (hnot : ref ∉ except)
    (hs : IndexSound s ref) (hc : ∀ x, (ref, x) ∉ changing := by simp) : IndexSound s' ref :=
  (h.ref ref href hnot).sound hs fun x _ => hc x

theorem foldl {α : Type*} {f : EntityCollection → α → EntityCollection} {l : List α}
    (hf : ∀ s, ∀ x ∈ l, LookupsKept except changing s (f s x)) (h : LookupsKept except changing s s') :
    LookupsKept except changing s (l.foldl f s') :=
  foldl_keeps h fun s' x hx h => (hf s' x hx).trans' h

theorem of_toStore (hs : s'.toStore = s.toStore) (hu : s'.uniqueIndex = s.uniqueIndex)
    (h : ∀ ref, ref.OfEntities → ref ∉ except → IndexKept ref s s') : LookupsKept except changing s s' :=
  ⟨.of_toStore hs hu, fun ref href hnot => .of_toStore hs (h ref href hnot)⟩

theorem unlessBatch {f : EntityCollection → EntityCollection} (hf : ∀ s, LookupsKept except changing s (f s))
    (s : EntityCollection) : LookupsKept except changing s (s.unlessBatch f) := by
  unfold EntityCollection.unlessBatch
  split_ifs
  · exact .refl _ _ s
  · exact hf s

section indexes

/-- An index that is none of the users, tags and categories changes, or one of those excepted. -/
theorem ne_of_not_ofEntities {ref ref' : IndexRef} (h : ref.OfEntities → ref ∈ except) (href' : ref'.OfEntities)
    (hnot : ref' ∉ except) : ref' ≠ ref := by
  rintro rfl
  exact hnot (h href')

variable (h : ref.OfEntities → ref ∈ except) (x : IdType) (s : EntityCollection)
include h

theorem indexInsert : LookupsKept except changing s (s.indexInsert ref x) :=
  .of_toStore rfl rfl fun _ href' hnot => .indexInsert (ne_of_not_ofEntities h href' hnot) x s

theorem indexInsertRange (xs : List IdType) : LookupsKept except changing s (s.indexInsertRange ref xs) :=
  .of_toStore rfl rfl fun _ href' hnot => .indexInsertRange (ne_of_not_ofEntities h href' hnot) xs s

theorem indexErase : LookupsKept except changing s (s.indexErase ref x) := by
  refine .of_toStore (toStore_indexErase s ref x) ?_ fun _ href' hnot =>
    .indexErase (ne_of_not_ofEntities h href' hnot) x s
  unfold EntityCollection.indexErase
  dsimp only
  split_ifs <;> rfl

theorem indexRebuild : LookupsKept except changing s (s.indexRebuild ref) :=
  .of_toStore rfl rfl fun _ href' hnot => .indexRebuild (ne_of_not_ofEntities h href' hnot) s

theorem prepareUpdate : LookupsKept except changing s (s.prepareUpdate ref x) :=
  unlessBatch (f := fun s => s.indexPrepareUpdate ref x) (fun s => .of_toStore rfl rfl fun _ href' hnot =>
    .indexPrepareUpdate (ne_of_not_ofEntities h href' hnot) x s) s

theorem finishUpdate : LookupsKept except changing s (s.finishUpdate ref x) := by
  refine unlessBatch (f := fun s => s.indexUpdate ref x) (fun s => .of_toStore (toStore_indexUpdate s ref x) ?_ fun _ href' hnot =>
    .indexUpdate (ne_of_not_ofEntities h href' hnot) x s) s
  unfold EntityCollection.indexUpdate
  split_ifs <;> rfl

end indexes

theorem onPrepareUpdateDiscussionThread (key : ThreadKey) (thread : IdType) (s : EntityCollection) :
    LookupsKept except changing s (s.onPrepareUpdateDiscussionThread key thread) := by
  refine .foldl (fun s c _ => ?_) (.refl _ _ s)
  split_ifs
  · exact .prepareUpdate (by rintro ⟨⟩) thread s
  · exact .refl _ _ s

theorem onUpdateDiscussionThread (key : ThreadKey) (thread : IdType) (s : EntityCollection) :
    LookupsKept except changing s (s.onUpdateDiscussionThread key thread) := by
  refine .foldl (fun s c _ => ?_) (.refl _ _ s)
  split_ifs
  · exact .finishUpdate (by rintro ⟨⟩) thread s
  · exact .refl _ _ s

end LookupsKept

/-! ### Updates of the store -/

/-- What the lookups and the indexes of users, tags and categories read. -/
structure LookupFields where
  batchInsertInProgress : Bool
  users : Finset IdType
  tags : Finset IdType
  categories : Finset IdType
  userThreads : IdType → Finset IdType
  userMessages : IdType → Finset IdType
  tagThreads : IdType → Finset IdType
  tagMessageCount : IdType → ℤ
  categoryMessageCount : IdType → ℤ
  categoryParent : IdType → Option IdType
  userName : IdType → NameType
  userAuth : IdType → String
  userCreated : IdType → Timestamp
  userLastSeen : IdType → Timestamp
  tagName : IdType → NameType
  categoryName : IdType → NameType
  categoryDisplayOrder : IdType → ℤ

/-- These fields of a store. -/
def Store.lookupFields (s : Store) : LookupFields where
  batchInsertInProgress := s.batchInsertInProgress
  users := s.users
  tags := s.tags
  categories := s.categories
  userThreads := s.userThreads
  userMessages := s.userMessages
  tagThreads := s.tagThreads
  tagMessageCount := s.tagMessageCount
  categoryMessageCount := s.categoryMessageCount
  categoryParent := s.categoryParent
  userName user := (s.user user).name
  userAuth user := (s.user user).auth
  userCreated user := (s.user user).created
  userLastSeen user := (s.user user).lastSeen
  tagName tag := (s.tag tag).name
  categoryName category := (s.category category).name
  categoryDisplayOrder category := (s.category category).displayOrder

variable {except : List IndexRef} {changing : List (IndexRef × IdType)} {s s' s'' : EntityCollection} {ref : IndexRef} {x : IdType}

/-- The unique keys are names and auth strings. -/
theorem Store.uniqueKey_congr {s s' : Store} (h : s'.lookupFields = s.lookupFields) : s'.uniqueKey = s.uniqueKey := by
  have hname := congrFun (congrArg LookupFields.userName h)
  have hauth := congrFun (congrArg LookupFields.userAuth h)
  have htag := congrFun (congrArg LookupFields.tagName h)
  have hcategory := congrFun (congrArg LookupFields.categoryName h)
  dsimp only [Store.lookupFields] at hname hauth htag hcategory
  funext ref x
  cases ref <;> simp [Store.uniqueKey, hname, hauth, htag, hcategory]

theorem Store.indexKey_congr {s s' : Store} (h : s'.lookupFields = s.lookupFields) (href : ref.OfEntities) :
    s'.indexKey ref = s.indexKey ref := by
  have hcreated := congrFun (congrArg LookupFields.userCreated h)
  have hlastSeen := congrFun (congrArg LookupFields.userLastSeen h)
  have hthreads := congrFun (congrArg LookupFields.userThreads h)
  have hmessages := congrFun (congrArg LookupFields.userMessages h)
  have htagThreads := congrFun (congrArg LookupFields.tagThreads h)
  have htagCount := congrFun (congrArg LookupFields.tagMessageCount h)
  have hcategoryCount := congrFun (congrArg LookupFields.categoryMessageCount h)
  have hparent := congrFun (congrArg LookupFields.categoryParent h)
  have horder := congrFun (congrArg LookupFields.categoryDisplayOrder h)
  dsimp only [Store.lookupFields] at *
  funext x
  cases ref with
  | users key => cases key <;> simp [Store.indexKey, *]
  | tags key => cases key <;> simp [Store.indexKey, *]
  | categories key => cases key <;> simp [Store.indexKey, Store.displayOrderWithRootPriority, *]
  | threads | messages | attachments | comments | privateMessages => exact href.elim

section views

variable {α : Type}

/-- A field that a change of a user leaves alone. -/
theorem modifyUser_view {user : IdType} {f : User → User} {g : User → α} (h : g (f (s.user user)) = g (s.user user))
    (u : IdType) : g ((s.modifyUser user f).user u) = g (s.user u) := by
  by_cases hu : u = user
  · subst hu
    simp [EntityCollection.modifyUser, h]
  · simp [EntityCollection.modifyUser, hu]

/-- A field that a change of a tag leaves alone. -/
theorem modifyTag_view {tag : IdType} {f : DiscussionTag → DiscussionTag} {g : DiscussionTag → α}
    (h : g (f (s.tag tag)) = g (s.tag tag)) (t : IdType) : g ((s.modifyTag tag f).tag t) = g (s.tag t) := by
  by_cases ht : t = tag
  · subst ht
    simp [EntityCollection.modifyTag, h]
  · simp [EntityCollection.modifyTag, ht]

/-- A field that a change of a category leaves alone. -/
theorem modifyCategory_view {category : IdType} {f : DiscussionCategory → DiscussionCategory}
    {g : DiscussionCategory → α} (h : g (f (s.category category)) = g (s.category category)) (c : IdType) :
    g ((s.modifyCategory category f).category c) = g (s.category c) := by
  by_cases hc : c = category
  · subst hc
    simp [EntityCollection.modifyCategory, h]
  · simp [EntityCollection.modifyCategory, hc]

end views

namespace LookupsKept

/-- Nothing the indexes read changes. -/
theorem of_lookupFields (hi : s'.toIndexes = s.toIndexes) (h : s'.lookupFields = s.lookupFields) :
    LookupsKept except changing s s' := by
  have husers : s'.users = s.users := congrArg LookupFields.users h
  have htags : s'.tags = s.tags := congrArg LookupFields.tags h
  have hcategories : s'.categories = s.categories := congrArg LookupFields.categories h
  refine ⟨⟨?_, fun ref x _ => by rw [Store.uniqueKey_congr h], by rw [hi]⟩, fun ref href _ =>
    ⟨congrArg LookupFields.batchInsertInProgress h, ?_, fun x _ _ => by rw [Store.indexKey_congr h href], .of_toIndexes hi⟩⟩
  · funext ref
    cases ref <;> assumption
  · cases ref with
    | users | tags | categories => assumption
    | threads | messages | attachments | comments | privateMessages => exact href.elim

theorem modifyThread (thread : IdType) (f : DiscussionThread → DiscussionThread) (s : EntityCollection) :
    LookupsKept except changing s (s.modifyThread thread f) := .of_lookupFields rfl rfl

theorem modifyMessage (message : IdType) (f : DiscussionThreadMessage → DiscussionThreadMessage)
    (s : EntityCollection) : LookupsKept except changing s (s.modifyMessage message f) := .of_lookupFields rfl rfl

/-- A user changes in fields other than those that are looked up or ordered by. -/
theorem modifyUser (user : IdType) (f : User → User) (s : EntityCollection)
    (hf : ∀ u, (f u).name = u.name ∧ (f u).auth = u.auth ∧ (f u).created = u.created ∧ (f u).lastSeen = u.lastSeen) :
    LookupsKept except changing s (s.modifyUser user f) := by
  obtain ⟨h₁, h₂, h₃, h₄⟩ := hf (s.user user)
  refine .of_lookupFields rfl ?_
  simp only [Store.lookupFields, modifyUser_view (g := User.name) h₁, modifyUser_view (g := User.auth) h₂,
    modifyUser_view (g := User.created) h₃, modifyUser_view (g := User.lastSeen) h₄]
  rfl

theorem modifyTag (tag : IdType) (f : DiscussionTag → DiscussionTag) (s : EntityCollection)
    (hf : ∀ t, (f t).name = t.name) : LookupsKept except changing s (s.modifyTag tag f) := by
  refine .of_lookupFields rfl ?_
  simp only [Store.lookupFields, modifyTag_view (g := DiscussionTag.name) (hf (s.tag tag))]
  rfl

theorem modifyCategory (category : IdType) (f : DiscussionCategory → DiscussionCategory) (s : EntityCollection)
    (hf : ∀ c, (f c).name = c.name ∧ (f c).displayOrder = c.displayOrder) :
    LookupsKept except changing s (s.modifyCategory category f) := by
  obtain ⟨h₁, h₂⟩ := hf (s.category category)
  refine .of_lookupFields rfl ?_
  simp only [Store.lookupFields, modifyCategory_view (g := DiscussionCategory.name) h₁,
    modifyCategory_view (g := DiscussionCategory.displayOrder) h₂]
  rfl

end LookupsKept

/-! ### Steps -/

/-- Nothing changes but one index, which stays sound. -/
structure LookupsSound (ref : IndexRef) (s s' : EntityCollection) : Prop where
  kept : LookupsKept [ref] [] s s'
  sound : IndexSound s ref → IndexSound s' ref

namespace LookupsSound

theorem refl (ref : IndexRef) (s : EntityCollection) : LookupsSound ref s s := ⟨.refl _ _ s, id⟩

theorem trans' (h' : LookupsSound ref s' s'') (h : LookupsSound ref s s') : LookupsSound ref s s'' :=
  ⟨h'.kept.trans' h.kept, fun hs => h'.sound (h.sound hs)⟩

theorem foldl {α : Type*} {f : EntityCollection → α → EntityCollection} {l : List α}
    (hf : ∀ s, ∀ x ∈ l, LookupsSound ref s (f s x)) (h : LookupsSound ref s s') : LookupsSound ref s (l.foldl f s') :=
  foldl_keeps h fun s' x hx h => (hf s' x hx).trans' h

theorem of_kept (hof : ref.OfEntities) (h : LookupsKept [] [] s s') : LookupsSound ref s s' :=
  ⟨h.mono (by simp) (by simp), fun hs => h.keeps_sound hof (by simp) hs⟩

/-- Looking up an element changes no index. -/
theorem prepareUpdate (ref : IndexRef) (x : IdType) (s : EntityCollection) :
    LookupsSound ref s (s.prepareUpdate ref x) := by
  refine ⟨.prepareUpdate (fun _ => List.mem_singleton_self ref) x s, fun hs => ?_⟩
  have hindex : (s.prepareUpdate ref x).index = s.index ∧ (s.prepareUpdate ref x).assertFailed = s.assertFailed := by
    unfold EntityCollection.prepareUpdate EntityCollection.unlessBatch
    split_ifs <;> exact ⟨rfl, rfl⟩
  refine ⟨fun hb => ?_, by rw [hindex.2]; exact hs.noFailure⟩
  rw [hindex.1, toStore_prepareUpdate]
  exact hs.exact' (by rwa [toStore_prepareUpdate] at hb)

/-- A change of one key between finding the element and replacing it. -/
theorem bracket (hof : ref.OfEntities) (h : LookupsKept [] [(ref, x)] (s.prepareUpdate ref x) s') :
    LookupsSound ref s (s'.finishUpdate ref x) := by
  have hmem := fun _ : ref.OfEntities => List.mem_singleton_self ref
  have hinner : LookupsKept [ref] [] (s.prepareUpdate ref x) s' := h.drop [ref] (by simp) (by simp)
  exact ⟨(LookupsKept.finishUpdate hmem x s').trans' (hinner.trans' (.prepareUpdate hmem x s)), fun hs =>
    (h.ref ref hof (by simp)).bracket hs fun y hy => by simpa using hy⟩

end LookupsSound

/-- An operation that neither adds nor removes a user, a tag or a category: the lookups are the same, and
the indexes that were sound are sound. The anonymous user is not among the users. -/
structure LookupsStep (s s' : EntityCollection) : Prop where
  unique : UniqueKept s s'
  created : RefKept (.users .created) (fun _ => False) s s'
  sound : 0 ∉ s.users → ∀ ref, ref.OfEntities → IndexSound s ref → IndexSound s' ref

namespace LookupsStep

theorem refl (s : EntityCollection) : LookupsStep s s := ⟨.refl s, .refl _ _ s, fun _ _ _ h => h⟩

theorem users (h : LookupsStep s s') : s'.users = s.users := congrFun h.unique.uniqueById .usersByName

theorem trans' (h' : LookupsStep s' s'') (h : LookupsStep s s') : LookupsStep s s'' where
  unique := h'.unique.trans' h.unique
  created := h'.created.trans' h.created
  sound hzero ref href hs := h'.sound (h.users ▸ hzero) ref href (h.sound hzero ref href hs)

theorem foldl {α : Type*} {f : EntityCollection → α → EntityCollection} {l : List α}
    (hf : ∀ s, ∀ x ∈ l, LookupsStep s (f s x)) (h : LookupsStep s s') : LookupsStep s (l.foldl f s') :=
  foldl_keeps h fun s' x hx h => (hf s' x hx).trans' h

/-- The indexes excepted are kept sound. -/
theorem of_kept (h : LookupsKept except [] s s') (hcreated : .users .created ∉ except)
    (hsound : ∀ ref ∈ except, ref.OfEntities → IndexSound s ref → IndexSound s' ref) : LookupsStep s s' where
  unique := h.unique
  created := (h.ref (.users .created) trivial hcreated).mono fun x hx => by cases hx
  sound _ ref href hs := by
    by_cases hmem : ref ∈ except
    · exact hsound ref hmem href hs
    · exact h.keeps_sound href hmem hs

theorem of_kept_nil (h : LookupsKept [] [] s s') : LookupsStep s s' :=
  of_kept h (by simp) (by simp)

/-- Only one index changes, and it stays sound. -/
theorem of_sound (href : ref ≠ .users .created) (h : LookupsSound ref s s') : LookupsStep s s' := by
  refine of_kept h.kept (by simpa using href.symm) fun ref' hmem _ hs => ?_
  obtain rfl : ref' = ref := by simpa using hmem
  exact h.sound hs

/-- A change of one key between finding the element and replacing it. -/
theorem bracket (href : ref ≠ .users .created) (hof : ref.OfEntities)
    (h : LookupsKept [] [(ref, x)] (s.prepareUpdate ref x) s') : LookupsStep s (s'.finishUpdate ref x) :=
  of_sound href (.bracket hof h)

/-- The counts of the anonymous user are in no index. -/
theorem of_changing_anonymous {key : UserKey} (hkey : key ≠ .created)
    (h : LookupsKept [] [(.users key, 0)] s s') : LookupsStep s s' where
  unique := h.unique
  created := (h.ref (.users .created) trivial (by simp)).mono fun x hx => by simp [hkey.symm] at hx
  sound hzero ref href hs := by
    refine (h.ref ref href (by simp)).sound hs fun x hx hmem => ?_
    obtain ⟨rfl, rfl⟩ : ref = .users key ∧ x = 0 := by simpa using hmem
    exact hzero hx

end LookupsStep

/-! ### Collections -/

/-- The key that the size of a thread collection is. -/
def ThreadCollectionRef.countKeys : ThreadCollectionRef → List (IndexRef × IdType)
  | .createdBy id => [(.users .threadCount, id)]
  | .tag id => [(.tags .threadCount, id)]
  | _ => []

/-- The key that the size of a message collection is. -/
def MessageCollectionRef.countKeys : MessageCollectionRef → List (IndexRef × IdType)
  | .createdBy id => [(.users .messageCount, id)]
  | _ => []

namespace LookupsKept

variable (s) (X : Finset IdType)

theorem setThreads (c : ThreadCollectionRef) :
    LookupsKept except c.countKeys s (s.setStore (s.setThreads X c)) := by
  cases c with
  | all | subscribedBy | category => exact .of_lookupFields rfl rfl
  | createdBy user =>
    refine ⟨⟨rfl, fun _ _ _ => rfl, rfl⟩, fun ref href _ => ⟨rfl, ?_, fun x _ hx => ?_, .of_toIndexes rfl⟩⟩
    · cases ref <;> first | rfl | exact href.elim
    · cases ref with
      | users key =>
        cases key with
        | threadCount =>
          have hne : x ≠ user := by simpa [ThreadCollectionRef.countKeys] using hx
          simp [Store.indexKey, Store.setThreads, EntityCollection.setStore, hne]
        | created | lastSeen | messageCount => rfl
      | tags key | categories key => cases key <;> rfl
      | threads | messages | attachments | comments | privateMessages => exact href.elim
  | tag tag =>
    refine ⟨⟨rfl, fun _ _ _ => rfl, rfl⟩, fun ref href _ => ⟨rfl, ?_, fun x _ hx => ?_, .of_toIndexes rfl⟩⟩
    · cases ref <;> first | rfl | exact href.elim
    · cases ref with
      | tags key =>
        cases key with
        | threadCount =>
          have hne : x ≠ tag := by simpa [ThreadCollectionRef.countKeys] using hx
          simp [Store.indexKey, Store.setThreads, EntityCollection.setStore, hne]
        | messageCount => rfl
      | users key | categories key => cases key <;> rfl
      | threads | messages | attachments | comments | privateMessages => exact href.elim

theorem setMessages (c : MessageCollectionRef) :
    LookupsKept except c.countKeys s (s.setStore (s.setMessages X c)) := by
  cases c with
  | all | ofThread => exact .of_lookupFields rfl rfl
  | createdBy user =>
    refine ⟨⟨rfl, fun _ _ _ => rfl, rfl⟩, fun ref href _ => ⟨rfl, ?_, fun x _ hx => ?_, .of_toIndexes rfl⟩⟩
    · cases ref <;> first | rfl | exact href.elim
    · match ref with
      | .users .created | .users .lastSeen | .users .threadCount | .tags .threadCount | .tags .messageCount
      | .categories .messageCount | .categories .displayOrderRootPriority => rfl
      | .users .messageCount =>
        have hne : x ≠ user := by simpa [MessageCollectionRef.countKeys] using hx
        simp [Store.indexKey, Store.setMessages, EntityCollection.setStore, hne]

variable {s} (x : IdType)

/-- Adding to or removing from a thread collection, between the announcements of the new size. -/
theorem changeThreads (c : ThreadCollectionRef) (op : EntityCollection → IndexRef → EntityCollection)
    (hop : ∀ s key, LookupsKept except c.countKeys s (op s (.threads c key))) (s : EntityCollection) :
    LookupsKept except c.countKeys s
      ((s.setStore (s.setThreads X c)).unlessBatch fun s => c.keys.foldl (fun s key => op s (.threads c key)) s) :=
  (unlessBatch (fun s => .foldl (fun s key _ => hop s key) (.refl _ _ s)) _).trans' (.setThreads s X c)

theorem commentsAdd (c : CommentCollectionRef) (s : EntityCollection) :
    LookupsKept except changing s (s.commentsAdd c x) := by
  unfold EntityCollection.commentsAdd
  split_ifs
  · exact .refl _ _ s
  · exact (indexInsert (by rintro ⟨⟩) _ _).trans' (of_lookupFields rfl (by cases c <;> rfl))

theorem commentsRemove (c : CommentCollectionRef) (s : EntityCollection) :
    LookupsKept except changing s (s.commentsRemove c x) := by
  unfold EntityCollection.commentsRemove
  split_ifs
  · exact (indexErase (by rintro ⟨⟩) _ _).trans' (of_lookupFields rfl (by cases c <;> rfl))
  · exact .refl _ _ s

theorem privateMessagesAdd (c : PrivateMessageCollectionRef) (s : EntityCollection) :
    LookupsKept except changing s (s.privateMessagesAdd c x) := by
  unfold EntityCollection.privateMessagesAdd
  split_ifs
  · exact .refl _ _ s
  · exact of_lookupFields rfl (by cases c <;> rfl)
  · exact (indexInsert (by rintro ⟨⟩) _ _).trans' (of_lookupFields rfl (by cases c <;> rfl))

theorem privateMessagesRemove (c : PrivateMessageCollectionRef) (s : EntityCollection) :
    LookupsKept except changing s (s.privateMessagesRemove c x) := by
  unfold EntityCollection.privateMessagesRemove
  split_ifs
  · exact of_lookupFields rfl (by cases c <;> rfl)
  · exact (indexErase (by rintro ⟨⟩) _ _).trans' (of_lookupFields rfl (by cases c <;> rfl))
  · exact .refl _ _ s

theorem setAttachmentsTotalSize (c : AttachmentCollectionRef) (size : ℤ) (s : EntityCollection) :
    LookupsKept except changing s (s.setStore (s.setAttachmentsTotalSize c size)) := .of_lookupFields rfl rfl

theorem attachmentsAdd (c : AttachmentCollectionRef) (s : EntityCollection) :
    LookupsKept except changing s (s.attachmentsAdd c x) := by
  unfold EntityCollection.attachmentsAdd
  split_ifs
  · exact .refl _ _ s
  · refine (setAttachmentsTotalSize c _ _).trans' (LookupsKept.trans' (unlessBatch (fun s => ?_) _)
      (of_lookupFields rfl (by cases c <;> rfl)))
    exact .foldl (fun s key _ => indexInsert (by rintro ⟨⟩) _ s) (.refl _ _ s)

theorem attachmentsRemove (c : AttachmentCollectionRef) (s : EntityCollection) :
    LookupsKept except changing s (s.attachmentsRemove c x) := by
  unfold EntityCollection.attachmentsRemove
  split_ifs
  · refine (setAttachmentsTotalSize c _ _).trans' (LookupsKept.trans' (unlessBatch (fun s => ?_) _)
      (of_lookupFields rfl (by cases c <;> rfl)))
    exact .foldl (fun s key _ => indexErase (by rintro ⟨⟩) _ s) (.refl _ _ s)
  · exact .refl _ _ s

theorem onPrepareUpdateAttachment (key : AttachmentKey) (s : EntityCollection) :
    LookupsKept except changing s (s.onPrepareUpdateAttachment key x) :=
  (prepareUpdate (by rintro ⟨⟩) x _).trans' (prepareUpdate (by rintro ⟨⟩) x s)

theorem onUpdateAttachment (key : AttachmentKey) (s : EntityCollection) :
    LookupsKept except changing s (s.onUpdateAttachment key x) :=
  (finishUpdate (by rintro ⟨⟩) x _).trans' (finishUpdate (by rintro ⟨⟩) x s)

/-- Threads of other collections than those created by a user: nobody is told of the new size. -/
theorem threadsAddRange {c : ThreadCollectionRef} (hc : ∀ user, c ≠ .createdBy user) (xs : List IdType)
    (s : EntityCollection) : LookupsKept except c.countKeys s (s.threadsAddRange c xs) := by
  unfold EntityCollection.threadsAddRange
  split_ifs
  · exact .refl _ _ s
  · have h := changeThreads (s.threads c ∪ xs.toFinset) c (fun s ref => s.indexInsertRange ref xs)
      (fun s key => (indexInsertRange (by rintro ⟨⟩) s xs : LookupsKept except _ s _)) s
    cases c with
    | createdBy user => exact absurd rfl (hc user)
    | all | subscribedBy | tag | category => exact h

theorem threadsRemove {c : ThreadCollectionRef} (hc : ∀ user, c ≠ .createdBy user) (s : EntityCollection) :
    LookupsKept except c.countKeys s (s.threadsRemove c x) := by
  have h := changeThreads ((s.threads c).erase x) c (fun s ref => s.indexErase ref x)
    (fun s key => (indexErase (by rintro ⟨⟩) x s : LookupsKept except _ s _)) s
  unfold EntityCollection.threadsRemove
  cases c with
  | createdBy user => exact absurd rfl (hc user)
  | all | subscribedBy | tag | category =>
    dsimp only [threadsPrepareCountChange, threadsFinishCountChange]
    split_ifs
    · exact h
    · exact .refl _ _ s

theorem messagesInsert (c : MessageCollectionRef) (s : EntityCollection) :
    LookupsKept except c.countKeys s (s.messagesInsert c x) := by
  unfold EntityCollection.messagesInsert
  split_ifs
  · exact .refl _ _ s
  · exact (unlessBatch (fun s => indexInsert (by rintro ⟨⟩) x s) _).trans' (.setMessages s _ c)

end LookupsKept

namespace LookupsStep

variable (x : IdType)

/-- The size of a thread collection changes between the announcements. -/
theorem threadsCountChange {c : ThreadCollectionRef} (hc : ∀ tag, c ≠ .tag tag)
    (h : LookupsKept [] c.countKeys (s.threadsPrepareCountChange c) s') :
    LookupsStep s (s'.threadsFinishCountChange c) := by
  cases c with
  | all | subscribedBy | category => exact of_kept_nil h
  | tag tag => exact absurd rfl (hc tag)
  | createdBy user =>
    dsimp only [threadsPrepareCountChange, threadsFinishCountChange] at h ⊢
    by_cases hu : user = 0
    · subst hu
      rw [if_pos rfl] at h ⊢
      exact of_changing_anonymous (by simp) h
    · rw [if_neg hu] at h ⊢
      exact bracket (by simp) trivial h

theorem threadsAdd {c : ThreadCollectionRef} (hc : ∀ tag, c ≠ .tag tag) (s : EntityCollection) :
    LookupsStep s (s.threadsAdd c x) := by
  unfold EntityCollection.threadsAdd
  split_ifs
  · exact refl s
  · exact threadsCountChange hc (.changeThreads _ c (fun s ref => s.indexInsert ref x)
      (fun s key => .indexInsert (by rintro ⟨⟩) x s) _)

theorem threadsRemove {c : ThreadCollectionRef} (hc : ∀ tag, c ≠ .tag tag) (s : EntityCollection) :
    LookupsStep s (s.threadsRemove c x) := by
  unfold EntityCollection.threadsRemove
  dsimp only
  split_ifs
  · exact threadsCountChange hc (.changeThreads _ c (fun s ref => s.indexErase ref x)
      (fun s key => .indexErase (by rintro ⟨⟩) x s) _)
  · exact threadsCountChange hc (.refl _ _ _)

/-- The size of a message collection changes between the announcements. -/
theorem messagesCountChange {c : MessageCollectionRef}
    (h : LookupsKept [] c.countKeys (s.messagesPrepareCountChange c) s') :
    LookupsStep s (s'.messagesCountChange c) := by
  cases c with
  | all => exact of_kept_nil h
  | ofThread thread =>
    have hprepare : LookupsKept [] [] s (s.onPrepareUpdateDiscussionThread .messageCount thread) :=
      .onPrepareUpdateDiscussionThread .messageCount thread s
    exact of_kept_nil ((LookupsKept.onUpdateDiscussionThread .messageCount thread s').trans' (h.trans' hprepare))
  | createdBy user =>
    dsimp only [messagesPrepareCountChange, EntityCollection.messagesCountChange] at h ⊢
    by_cases hu : user = 0
    · subst hu
      rw [if_pos rfl] at h ⊢
      exact of_changing_anonymous (by simp) h
    · rw [if_neg hu] at h ⊢
      exact bracket (by simp) trivial h

theorem messagesPrepareCountChange (c : MessageCollectionRef) (s : EntityCollection) :
    LookupsStep s (s.messagesPrepareCountChange c) := by
  cases c with
  | all => exact refl s
  | ofThread thread => exact of_kept_nil (.onPrepareUpdateDiscussionThread .messageCount thread s)
  | createdBy user =>
    dsimp only [EntityCollection.messagesPrepareCountChange]
    split_ifs
    · exact refl s
    · exact of_sound (by simp) (.prepareUpdate _ user s)

theorem messagesAdd (c : MessageCollectionRef) (s : EntityCollection) : LookupsStep s (s.messagesAdd c x) := by
  unfold EntityCollection.messagesAdd
  dsimp only
  split_ifs
  · exact messagesPrepareCountChange c s
  · exact messagesCountChange (.messagesInsert x c _)

theorem messagesAddAll (c : MessageCollectionRef) (messages : Finset IdType) (s : EntityCollection) :
    LookupsStep s (s.messagesAddAll c messages) :=
  messagesCountChange (.foldl (fun s m _ => .messagesInsert m c s) (.refl _ _ _))

theorem messagesRemove (c : MessageCollectionRef) (s : EntityCollection) : LookupsStep s (s.messagesRemove c x) := by
  unfold EntityCollection.messagesRemove
  dsimp only
  split_ifs
  · exact messagesCountChange ((LookupsKept.indexErase (by rintro ⟨⟩) x _).trans' (.setMessages _ _ c))
  · exact messagesPrepareCountChange c s

end LookupsStep

end Forum.Entities
