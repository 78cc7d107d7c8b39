import Forum.Entities.LookupSteps

/-!
# Adding and removing users, tags and categories

`LookupInvariant` is what the lookups and the indexes of the user, tag and category collections are
for. The operations that are a `LookupsStep` keep it. Here are the others: a user, a tag or a category
joins or leaves its collection, is renamed, or the indexes are rebuilt at the end of a batch insert.
-/

namespace Forum.Entities

open Forum.Library EntityCollection

variable {s s' : EntityCollection} {ref : IndexRef} {x : IdType}

/-- The names and auth strings of users, tags and categories are distinct and their lookups exact; so are
their indexes, the one of users by time of creation even during a batch insert. -/
structure LookupInvariant (s : EntityCollection) : Prop where
  unique : ∀ ref, UniqueIndexes (s.uniqueKey ref) (s.uniqueIndex ref) (s.uniqueById ref)
  created : Library.Indexes (s.indexKey (.users .created)) (s.index (.users .created)) s.users
  sound : ∀ ref, ref.OfEntities → IndexSound s ref

theorem LookupInvariant.empty : LookupInvariant .empty where
  unique ref := by cases ref <;> exact .empty _
  created := indexes_nil
  sound ref href := by
    refine ⟨fun _ => ?_, rfl⟩
    cases ref with
    | users | tags | categories => exact indexes_nil
    | threads | messages | attachments | comments | privateMessages => exact href.elim

theorem LookupsStep.invariant (hstep : LookupsStep s s') (hzero : 0 ∉ s.users) (h : LookupInvariant s) :
    LookupInvariant s' where
  unique ref := by
    rw [hstep.unique.uniqueById, hstep.unique.uniqueIndex]
    exact (h.unique ref).congr (hstep.unique.uniqueKey ref)
  created := by
    rw [hstep.created.index.index, hstep.users]
    exact h.created.congr fun x hx => hstep.created.indexKey x hx id
  sound ref href := hstep.sound hzero ref href (h.sound ref href)

/-! ### Unique indexes -/

theorem EntityCollection.findUnique_eq (s : EntityCollection) (ref : UniqueIndexRef) (k : IndexKey) :
    s.findUnique ref k = findKey (s.uniqueKey ref) k (s.uniqueIndex ref) := rfl

/-- An element with a new key joins a unique index. -/
theorem uniqueIndex_uniqueInsert (ref : UniqueIndexRef) {S : Finset IdType}
    (h : UniqueIndexes (s.uniqueKey ref) (s.uniqueIndex ref) S) (hx : ∀ y ∈ S, s.uniqueKey ref y ≠ s.uniqueKey ref x) :
    ∃ l, (s.uniqueInsert ref x).uniqueIndex = Function.update s.uniqueIndex ref l ∧
      UniqueIndexes (s.uniqueKey ref) l (insert x S) := by
  have hnew : ¬s.uniqueContains ref (s.uniqueKey ref x) := by
    intro hcontains
    obtain ⟨y, hy, hkey⟩ := h.findKey_lt_iff.1 (of_decide_eq_true hcontains)
    exact hx y hy hkey
  refine ⟨_, ?_, h.insertItem hx⟩
  unfold uniqueInsert
  rw [if_neg hnew]
  rfl

/-- Nothing but the element itself is inserted. -/
theorem mem_uniqueIndex_of_uniqueInsert {ref ref' : UniqueIndexRef} {y : IdType} (hy : y ≠ x)
    (h : y ∈ (s.uniqueInsert ref' x).uniqueIndex ref) : y ∈ s.uniqueIndex ref := by
  unfold uniqueInsert setUniqueIndex at h
  split_ifs at h
  · exact h
  · by_cases href : ref = ref'
    · subst href
      simpa [(perm_insertItem _ _ _).mem_iff, hy] using h
    · simpa [href] using h

/-- An element leaves a unique index. -/
theorem uniqueIndex_uniqueErase (ref : UniqueIndexRef) {S : Finset IdType}
    (h : UniqueIndexes (s.uniqueKey ref) (s.uniqueIndex ref) S) (hx : x ∈ S) :
    ∃ l, (s.uniqueErase ref x).uniqueIndex = Function.update s.uniqueIndex ref l ∧
      UniqueIndexes (s.uniqueKey ref) l (S.erase x) :=
  ⟨_, rfl, h.eraseIdx hx⟩

/-- An element whose key changes, found before the change and replaced after it. -/
theorem uniqueIndex_uniqueUpdate {ref : UniqueIndexRef} {S : Finset IdType}
    (h : UniqueIndexes (s.uniqueKey ref) (s.uniqueIndex ref) S) (hx : x ∈ S) (hindex : s'.uniqueIndex = s.uniqueIndex)
    (hit : s'.uniqueUpdateIt ref = s.findUnique ref (s.uniqueKey ref x))
    (hk : ∀ y ∈ S, y ≠ x → s'.uniqueKey ref y = s.uniqueKey ref y)
    (hnew : ∀ y ∈ S, y ≠ x → s'.uniqueKey ref y ≠ s'.uniqueKey ref x) :
    ∃ l, (s'.uniqueUpdate ref x).uniqueIndex = Function.update s.uniqueIndex ref l ∧
      UniqueIndexes (s'.uniqueKey ref) l S := by
  obtain ⟨hlt, hothers, hindexes⟩ := h.replace hx hk hnew
  refine ⟨_, ?_, hindexes⟩
  unfold uniqueUpdate
  dsimp only
  rw [hit, hindex, findUnique_eq, if_pos ⟨hlt, hothers⟩]
  simp only [setUniqueIndex, hindex]

/-! ### Visiting the indexes of a collection -/

theorem uniqueIndex_indexErase (s : EntityCollection) (ref : IndexRef) (x : IdType) :
    (s.indexErase ref x).uniqueIndex = s.uniqueIndex := by
  unfold indexErase
  dsimp only
  split_ifs <;> rfl

/-- Nothing but the user itself joins the unique indexes of users. -/
theorem mem_uniqueIndex_of_usersAdd {ref : UniqueIndexRef} {y : IdType} (hy : y ≠ x)
    (h : y ∈ (s.usersAdd x).uniqueIndex ref) : y ∈ s.uniqueIndex ref := by
  have hloop : ∀ s : EntityCollection, (s.unlessBatch fun s =>
      batchUserKeys.foldl (fun s key => s.indexInsert (.users key) x) s).uniqueIndex = s.uniqueIndex := by
    intro s
    unfold unlessBatch
    split_ifs
    · rfl
    · exact foldl_view (fun s : EntityCollection => s.uniqueIndex) fun _ _ _ => rfl
  unfold EntityCollection.usersAdd at h
  split at h
  next => exact h
  next =>
    let s₁ := s.setStore { s.toStore with users := insert x s.users }
    have h₂ : y ∈ ((s₁.uniqueInsert .usersByAuth x).uniqueInsert .usersByName x).uniqueIndex ref := by
      rw [hloop] at h
      exact h
    have h₁ : y ∈ s₁.uniqueIndex ref :=
      mem_uniqueIndex_of_uniqueInsert hy (mem_uniqueIndex_of_uniqueInsert hy h₂)
    exact h₁

section visit

variable {κ : Type} (refOf : κ → IndexRef) {keys : List κ} (op : EntityCollection → IndexRef → EntityCollection)

/-- Outside a batch insert each index of a collection is visited. The others are sound before, and these
become so. -/
theorem LookupInvariant.visit (hinj : Function.Injective refOf) (hn : keys.Nodup)
    (hstore : ∀ s ref, (op s ref).toStore = s.toStore) (huniqueIndex : ∀ s ref, (op s ref).uniqueIndex = s.uniqueIndex)
    (hother : ∀ s ref ref', ref' ≠ ref → IndexKept ref' s (op s ref))
    (hunique : ∀ ref, UniqueIndexes (s.uniqueKey ref) (s.uniqueIndex ref) (s.uniqueById ref))
    (hcreated : Library.Indexes (s.indexKey (.users .created)) (s.index (.users .created)) s.users)
    (hnot : ∀ k ∈ keys, .users .created ≠ refOf k)
    (hsound : ∀ ref, ref.OfEntities → (∀ k ∈ keys, ref ≠ refOf k) → IndexSound s ref)
    (hnoFailure : ∀ k ∈ keys, s.assertFailed (refOf k) = false)
    (hat : s.batchInsertInProgress = false → ∀ k ∈ keys, ∀ s', s'.toStore = s.toStore → IndexKept (refOf k) s s' →
      IndexSound (op s' (refOf k)) (refOf k)) :
    LookupInvariant (s.unlessBatch fun s => keys.foldl (fun s k => op s (refOf k)) s) := by
  have htoStore : (s.unlessBatch fun s => keys.foldl (fun s k => op s (refOf k)) s).toStore = s.toStore :=
    s.toStore_unlessBatch fun s => s.toStore_foldl fun s k _ => hstore s _
  have hkept : ∀ ref, (∀ k ∈ keys, ref ≠ refOf k) →
      IndexKept ref s (s.unlessBatch fun s => keys.foldl (fun s k => op s (refOf k)) s) := fun ref href =>
    .unlessBatch (fun s => .foldl (fun s k hk => hother s _ _ (href k hk)) (.refl ref s)) s
  have huniqueKept : (s.unlessBatch fun s => keys.foldl (fun s k => op s (refOf k)) s).uniqueIndex = s.uniqueIndex := by
    unfold unlessBatch
    split_ifs
    · rfl
    · exact foldl_view (fun s : EntityCollection => s.uniqueIndex) fun s k _ => huniqueIndex s _
  refine ⟨fun ref => ?_, ?_, fun ref href => ?_⟩
  · rw [htoStore, huniqueKept]
    exact hunique ref
  · rw [htoStore, (hkept _ hnot).index]
    exact hcreated
  · by_cases hvisited : ∀ k ∈ keys, ref ≠ refOf k
    · exact (hsound ref href hvisited).of_toStore (hkept ref hvisited) htoStore
    · push Not at hvisited
      obtain ⟨key, hkey, rfl⟩ := hvisited
      unfold unlessBatch
      split_ifs with hb
      · exact ⟨fun hb' => absurd (hb'.symm.trans hb) (by simp), hnoFailure key hkey⟩
      · refine foldl_at (P := fun s' => s'.toStore = s.toStore ∧ IndexKept (refOf key) s s')
          (Q := fun s' => IndexSound s' (refOf key)) hn hkey ⟨rfl, .refl _ s⟩ ?_ ?_ ?_
        · rintro s' k _ hne ⟨hs, hi⟩
          exact ⟨(hstore _ _).trans hs, (hother s' _ _ fun heq => hne (hinj heq).symm).trans' hi⟩
        · rintro s' ⟨hs, hi⟩
          exact hat (by simpa using hb) key hkey s' hs hi
        · intro s' k _ hne hs'
          exact hs'.of_toStore (hother s' _ _ fun heq => hne (hinj heq).symm) (hstore _ _)

end visit

namespace LookupInvariant

section collections

variable (op : EntityCollection → IndexRef → EntityCollection)
  (hstore : ∀ s ref, (op s ref).toStore = s.toStore) (huniqueIndex : ∀ s ref, (op s ref).uniqueIndex = s.uniqueIndex)
  (hother : ∀ s ref ref', ref' ≠ ref → IndexKept ref' s (op s ref))
include hstore huniqueIndex hother

/-- The way the tag collection changes: the set of tags and the index by name first, and outside a batch
insert each of the other indexes follows. -/
theorem changeTags (h : LookupInvariant s) {T : Finset IdType} {l : List IdType}
    (hs : s'.toStore = { s.toStore with tags := T }) (hi : ∀ ref, IndexKept ref s s')
    (hindex : s'.uniqueIndex = Function.update s.uniqueIndex .tagsByName l)
    (hunique : UniqueIndexes (s.uniqueKey .tagsByName) l T)
    (hat : ∀ (s'' : EntityCollection) key,
      Library.Indexes (s''.indexKey (.tags key)) (s''.index (.tags key)) s.tags → s''.tags = T →
        s''.assertFailed (.tags key) = false → IndexSound (op s'' (.tags key)) (.tags key)) :
    LookupInvariant (s'.unlessBatch fun s => batchTagKeys.foldl (fun s key => op s (.tags key)) s) := by
  have hkey : s'.indexKey = s.indexKey := by rw [hs]; rfl
  have huniqueKey : s'.uniqueKey = s.uniqueKey := by rw [hs]; rfl
  have hb : s'.batchInsertInProgress = s.batchInsertInProgress := by rw [hs]
  refine .visit IndexRef.tags op (fun _ _ h => by simpa using h) (by decide) hstore huniqueIndex hother (fun ref => ?_) ?_
    (by simp) (fun ref href hnot => ?_) (fun key _ => (hi _).assertFailed.trans (h.sound (.tags key) trivial).noFailure)
    fun hb' key _ s'' hs'' hi'' => ?_
  · rw [huniqueKey, hindex, hs]
    by_cases href : ref = .tagsByName
    · subst href
      rw [Function.update_self]
      exact hunique
    · rw [Function.update_of_ne href]
      cases ref <;> first | exact absurd rfl href | exact h.unique _
  · rw [hkey, (hi _).index, hs]
    exact h.created
  · refine (h.sound ref href).kept (hi ref) hb ?_ fun _ _ => by rw [hkey]
    rw [hs]
    cases ref with
    | tags key => exact absurd rfl (hnot key (by cases key <;> decide))
    | users | categories | threads | messages | attachments | comments | privateMessages => rfl
  · refine hat s'' key ?_ (by rw [hs'', hs]) (hi''.assertFailed.trans ((hi _).assertFailed.trans
      (h.sound (.tags key) trivial).noFailure))
    rw [hs'', hi''.index, (hi _).index, hkey]
    exact (h.sound (.tags key) trivial).exact' (hb ▸ hb')

/-- The category collection changes in the same way. -/
theorem changeCategories (h : LookupInvariant s) {T : Finset IdType} {l : List IdType}
    (hs : s'.toStore = { s.toStore with categories := T }) (hi : ∀ ref, IndexKept ref s s')
    (hindex : s'.uniqueIndex = Function.update s.uniqueIndex .categoriesByName l)
    (hunique : UniqueIndexes (s.uniqueKey .categoriesByName) l T)
    (hat : ∀ (s'' : EntityCollection) key,
      Library.Indexes (s''.indexKey (.categories key)) (s''.index (.categories key)) s.categories → s''.categories = T →
        s''.assertFailed (.categories key) = false → IndexSound (op s'' (.categories key)) (.categories key)) :
    LookupInvariant (s'.unlessBatch fun s => batchCategoryKeys.foldl (fun s key => op s (.categories key)) s) := by
  have hkey : s'.indexKey = s.indexKey := by rw [hs]; rfl
  have huniqueKey : s'.uniqueKey = s.uniqueKey := by rw [hs]; rfl
  have hb : s'.batchInsertInProgress = s.batchInsertInProgress := by rw [hs]
  refine .visit IndexRef.categories op (fun _ _ h => by simpa using h) (by decide) hstore huniqueIndex hother
    (fun ref => ?_) ?_ (by simp) (fun ref href hnot => ?_)
    (fun key _ => (hi _).assertFailed.trans (h.sound (.categories key) trivial).noFailure) fun hb' key _ s'' hs'' hi'' => ?_
  · rw [huniqueKey, hindex, hs]
    by_cases href : ref = .categoriesByName
    · subst href
      rw [Function.update_self]
      exact hunique
    · rw [Function.update_of_ne href]
      cases ref <;> first | exact absurd rfl href | exact h.unique _
  · rw [hkey, (hi _).index, hs]
    exact h.created
  · refine (h.sound ref href).kept (hi ref) hb ?_ fun _ _ => by rw [hkey]
    rw [hs]
    cases ref with
    | categories key => exact absurd rfl (hnot key (by cases key <;> decide))
    | users | tags | threads | messages | attachments | comments | privateMessages => rfl
  · refine hat s'' key ?_ (by rw [hs'', hs]) (hi''.assertFailed.trans ((hi _).assertFailed.trans
      (h.sound (.categories key) trivial).noFailure))
    rw [hs'', hi''.index, (hi _).index, hkey]
    exact (h.sound (.categories key) trivial).exact' (hb ▸ hb')

/-- The user collection has two unique indexes, and an index by time of creation that changes also
during a batch insert. -/
theorem changeUsers (h : LookupInvariant s) {T : Finset IdType} {l l' : List IdType}
    (hs : s'.toStore = { s.toStore with users := T }) (hi : ∀ ref, ref ≠ .users .created → IndexKept ref s s')
    (hindex : s'.uniqueIndex = Function.update (Function.update s.uniqueIndex .usersByAuth l) .usersByName l')
    (hauth : UniqueIndexes (s.uniqueKey .usersByAuth) l T) (hname : UniqueIndexes (s.uniqueKey .usersByName) l' T)
    (hcreated : Library.Indexes (s.indexKey (.users .created)) (s'.index (.users .created)) T)
    (hnoFailure : s'.assertFailed (.users .created) = false)
    (hat : ∀ (s'' : EntityCollection) key,
      Library.Indexes (s''.indexKey (.users key)) (s''.index (.users key)) s.users → s''.users = T →
        s''.assertFailed (.users key) = false → IndexSound (op s'' (.users key)) (.users key)) :
    LookupInvariant (s'.unlessBatch fun s => batchUserKeys.foldl (fun s key => op s (.users key)) s) := by
  have hkey : s'.indexKey = s.indexKey := by rw [hs]; rfl
  have huniqueKey : s'.uniqueKey = s.uniqueKey := by rw [hs]; rfl
  have hb : s'.batchInsertInProgress = s.batchInsertInProgress := by rw [hs]
  have hne : ∀ key ∈ batchUserKeys, IndexRef.users key ≠ .users .created := by simp [batchUserKeys]
  refine .visit IndexRef.users op (fun _ _ h => by simpa using h) (by decide) hstore huniqueIndex hother
    (fun ref => ?_) ?_ (fun key hk => (hne key hk).symm) (fun ref href hnot => ?_)
    (fun key hk => (hi _ (hne key hk)).assertFailed.trans (h.sound (.users key) trivial).noFailure)
    fun hb' key hk s'' hs'' hi'' => ?_
  · rw [huniqueKey, hindex, hs]
    cases ref with
    | usersByName => exact hname
    | usersByAuth => exact hauth
    | tagsByName | categoriesByName => exact h.unique _
  · rw [hkey, hs]
    exact hcreated
  · by_cases hc : ref = .users .created
    · subst hc
      refine ⟨fun _ => ?_, hnoFailure⟩
      rw [hkey, hs]
      exact hcreated
    · refine (h.sound ref href).kept (hi ref hc) hb ?_ fun _ _ => by rw [hkey]
      rw [hs]
      cases ref with
      | users key => exact absurd rfl (hnot key (by cases key <;> first | exact absurd rfl hc | decide))
      | tags | categories | threads | messages | attachments | comments | privateMessages => rfl
  · refine hat s'' key ?_ (by rw [hs'', hs]) (hi''.assertFailed.trans ((hi _ (hne key hk)).assertFailed.trans
      (h.sound (.users key) trivial).noFailure))
    rw [hs'', hi''.index, (hi _ (hne key hk)).index, hkey]
    exact (h.sound (.users key) trivial).exact' (hb ▸ hb')

end collections

/-- A tag with a new name joins the tags. -/
theorem tagsAdd (h : LookupInvariant s) {tag : IdType} (htag : tag ∉ s.tags)
    (hname : ∀ t ∈ s.tags, s.uniqueKey .tagsByName t ≠ s.uniqueKey .tagsByName tag) : LookupInvariant (s.tagsAdd tag) := by
  unfold EntityCollection.tagsAdd
  rw [if_neg htag]
  obtain ⟨l, hindex, hunique⟩ := uniqueIndex_uniqueInsert (s := s.setStore { s.toStore with tags := insert tag s.tags })
    .tagsByName (h.unique .tagsByName) hname
  exact h.changeTags (fun s ref => s.indexInsert ref tag) (fun _ _ => rfl) (fun _ _ => rfl)
    (fun s ref ref' hne => .indexInsert hne tag s) (toStore_uniqueInsert _ _ _)
    (fun ref => (IndexKept.uniqueInsert _ _ _).trans' (.of_toIndexes rfl)) hindex hunique fun s'' key hi hs hf =>
      indexSound_indexInsert hi htag hs hf

theorem tagsRemove (h : LookupInvariant s) (tag : IdType) : LookupInvariant (s.tagsRemove tag) := by
  unfold EntityCollection.tagsRemove
  split
  next htag =>
    obtain ⟨l, hindex, hunique⟩ := uniqueIndex_uniqueErase (s := s.setStore { s.toStore with tags := s.tags.erase tag })
      .tagsByName (h.unique .tagsByName) htag
    exact h.changeTags (fun s ref => s.indexErase ref tag) (fun s ref => toStore_indexErase s ref tag)
      (fun s ref => uniqueIndex_indexErase s ref tag) (fun s ref ref' hne => .indexErase hne tag s)
      (toStore_uniqueErase _ _ _) (fun ref => ⟨rfl, rfl, rfl⟩) hindex hunique fun s'' key hi hs hf =>
        indexSound_indexErase hi htag hs hf
  next => exact h

/-- A category with a new name joins the categories. -/
theorem categoriesAdd (h : LookupInvariant s) {category : IdType} (hcategory : category ∉ s.categories)
    (hname : ∀ c ∈ s.categories, s.uniqueKey .categoriesByName c ≠ s.uniqueKey .categoriesByName category) :
    LookupInvariant (s.categoriesAdd category) := by
  unfold EntityCollection.categoriesAdd
  rw [if_neg hcategory]
  obtain ⟨l, hindex, hunique⟩ := uniqueIndex_uniqueInsert
    (s := s.setStore { s.toStore with categories := insert category s.categories })
    .categoriesByName (h.unique .categoriesByName) hname
  exact h.changeCategories (fun s ref => s.indexInsert ref category) (fun _ _ => rfl) (fun _ _ => rfl)
    (fun s ref ref' hne => .indexInsert hne category s) (toStore_uniqueInsert _ _ _)
    (fun ref => (IndexKept.uniqueInsert _ _ _).trans' (.of_toIndexes rfl)) hindex hunique fun s'' key hi hs hf =>
      indexSound_indexInsert hi hcategory hs hf

theorem categoriesRemove (h : LookupInvariant s) (category : IdType) : LookupInvariant (s.categoriesRemove category) := by
  unfold EntityCollection.categoriesRemove
  split
  next hcategory =>
    obtain ⟨l, hindex, hunique⟩ := uniqueIndex_uniqueErase
      (s := s.setStore { s.toStore with categories := s.categories.erase category })
      .categoriesByName (h.unique .categoriesByName) hcategory
    exact h.changeCategories (fun s ref => s.indexErase ref category) (fun s ref => toStore_indexErase s ref category)
      (fun s ref => uniqueIndex_indexErase s ref category) (fun s ref ref' hne => .indexErase hne category s)
      (toStore_uniqueErase _ _ _) (fun ref => ⟨rfl, rfl, rfl⟩) hindex hunique fun s'' key hi hs hf =>
        indexSound_indexErase hi hcategory hs hf
  next => exact h

/-- A user with a new name and a new auth string joins the users. -/
theorem usersAdd (h : LookupInvariant s) {user : IdType} (huser : user ∉ s.users)
    (hauth : ∀ u ∈ s.users, s.uniqueKey .usersByAuth u ≠ s.uniqueKey .usersByAuth user)
    (hname : ∀ u ∈ s.users, s.uniqueKey .usersByName u ≠ s.uniqueKey .usersByName user) :
    LookupInvariant (s.usersAdd user) := by
  unfold EntityCollection.usersAdd
  rw [if_neg huser]
  let s₁ := s.setStore { s.toStore with users := insert user s.users }
  obtain ⟨l, hindex, hunique⟩ := uniqueIndex_uniqueInsert (s := s₁) .usersByAuth (h.unique .usersByAuth) hauth
  have hstore₂ : (s₁.uniqueInsert .usersByAuth user).toStore = s₁.toStore := toStore_uniqueInsert _ _ _
  have hname₂ : UniqueIndexes ((s₁.uniqueInsert .usersByAuth user).uniqueKey .usersByName)
      ((s₁.uniqueInsert .usersByAuth user).uniqueIndex .usersByName) s.users := by
    rw [hstore₂, hindex, Function.update_of_ne (by decide)]
    exact h.unique .usersByName
  obtain ⟨l', hindex', hunique'⟩ := uniqueIndex_uniqueInsert .usersByName hname₂ (by rw [hstore₂]; exact hname)
  rw [hstore₂] at hunique'
  rw [hindex] at hindex'
  change LookupInvariant (EntityCollection.unlessBatch
    (((s₁.uniqueInsert .usersByAuth user).uniqueInsert .usersByName user).indexInsert (.users .created) user) _)
  have hstore₃ : ((s₁.uniqueInsert .usersByAuth user).uniqueInsert .usersByName user).toStore = s₁.toStore :=
    (toStore_uniqueInsert _ _ _).trans hstore₂
  have hkept : ∀ ref, IndexKept ref s ((s₁.uniqueInsert .usersByAuth user).uniqueInsert .usersByName user) := fun ref =>
    (IndexKept.uniqueInsert _ _ _).trans' ((IndexKept.uniqueInsert _ _ s₁).trans' (.of_toIndexes rfl))
  generalize (s₁.uniqueInsert .usersByAuth user).uniqueInsert .usersByName user = s₃ at hindex' hstore₃ hkept ⊢
  have hcreated : (s₃.indexInsert (.users .created) user).index (.users .created) =
      insertItem (s.indexKey (.users .created)) user (s.index (.users .created)) := by
    rw [index_indexInsert, (hkept _).index, hstore₃]
    rfl
  exact h.changeUsers (fun s ref => s.indexInsert ref user) (fun _ _ => rfl) (fun _ _ => rfl)
    (fun s ref ref' hne => .indexInsert hne user s) hstore₃
    (fun ref href => (IndexKept.indexInsert href user s₃).trans' (hkept ref)) hindex' hunique hunique'
    (by rw [hcreated]; exact h.created.insertItem huser)
    ((hkept _).assertFailed.trans (h.sound (.users .created) trivial).noFailure) fun s'' key hi hs hf =>
      indexSound_indexInsert hi huser hs hf

theorem usersRemove (h : LookupInvariant s) (user : IdType) : LookupInvariant (s.usersRemove user) := by
  unfold EntityCollection.usersRemove
  split
  next huser =>
    let s₁ := s.setStore { s.toStore with users := s.users.erase user }
    obtain ⟨l, hindex, hunique⟩ := uniqueIndex_uniqueErase (s := s₁) .usersByAuth (h.unique .usersByAuth) huser
    have hname₂ : UniqueIndexes ((s₁.uniqueErase .usersByAuth user).uniqueKey .usersByName)
        ((s₁.uniqueErase .usersByAuth user).uniqueIndex .usersByName) s.users := by
      rw [hindex, Function.update_of_ne (by decide)]
      exact h.unique .usersByName
    obtain ⟨l', hindex', hunique'⟩ := uniqueIndex_uniqueErase .usersByName hname₂ huser
    rw [hindex] at hindex'
    change LookupInvariant (EntityCollection.unlessBatch
      (((s₁.uniqueErase .usersByAuth user).uniqueErase .usersByName user).indexErase (.users .created) user) _)
    have hstore₃ : ((s₁.uniqueErase .usersByAuth user).uniqueErase .usersByName user).toStore = s₁.toStore := rfl
    have hkept : ∀ ref, IndexKept ref s ((s₁.uniqueErase .usersByAuth user).uniqueErase .usersByName user) :=
      fun ref => ⟨rfl, rfl, rfl⟩
    generalize (s₁.uniqueErase .usersByAuth user).uniqueErase .usersByName user = s₃ at hindex' hstore₃ hkept ⊢
    have hprep := h.created.prepared huser
    -- the index by time of creation is erased from also during a batch insert, and finds the user
    have hlt : findInNonUnique (s.indexKey (.users .created)) user (s.indexKey (.users .created) user)
        (s.index (.users .created)) < (s.index (.users .created)).length :=
      (List.getElem?_eq_some_iff.1 hprep.at_it).1
    have hkey : s₃.indexKey = s.indexKey := by rw [hstore₃]; rfl
    have herase : s₃.indexErase (.users .created) user = s₃.setIndex (.users .created)
        ((s.index (.users .created)).eraseIdx (findInNonUnique (s.indexKey (.users .created)) user
          (s.indexKey (.users .created) user) (s.index (.users .created)))) := by
      unfold indexErase
      simp only [hkey, (hkept _).index]
      rw [if_pos hlt]
    have hindex₃ : (s₃.indexErase (.users .created) user).index (.users .created) =
        (s.index (.users .created)).eraseIdx (findInNonUnique (s.indexKey (.users .created)) user
          (s.indexKey (.users .created) user) (s.index (.users .created))) := by
      rw [herase, index_setIndex]
    refine h.changeUsers (fun s ref => s.indexErase ref user) (fun s ref => toStore_indexErase s ref user)
      (fun s ref => uniqueIndex_indexErase s ref user) (fun s ref ref' hne => .indexErase hne user s)
      ((toStore_indexErase s₃ _ user).trans hstore₃)
      (fun ref href => (IndexKept.indexErase href user s₃).trans' (hkept ref))
      ((uniqueIndex_indexErase s₃ _ user).trans hindex') hunique hunique' ?_ ?_ fun s'' key hi hs hf =>
        indexSound_indexErase hi huser hs hf
    · rw [hindex₃]
      exact hprep.eraseIdx
    · rw [herase]
      exact (hkept _).assertFailed.trans (h.sound (.users .created) trivial).noFailure
  next => exact h

end LookupInvariant

/-! ### Names -/

/-- One element of a unique index changes its key, found before the change and replaced after it; no other
element has the new key. -/
theorem LookupInvariant.rename (h : LookupInvariant s) {ref : UniqueIndexRef} (hx : x ∈ s.uniqueById ref)
    (hi : s'.toIndexes = (s.uniquePrepareUpdate ref x).toIndexes) (hbatch : s'.batchInsertInProgress = s.batchInsertInProgress)
    (hbyId : s'.uniqueById = s.uniqueById)
    (hindexKey : ∀ ref, ref.OfEntities → s'.byId ref = s.byId ref ∧ s'.indexKey ref = s.indexKey ref)
    (hkey : ∀ ref', ∀ y ∈ s.uniqueById ref', (ref', y) ≠ (ref, x) → s'.uniqueKey ref' y = s.uniqueKey ref' y)
    (hnew : ∀ y ∈ s.uniqueById ref, y ≠ x → s'.uniqueKey ref y ≠ s'.uniqueKey ref x) :
    LookupInvariant (s'.uniqueUpdate ref x) := by
  have hindex : s'.uniqueIndex = s.uniqueIndex := (congrArg Indexes.uniqueIndex hi :)
  have hit : s'.uniqueUpdateIt ref = s.findUnique ref (s.uniqueKey ref x) :=
    (congrFun (congrArg Indexes.uniqueUpdateIt hi) ref).trans (Function.update_self _ _ _)
  obtain ⟨l, hl, hunique⟩ := uniqueIndex_uniqueUpdate (h.unique ref) hx hindex hit
    (fun y hy hyx => hkey ref y hy (by simp [hyx])) hnew
  have hkept : ∀ ref', IndexKept ref' s (s'.uniqueUpdate ref x) := fun ref' =>
    (IndexKept.uniqueUpdate ref x s').trans' ((IndexKept.of_toIndexes hi).trans' ⟨rfl, rfl, rfl⟩)
  have hstore : (s'.uniqueUpdate ref x).toStore = s'.toStore := toStore_uniqueUpdate s' ref x
  refine ⟨fun ref' => ?_, ?_, fun ref' href => ?_⟩
  · rw [hstore, hbyId, hl]
    by_cases heq : ref' = ref
    · subst heq
      rwa [Function.update_self]
    · rw [Function.update_of_ne heq]
      exact (h.unique ref').congr fun y hy => hkey ref' y hy (by simp [heq])
  · obtain ⟨husers, hcreated⟩ := hindexKey (.users .created) trivial
    rw [hstore, (hkept _).index, hcreated, show s'.users = s.users from husers]
    exact h.created
  · obtain ⟨hbyId', hkey'⟩ := hindexKey ref' href
    refine (h.sound ref' href).kept (hkept ref') ?_ ?_ fun y _ => ?_ <;> rw [hstore]
    · exact hbatch
    · exact hbyId'
    · rw [hkey']

theorem DiscussionTag.lookupInvariant_updateName (h : LookupInvariant s) {tag : IdType} (htag : tag ∈ s.tags)
    {name : NameType} (hname : ∀ t ∈ s.tags, t ≠ tag → s.uniqueKey .tagsByName t ≠ .text name) :
    LookupInvariant (DiscussionTag.updateName tag s name) := by
  refine h.rename htag rfl rfl rfl (fun ref href => ⟨?_, ?_⟩) (fun ref y _ hne => ?_) fun y hy hne => ?_
  · cases ref <;> rfl
  · cases ref with
    | users key | tags key | categories key => cases key <;> rfl
    | threads | messages | attachments | comments | privateMessages => exact href.elim
  · cases ref with
    | tagsByName =>
      have hy : y ≠ tag := by simpa using hne
      simp [Store.uniqueKey, modifyTag, uniquePrepareUpdate, hy]
    | usersByName | usersByAuth | categoriesByName => rfl
  · simpa [Store.uniqueKey, modifyTag, uniquePrepareUpdate, hne] using hname y hy hne

theorem DiscussionCategory.lookupInvariant_updateName (h : LookupInvariant s) {category : IdType}
    (hcategory : category ∈ s.categories) {name : NameType}
    (hname : ∀ c ∈ s.categories, c ≠ category → s.uniqueKey .categoriesByName c ≠ .text name) :
    LookupInvariant (DiscussionCategory.updateName category s name) := by
  refine h.rename hcategory rfl rfl rfl (fun ref href => ⟨?_, ?_⟩) (fun ref y _ hne => ?_) fun y hy hne => ?_
  · cases ref <;> rfl
  · match ref with
    | .users .created | .users .lastSeen | .users .threadCount | .users .messageCount | .tags .threadCount
    | .tags .messageCount | .categories .messageCount => rfl
    | .categories .displayOrderRootPriority =>
      funext c
      simp only [Store.indexKey, Store.displayOrderWithRootPriority]
      rw [modifyCategory_view (g := DiscussionCategory.displayOrder) rfl]
      rfl
  · cases ref with
    | categoriesByName =>
      have hy : y ≠ category := by simpa using hne
      simp [Store.uniqueKey, modifyCategory, uniquePrepareUpdate, hy]
    | usersByName | usersByAuth | tagsByName => rfl
  · simpa [Store.uniqueKey, modifyCategory, uniquePrepareUpdate, hne] using hname y hy hne

theorem User.lookupInvariant_updateName (h : LookupInvariant s) {user : IdType} (huser : user ∈ s.users) {name : NameType}
    (hname : ∀ u ∈ s.users, u ≠ user → s.uniqueKey .usersByName u ≠ .text name) :
    LookupInvariant (User.updateName user s name) := by
  refine h.rename huser rfl rfl rfl (fun ref href => ⟨?_, ?_⟩) (fun ref y _ hne => ?_) fun y hy hne => ?_
  · cases ref <;> rfl
  · match ref with
    | .users .threadCount | .users .messageCount | .tags .threadCount | .tags .messageCount
    | .categories .messageCount | .categories .displayOrderRootPriority => rfl
    | .users .created =>
      funext u
      simp only [Store.indexKey]
      rw [modifyUser_view (g := User.created) rfl]
      rfl
    | .users .lastSeen =>
      funext u
      simp only [Store.indexKey]
      rw [modifyUser_view (g := User.lastSeen) rfl]
      rfl
  · cases ref with
    | usersByName =>
      have hy : y ≠ user := by simpa using hne
      simp [Store.uniqueKey, modifyUser, uniquePrepareUpdate, hy]
    | usersByAuth =>
      simp only [Store.uniqueKey]
      rw [modifyUser_view (g := User.auth) rfl]
      rfl
    | tagsByName | categoriesByName => rfl
  · simpa [Store.uniqueKey, modifyUser, uniquePrepareUpdate, hne] using hname y hy hne

/-! ### Creating entities -/

/-- A new entity is none of the users, tags and categories there are. -/
theorem lookupsKept_construct {id : IdType} (hid : ∀ ref, id ∉ s.uniqueById ref) :
    LookupsKept [] [] s (s.construct id) := by
  have husers : ∀ x ∈ s.users, x ≠ id := fun x hx he => hid .usersByName (he ▸ hx)
  have htags : ∀ x ∈ s.tags, x ≠ id := fun x hx he => hid .tagsByName (he ▸ hx)
  have hcategories : ∀ x ∈ s.categories, x ≠ id := fun x hx he => hid .categoriesByName (he ▸ hx)
  refine ⟨⟨rfl, fun _ _ _ => rfl, rfl⟩, fun ref href _ => ⟨rfl, ?_, fun x hx _ => ?_, ?_⟩⟩
  · cases ref <;> first | rfl | exact href.elim
  · cases ref with
    | users key => cases key <;> simp [Store.indexKey, construct, Ownership.construct, husers x hx]
    | tags key => cases key <;> simp [Store.indexKey, construct, Placement.construct, Counters.construct, htags x hx]
    | categories key =>
      cases key <;> simp [Store.indexKey, Store.displayOrderWithRootPriority, construct, Placement.construct,
        Counters.construct, hcategories x hx]
    | threads | messages | attachments | comments | privateMessages => exact href.elim
  · cases ref with
    | users key | tags key | categories key => exact ⟨rfl, rfl, rfl⟩
    | threads | messages | attachments | comments | privateMessages => exact href.elim

/-- A user that is not among the users changes. -/
theorem LookupsKept.modifyUser_of_not_mem {user : IdType} (huser : user ∉ s.users) (f : User → User) :
    LookupsKept [] [] s (s.modifyUser user f) := by
  have hne : ∀ x ∈ s.users, x ≠ user := fun x hx he => huser (he ▸ hx)
  refine ⟨⟨rfl, fun ref x hx => ?_, rfl⟩, fun ref href _ => ⟨rfl, ?_, fun x hx _ => ?_, .of_toIndexes rfl⟩⟩
  · cases ref with
    | usersByName | usersByAuth => simp [Store.uniqueKey, EntityCollection.modifyUser, hne x hx]
    | tagsByName | categoriesByName => rfl
  · cases ref <;> rfl
  · cases ref with
    | users key =>
      cases key with
      | created | lastSeen => simp [Store.indexKey, EntityCollection.modifyUser, hne x hx]
      | threadCount | messageCount => rfl
    | tags key | categories key => cases key <;> rfl
    | threads | messages | attachments | comments | privateMessages => exact href.elim

/-- A tag that is not among the tags changes. -/
theorem LookupsKept.modifyTag_of_not_mem {tag : IdType} (htag : tag ∉ s.tags) (f : DiscussionTag → DiscussionTag) :
    LookupsKept [] [] s (s.modifyTag tag f) := by
  have hne : ∀ x ∈ s.tags, x ≠ tag := fun x hx he => htag (he ▸ hx)
  refine ⟨⟨rfl, fun ref x hx => ?_, rfl⟩, fun ref href _ => ⟨rfl, ?_, fun x hx _ => ?_, .of_toIndexes rfl⟩⟩
  · cases ref with
    | tagsByName => simp [Store.uniqueKey, EntityCollection.modifyTag, hne x hx]
    | usersByName | usersByAuth | categoriesByName => rfl
  · cases ref <;> rfl
  · cases ref with
    | users key | tags key | categories key => cases key <;> rfl
    | threads | messages | attachments | comments | privateMessages => exact href.elim

/-- A category that is not among the categories changes. -/
theorem LookupsKept.modifyCategory_of_not_mem {category : IdType} (hcategory : category ∉ s.categories)
    (f : DiscussionCategory → DiscussionCategory) : LookupsKept [] [] s (s.modifyCategory category f) := by
  have hne : ∀ x ∈ s.categories, x ≠ category := fun x hx he => hcategory (he ▸ hx)
  refine ⟨⟨rfl, fun ref x hx => ?_, rfl⟩, fun ref href _ => ⟨rfl, ?_, fun x hx _ => ?_, .of_toIndexes rfl⟩⟩
  · cases ref with
    | categoriesByName => simp [Store.uniqueKey, EntityCollection.modifyCategory, hne x hx]
    | usersByName | usersByAuth | tagsByName => rfl
  · cases ref <;> rfl
  · cases ref with
    | users key | tags key => cases key <;> rfl
    | categories key =>
      cases key with
      | messageCount => rfl
      | displayOrderRootPriority =>
        simp [Store.indexKey, Store.displayOrderWithRootPriority, EntityCollection.modifyCategory, hne x hx]
    | threads | messages | attachments | comments | privateMessages => exact href.elim

section create

variable {id : IdType} (hid : ∀ ref, id ∉ s.uniqueById ref)
include hid

theorem lookupsKept_createUser (name : NameType) (created : Timestamp) (details : VisitDetails) :
    LookupsKept [] [] s (s.createUser id name created details) :=
  (LookupsKept.modifyUser_of_not_mem (s := s.construct id) (hid .usersByName) _).trans' (lookupsKept_construct hid)

theorem lookupsKept_createDiscussionTag (name : NameType) (created : Timestamp) (details : VisitDetails) :
    LookupsKept [] [] s (s.createDiscussionTag id name created details) :=
  (LookupsKept.modifyTag_of_not_mem (s := s.construct id) (hid .tagsByName) _).trans' (lookupsKept_construct hid)

theorem lookupsKept_createDiscussionCategory (name : NameType) (created : Timestamp) (details : VisitDetails) :
    LookupsKept [] [] s (s.createDiscussionCategory id name created details) :=
  (LookupsKept.modifyCategory_of_not_mem (s := s.construct id) (hid .categoriesByName) _).trans' (lookupsKept_construct hid)

theorem lookupsKept_createDiscussionThread (user : IdType) (name : NameType) (created : Timestamp)
    (details : VisitDetails) (approved : Bool) :
    LookupsKept [] [] s (s.createDiscussionThread id user name created details approved) := by
  refine LookupsKept.trans' ?_ (lookupsKept_construct hid)
  exact .of_lookupFields rfl rfl

theorem lookupsKept_createDiscussionThreadMessage (user : IdType) (created : Timestamp) (details : VisitDetails)
    (approved : Bool) : LookupsKept [] [] s (s.createDiscussionThreadMessage id user created details approved) := by
  refine LookupsKept.trans' ?_ (lookupsKept_construct hid)
  exact .of_lookupFields rfl rfl

theorem lookupsKept_createMessageComment (message user : IdType) (created : Timestamp) (details : VisitDetails)
    (content : String) : LookupsKept [] [] s (s.createMessageComment id message user created details content) := by
  refine LookupsKept.trans' ?_ (lookupsKept_construct hid)
  exact .of_lookupFields rfl rfl

theorem lookupsKept_createPrivateMessage (source destination : IdType) (created : Timestamp) (details : VisitDetails)
    (content : String) : LookupsKept [] [] s (s.createPrivateMessage id source destination created details content) := by
  refine LookupsKept.trans' ?_ (lookupsKept_construct hid)
  exact .of_lookupFields rfl rfl

theorem lookupsKept_createAttachment (user : IdType) (created : Timestamp) (details : VisitDetails) (name : NameType)
    (size : ℕ) (approved : Bool) : LookupsKept [] [] s (s.createAttachment id user created details name size approved) := by
  refine LookupsKept.trans' ?_ (lookupsKept_construct hid)
  exact .of_lookupFields rfl rfl

end create

/-! ### Batch inserts -/

/-- The index lists the elements of its collection, also if a batch insert is in progress. -/
def IndexListed (s : EntityCollection) (ref : IndexRef) : Prop :=
  Library.Indexes (s.indexKey ref) (s.index ref) (s.byId ref) ∧ s.assertFailed ref = false

theorem RefKept.listed {P : IdType → Prop} (hk : RefKept ref P s s') (h : IndexListed s ref)
    (hP : ∀ x ∈ s.byId ref, ¬P x) : IndexListed s' ref := by
  refine ⟨?_, hk.index.assertFailed.trans h.2⟩
  rw [hk.index.index, hk.byId]
  exact h.1.congr fun x hx => hk.indexKey x hx (hP x hx)

theorem LookupsKept.listed {except : List IndexRef} (hk : LookupsKept except [] s s') (href : ref.OfEntities)
    (hnot : ref ∉ except) (h : IndexListed s ref) : IndexListed s' ref :=
  (hk.ref ref href hnot).listed h (by simp)

/-- Rebuilding indexes makes them exact. -/
theorem indexListed_rebuild {κ : Type} {refOf : κ → IndexRef} (hinj : Function.Injective refOf) {keys : List κ}
    (hn : keys.Nodup) {key : κ} (hkey : key ∈ keys) (hf : s.assertFailed (refOf key) = false) :
    IndexListed (keys.foldl (fun s key => s.indexRebuild (refOf key)) s) (refOf key) := by
  refine foldl_at (P := fun s : EntityCollection => s.assertFailed (refOf key) = false)
    (Q := fun s => IndexListed s (refOf key)) hn hkey hf (fun _ _ _ _ h => h) (fun s h => ?_) fun s k _ hne h => ?_
  · have hrebuild : IndexSound ((s.setStore { s.toStore with batchInsertInProgress := false }).indexRebuild (refOf key))
        (refOf key) := indexSound_indexRebuild h
    exact ⟨hrebuild.exact' rfl, h⟩
  · have hkept : RefKept (refOf key) (fun _ => False) s (s.indexRebuild (refOf k)) :=
      .of_toStore rfl (.indexRebuild (fun heq => hne (hinj heq).symm) s)
    exact hkept.listed h fun _ _ => id

theorem lookupsKept_messagesStopBatchInsert (c : MessageCollectionRef) (s : EntityCollection) :
    LookupsKept [] [] s (s.messagesStopBatchInsert c) := by
  unfold messagesStopBatchInsert
  split_ifs
  · exact .indexRebuild (by rintro ⟨⟩) s
  · exact .refl _ _ s

theorem lookupsKept_threadsStopBatchInsert (c : ThreadCollectionRef) (s : EntityCollection) :
    LookupsKept [] [] s (s.threadsStopBatchInsert c) := by
  unfold threadsStopBatchInsert
  split_ifs
  · exact .foldl (fun s _ _ => .indexRebuild (by rintro ⟨⟩) s) (.refl _ _ s)
  · exact .refl _ _ s

theorem lookupsKept_attachmentsStopBatchInsert (c : AttachmentCollectionRef) (s : EntityCollection) :
    LookupsKept [] [] s (s.attachmentsStopBatchInsert c) := by
  unfold attachmentsStopBatchInsert
  split_ifs
  · exact .foldl (fun s _ _ => .indexRebuild (by rintro ⟨⟩) s) (.refl _ _ s)
  · exact .refl _ _ s

theorem lookupsKept_usersStopBatchInsert (s : EntityCollection) :
    LookupsKept (batchUserKeys.map .users) [] s s.usersStopBatchInsert := by
  unfold usersStopBatchInsert
  split_ifs
  · exact .foldl (fun s _ hkey => .indexRebuild (fun _ => List.mem_map_of_mem hkey) s) (.refl _ _ s)
  · exact .refl _ _ s

theorem lookupsKept_tagsStopBatchInsert (s : EntityCollection) :
    LookupsKept (batchTagKeys.map .tags) [] s s.tagsStopBatchInsert := by
  unfold tagsStopBatchInsert
  split_ifs
  · exact .foldl (fun s _ hkey => .indexRebuild (fun _ => List.mem_map_of_mem hkey) s) (.refl _ _ s)
  · exact .refl _ _ s

theorem lookupsKept_categoriesStopBatchInsert (s : EntityCollection) :
    LookupsKept (batchCategoryKeys.map .categories) [] s s.categoriesStopBatchInsert := by
  unfold categoriesStopBatchInsert
  split_ifs
  · exact .foldl (fun s _ hkey => .indexRebuild (fun _ => List.mem_map_of_mem hkey) s) (.refl _ _ s)
  · exact .refl _ _ s

/-- The end of a batch insert rebuilds an index, and outside a batch insert it is exact. -/
theorem indexListed_stop {κ : Type} {refOf : κ → IndexRef} (hinj : Function.Injective refOf) {keys : List κ}
    (hn : keys.Nodup) {key : κ} (hkey : key ∈ keys) (h : IndexSound s (refOf key)) :
    IndexListed (if s.batchInsertInProgress then keys.foldl (fun s key => s.indexRebuild (refOf key)) s else s)
      (refOf key) := by
  split_ifs with hb
  · exact indexListed_rebuild hinj hn hkey h.noFailure
  · exact ⟨h.exact' (by simpa using hb), h.noFailure⟩

/-- When a batch insert stops, the indexes of users, tags and categories are rebuilt. -/
theorem LookupInvariant.stopBatchInsert (h : LookupInvariant s) : LookupInvariant s.stopBatchInsert := by
  unfold EntityCollection.stopBatchInsert
  extract_lets s₁ s₂ s₃ s₄ s₅ s₆ s₇ s₈ s₉ s₁₀ s₁₁ s₁₂ s₁₃
  have hs₁ : LookupsKept (batchUserKeys.map .users) [] s s₁ := lookupsKept_usersStopBatchInsert s
  have hs₁₀ : LookupsKept [] [] s₁ s₁₀ := by
    refine (lookupsKept_messagesStopBatchInsert .all s₉).trans' ((lookupsKept_threadsStopBatchInsert .all s₈).trans' ?_)
    refine LookupsKept.foldl (fun s _ _ => lookupsKept_threadsStopBatchInsert _ s) ?_
    refine LookupsKept.foldl (fun s _ _ => lookupsKept_threadsStopBatchInsert _ s) ?_
    refine LookupsKept.foldl (fun s _ _ => lookupsKept_attachmentsStopBatchInsert _ s) ?_
    refine LookupsKept.foldl (fun s _ _ => lookupsKept_threadsStopBatchInsert _ s) ?_
    refine LookupsKept.foldl (fun s _ _ => lookupsKept_threadsStopBatchInsert _ s) ?_
    refine LookupsKept.foldl (fun s _ _ => lookupsKept_messagesStopBatchInsert _ s) ?_
    exact .foldl (fun s _ _ => lookupsKept_messagesStopBatchInsert _ s) (.refl _ _ s₁)
  have hs₁₁ : LookupsKept (batchTagKeys.map .tags) [] s₁₀ s₁₁ := lookupsKept_tagsStopBatchInsert s₁₀
  have hs₁₂ : LookupsKept (batchCategoryKeys.map .categories) [] s₁₁ s₁₂ := lookupsKept_categoriesStopBatchInsert s₁₁
  have hs₁₃ : LookupsKept [] [] s₁₂ s₁₃ := lookupsKept_attachmentsStopBatchInsert .all s₁₂
  -- the indexes of users, once exact, stay so
  have hafter : ∀ key, IndexListed s₁ (.users key) → IndexListed s₁₃ (.users key) := fun key h₁ =>
    hs₁₃.listed trivial (by simp) (hs₁₂.listed trivial (by simp) (hs₁₁.listed trivial (by simp)
      (hs₁₀.listed trivial (by simp) h₁)))
  have husers : ∀ key ∈ batchUserKeys, IndexListed s₁₃ (.users key) := fun key hkey =>
    hafter key (indexListed_stop (fun _ _ h => by simpa using h) (by decide) hkey (h.sound (.users key) trivial))
  have hcreated : IndexListed s₁₃ (.users .created) := hafter .created
    (hs₁.listed trivial (by decide) ⟨h.created, (h.sound (.users .created) trivial).noFailure⟩)
  have htags : ∀ key, IndexListed s₁₃ (.tags key) := by
    intro key
    have h₁₀ : IndexSound s₁₀ (.tags key) := hs₁₀.keeps_sound trivial (by simp)
      (hs₁.keeps_sound trivial (by simp) (h.sound (.tags key) trivial))
    have h₁₁ : IndexListed s₁₁ (.tags key) :=
      indexListed_stop (fun _ _ h => by simpa using h) (by decide) (by cases key <;> decide) h₁₀
    exact hs₁₃.listed trivial (by simp) (hs₁₂.listed trivial (by simp) h₁₁)
  have hcategories : ∀ key, IndexListed s₁₃ (.categories key) := by
    intro key
    have h₁₁ : IndexSound s₁₁ (.categories key) := hs₁₁.keeps_sound trivial (by simp) (hs₁₀.keeps_sound trivial (by simp)
      (hs₁.keeps_sound trivial (by simp) (h.sound (.categories key) trivial)))
    have h₁₂ : IndexListed s₁₂ (.categories key) :=
      indexListed_stop (fun _ _ h => by simpa using h) (by decide) (by cases key <;> decide) h₁₁
    exact hs₁₃.listed trivial (by simp) h₁₂
  have hunique : UniqueKept s s₁₃ := hs₁₃.unique.trans' (hs₁₂.unique.trans' (hs₁₁.unique.trans'
    (hs₁₀.unique.trans' hs₁.unique)))
  clear_value s₁₃
  refine ⟨fun ref => ?_, hcreated.1, fun ref href => ?_⟩
  · have hkeys := (h.unique ref).congr (hunique.uniqueKey ref)
    rw [← hunique.uniqueIndex, ← hunique.uniqueById] at hkeys
    exact hkeys
  · match ref with
    | .users .created => exact ⟨fun _ => hcreated.1, hcreated.2⟩
    | .users .lastSeen => exact ⟨fun _ => (husers .lastSeen (by decide)).1, (husers .lastSeen (by decide)).2⟩
    | .users .threadCount => exact ⟨fun _ => (husers .threadCount (by decide)).1, (husers .threadCount (by decide)).2⟩
    | .users .messageCount =>
      exact ⟨fun _ => (husers .messageCount (by decide)).1, (husers .messageCount (by decide)).2⟩
    | .tags key => exact ⟨fun _ => (htags key).1, (htags key).2⟩
    | .categories key => exact ⟨fun _ => (hcategories key).1, (hcategories key).2⟩

/-- During a batch insert less is promised of the indexes. -/
theorem LookupInvariant.startBatchInsert (h : LookupInvariant s) : LookupInvariant s.startBatchInsert := by
  refine ⟨fun ref => ?_, h.created, fun ref href => ⟨fun hb => absurd hb (by simp [EntityCollection.startBatchInsert]),
    (h.sound ref href).noFailure⟩⟩
  have hunique := h.unique ref
  cases ref <;> exact hunique

end Forum.Entities
