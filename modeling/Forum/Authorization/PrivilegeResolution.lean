import Mathlib.Order.Interval.Set.Defs
import Forum.Authorization.GrantedPrivilegeStore
import Forum.Repository.CategoryHierarchy

/-!
# How privileges are resolved

What `isAllowed` is for. A question concerns an entity and the levels above it; the positive grants
of the user at these levels raise what it may do, the negative ones lower it, and the sum of the
greatest and the least of them is measured against the value required at the nearest level.

The sum is computed in 16 bits. With the values that requests may grant it falls out of their range only
when the positive part is below -768, which takes a negative default value for registered users; then a
negative grant may turn what was denied into what is allowed. Everything else holds always.
-/

namespace Forum.Authorization

open Forum.Library Forum.Entities Forum.Repository

/-! ### Levels -/

/-- The five collections of grants. -/
inductive PrivilegeCollection
  | discussionThreadMessage | discussionThread | discussionTag | discussionCategory | forumWide
  deriving DecidableEq

/-- Where a grant counts: on an entity of a kind, or forum wide, where the id is empty. -/
structure PrivilegeLevel where
  collection : PrivilegeCollection
  entityId : IdType

/-- Everyone may be granted something forum wide. -/
def PrivilegeLevel.forumWide : PrivilegeLevel := ⟨.forumWide, 0⟩

namespace GrantedPrivilegeStore

/-- The grants of a collection. -/
def entries (g : GrantedPrivilegeStore) : PrivilegeCollection → List PrivilegeEntry
  | .discussionThreadMessage => g.discussionThreadMessageSpecificPrivileges
  | .discussionThread => g.discussionThreadSpecificPrivileges
  | .discussionTag => g.discussionTagSpecificPrivileges
  | .discussionCategory => g.discussionCategorySpecificPrivileges
  | .forumWide => g.forumWideSpecificPrivileges

/-- Grant a privilege at a level. -/
def grant (g : GrantedPrivilegeStore) (userId : IdType) (value : PrivilegeValueIntType) (now expiresAt : Timestamp)
    (level : PrivilegeLevel) : GrantedPrivilegeStore :=
  match level.collection with
  | .discussionThreadMessage => g.grantDiscussionThreadMessagePrivilege userId level.entityId value now expiresAt
  | .discussionThread => g.grantDiscussionThreadPrivilege userId level.entityId value now expiresAt
  | .discussionTag => g.grantDiscussionTagPrivilege userId level.entityId value now expiresAt
  | .discussionCategory => g.grantDiscussionCategoryPrivilege userId level.entityId value now expiresAt
  | .forumWide => g.grantForumWidePrivilege userId level.entityId value now expiresAt

theorem entries_grant (g : GrantedPrivilegeStore) (userId : IdType) (value : PrivilegeValueIntType)
    (now expiresAt : Timestamp) (level : PrivilegeLevel) (collection : PrivilegeCollection) :
    (g.grant userId value now expiresAt level).entries collection =
      if collection = level.collection then
        grantPrivilege (g.entries collection) userId level.entityId value now expiresAt
      else g.entries collection := by
  obtain ⟨kind, id⟩ := level
  cases kind <;> cases collection <;> rfl

theorem defaultPositiveValue_grant (g : GrantedPrivilegeStore) (userId : IdType) (value : PrivilegeValueIntType)
    (now expiresAt : Timestamp) (level : PrivilegeLevel) (s : Store) (user : IdType) :
    (g.grant userId value now expiresAt level).defaultPositiveValue s user = g.defaultPositiveValue s user := by
  obtain ⟨kind, id⟩ := level
  cases kind <;> rfl

/-- The same grants in another order. -/
structure Rearranges (g g' : GrantedPrivilegeStore) : Prop where
  entries : ∀ collection, (g'.entries collection).Perm (g.entries collection)
  defaultPositiveValue : g'.defaultPositiveValue = g.defaultPositiveValue

end GrantedPrivilegeStore

/-- A parent of a category, the parent of that, and so on. -/
def IsAncestor (s : Store) (category ancestor : IdType) : Prop :=
  Relation.TransGen (fun child parent => s.categoryParent child = some parent) category ancestor

/-- The levels a question concerns. -/
inductive Concerns (s : Store) : PrivilegeQuery → PrivilegeLevel → Prop
  | message {message privilege} : Concerns s (.message message privilege) ⟨.discussionThreadMessage, message⟩
  | threadOfMessage {message privilege} :
      Concerns s (.message message privilege) ⟨.discussionThread, s.messageParentThread message⟩
  | tagOfMessage {message privilege tag} (h : tag ∈ s.threadTags (s.messageParentThread message)) :
      Concerns s (.message message privilege) ⟨.discussionTag, tag⟩
  | threadMessages {thread privilege} : Concerns s (.threadMessages thread privilege) ⟨.discussionThread, thread⟩
  | tagOfThreadMessages {thread privilege tag} (h : tag ∈ s.threadTags thread) :
      Concerns s (.threadMessages thread privilege) ⟨.discussionTag, tag⟩
  | tagMessages {tag privilege} : Concerns s (.tagMessages tag privilege) ⟨.discussionTag, tag⟩
  | thread {thread privilege} : Concerns s (.thread thread privilege) ⟨.discussionThread, thread⟩
  | tagOfThread {thread privilege tag} (h : tag ∈ s.threadTags thread) :
      Concerns s (.thread thread privilege) ⟨.discussionTag, tag⟩
  | tagThreads {tag privilege} : Concerns s (.tagThreads tag privilege) ⟨.discussionTag, tag⟩
  | tag {tag privilege} : Concerns s (.tag tag privilege) ⟨.discussionTag, tag⟩
  | category {category privilege} : Concerns s (.category category privilege) ⟨.discussionCategory, category⟩
  | ancestor {category privilege ancestor} (h : IsAncestor s category ancestor) :
      Concerns s (.category category privilege) ⟨.discussionCategory, ancestor⟩
  | forumWide {query} : Concerns s query .forumWide

/-! ### The resolved values -/

section

variable (g : GrantedPrivilegeStore) (r : RequiredPrivileges) (s : Store) (user : IdType) (now : Timestamp)

/-- The values of a user's unexpired grants at a level. The anonymous user has none. -/
def grantsAt (level : PrivilegeLevel) : Set PrivilegeValueIntType :=
  {value | user ≠ 0 ∧ ∃ entry ∈ g.entries level.collection, entry.userId = user ∧ entry.entityId = level.entityId ∧
    entry.expired now = false ∧ entry.privilegeValue = value}

/-- The values of a user's unexpired grants at the levels a question concerns. -/
def grants (query : PrivilegeQuery) : Set PrivilegeValueIntType :=
  {value | ∃ level, Concerns s query level ∧ value ∈ grantsAt g user now level}

/-- What a user has without any grant: nothing when it is anonymous. -/
def defaultLevel : PrivilegeValueIntType := if isAnonymousUserId user then 0 else g.defaultPositiveValue s user

/-- What a thread requires: its own value, or the greatest of its tags', or the one required forum wide
when it has no tags. -/
inductive RequiredOfThread (own : PrivilegeValueType) (tags : Finset IdType) (ofTag : IdType → PrivilegeValueType)
    (forumWide : PrivilegeValueType) : PrivilegeValueType → Prop
  | own {value : PrivilegeValueIntType} (h : own = some value) : RequiredOfThread own tags ofTag forumWide (some value)
  | tags {value : PrivilegeValueType} (h : own = none) (htags : tags.Nonempty)
      (hvalue : GreatestOf value {v | ∃ tag ∈ tags, ofTag tag = some v}) :
      RequiredOfThread own tags ofTag forumWide value
  | forumWide (h : own = none) (htags : tags = ∅) : RequiredOfThread own tags ofTag forumWide forumWide

/-- What a thread requires for a privilege over its messages. -/
def MessagesRequire (thread : IdType) (privilege : DiscussionThreadMessagePrivilege) : PrivilegeValueType → Prop :=
  RequiredOfThread ((r.thread thread).discussionThreadMessagePrivileges privilege) (s.threadTags thread)
    (fun tag => ((r.tag tag).discussionThreadMessagePrivileges privilege).or
      (r.forumWide.discussionThreadMessagePrivileges privilege))
    (r.forumWide.discussionThreadMessagePrivileges privilege)

/-- What a thread requires for a privilege over itself. -/
def ThreadRequires (thread : IdType) (privilege : DiscussionThreadPrivilege) : PrivilegeValueType → Prop :=
  RequiredOfThread ((r.thread thread).discussionThreadPrivileges privilege) (s.threadTags thread)
    (fun tag => ((r.tag tag).discussionThreadPrivileges privilege).or (r.forumWide.discussionThreadPrivileges privilege))
    (r.forumWide.discussionThreadPrivileges privilege)

/-- The value required at the nearest level that sets one. -/
def Requires : PrivilegeQuery → PrivilegeValueType → Prop
  | .message message privilege, value =>
    (∀ own, (r.message message).discussionThreadMessagePrivileges privilege = some own → value = some own) ∧
      ((r.message message).discussionThreadMessagePrivileges privilege = none →
        MessagesRequire r s (s.messageParentThread message) privilege value)
  | .threadMessages thread privilege, value => MessagesRequire r s thread privilege value
  | .tagMessages tag privilege, value =>
    value = ((r.tag tag).discussionThreadMessagePrivileges privilege).or
      (r.forumWide.discussionThreadMessagePrivileges privilege)
  | .thread thread privilege, value => ThreadRequires r s thread privilege value
  | .tagThreads tag privilege, value =>
    value = ((r.tag tag).discussionThreadPrivileges privilege).or (r.forumWide.discussionThreadPrivileges privilege)
  | .tag tag privilege, value =>
    value = ((r.tag tag).discussionTagPrivileges privilege).or (r.forumWide.discussionTagPrivileges privilege)
  | .category category privilege, value =>
    value = ((r.category category).discussionCategoryPrivileges privilege).or
      (r.forumWide.discussionCategoryPrivileges privilege)
  | .forumWideMessages privilege, value => value = r.forumWide.discussionThreadMessagePrivileges privilege
  | .forumWideThreads privilege, value => value = r.forumWide.discussionThreadPrivileges privilege
  | .forumWideTags privilege, value => value = r.forumWide.discussionTagPrivileges privilege
  | .forumWideCategories privilege, value => value = r.forumWide.discussionCategoryPrivileges privilege
  | .forumWide privilege, value => value = r.forumWide.forumWidePrivileges privilege

/-- The three values a question is decided by. Missing parts count as zero. -/
structure ResolvesTo (query : PrivilegeQuery) (positive negative required : PrivilegeValueIntType) : Prop where
  /-- The greatest of the default level and the positive grants. -/
  positive : IsGreatest (insert (defaultLevel g s user) (grants g s user now query ∩ Set.Ioi 0)) positive
  /-- The least of the negative grants. -/
  negative : IsLeast (insert 0 (grants g s user now query ∩ Set.Iio 0)) negative
  /-- The required value. -/
  required : ∃ value, Requires r s query value ∧ optionalOrZero value = required

end

/-! ### What is found -/

/-- The values of the unexpired grants in a list. -/
def valuesOf (now : Timestamp) (entries : List PrivilegeEntry) : Set PrivilegeValueIntType :=
  {value | ∃ entry ∈ entries, entry.expired now = false ∧ entry.privilegeValue = value}

theorem valuesOf_cons (now : Timestamp) (entry : PrivilegeEntry) (entries : List PrivilegeEntry) :
    valuesOf now (entry :: entries) =
      if entry.expired now then valuesOf now entries else insert entry.privilegeValue (valuesOf now entries) := by
  ext value
  split_ifs with h
  · simp [valuesOf, h]
  · simp [valuesOf, h, eq_comm (a := value)]

/-- The values found are the extrema of these sets. -/
structure Found (values : PrivilegeValues) (positives negatives : Set PrivilegeValueIntType) : Prop where
  positive : GreatestOf values.positiveValue positives
  negative : LeastOf values.negativeValue negatives

section

variable {g : GrantedPrivilegeStore} {r : RequiredPrivileges} {s : Store} {user : IdType} {now : Timestamp}
  {values : PrivilegeValues} {positives negatives : Set PrivilegeValueIntType}

theorem Found.nothing : Found {} ∅ ∅ := ⟨.missing, .missing⟩

theorem Found.insertPositive (h : Found values positives negatives) (value : PrivilegeValueIntType) :
    Found { values with positiveValue := maximumPrivilegeValue values.positiveValue (some value) }
      (insert value positives) negatives :=
  ⟨h.positive.insert value, h.negative⟩

theorem Found.foldl_takeEntry (h : Found values positives negatives) (entries : List PrivilegeEntry) :
    Found (entries.foldl (PrivilegeValues.takeEntry now) values) (positives ∪ valuesOf now entries ∩ Set.Ioi 0)
      (negatives ∪ valuesOf now entries ∩ Set.Iio 0) := by
  induction entries generalizing values positives negatives with
  | nil => simpa [valuesOf] using h
  | cons entry entries ih =>
    rw [List.foldl_cons, valuesOf_cons, PrivilegeValues.takeEntry]
    split_ifs with hexpired hlt
    · exact ih h
    · have hpositive : entry.privilegeValue ∈ Set.Ioi 0 := hlt
      have hnonneg : entry.privilegeValue ∉ Set.Iio 0 := not_lt_of_gt hlt
      rw [Set.insert_inter_of_mem hpositive, Set.insert_inter_of_notMem hnonneg, Set.union_insert, ← Set.insert_union]
      exact ih (h.insertPositive _)
    · have hpositive : entry.privilegeValue ∉ Set.Ioi 0 := hlt
      have hnegative : entry.privilegeValue ∈ Set.Iio 0 := lt_of_le_of_ne (not_lt.1 hlt) entry.privilegeValue_ne
      rw [Set.insert_inter_of_notMem hpositive, Set.insert_inter_of_mem hnegative, Set.union_insert, ← Set.insert_union]
      exact ih ⟨h.positive, h.negative.insert _⟩

/-- `calculatePrivilege` at a level. -/
def GrantedPrivilegeStore.calculateLevel (g : GrantedPrivilegeStore) (s : Store) (user : IdType) (now : Timestamp)
    (values : PrivilegeValues) (level : PrivilegeLevel) : PrivilegeValues :=
  g.calculatePrivilege s user now (g.entries level.collection) level.entityId values

theorem grantsAt_anonymous (h : isAnonymousUserId user) (level : PrivilegeLevel) : grantsAt g user now level = ∅ := by
  have hzero : user = 0 := by simpa [isAnonymousUserId] using h
  simp [grantsAt, hzero]

theorem grantsAt_registered (h : ¬isAnonymousUserId user) (level : PrivilegeLevel) :
    grantsAt g user now level = valuesOf now ((g.entries level.collection).filter fun entry =>
      entry.userId = user ∧ entry.entityId = level.entityId) := by
  have hzero : user ≠ 0 := by simpa [isAnonymousUserId] using h
  ext value
  simp only [grantsAt, valuesOf, Set.mem_ofPred_eq, List.mem_filter, decide_eq_true_eq, and_assoc, hzero, ne_eq,
    not_false_eq_true, true_and]

variable (g s user now) in
/-- At every level the default level and the grants of that level are found. -/
theorem Found.calculateLevel (h : Found values positives negatives) (level : PrivilegeLevel) :
    Found (g.calculateLevel s user now values level)
      (insert (defaultLevel g s user) positives ∪ grantsAt g user now level ∩ Set.Ioi 0)
      (negatives ∪ grantsAt g user now level ∩ Set.Iio 0) := by
  unfold GrantedPrivilegeStore.calculateLevel GrantedPrivilegeStore.calculatePrivilege defaultLevel
  by_cases hanonymous : isAnonymousUserId user
  · rw [if_pos hanonymous, if_pos hanonymous, grantsAt_anonymous hanonymous, Set.empty_inter, Set.empty_inter,
      Set.union_empty, Set.union_empty]
    exact h.insertPositive 0
  · rw [if_neg hanonymous, if_neg hanonymous, grantsAt_registered hanonymous]
    exact (h.insertPositive _).foldl_takeEntry _

/-- The values of a user's unexpired grants at some levels. -/
def grantsAtLevels (g : GrantedPrivilegeStore) (user : IdType) (now : Timestamp) (levels : List PrivilegeLevel) :
    Set PrivilegeValueIntType :=
  {value | ∃ level ∈ levels, value ∈ grantsAt g user now level}

theorem grantsAtLevels_cons (level : PrivilegeLevel) (levels : List PrivilegeLevel) :
    grantsAtLevels g user now (level :: levels) = grantsAt g user now level ∪ grantsAtLevels g user now levels := by
  ext value
  simp [grantsAtLevels]

theorem Found.foldl_calculateLevel (h : Found values positives negatives) (hdefault : defaultLevel g s user ∈ positives)
    (levels : List PrivilegeLevel) :
    Found (levels.foldl (g.calculateLevel s user now) values)
      (positives ∪ grantsAtLevels g user now levels ∩ Set.Ioi 0)
      (negatives ∪ grantsAtLevels g user now levels ∩ Set.Iio 0) := by
  induction levels generalizing values positives negatives with
  | nil => simpa [grantsAtLevels] using h
  | cons level levels ih =>
    have hlevel := h.calculateLevel g s user now level
    rw [Set.insert_eq_of_mem hdefault] at hlevel
    rw [List.foldl_cons, grantsAtLevels_cons, Set.union_inter_distrib_right, Set.union_inter_distrib_right,
      ← Set.union_assoc, ← Set.union_assoc]
    exact ih hlevel (.inl hdefault)

variable (g s user now) in
/-- What is found at one level and further ones. -/
theorem found_levels (level : PrivilegeLevel) (levels : List PrivilegeLevel) :
    Found ((level :: levels).foldl (g.calculateLevel s user now) {})
      (insert (defaultLevel g s user) (grantsAtLevels g user now (level :: levels) ∩ Set.Ioi 0))
      (grantsAtLevels g user now (level :: levels) ∩ Set.Iio 0) := by
  have hlevel := Found.nothing.calculateLevel g s user now level
  rw [Set.insert_union, Set.empty_union, Set.empty_union] at hlevel
  rw [List.foldl_cons, grantsAtLevels_cons, Set.union_inter_distrib_right, Set.union_inter_distrib_right,
    ← Set.insert_union]
  exact hlevel.foldl_calculateLevel (Set.mem_insert _ _) levels

/-! ### Questions and levels -/

/-- The levels a thread is asked about at, with its tags. -/
def threadLevels (thread : IdType) (tags : List IdType) : List PrivilegeLevel :=
  ⟨.discussionThread, thread⟩ :: (tags.map fun tag => ⟨.discussionTag, tag⟩) ++ [.forumWide]

/-- The levels at which `isAllowed` looks, in this order. -/
def PrivilegeQuery.levels (s : Store) (tags : IdType → List IdType) : PrivilegeQuery → List PrivilegeLevel
  | .message id _ =>
    ⟨.discussionThreadMessage, id⟩ :: threadLevels (s.messageParentThread id) (tags (s.messageParentThread id))
  | .threadMessages id _ | .thread id _ => threadLevels id (tags id)
  | .tagMessages id _ | .tagThreads id _ | .tag id _ => [⟨.discussionTag, id⟩, .forumWide]
  | .category id _ =>
    ⟨.discussionCategory, id⟩ ::
      ((s.categoryParents id).map fun parent => ⟨.discussionCategory, parent⟩) ++ [.forumWide]
  | .forumWideMessages _ | .forumWideThreads _ | .forumWideTags _ | .forumWideCategories _ | .forumWide _ => [.forumWide]

/-- The value `isAllowed` compares with. -/
def PrivilegeQuery.required (r : RequiredPrivileges) (s : Store) (tags : IdType → List IdType) :
    PrivilegeQuery → PrivilegeValueType
  | .message id privilege =>
    DiscussionThreadMessage.getDiscussionThreadMessagePrivilege r id privilege
      (DiscussionThread.getDiscussionThreadMessagePrivilege r (s.messageParentThread id)
        (tags (s.messageParentThread id)) privilege)
  | .threadMessages id privilege =>
    DiscussionThread.getDiscussionThreadMessagePrivilege r id (tags id) privilege
  | .tagMessages id privilege => DiscussionTag.getDiscussionThreadMessagePrivilege r id privilege
  | .thread id privilege => DiscussionThread.getDiscussionThreadPrivilege r id (tags id) privilege
  | .tagThreads id privilege => DiscussionTag.getDiscussionThreadPrivilege r id privilege
  | .tag id privilege => DiscussionTag.getDiscussionTagPrivilege r id privilege
  | .category id privilege => DiscussionCategory.getDiscussionCategoryPrivilege r id privilege
  | .forumWideMessages privilege => r.forumWide.discussionThreadMessagePrivileges privilege
  | .forumWideThreads privilege => r.forumWide.discussionThreadPrivileges privilege
  | .forumWideTags privilege => r.forumWide.discussionTagPrivileges privilege
  | .forumWideCategories privilege => r.forumWide.discussionCategoryPrivileges privilege
  | .forumWide privilege => r.forumWide.forumWidePrivileges privilege

theorem calculateThreadLevelPrivilege_eq (thread : IdType) (tags : List IdType) (values : PrivilegeValues) :
    g.calculateThreadLevelPrivilege s user now thread tags values =
      (threadLevels thread tags).foldl (g.calculateLevel s user now) values := by
  unfold threadLevels
  rw [List.cons_append, List.foldl_cons, List.foldl_append, List.foldl_map]
  rfl

/-- Every overload goes through its levels and compares what it found with what is required. -/
theorem isAllowed_eq (tags : IdType → List IdType) (query : PrivilegeQuery) :
    g.isAllowed r s tags user now query =
      ((query.levels s tags).foldl (g.calculateLevel s user now) {}).isAllowed (query.required r s tags) := by
  cases query with
  | message message privilege =>
    rw [PrivilegeQuery.levels, List.foldl_cons, ← calculateThreadLevelPrivilege_eq]
    rfl
  | threadMessages thread privilege =>
    rw [PrivilegeQuery.levels, ← calculateThreadLevelPrivilege_eq]
    rfl
  | thread thread privilege =>
    rw [PrivilegeQuery.levels, ← calculateThreadLevelPrivilege_eq]
    rfl
  | category category privilege =>
    rw [PrivilegeQuery.levels, List.cons_append, List.foldl_cons, List.foldl_append, List.foldl_map]
    rfl
  | _ => rfl

theorem exists_levels_eq_cons (tags : IdType → List IdType) (query : PrivilegeQuery) :
    ∃ level levels, query.levels s tags = level :: levels := by
  cases query <;> exact ⟨_, _, rfl⟩

/-- What the answer to a question reads besides privileges: the tags of a thread are listed, and the
walk over the parents of a category reaches them all. -/
structure ListsLevels (s : Store) (tags : IdType → List IdType) (query : PrivilegeQuery) : Prop where
  tags : ∀ thread tag, tag ∈ tags thread ↔ tag ∈ s.threadTags thread
  parents : ∀ category privilege, query = .category category privilege →
    Ancestors s.categoryParent category (s.categoryParents category)

theorem mem_levels_iff {tags : IdType → List IdType} {query : PrivilegeQuery} (h : ListsLevels s tags query)
    (level : PrivilegeLevel) : level ∈ query.levels s tags ↔ Concerns s query level := by
  constructor
  · intro hlevel
    cases query <;> simp only [PrivilegeQuery.levels, threadLevels, List.mem_cons, List.mem_append, List.mem_map,
      List.not_mem_nil, or_false, h.tags] at hlevel
    case message =>
      obtain rfl | (rfl | ⟨tag, htag, rfl⟩) | rfl := hlevel
      exacts [.message, .threadOfMessage, .tagOfMessage htag, .forumWide]
    case threadMessages =>
      obtain (rfl | ⟨tag, htag, rfl⟩) | rfl := hlevel
      exacts [.threadMessages, .tagOfThreadMessages htag, .forumWide]
    case tagMessages =>
      obtain rfl | rfl := hlevel
      exacts [.tagMessages, .forumWide]
    case thread =>
      obtain (rfl | ⟨tag, htag, rfl⟩) | rfl := hlevel
      exacts [.thread, .tagOfThread htag, .forumWide]
    case tagThreads =>
      obtain rfl | rfl := hlevel
      exacts [.tagThreads, .forumWide]
    case tag =>
      obtain rfl | rfl := hlevel
      exacts [.tag, .forumWide]
    case category =>
      obtain (rfl | ⟨parent, hparent, rfl⟩) | rfl := hlevel
      exacts [.category, .ancestor ((h.parents _ _ rfl).mem_iff_transGen.1 hparent), .forumWide]
    all_goals exact hlevel ▸ .forumWide
  · intro hlevel
    cases hlevel with
    | tagOfMessage htag | tagOfThreadMessages htag | tagOfThread htag =>
      simp [PrivilegeQuery.levels, threadLevels, h.tags, htag]
    | ancestor hancestor =>
      have hmem := (h.parents _ _ rfl).mem_iff_transGen.2 hancestor
      simp [PrivilegeQuery.levels, hmem]
    | forumWide => cases query <;> simp [PrivilegeQuery.levels, threadLevels]
    | _ => simp [PrivilegeQuery.levels, threadLevels]

theorem requiredOfThread_requiredByTags {own forumWide : PrivilegeValueType} {tags : List IdType} {set : Finset IdType}
    {ofTag : IdType → PrivilegeValueType} (htags : ∀ tag, tag ∈ tags ↔ tag ∈ set) :
    RequiredOfThread own set ofTag forumWide (own.or (requiredByTags tags ofTag forumWide)) := by
  cases own with
  | some value => exact .own rfl
  | none =>
    rw [Option.none_or, requiredByTags]
    cases tags with
    | nil => exact .forumWide rfl (Finset.eq_empty_of_forall_notMem fun tag => by simp [← htags])
    | cons tag tags =>
      refine .tags rfl ⟨tag, (htags tag).1 List.mem_cons_self⟩ ?_
      have hgreatest := GreatestOf.missing.foldl ofTag (tag :: tags)
      simp only [Set.empty_union, htags] at hgreatest
      exact hgreatest

theorem requires_required {tags : IdType → List IdType} {query : PrivilegeQuery} (h : ListsLevels s tags query) :
    Requires r s query (query.required r s tags) := by
  cases query with
  | message message privilege =>
    refine ⟨fun own hown => ?_, fun hown => ?_⟩
    · rw [PrivilegeQuery.required, DiscussionThreadMessage.getDiscussionThreadMessagePrivilege, hown]
      rfl
    · rw [PrivilegeQuery.required, DiscussionThreadMessage.getDiscussionThreadMessagePrivilege, hown]
      exact requiredOfThread_requiredByTags (h.tags _)
  | threadMessages thread privilege => exact requiredOfThread_requiredByTags (h.tags _)
  | thread thread privilege => exact requiredOfThread_requiredByTags (h.tags _)
  | _ => rfl

theorem RequiredOfThread.unique {own forumWide value value' : PrivilegeValueType} {tags : Finset IdType}
    {ofTag : IdType → PrivilegeValueType} (h : RequiredOfThread own tags ofTag forumWide value)
    (h' : RequiredOfThread own tags ofTag forumWide value') : value = value' := by
  cases h with
  | own hown =>
    cases h' with
    | own hown' => exact hown.symm.trans hown'
    | tags hown' | forumWide hown' => exact absurd (hown.symm.trans hown') (Option.some_ne_none _)
  | tags hown htags hvalue =>
    cases h' with
    | own hown' => exact absurd (hown'.symm.trans hown) (Option.some_ne_none _)
    | tags _ _ hvalue' => exact hvalue.unique hvalue'
    | forumWide _ hempty => exact absurd hempty htags.ne_empty
  | forumWide hown hempty =>
    cases h' with
    | own hown' => exact absurd (hown'.symm.trans hown) (Option.some_ne_none _)
    | tags _ htags _ => exact absurd hempty htags.ne_empty
    | forumWide => rfl

theorem Requires.unique {query : PrivilegeQuery} {value value' : PrivilegeValueType} (h : Requires r s query value)
    (h' : Requires r s query value') : value = value' := by
  cases query with
  | message message privilege =>
    cases hown : (r.message message).discussionThreadMessagePrivileges privilege with
    | some own => exact (h.1 own hown).trans (h'.1 own hown).symm
    | none => exact (h.2 hown).unique (h'.2 hown)
  | threadMessages thread privilege | thread thread privilege => exact RequiredOfThread.unique h h'
  | _ => exact h.trans h'.symm

theorem ResolvesTo.unique {query : PrivilegeQuery} {P N R P' N' R' : PrivilegeValueIntType}
    (h : ResolvesTo g r s user now query P N R) (h' : ResolvesTo g r s user now query P' N' R') :
    P = P' ∧ N = N' ∧ R = R' := by
  obtain ⟨value, hvalue, rfl⟩ := h.required
  obtain ⟨value', hvalue', rfl⟩ := h'.required
  exact ⟨h.positive.unique h'.positive, h.negative.unique h'.negative, by rw [hvalue.unique hvalue']⟩

variable (g s user now) in
/-- What is found at all levels of a question. -/
def foundValues (tags : IdType → List IdType) (query : PrivilegeQuery) : PrivilegeValues :=
  (query.levels s tags).foldl (g.calculateLevel s user now) {}

variable (g r user now) in
/-- The values that are found are those a question is decided by. -/
theorem resolvesTo_foundValues {tags : IdType → List IdType} {query : PrivilegeQuery} (h : ListsLevels s tags query) :
    ResolvesTo g r s user now query (optionalOrZero (foundValues g s user now tags query).positiveValue)
      (optionalOrZero (foundValues g s user now tags query).negativeValue)
      (optionalOrZero (query.required r s tags)) := by
  obtain ⟨level, levels, hlevels⟩ := exists_levels_eq_cons (s := s) tags query
  have hgrants : grantsAtLevels g user now (query.levels s tags) = grants g s user now query := by
    ext value
    simp only [grantsAtLevels, grants, Set.mem_ofPred_eq, mem_levels_iff h]
  have hfound := found_levels g s user now level levels
  rw [← hlevels, hgrants] at hfound
  refine ⟨hfound.positive.isGreatest (Set.insert_nonempty _ _) 0, hfound.negative.isLeast_insert ?_, _,
    requires_required h, rfl⟩
  exact fun value hvalue => le_of_lt hvalue.2

variable (g r user now) in
/-- The three values exist, and `isAllowed` answers by them. -/
theorem exists_resolvesTo {tags : IdType → List IdType} {query : PrivilegeQuery} (h : ListsLevels s tags query) :
    ∃ P N R, ResolvesTo g r s user now query P N R ∧
      g.isAllowed r s tags user now query = if R ≤ P + N then some (P + N) else none :=
  ⟨_, _, _, resolvesTo_foundValues g r user now h, isAllowed_eq tags query⟩

/-- What `isAllowed` answers. -/
theorem ResolvesTo.isAllowed {tags : IdType → List IdType} {query : PrivilegeQuery} {P N R : PrivilegeValueIntType}
    (h : ResolvesTo g r s user now query P N R) (hlists : ListsLevels s tags query) :
    g.isAllowed r s tags user now query = if R ≤ P + N then some (P + N) else none := by
  obtain ⟨P', N', R', h', hanswer⟩ := exists_resolvesTo g r user now hlists
  obtain ⟨rfl, rfl, rfl⟩ := h.unique h'
  exact hanswer

/-! ### Granting more -/

/-- A new grant is one more value at its level, if it is the user's and has not expired. -/
theorem mem_grantsAt_grant {userId : IdType} {value : PrivilegeValueIntType} (hvalue : value ≠ 0)
    (grantedAt expiresAt : Timestamp) (level level' : PrivilegeLevel) (v : PrivilegeValueIntType) :
    v ∈ grantsAt (g.grant userId value grantedAt expiresAt level) user now level' ↔
      v ∈ grantsAt g user now level' ∨
        user ≠ 0 ∧ userId = user ∧ level = level' ∧ ¬(0 < expiresAt ∧ expiresAt < now) ∧ v = value := by
  obtain ⟨collection, id⟩ := level
  obtain ⟨collection', id'⟩ := level'
  simp only [grantsAt, Set.mem_ofPred_eq, GrantedPrivilegeStore.entries_grant]
  split_ifs with hcollection
  · subst hcollection
    simp only [grantPrivilege, dif_neg hvalue, List.mem_cons, exists_eq_or_imp, PrivilegeEntry.expired,
      decide_eq_false_iff_not, PrivilegeLevel.mk.injEq, true_and]
    grind
  · have hne : ¬(collection = collection' ∧ id = id') := fun h => hcollection h.1.symm
    simp [hne]

/-- Does a new grant count for a question of a user? -/
def GrantCounts (s : Store) (user : IdType) (now : Timestamp) (query : PrivilegeQuery) (userId : IdType)
    (expiresAt : Timestamp) (level : PrivilegeLevel) : Prop :=
  user ≠ 0 ∧ userId = user ∧ ¬(0 < expiresAt ∧ expiresAt < now) ∧ Concerns s query level

theorem grants_grant_of_counts {userId : IdType} {value : PrivilegeValueIntType} (hvalue : value ≠ 0)
    {grantedAt expiresAt : Timestamp} {level : PrivilegeLevel} {query : PrivilegeQuery}
    (h : GrantCounts s user now query userId expiresAt level) :
    grants (g.grant userId value grantedAt expiresAt level) s user now query =
      insert value (grants g s user now query) := by
  obtain ⟨huser, hid, hexpires, hconcerns⟩ := h
  ext v
  simp only [grants, mem_grantsAt_grant hvalue, Set.mem_ofPred_eq, Set.mem_insert_iff]
  constructor
  · rintro ⟨level', hlevel', hv | ⟨-, -, -, -, rfl⟩⟩
    exacts [.inr ⟨level', hlevel', hv⟩, .inl rfl]
  · rintro (rfl | ⟨level', hlevel', hv⟩)
    exacts [⟨level, hconcerns, .inr ⟨huser, hid, rfl, hexpires, rfl⟩⟩, ⟨level', hlevel', .inl hv⟩]

theorem grants_grant_of_not_counts {userId : IdType} {value : PrivilegeValueIntType} (hvalue : value ≠ 0)
    {grantedAt expiresAt : Timestamp} {level : PrivilegeLevel} {query : PrivilegeQuery}
    (h : ¬GrantCounts s user now query userId expiresAt level) :
    grants (g.grant userId value grantedAt expiresAt level) s user now query = grants g s user now query := by
  ext v
  simp only [grants, mem_grantsAt_grant hvalue, Set.mem_ofPred_eq]
  constructor
  · rintro ⟨level', hlevel', hv | ⟨huser, hid, rfl, hexpires, -⟩⟩
    exacts [⟨level', hlevel', hv⟩, absurd ⟨huser, hid, hexpires, hlevel'⟩ h]
  · rintro ⟨level', hlevel', hv⟩
    exact ⟨level', hlevel', .inl hv⟩

theorem defaultLevel_grant (userId : IdType) (value : PrivilegeValueIntType) (grantedAt expiresAt : Timestamp)
    (level : PrivilegeLevel) :
    defaultLevel (g.grant userId value grantedAt expiresAt level) s user = defaultLevel g s user := by
  rw [defaultLevel, GrantedPrivilegeStore.defaultPositiveValue_grant, defaultLevel]

variable {query : PrivilegeQuery} {P N R : PrivilegeValueIntType}

section

variable {userId : IdType} {value : PrivilegeValueIntType} {grantedAt expiresAt : Timestamp} {level : PrivilegeLevel}

theorem ResolvesTo.grant_of_not_counts (h : ResolvesTo g r s user now query P N R) (hvalue : value ≠ 0)
    (hcounts : ¬GrantCounts s user now query userId expiresAt level) :
    ResolvesTo (g.grant userId value grantedAt expiresAt level) r s user now query P N R := by
  refine ⟨?_, ?_, h.required⟩
  · rw [grants_grant_of_not_counts hvalue hcounts, defaultLevel_grant]
    exact h.positive
  · rw [grants_grant_of_not_counts hvalue hcounts]
    exact h.negative

theorem ResolvesTo.grant_positive_of_counts (h : ResolvesTo g r s user now query P N R) (hvalue : 0 < value)
    (hcounts : GrantCounts s user now query userId expiresAt level) :
    ResolvesTo (g.grant userId value grantedAt expiresAt level) r s user now query (max value P) N R := by
  have hmem : value ∈ Set.Ioi 0 := hvalue
  have hnotMem : value ∉ Set.Iio 0 := not_lt_of_gt hvalue
  refine ⟨?_, ?_, h.required⟩
  · rw [grants_grant_of_counts hvalue.ne' hcounts, defaultLevel_grant, Set.insert_inter_of_mem hmem, Set.insert_comm]
    exact h.positive.insert value
  · rw [grants_grant_of_counts hvalue.ne' hcounts, Set.insert_inter_of_notMem hnotMem]
    exact h.negative

theorem ResolvesTo.grant_negative_of_counts (h : ResolvesTo g r s user now query P N R) (hvalue : value < 0)
    (hcounts : GrantCounts s user now query userId expiresAt level) :
    ResolvesTo (g.grant userId value grantedAt expiresAt level) r s user now query P (min value N) R := by
  have hmem : value ∈ Set.Iio 0 := hvalue
  have hnotMem : value ∉ Set.Ioi 0 := not_lt_of_gt hvalue
  refine ⟨?_, ?_, h.required⟩
  · rw [grants_grant_of_counts hvalue.ne hcounts, defaultLevel_grant, Set.insert_inter_of_notMem hnotMem]
    exact h.positive
  · rw [grants_grant_of_counts hvalue.ne hcounts, Set.insert_inter_of_mem hmem, Set.insert_comm]
    exact h.negative.insert value

/-- A positive grant may only raise the positive part. -/
theorem ResolvesTo.grant_positive (h : ResolvesTo g r s user now query P N R) (hvalue : 0 < value) :
    ∃ P', P ≤ P' ∧ ResolvesTo (g.grant userId value grantedAt expiresAt level) r s user now query P' N R := by
  by_cases hcounts : GrantCounts s user now query userId expiresAt level
  · exact ⟨_, le_max_right _ _, h.grant_positive_of_counts hvalue hcounts⟩
  · exact ⟨P, le_rfl, h.grant_of_not_counts hvalue.ne' hcounts⟩

/-- A negative grant may only lower the negative part, and only to its own value. -/
theorem ResolvesTo.grant_negative (h : ResolvesTo g r s user now query P N R) (hvalue : value < 0) :
    ∃ N', N' ≤ N ∧ (N ≤ N' ∨ value ≤ N') ∧
      ResolvesTo (g.grant userId value grantedAt expiresAt level) r s user now query P N' R := by
  by_cases hcounts : GrantCounts s user now query userId expiresAt level
  · exact ⟨_, min_le_right _ _, (min_choice value N).symm.imp Eq.ge Eq.ge, h.grant_negative_of_counts hvalue hcounts⟩
  · exact ⟨N, le_rfl, .inl le_rfl, h.grant_of_not_counts hvalue.ne hcounts⟩

end

/-- Neither the order of the grants nor that of the tags matters. -/
theorem ResolvesTo.rearrange {g' : GrantedPrivilegeStore} (h : ResolvesTo g r s user now query P N R)
    (hg : g.Rearranges g') : ResolvesTo g' r s user now query P N R := by
  have hdefault : defaultLevel g' s user = defaultLevel g s user := by
    rw [defaultLevel, hg.defaultPositiveValue, defaultLevel]
  have hgrants : grants g' s user now query = grants g s user now query := by
    ext v
    simp only [grants, grantsAt, (hg.entries _).mem_iff]
  exact ⟨by rw [hdefault, hgrants]; exact h.positive, by rw [hgrants]; exact h.negative, h.required⟩

theorem ResolvesTo.negative_nonpos (h : ResolvesTo g r s user now query P N R) : N.toInt ≤ 0 :=
  Int16.toInt_le_toInt_of_le (h.negative.2 (Set.mem_insert _ _))

/-- Only a registered user may start from below zero. -/
theorem ResolvesTo.registered_of_neg (h : ResolvesTo g r s user now query P N R) (hneg : P < 0) : user ≠ 0 := by
  rintro rfl
  exact absurd (h.positive.2 (Set.mem_insert _ _)) (not_le_of_gt hneg)

/-- The sum wraps around when it falls below the range of 16 bits. -/
theorem ResolvesTo.isSome_isAllowed_iff {tags : IdType → List IdType} (h : ResolvesTo g r s user now query P N R)
    (hlists : ListsLevels s tags query) :
    (g.isAllowed r s tags user now query).isSome ↔
      R.toInt ≤ if -2 ^ 15 ≤ P.toInt + N.toInt then P.toInt + N.toInt else P.toInt + N.toInt + 2 ^ 16 := by
  rw [← Int16.toInt_add_of_nonpos h.negative_nonpos, ← Int16.le_iff_toInt_le, h.isAllowed hlists]
  split_ifs with hle <;> simp [hle]

end

/-! ### The law -/

/-- A question is answered by the law of privileges. -/
structure ResolutionLaw (g : GrantedPrivilegeStore) (r : RequiredPrivileges) (s : Store) (user : IdType)
    (now : Timestamp) (query : PrivilegeQuery) : Prop where
  /-- It is allowed when the positive and the negative part together are as great as the required value. -/
  allowed_iff : ∀ positive negative required, ResolvesTo g r s user now query positive negative required →
    ((g.isAllowed r s (threadTagsInOrder s) user now query).isSome ↔
      required.toInt ≤ positive.toInt + negative.toInt)
  /-- Neither the order of the grants nor that of the tags matters. -/
  order : ∀ g' tags, g.Rearranges g' → (∀ thread, (tags thread).Perm (threadTagsInOrder s thread)) →
    g'.isAllowed r s tags user now query = g.isAllowed r s (threadTagsInOrder s) user now query
  /-- A positive grant takes nothing away. -/
  grant_positive : ∀ userId value grantedAt expiresAt level, isValidPrivilegeValue value → 0 < value →
    (g.isAllowed r s (threadTagsInOrder s) user now query).isSome →
      ((g.grant userId value grantedAt expiresAt level).isAllowed r s (threadTagsInOrder s) user now query).isSome
  /-- A negative grant allows nothing new. -/
  grant_negative : ∀ userId value grantedAt expiresAt level, isValidPrivilegeValue value → value < 0 →
    ¬(g.isAllowed r s (threadTagsInOrder s) user now query).isSome →
      ¬((g.grant userId value grantedAt expiresAt level).isAllowed r s (threadTagsInOrder s) user now query).isSome

/-- Is the entity a question is about one of the store's? -/
def PrivilegeQuery.Exists (s : Store) : PrivilegeQuery → Prop
  | .message id _ => id ∈ s.allMessages
  | .threadMessages id _ | .thread id _ => id ∈ s.allThreads
  | .tagMessages id _ | .tagThreads id _ | .tag id _ => id ∈ s.tags
  | .category id _ => id ∈ s.categories
  | .forumWideMessages _ | .forumWideThreads _ | .forumWideTags _ | .forumWideCategories _ | .forumWide _ => True

theorem listsLevels {s : EntityCollection} (hs : HierarchySound s)
    {query : PrivilegeQuery} (hquery : query.Exists s.toStore) {tags : IdType → List IdType}
    (htags : ∀ thread, (tags thread).Perm (threadTagsInOrder s.toStore thread)) : ListsLevels s.toStore tags query where
  tags thread tag := by rw [(htags thread).mem_iff, threadTagsInOrder, mem_ascending]
  parents category privilege heq := by
    subst heq
    exact hs.ancestors_parentChain hquery

section

variable {g : GrantedPrivilegeStore} {r : RequiredPrivileges} {user : IdType} {now : Timestamp} {s : EntityCollection}
  {query : PrivilegeQuery}

/-- A question is answered by the law exactly if the sum stays within 16 bits, and is great enough or stays there
whatever is granted, or if it wraps around to less than is required. -/
theorem resolutionLaw_iff (hs : Reachable anyOperation s) (hquery : query.Exists s.toStore) :
    ResolutionLaw g r s.toStore user now query ↔
      ∃ P N R, ResolvesTo g r s.toStore user now query P N R ∧
        ((-2 ^ 15 ≤ P.toInt + N.toInt ∧
            (-2 ^ 15 ≤ P.toInt + MinPrivilegeValue.toInt ∨ R.toInt ≤ P.toInt + N.toInt)) ∨
          P.toInt + N.toInt + 2 ^ 16 < R.toInt) := by
  have hlists := listsLevels hs.hierarchySound hquery fun _ => .refl _
  obtain ⟨P, N, R, h, -⟩ := exists_resolvesTo g r user now hlists
  have hP := P.le_toInt
  have hN := N.le_toInt
  have hR := R.toInt_lt
  have hR' := R.le_toInt
  have hmin : MinPrivilegeValue.toInt = -32000 := by decide
  have hmax : MaxPrivilegeValue.toInt = 32000 := by decide
  have hnonpos := h.negative_nonpos
  constructor
  · intro law
    refine ⟨P, N, R, h, ?_⟩
    have hiff := (law.allowed_iff P N R h).symm.trans (h.isSome_isAllowed_iff hlists)
    by_contra hcond
    -- the request is denied, and the sum has not wrapped around yet
    obtain ⟨hlow, hdenied, hrange⟩ :
        P.toInt < -768 ∧ P.toInt + N.toInt < R.toInt ∧ -2 ^ 15 ≤ P.toInt + N.toInt := by
      split_ifs at hiff <;> omega
    have huser : user ≠ 0 := h.registered_of_neg (Int16.lt_iff_toInt_lt.2 (by show _ < (0 : ℤ); omega))
    -- a grant that makes it wrap around
    let value := Int16.ofInt (-2 ^ 15 - 1 - P.toInt)
    have hvalue : value.toInt = -2 ^ 15 - 1 - P.toInt := Int16.toInt_ofInt_of_le (by omega) (by omega)
    have hvalid : isValidPrivilegeValue value :=
      decide_eq_true ⟨Int16.le_iff_toInt_le.2 (by omega), Int16.le_iff_toInt_le.2 (by omega)⟩
    have hvalueNeg : value < 0 := Int16.lt_iff_toInt_lt.2 (by rw [hvalue]; show _ < (0 : ℤ); omega)
    have hvalueLe : value ≤ N := Int16.le_iff_toInt_le.2 (by omega)
    have h' : ResolvesTo (g.grant user value 0 0 .forumWide) r s.toStore user now query P (min value N) R :=
      h.grant_negative_of_counts hvalueNeg ⟨huser, rfl, by simp, .forumWide⟩
    rw [min_eq_left hvalueLe] at h'
    refine law.grant_negative user value 0 0 .forumWide hvalid hvalueNeg ?_ ((h'.isSome_isAllowed_iff hlists).2 ?_)
    · rw [h.isSome_isAllowed_iff hlists, if_pos hrange]
      omega
    · rw [if_neg (by omega)]
      omega
  · rintro ⟨P', N', R', h', hcond⟩
    obtain ⟨rfl, rfl, rfl⟩ := h.unique h'
    have hallowed := h.isSome_isAllowed_iff hlists
    refine ⟨fun P' N' R' h' => ?_, fun g' tags hg htags => ?_, ?_, ?_⟩
    · obtain ⟨rfl, rfl, rfl⟩ := h.unique h'
      rw [hallowed]
      split_ifs <;> omega
    · rw [h.isAllowed hlists, (h.rearrange hg).isAllowed (listsLevels hs.hierarchySound hquery htags)]
    · intro userId value grantedAt expiresAt level _ hvalue hsome
      obtain ⟨P', hle, h'⟩ := h.grant_positive hvalue
      have hle := Int16.toInt_le_toInt_of_le hle
      have hP' := P'.toInt_lt
      rw [hallowed] at hsome
      rw [h'.isSome_isAllowed_iff hlists]
      split_ifs at hsome ⊢ <;> omega
    · intro userId value grantedAt expiresAt level hvalid hvalue hnone
      obtain ⟨N', hle, hbound, h'⟩ := h.grant_negative hvalue
      have hle := Int16.toInt_le_toInt_of_le hle
      have hN' := N'.le_toInt
      have hvalid : -32000 ≤ value.toInt := hmin ▸ Int16.toInt_le_toInt_of_le (of_decide_eq_true hvalid).1
      have hbound : N.toInt ≤ N'.toInt ∨ value.toInt ≤ N'.toInt :=
        hbound.imp Int16.toInt_le_toInt_of_le Int16.toInt_le_toInt_of_le
      rw [hallowed] at hnone
      rw [h'.isSome_isAllowed_iff hlists]
      split_ifs at hnone ⊢ <;> omega

/-- Two users, and a thread with two tags. -/
def threadWithTags : List (Context × Operation) :=
  [({ currentUserId := 0, currentTime := 1 }, .addNewUser 1 { sortKey := [1] } "first"),
    ({ currentUserId := 0, currentTime := 1 }, .addNewUser 2 { sortKey := [2] } "second"),
    ({ currentUserId := 1, currentTime := 2 }, .addNewDiscussionTag 3 { sortKey := [3] }),
    ({ currentUserId := 1, currentTime := 2 }, .addNewDiscussionTag 4 { sortKey := [4] }),
    ({ currentUserId := 1, currentTime := 3 }, .addNewDiscussionThread 5 { sortKey := [5] } true),
    ({ currentUserId := 1, currentTime := 4 }, .addDiscussionTagToThread 3 5),
    ({ currentUserId := 1, currentTime := 5 }, .addDiscussionTagToThread 4 5)]

/-- Threads are viewed with level `1`, with the first of the tags with level `3`. -/
def viewedByTag : RequiredPrivileges where
  forumWide := { discussionThreadPrivileges := fun | .view => some 1 | _ => none }
  tag id := { discussionThreadPrivileges := fun | .view => if id = 3 then some 3 else none | _ => none }

/-- Registered users start from -500. The first has a grant of `5` on the second tag, one of `9` on the first tag that has
expired, and one of `-2` on the thread; the second has one of `-32000` forum wide. -/
def grantsOnTags : GrantedPrivilegeStore :=
  let started : GrantedPrivilegeStore := { defaultPrivilegeValueForLoggedInUser := -500 }
  let onTags := (started.grant 1 5 10 0 ⟨.discussionTag, 4⟩).grant 1 9 10 50 ⟨.discussionTag, 3⟩
  (onTags.grant 1 (-2) 10 0 ⟨.discussionThread, 5⟩).grant 2 (-32000) 10 0 .forumWide

/-- The first user is allowed `3` by these grants, the second is denied everything; and the law holds for both. -/
theorem resolutionLaw_threadWithTags :
    (∀ user, user = 1 ∨ user = 2 → ResolutionLaw grantsOnTags viewedByTag (run threadWithTags .empty).toStore user 100
      (.thread 5 .view)) ∧
    grantsOnTags.isAllowed viewedByTag (run threadWithTags .empty).toStore
      (threadTagsInOrder (run threadWithTags .empty).toStore) 1 100 (.thread 5 .view) = some 3 := by
  have hrun : Reachable anyOperation (run threadWithTags .empty) := Reachable.empty.run threadWithTags (by decide +kernel)
  have hquery : PrivilegeQuery.Exists (run threadWithTags .empty).toStore (.thread 5 .view) := by
    show (5 : IdType) ∈ (run threadWithTags .empty).allThreads
    decide +kernel
  refine ⟨fun user huser => (resolutionLaw_iff hrun hquery).2 ⟨_, _, _, resolvesTo_foundValues grantsOnTags viewedByTag user
    100 (listsLevels hrun.hierarchySound hquery fun _ => .refl _), .inl ?_⟩, by decide +kernel⟩
  rcases huser with rfl | rfl <;> decide +kernel

/-- A registered user who starts from -1000 is denied what nothing is required for; with a grant of
-32000 it is allowed. -/
theorem not_resolutionLaw_of_negativeDefault :
    ¬ResolutionLaw { defaultPrivilegeValueForLoggedInUser := -1000 } {} EntityCollection.empty.toStore 1 0
      (.forumWide .addUser) :=
  fun law => absurd (law.grant_negative 1 (-32000) 0 0 .forumWide (by decide) (by decide) (by decide +kernel)) (by decide +kernel)

end

end Forum.Authorization
