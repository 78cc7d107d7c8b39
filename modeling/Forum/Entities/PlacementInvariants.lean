import Forum.Entities.PlacementRelations

/-!
# Exact placement

`Placed threads p` says that threads, tags and categories are where they belong: a tag has the threads
that have the tag, a category has the threads it shares a tag with, and each side of a relation knows the
other. The threads are those of the store; what else has tags is on its way out.

The updates of the placement that operations make are written down once more, now all at once, and each
keeps the placement exact.
-/

namespace Forum.Entities

open Forum.Library

/-- The placement of the threads is exact. -/
structure Placed (threads : Finset IdType) (p : Placement) : Prop where
  tagThreads : ∀ tag ∈ p.tags, ∀ t, t ∈ p.tagThreads tag ↔ t ∈ threads ∧ tag ∈ p.threadTags t
  categoryThreads : ∀ category ∈ p.categories, ∀ t,
    t ∈ p.categoryThreads category ↔ t ∈ threads ∧ p.Shares t category
  threadCategories : ∀ t ∈ threads, ∀ category,
    category ∈ p.threadCategories t ↔ category ∈ p.categories ∧ t ∈ p.categoryThreads category
  tagCategories : ∀ tag ∈ p.tags, ∀ category,
    category ∈ p.tagCategories tag ↔ category ∈ p.categories ∧ tag ∈ p.categoryTags category

/-- The tags of threads and categories are tags of the store. -/
structure TagsKnown (threads : Finset IdType) (p : Placement) : Prop where
  threadTags : ∀ t ∈ threads, p.threadTags t ⊆ p.tags
  categoryTags : ∀ category ∈ p.categories, p.categoryTags category ⊆ p.tags

/-- The placement but for the hierarchy of the categories. -/
def Placement.withoutHierarchy (p : Placement) : Placement :=
  { p with categoryParent := fun _ => none, categoryChildren := fun _ => ∅ }

/-! ### Updates of the placement -/

namespace Placement

variable (p : Placement)

/-- A thread is given a tag. -/
def tagThread (tag thread : IdType) : Placement :=
  { p with threadTags := Function.update p.threadTags thread (insert tag (p.threadTags thread)) }.attach tag thread

/-- A tag is taken from a thread. -/
def untagThread (tag thread : IdType) : Placement :=
  { p with threadTags := Function.update p.threadTags thread ((p.threadTags thread).erase tag) }.detach tag thread false

/-- A category takes a tag in, and with it the threads of the tag. -/
def takeTag (tag category : IdType) : Placement :=
  { p with
    tagCategories := Function.update p.tagCategories tag (insert category (p.tagCategories tag))
    categoryTags := Function.update p.categoryTags category (insert tag (p.categoryTags category)) }.place
    category (p.tagThreads tag)

/-- A category gives a tag up, and with it the threads that it shares no other tag with. -/
def dropTag (tag category : IdType) : Placement :=
  let p : Placement :=
    { p with categoryTags := Function.update p.categoryTags category ((p.categoryTags category).erase tag) }
  p.unplace category ((p.tagThreads tag).filter fun t => ¬p.Shares t category) fun _ => false

/-- A tag is taken out of a category. -/
def releaseTag (tag category : IdType) : Placement :=
  { p with
    tagCategories := Function.update p.tagCategories tag ((p.tagCategories tag).erase category) }.dropTag tag category

/-- A tag is deleted: its categories give it up, then its threads. -/
def deleteTag (tag : IdType) : Placement :=
  let p := (ascending (p.tagCategories tag)).foldl (fun p category => p.dropTag tag category)
    { p with tags := p.tags.erase tag }
  { p with
    threadTags := fun t => if t ∈ p.tagThreads tag then (p.threadTags t).erase tag else p.threadTags t }

/-- A category is deleted: its tags and threads forget it. -/
def deleteCategory (category : IdType) : Placement :=
  { p with
    categories := p.categories.erase category
    tagCategories := fun tag =>
      if tag ∈ p.categoryTags category then (p.tagCategories tag).erase category else p.tagCategories tag
    threadCategories := fun t =>
      if t ∈ p.categoryThreads category then (p.threadCategories t).erase category else p.threadCategories t }

/-- A thread is deleted: its tags and categories forget it. -/
def deleteThread (thread : IdType) : Placement :=
  { p with
    tagThreads := fun tag =>
      if tag ∈ p.threadTags thread then (p.tagThreads tag).erase thread else p.tagThreads tag
    categoryThreads := fun category =>
      if category ∈ p.threadCategories thread then (p.categoryThreads category).erase thread
      else p.categoryThreads category }

end Placement

namespace Placed

variable {threads : Finset IdType} {p p' : Placement} {id tag thread category : IdType}

/-- The hierarchy of the categories does not matter. -/
theorem congr (h : Placed threads p) (hp : p'.withoutHierarchy = p.withoutHierarchy) : Placed threads p' := by
  have hw : Placed threads p.withoutHierarchy :=
    ⟨h.tagThreads, h.categoryThreads, h.threadCategories, h.tagCategories⟩
  rw [← hp] at hw
  exact ⟨hw.tagThreads, hw.categoryThreads, hw.threadCategories, hw.tagCategories⟩

/-- An entity of whatever kind comes into being. -/
theorem construct (h : Placed threads p) (hthread : id ∉ threads) (htag : id ∉ p.tags) (hcategory : id ∉ p.categories) :
    Placed threads (p.construct id) := by
  have hthreads : ∀ t ∈ threads, t ≠ id := fun t ht he => hthread (he ▸ ht)
  have htags : ∀ g ∈ p.tags, g ≠ id := fun g hg he => htag (he ▸ hg)
  have hcategories : ∀ c ∈ p.categories, c ≠ id := fun c hc he => hcategory (he ▸ hc)
  refine ⟨fun g hg t => ?_, fun c hc t => ?_, fun t ht c => ?_, fun g hg c => ?_⟩
  · have := h.tagThreads g hg t
    simp only [Placement.construct, Function.update_of_ne (htags g hg)]
    by_cases ht : t ∈ threads
    · rw [Function.update_of_ne (hthreads t ht), this]
    · simpa [ht] using this
  · have := h.categoryThreads c hc t
    simp only [Placement.construct, Placement.Shares, Function.update_of_ne (hcategories c hc)] at this ⊢
    by_cases ht : t ∈ threads
    · rw [Function.update_of_ne (hthreads t ht), this]
    · simpa [ht] using this
  · have := h.threadCategories t ht c
    simp only [Placement.construct, Function.update_of_ne (hthreads t ht), this]
    refine and_congr_right fun hc => ?_
    rw [Function.update_of_ne (hcategories c hc)]
  · have := h.tagCategories g hg c
    simp only [Placement.construct, Function.update_of_ne (htags g hg), this]
    refine and_congr_right fun hc => ?_
    rw [Function.update_of_ne (hcategories c hc)]

/-- A new thread has no tags. -/
theorem addThread (h : Placed threads p) (hnew : id ∉ threads) (htags : p.threadTags id = ∅)
    (hcategories : p.threadCategories id = ∅) : Placed (insert id threads) p := by
  refine ⟨fun g hg t => ?_, fun c hc t => ?_, fun t ht c => ?_, h.tagCategories⟩
  · have := h.tagThreads g hg t
    by_cases ht : t = id
    · subst ht
      simp [this, hnew, htags]
    · simp [this, ht]
  · have := h.categoryThreads c hc t
    by_cases ht : t = id
    · subst ht
      simp [this, hnew, Placement.Shares, htags]
    · simp [this, ht]
  · rcases Finset.mem_insert.1 ht with rfl | ht
    · rw [hcategories]
      have := fun hc => (h.categoryThreads c hc t).1
      refine iff_of_false (Finset.notMem_empty c) fun hc => hnew (this hc.1 hc.2).1
    · exact h.threadCategories t ht c

/-- A new tag has no threads and is in no category. -/
theorem addTag (h : Placed threads p) (hthreads : p.tagThreads id = ∅) (hcategories : p.tagCategories id = ∅)
    (hunused : ∀ t ∈ threads, id ∉ p.threadTags t) (hunused' : ∀ c ∈ p.categories, id ∉ p.categoryTags c) :
    Placed threads { p with tags := insert id p.tags } := by
  refine ⟨fun g hg t => ?_, h.categoryThreads, h.threadCategories, fun g hg c => ?_⟩
  · rcases Finset.mem_insert.1 hg with rfl | hg
    · simpa [hthreads] using hunused t
    · exact h.tagThreads g hg t
  · rcases Finset.mem_insert.1 hg with rfl | hg
    · simpa [hcategories] using hunused' c
    · exact h.tagCategories g hg c

/-- A new category has no threads and no tags. -/
theorem addCategory (h : Placed threads p) (hthreads : p.categoryThreads id = ∅) (htags : p.categoryTags id = ∅)
    (hnew : id ∉ p.categories) : Placed threads { p with categories := insert id p.categories } := by
  refine ⟨h.tagThreads, fun c hc t => ?_, fun t ht c => ?_, fun g hg c => ?_⟩
  · rcases Finset.mem_insert.1 hc with rfl | hc
    · simp [hthreads, Placement.Shares, htags]
    · exact h.categoryThreads c hc t
  · have := h.threadCategories t ht c
    by_cases hc : c = id
    · subst hc
      simp [this, hnew, hthreads]
    · simp [this, hc]
  · have := h.tagCategories g hg c
    by_cases hc : c = id
    · subst hc
      simp [this, hnew, htags]
    · simp [this, hc]

/-- What a thread shares with a category after it was given a tag. -/
theorem shares_tagThread (t c : IdType) :
    (p.tagThread tag thread).Shares t c ↔ p.Shares t c ∨ t = thread ∧ tag ∈ p.categoryTags c := by
  unfold Placement.Shares Placement.tagThread Placement.attach
  by_cases ht : t = thread
  · subst ht
    simp only [Function.update_self, Finset.mem_insert]
    grind
  · simp [ht]

theorem tagThread (h : Placed threads p) (htag : tag ∈ p.tags) (ht : thread ∈ threads) :
    Placed threads (p.tagThread tag thread) := by
  have hcategories := h.tagCategories tag htag
  have hplaced : ∀ c t, t ∈ (p.tagThread tag thread).categoryThreads c ↔
      t ∈ p.categoryThreads c ∨ t = thread ∧ c ∈ p.tagCategories tag := by
    intro c t
    simp only [Placement.tagThread, Placement.attach]
    split_ifs with hc <;> simp [hc, or_comm]
  refine ⟨fun g hg t => ?_, fun c hc t => ?_, fun t ht' c => ?_, h.tagCategories⟩
  · have := h.tagThreads g hg t
    simp only [Placement.tagThread, Placement.attach, mem_update_insert, this]
    grind
  · rw [hplaced, shares_tagThread, hcategories]
    have := h.categoryThreads c hc t
    have hc' : c ∈ p.categories := hc
    grind
  · rw [hplaced]
    have := h.threadCategories t ht' c
    have hc := hcategories c
    by_cases htt : t = thread
    · subst htt
      simp only [Placement.tagThread, Placement.attach, Function.update_self, Finset.mem_union, Finset.mem_filter]
      grind
    · simp only [Placement.tagThread, Placement.attach, Function.update_of_ne htt]
      grind

/-- What a thread shares with a category after a tag was taken from it. -/
theorem shares_untagThread {t : IdType} (ht : t ≠ thread) (c : IdType) :
    (p.untagThread tag thread).Shares t c ↔ p.Shares t c := by
  unfold Placement.Shares Placement.untagThread Placement.detach
  simp [ht]

theorem untagThread (h : Placed threads p) (htag : tag ∈ p.tags) (ht : thread ∈ threads) :
    Placed threads (p.untagThread tag thread) := by
  have hcategories := h.tagCategories tag htag
  have hplaced : ∀ c t, t ∈ (p.untagThread tag thread).categoryThreads c ↔
      t ∈ p.categoryThreads c ∧ ¬(t = thread ∧ c ∈ p.tagCategories tag ∧ ¬(p.untagThread tag thread).Shares t c) := by
    intro c t
    by_cases hc : c ∈ p.tagCategories tag ∧ ¬(p.untagThread tag thread).Shares thread c
    · have heq : (p.untagThread tag thread).categoryThreads c = (p.categoryThreads c).erase thread := if_pos hc
      rw [heq, Finset.mem_erase]
      grind
    · have heq : (p.untagThread tag thread).categoryThreads c = p.categoryThreads c := if_neg hc
      rw [heq]
      grind
  refine ⟨fun g hg t => ?_, fun c hc t => ?_, fun t ht' c => ?_, h.tagCategories⟩
  · have := h.tagThreads g hg t
    simp only [Placement.untagThread, Placement.detach, mem_update_erase, this]
    grind
  · rw [hplaced]
    have := h.categoryThreads c hc t
    have hc' : c ∈ p.categories := hc
    by_cases htt : t = thread
    · subst htt
      have hless : (p.untagThread tag t).Shares t c → p.Shares t c := by
        simp only [Placement.untagThread, Placement.detach, Placement.Shares, Function.update_self, Finset.mem_erase]
        grind
      have hmore : p.Shares t c → c ∉ p.tagCategories tag → (p.untagThread tag t).Shares t c := by
        simp only [Placement.untagThread, Placement.detach, Placement.Shares, Function.update_self, Finset.mem_erase]
        grind
      grind
    · rw [shares_untagThread htt]
      grind
  · rw [hplaced]
    have := h.threadCategories t ht' c
    have hc := hcategories c
    by_cases htt : t = thread
    · subst htt
      simp only [Placement.untagThread, Placement.detach, Placement.Shares, Bool.false_eq_true, if_false,
        Function.update_self, Finset.mem_sdiff, Finset.mem_filter]
      grind
    · simp only [Placement.untagThread, Placement.detach, Bool.false_eq_true, if_false, Function.update_of_ne htt]
      grind

/-- What a thread shares with a category after a category has taken a tag in. -/
theorem shares_takeTag (t c : IdType) :
    (p.takeTag tag category).Shares t c ↔ p.Shares t c ∨ c = category ∧ tag ∈ p.threadTags t := by
  unfold Placement.Shares Placement.takeTag Placement.place
  by_cases hc : c = category
  · subst hc
    simp only [Function.update_self, Finset.mem_insert]
    grind
  · simp [hc]

theorem takeTag (h : Placed threads p) (htag : tag ∈ p.tags) (hcategory : category ∈ p.categories) :
    Placed threads (p.takeTag tag category) := by
  have hthreads := h.tagThreads tag htag
  refine ⟨h.tagThreads, fun c hc t => ?_, fun t ht c => ?_, fun g hg c => ?_⟩
  · rw [shares_takeTag]
    have := h.categoryThreads c hc t
    by_cases hcc : c = category
    · subst hcc
      simp only [Placement.takeTag, Placement.place, Function.update_self, Finset.mem_union]
      grind
    · simp only [Placement.takeTag, Placement.place, Function.update_of_ne hcc]
      grind
  · have := h.threadCategories t ht c
    by_cases hcc : c = category
    · subst hcc
      simp only [Placement.takeTag, Placement.place, Function.update_self, Finset.mem_union]
      grind
    · simp only [Placement.takeTag, Placement.place, Function.update_of_ne hcc]
      grind
  · have := h.tagCategories g hg c
    simp only [Placement.takeTag, Placement.place, mem_update_insert]
    grind

/-- What a thread shares with a category after a category has given a tag up. -/
theorem shares_dropTag (t c : IdType) :
    (p.dropTag tag category).Shares t c ↔
      ∃ g ∈ p.threadTags t, g ∈ p.categoryTags c ∧ ¬(g = tag ∧ c = category) := by
  unfold Placement.Shares Placement.dropTag Placement.unplace
  simp only [mem_update_erase]

/-- The threads that leave with the tag are those that share no other one. -/
theorem mem_categoryThreads_dropTag (t : IdType) :
    t ∈ (p.dropTag tag category).categoryThreads category ↔
      t ∈ p.categoryThreads category ∧ (t ∈ p.tagThreads tag → (p.dropTag tag category).Shares t category) := by
  have heq : (p.dropTag tag category).categoryThreads category = p.categoryThreads category \
      (p.tagThreads tag).filter fun t => ¬(p.dropTag tag category).Shares t category := Function.update_self _ _ _
  rw [heq, Finset.mem_sdiff, Finset.mem_filter]
  tauto

/-- A category gives up a tag whose threads are those that have it. -/
theorem categoryThreads_dropTag (h : Placed threads p)
    (hthreads : ∀ t, t ∈ p.tagThreads tag ↔ t ∈ threads ∧ tag ∈ p.threadTags t) (category : IdType) :
    ∀ c ∈ p.categories, ∀ t, t ∈ (p.dropTag tag category).categoryThreads c ↔
      t ∈ threads ∧ (p.dropTag tag category).Shares t c := by
  intro c hc t
  have hold := h.categoryThreads c hc t
  by_cases hcc : c = category
  · subst hcc
    rw [mem_categoryThreads_dropTag, hold, hthreads, shares_dropTag]
    unfold Placement.Shares
    grind
  · have heq : (p.dropTag tag category).categoryThreads c = p.categoryThreads c := Function.update_of_ne hcc _ _
    rw [heq, hold, shares_dropTag]
    unfold Placement.Shares
    grind

/-- Threads that leave a category are told so. -/
theorem threadCategories_unplace (h : Placed threads p) (category : IdType) (S : Finset IdType) :
    ∀ t ∈ threads, ∀ c, c ∈ (p.unplace category S fun _ => false).threadCategories t ↔
      c ∈ p.categories ∧ t ∈ (p.unplace category S fun _ => false).categoryThreads c := by
  intro t ht c
  have hold := h.threadCategories t ht c
  have htold : (p.unplace category S fun _ => false).threadCategories t =
      if t ∈ S ∧ t ∈ p.categoryThreads category then (p.threadCategories t).erase category
      else p.threadCategories t := by simp [Placement.unplace]
  rw [htold]
  by_cases hcc : c = category
  · subst hcc
    simp only [Placement.unplace, Function.update_self, Finset.mem_sdiff]
    split_ifs with hs
    · simp only [Finset.mem_erase]
      grind
    · grind
  · simp only [Placement.unplace, Function.update_of_ne hcc]
    split_ifs
    · simp [hcc, hold]
    · exact hold

theorem threadCategories_dropTag (h : Placed threads p) (tag category : IdType) : ∀ t ∈ threads, ∀ c,
    c ∈ (p.dropTag tag category).threadCategories t ↔
      c ∈ p.categories ∧ t ∈ (p.dropTag tag category).categoryThreads c := by
  intro t ht c
  -- the tags of the category are not read
  exact threadCategories_unplace ⟨h.tagThreads, h.categoryThreads, h.threadCategories, h.tagCategories⟩ category _ t ht c

/-- A deleted tag leaves a category. -/
theorem dropTag (h : Placed threads p) (htag : tag ∉ p.tags)
    (hthreads : ∀ t, t ∈ p.tagThreads tag ↔ t ∈ threads ∧ tag ∈ p.threadTags t) (category : IdType) :
    Placed threads (p.dropTag tag category) := by
  refine ⟨h.tagThreads, h.categoryThreads_dropTag hthreads category, h.threadCategories_dropTag tag category,
    fun g hg c => ?_⟩
  have hne : g ≠ tag := fun he => htag (he ▸ hg)
  have := h.tagCategories g hg c
  simp only [Placement.dropTag, Placement.unplace, mem_update_erase]
  grind

theorem releaseTag (h : Placed threads p) (htag : tag ∈ p.tags) (category : IdType) :
    Placed threads (p.releaseTag tag category) := by
  refine ⟨h.tagThreads, h.categoryThreads_dropTag (h.tagThreads tag htag) category,
    h.threadCategories_dropTag tag category, fun g hg c => ?_⟩
  have := h.tagCategories g hg c
  simp only [Placement.releaseTag, Placement.dropTag, Placement.unplace, mem_update_erase]
  grind

/-- The tags of the categories after several of them have given a tag up. -/
theorem categoryTags_foldl_dropTag (p : Placement) (tag : IdType) (categories : List IdType) (c : IdType) :
    (categories.foldl (fun p category => p.dropTag tag category) p).categoryTags c =
      if c ∈ categories then (p.categoryTags c).erase tag else p.categoryTags c := by
  induction categories generalizing p with
  | nil => rfl
  | cons category categories ih =>
    have hstep : (p.dropTag tag category).categoryTags c =
        if c = category then (p.categoryTags c).erase tag else p.categoryTags c := by
      by_cases hc : c = category
      · subst hc
        simp [Placement.dropTag, Placement.unplace]
      · simp [Placement.dropTag, Placement.unplace, hc]
    rw [List.foldl_cons, ih, hstep]
    by_cases hc : c = category
    · simp [hc]
    · simp [hc]

/-- What stays the same while categories give a tag up. -/
theorem foldl_dropTag_eq (p : Placement) (tag : IdType) (categories : List IdType) :
    let p' := categories.foldl (fun p category => p.dropTag tag category) p
    p'.tags = p.tags ∧ p'.categories = p.categories ∧ p'.tagThreads = p.tagThreads ∧ p'.threadTags = p.threadTags ∧
      p'.tagCategories = p.tagCategories :=
  foldl_keeps (P := fun p' : Placement => p'.tags = p.tags ∧ p'.categories = p.categories ∧
    p'.tagThreads = p.tagThreads ∧ p'.threadTags = p.threadTags ∧ p'.tagCategories = p.tagCategories)
    ⟨rfl, rfl, rfl, rfl, rfl⟩ fun _ _ _ h => h

/-- A deleted tag leaves no trace. -/
theorem deleteTag (h : Placed threads p) (htag : tag ∈ p.tags) : Placed threads (p.deleteTag tag) := by
  have hthreads := h.tagThreads tag htag
  have hcategories := h.tagCategories tag htag
  let p₁ : Placement := { p with tags := p.tags.erase tag }
  have h₁ : Placed threads p₁ := ⟨fun g hg => h.tagThreads g (Finset.mem_of_mem_erase hg), h.categoryThreads,
    h.threadCategories, fun g hg => h.tagCategories g (Finset.mem_of_mem_erase hg)⟩
  let p₂ := (ascending (p.tagCategories tag)).foldl (fun p category => p.dropTag tag category) p₁
  obtain ⟨htags, hcats, htagThreads, hthreadTags, htagCategories⟩ :=
    foldl_dropTag_eq p₁ tag (ascending (p.tagCategories tag))
  have h₂ : Placed threads p₂ := by
    refine (foldl_keeps (P := fun q : Placement => Placed threads q ∧ q.tags = p₁.tags ∧
      q.tagThreads = p₁.tagThreads ∧ q.threadTags = p₁.threadTags) ⟨h₁, rfl, rfl, rfl⟩ ?_).1
    rintro q category - ⟨hq, htags, htagThreads, hthreadTags⟩
    refine ⟨hq.dropTag ?_ ?_ category, htags, htagThreads, hthreadTags⟩
    · simp [htags, p₁]
    · rw [htagThreads, hthreadTags]
      exact hthreads
  have hgone : ∀ c ∈ p.categories, tag ∉ p₂.categoryTags c := by
    intro c hc hmem
    have heq := categoryTags_foldl_dropTag p₁ tag (ascending (p.tagCategories tag)) c
    rw [heq] at hmem
    split_ifs at hmem with hin
    · exact Finset.notMem_erase _ _ hmem
    · exact hin (mem_ascending.2 ((hcategories c).2 ⟨hc, hmem⟩))
  have hlast : p.deleteTag tag = { p₂ with
      threadTags := fun t => if t ∈ p₂.tagThreads tag then (p₂.threadTags t).erase tag else p₂.threadTags t } := rfl
  have hmemTags : ∀ g t, g ≠ tag → (g ∈ (p.deleteTag tag).threadTags t ↔ g ∈ p₂.threadTags t) := by
    intro g t hg
    rw [hlast]
    dsimp only
    split_ifs <;> simp [hg]
  refine ⟨fun g hg t => ?_, fun c hc t => ?_, h₂.threadCategories, h₂.tagCategories⟩
  · have hg' : g ∈ p₁.tags := htags ▸ hg
    rw [hmemTags g t (Finset.ne_of_mem_erase hg')]
    exact h₂.tagThreads g hg t
  · have hc' : c ∈ p.categories := hcats ▸ hc
    have hshares : (p.deleteTag tag).Shares t c ↔ p₂.Shares t c := by
      refine exists_congr fun g => ?_
      by_cases hg : g = tag
      · subst hg
        exact iff_of_false (fun h => hgone c hc' h.2) fun h => hgone c hc' h.2
      · rw [hmemTags g t hg]
        rfl
    rw [hshares]
    exact h₂.categoryThreads c hc t

/-- A deleted category leaves no trace. -/
theorem deleteCategory (h : Placed threads p) (hcategory : category ∈ p.categories) :
    Placed threads (p.deleteCategory category) := by
  refine ⟨h.tagThreads, fun c hc => h.categoryThreads c (Finset.mem_of_mem_erase hc), fun t ht c => ?_,
    fun g hg c => ?_⟩
  · have := h.threadCategories t ht c
    have hself := h.threadCategories t ht category
    simp only [Placement.deleteCategory, Finset.mem_erase]
    split_ifs with hin
    · simp only [Finset.mem_erase]
      grind
    · grind
  · have := h.tagCategories g hg c
    have hself := h.tagCategories g hg category
    simp only [Placement.deleteCategory, Finset.mem_erase]
    split_ifs with hin
    · simp only [Finset.mem_erase]
      grind
    · grind

/-- A deleted thread leaves its tags and categories. -/
theorem deleteThread (h : Placed threads p) (hthread : thread ∈ threads) :
    Placed (threads.erase thread) (p.deleteThread thread) := by
  refine ⟨fun g hg t => ?_, fun c hc t => ?_, fun t ht c => ?_, h.tagCategories⟩
  · have := h.tagThreads g hg t
    simp only [Placement.deleteThread, Finset.mem_erase]
    split_ifs with hin
    · simp only [Finset.mem_erase]
      grind
    · grind
  · have := h.categoryThreads c hc t
    have hself := h.threadCategories thread hthread c
    have hc' : c ∈ p.categories := hc
    simp only [Placement.deleteThread, Finset.mem_erase]
    change _ ↔ _ ∧ p.Shares t c
    split_ifs with hin
    · simp only [Finset.mem_erase]
      grind
    · grind
  · obtain ⟨hne, ht⟩ := Finset.mem_erase.1 ht
    have := h.threadCategories t ht c
    simp only [Placement.deleteThread]
    split_ifs with hin
    · simp only [Finset.mem_erase]
      grind
    · exact this

end Placed

namespace TagsKnown

variable {threads : Finset IdType} {p p' : Placement} {id tag thread category : IdType}

theorem congr (h : TagsKnown threads p) (hp : p'.withoutHierarchy = p.withoutHierarchy) : TagsKnown threads p' := by
  have hw : TagsKnown threads p.withoutHierarchy := ⟨h.threadTags, h.categoryTags⟩
  rw [← hp] at hw
  exact ⟨hw.threadTags, hw.categoryTags⟩

theorem construct (h : TagsKnown threads p) (id : IdType) : TagsKnown threads (p.construct id) := by
  refine ⟨fun t ht => ?_, fun c hc => ?_⟩
  · by_cases hid : t = id
    · simp [Placement.construct, hid]
    · simpa [Placement.construct, hid] using h.threadTags t ht
  · by_cases hid : c = id
    · simp [Placement.construct, hid]
    · simpa [Placement.construct, hid] using h.categoryTags c hc

theorem addThread (h : TagsKnown threads p) (htags : p.threadTags id = ∅) : TagsKnown (insert id threads) p := by
  refine ⟨fun t ht => ?_, h.categoryTags⟩
  rcases Finset.mem_insert.1 ht with rfl | ht
  · simp [htags]
  · exact h.threadTags t ht

theorem addTag (h : TagsKnown threads p) (id : IdType) : TagsKnown threads { p with tags := insert id p.tags } :=
  ⟨fun t ht => (h.threadTags t ht).trans (Finset.subset_insert _ _),
    fun c hc => (h.categoryTags c hc).trans (Finset.subset_insert _ _)⟩

theorem addCategory (h : TagsKnown threads p) (htags : p.categoryTags id = ∅) :
    TagsKnown threads { p with categories := insert id p.categories } := by
  refine ⟨h.threadTags, fun c hc => ?_⟩
  rcases Finset.mem_insert.1 hc with rfl | hc
  · simp [htags]
  · exact h.categoryTags c hc

theorem tagThread (h : TagsKnown threads p) (htag : tag ∈ p.tags) (thread : IdType) :
    TagsKnown threads (p.tagThread tag thread) := by
  refine ⟨fun t ht g hg => ?_, h.categoryTags⟩
  rcases mem_update_insert.1 hg with hg | ⟨rfl, -⟩
  · exact h.threadTags t ht hg
  · exact htag

theorem untagThread (h : TagsKnown threads p) (tag thread : IdType) : TagsKnown threads (p.untagThread tag thread) :=
  ⟨fun t ht _ hg => h.threadTags t ht (mem_update_erase.1 hg).1, h.categoryTags⟩

theorem takeTag (h : TagsKnown threads p) (htag : tag ∈ p.tags) (category : IdType) :
    TagsKnown threads (p.takeTag tag category) := by
  refine ⟨h.threadTags, fun c hc g hg => ?_⟩
  rcases mem_update_insert.1 hg with hg | ⟨rfl, -⟩
  · exact h.categoryTags c hc hg
  · exact htag

theorem releaseTag (h : TagsKnown threads p) (tag category : IdType) : TagsKnown threads (p.releaseTag tag category) :=
  ⟨h.threadTags, fun c hc _ hg => h.categoryTags c hc (mem_update_erase.1 hg).1⟩

/-- Nothing that stays has the deleted tag. -/
theorem deleteTag (h : TagsKnown threads p) (hplaced : Placed threads p) (htag : tag ∈ p.tags) :
    TagsKnown threads (p.deleteTag tag) := by
  let p₁ : Placement := { p with tags := p.tags.erase tag }
  obtain ⟨htags, hcats, htagThreads, hthreadTags, -⟩ := Placed.foldl_dropTag_eq p₁ tag (ascending (p.tagCategories tag))
  have hnew : (p.deleteTag tag).tags = p.tags.erase tag := htags
  refine ⟨fun t ht g hg => ?_, fun c hc g hg => ?_⟩
  · have heq : (p.deleteTag tag).threadTags t =
        if t ∈ p.tagThreads tag then (p.threadTags t).erase tag else p.threadTags t := by
      unfold Placement.deleteTag
      dsimp only
      rw [htagThreads, hthreadTags]
    have hmem := hplaced.tagThreads tag htag t
    rw [heq] at hg
    rw [hnew, Finset.mem_erase]
    split_ifs at hg with hin
    · exact ⟨Finset.ne_of_mem_erase hg, h.threadTags t ht (Finset.mem_of_mem_erase hg)⟩
    · refine ⟨?_, h.threadTags t ht hg⟩
      rintro rfl
      exact hin (hmem.2 ⟨ht, hg⟩)
  · have hc' : c ∈ p.categories := hcats ▸ hc
    have heq : (p.deleteTag tag).categoryTags c =
        if c ∈ ascending (p.tagCategories tag) then (p.categoryTags c).erase tag else p.categoryTags c :=
      Placed.categoryTags_foldl_dropTag p₁ tag (ascending (p.tagCategories tag)) c
    rw [heq] at hg
    rw [hnew, Finset.mem_erase]
    split_ifs at hg with hin
    · exact ⟨Finset.ne_of_mem_erase hg, h.categoryTags c hc' (Finset.mem_of_mem_erase hg)⟩
    · refine ⟨?_, h.categoryTags c hc' hg⟩
      rintro rfl
      exact hin (mem_ascending.2 ((hplaced.tagCategories _ htag c).2 ⟨hc', hg⟩))

theorem deleteCategory (h : TagsKnown threads p) (category : IdType) : TagsKnown threads (p.deleteCategory category) :=
  ⟨h.threadTags, fun c hc => h.categoryTags c (Finset.mem_of_mem_erase hc)⟩

theorem deleteThread (h : TagsKnown threads p) (thread : IdType) :
    TagsKnown (threads.erase thread) (p.deleteThread thread) :=
  ⟨fun t ht => h.threadTags t (Finset.mem_of_mem_erase ht), h.categoryTags⟩

end TagsKnown

end Forum.Entities
