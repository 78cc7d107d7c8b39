import Forum.Persistence.Counters

/-!
# Counters that come back

What the entities counted is what the log says together with what the observer still keeps and what it has yet to
be told, as long as every view is answered in full and the page of a user is not told after a later one.
`CounterSystem.Consistent` is that invariant; `Lossless` the condition on the actions that keep it. So the counters
come back from the log when the observer kept nothing as it went.
-/

namespace Forum.Persistence

open Forum.Library Import
open Forum.Repository (StatusCode)

variable {σ : Type} {r : CountedRepositories σ}

/-! ### The import of one blob -/

/-- A recorded event that is recorded whole is imported as it was. -/
theorem importEvent_record (context : ObserverContext) (event : Event) {blob : List UInt8}
    (hblob : event.record context = some blob) (h : event.Recordable) (importer : Importer (Counted σ)) :
    let env : ImportEnvironment (Counted σ) := { memory := Memory.holding 0 blob, perform := Counted.perform r }
    let result := event.apply env (importer.withContext (event.context context))
    importEvent r blob importer = (result.1.isSome, result.2) :=
  (h.decodes _ _ 0 importer blob hblob (Memory.holds_holding 0 blob)).1

theorem importEvent_numberOfVisits (threadId : UuidString) (nrOfVisits : UInt32) (importer : Importer (Counted σ)) :
    importEvent r (EventObserver.recordNumberOfVisits threadId nrOfVisits) importer =
      (true, { importer.withContext emptyContext with
        cachedNrOfThreadVisits := addCached importer.cachedNrOfThreadVisits threadId nrOfVisits }) :=
  importEvent_record emptyContext (.numberOfVisits threadId nrOfVisits) rfl trivial importer

theorem importEvent_latestVisitedPage (userId threadId : UuidString) (page : UInt32) (importer : Importer (Counted σ)) :
    importEvent r (EventObserver.recordLatestVisitedPage userId threadId page) importer =
      (true, { importer.withContext emptyContext with
        latestThreadVisitedPage := Function.update importer.latestThreadVisitedPage userId
          (Function.update (importer.latestThreadVisitedPage userId) threadId (some page)) }) :=
  importEvent_record emptyContext (.latestVisitedPage userId threadId page) rfl trivial importer

theorem importEvent_numberOfGets (attachmentId : UuidString) (nrOfGets : UInt32) (importer : Importer (Counted σ)) :
    importEvent r (EventObserver.recordNumberOfGets attachmentId nrOfGets) importer =
      (true, { importer.withContext emptyContext with
        cachedNrOfAttachmentGets := addCached importer.cachedNrOfAttachmentGets attachmentId nrOfGets }) :=
  importEvent_record emptyContext (.numberOfGets attachmentId nrOfGets) rfl trivial importer

/-- Counters at zero stay there. -/
theorem perform_fresh (context : ObserverContext) (call : RepositoryCall) (store : σ) :
    (Counted.fresh store).perform r context call =
      ((r.perform context call store).1, Counted.fresh (r.perform context call store).2) := by
  have hkeep {β : Type} (ids : Finset UuidString) (zero : β) : keepOf ids zero (fun _ => zero) = fun _ => zero := by
    funext id
    exact ite_self _
  unfold Counted.perform
  dsimp only [Counted.fresh]
  rw [hkeep, hkeep, hkeep]

/-- The import of a direct write that was accepted. -/
theorem importEvent_write {context : ObserverContext} {call : RepositoryCall} {blob : List UInt8} {store : σ}
    {importer : Importer (Counted σ)} (hblob : call.record context = some blob) (hrecordable : call.Recordable)
    (hstore : importer.store = Counted.fresh store) (haccepted : accepts (r.perform context call store).1 = true) :
    importEvent r blob importer =
      (true, { importer.withContext context with store := Counted.fresh (r.perform context call store).2 }) := by
  have hevent := importEvent_record (r := r) context (.write call) hblob hrecordable importer
  have hperform : Counted.perform r context call importer.store =
      ((r.perform context call store).1, Counted.fresh (r.perform context call store).2) := by
    rw [hstore, perform_fresh]
  rw [hevent]
  show ((Importer.check _ call (importer.withContext context)).1.isSome,
    (Importer.check _ call (importer.withContext context)).2) = _
  have hcheck : Importer.check { memory := Memory.holding 0 blob, perform := Counted.perform r } call
      (importer.withContext context) = (some (), { importer.withContext context with
        store := Counted.fresh (r.perform context call store).2 }) := by
    unfold Importer.check
    dsimp only [Importer.withContext, Importer.setUsersLastSeen]
    rw [hperform, if_pos haccepted]
  rw [hcheck]
  rfl

/-! ### The import of a flush -/

/-- The import of the blobs is successful, and makes of the counts of visits and of the pages what is said. -/
structure ImportsCounts (r : CountedRepositories σ) (blobs : List (List UInt8)) (importer : Importer (Counted σ))
    (visits : UuidString → Option UInt32) (pages : UuidString → UuidString → Option UInt32) : Prop where
  all : AllImported (importEvent r) blobs importer
  store : (imported (importEvent r) blobs importer).store = importer.store
  visits : (imported (importEvent r) blobs importer).cachedNrOfThreadVisits = visits
  pages : (imported (importEvent r) blobs importer).latestThreadVisitedPage = pages

theorem ImportsCounts.nil (importer : Importer (Counted σ)) :
    ImportsCounts r [] importer importer.cachedNrOfThreadVisits importer.latestThreadVisitedPage :=
  ⟨trivial, rfl, rfl, rfl⟩

theorem ImportsCounts.append {first second : List (List UInt8)} {importer : Importer (Counted σ)}
    {visits visits' : UuidString → Option UInt32} {pages pages' : UuidString → UuidString → Option UInt32}
    (h : ImportsCounts r first importer visits pages)
    (h' : ImportsCounts r second (imported (importEvent r) first importer) visits' pages') :
    ImportsCounts r (first ++ second) importer visits' pages' := by
  refine ⟨h.all.append _ h'.all, ?_, ?_, ?_⟩
  · rw [imported_append, h'.store, h.store]
  · rw [imported_append, h'.visits]
  · rw [imported_append, h'.pages]

theorem ImportsCounts.cons {blob : List UInt8} {blobs : List (List UInt8)} {importer importer' : Importer (Counted σ)}
    {visits : UuidString → Option UInt32} {pages : UuidString → UuidString → Option UInt32}
    (hblob : importEvent r blob importer = (true, importer')) (hstore : importer'.store = importer.store)
    (h : ImportsCounts r blobs importer' visits pages) : ImportsCounts r (blob :: blobs) importer visits pages := by
  have himported : imported (importEvent r) (blob :: blobs) importer = imported (importEvent r) blobs importer' := by
    rw [imported, List.foldl_cons, hblob]
    rfl
  refine ⟨⟨by rw [hblob], by rw [hblob]; exact h.all⟩, ?_, ?_, ?_⟩
  · rw [himported, h.store, hstore]
  · rw [himported, h.visits]
  · rw [himported, h.pages]

/-- The counts of visits of a flush, added one after the other. -/
def addEach (cached : UuidString → Option UInt32) (entries : List (Sigma fun _ : UuidString => UInt32)) :
    UuidString → Option UInt32 :=
  entries.foldl (fun cached pair => addCached cached pair.1 pair.2) cached

/-- The pages of a flush, set one after the other. -/
def setEach (pages : UuidString → UuidString → Option UInt32)
    (entries : List (Sigma fun _ : UuidString × UuidString => UInt32)) : UuidString → UuidString → Option UInt32 :=
  entries.foldl (fun pages pair => Function.update pages pair.1.1
    (Function.update (pages pair.1.1) pair.1.2 (some pair.2))) pages

theorem importsCounts_visits (entries : List (Sigma fun _ : UuidString => UInt32)) (importer : Importer (Counted σ)) :
    ImportsCounts r (entries.map fun pair => EventObserver.recordNumberOfVisits pair.1 pair.2) importer
      (addEach importer.cachedNrOfThreadVisits entries) importer.latestThreadVisitedPage := by
  induction entries generalizing importer with
  | nil => exact .nil importer
  | cons pair entries ih => exact .cons (importEvent_numberOfVisits pair.1 pair.2 importer) rfl (ih _)

theorem importsCounts_pages (entries : List (Sigma fun _ : UuidString × UuidString => UInt32))
    (importer : Importer (Counted σ)) :
    ImportsCounts r (entries.map fun pair => EventObserver.recordLatestVisitedPage pair.1.1 pair.1.2 pair.2) importer
      importer.cachedNrOfThreadVisits (setEach importer.latestThreadVisitedPage entries) := by
  induction entries generalizing importer with
  | nil => exact .nil importer
  | cons pair entries ih => exact .cons (importEvent_latestVisitedPage pair.1.1 pair.1.2 pair.2 importer) rfl (ih _)

theorem importsCounts_gets (entries : List (Sigma fun _ : UuidString => UInt32)) (importer : Importer (Counted σ)) :
    ImportsCounts r (entries.map fun pair => EventObserver.recordNumberOfGets pair.1 pair.2) importer
      importer.cachedNrOfThreadVisits importer.latestThreadVisitedPage := by
  induction entries generalizing importer with
  | nil => exact .nil importer
  | cons pair entries ih => exact .cons (importEvent_numberOfGets pair.1 pair.2 importer) rfl (ih _)

/-- The import of what `updatePeriodicWrites` records. -/
theorem importsCounts_blobs (caches : ObserverCaches) (importer : Importer (Counted σ)) :
    ImportsCounts r caches.blobs importer
      (addEach importer.cachedNrOfThreadVisits caches.cachedNrOfThreadVisits.entries)
      (setEach importer.latestThreadVisitedPage caches.cachedLatestVisitedPage.entries) := by
  have hvisits := importsCounts_visits (r := r) caches.cachedNrOfThreadVisits.entries importer
  have hpages := importsCounts_pages (r := r) caches.cachedLatestVisitedPage.entries
    (imported (importEvent r) (caches.cachedNrOfThreadVisits.entries.map fun pair =>
      EventObserver.recordNumberOfVisits pair.1 pair.2) importer)
  have hgets := importsCounts_gets (r := r) caches.cachedNrOfAttachmentGets.entries
  rw [hvisits.visits, hvisits.pages] at hpages
  have hboth := hvisits.append hpages
  have hlast := hgets (imported (importEvent r) (caches.cachedNrOfThreadVisits.entries.map (fun pair =>
    EventObserver.recordNumberOfVisits pair.1 pair.2) ++ caches.cachedLatestVisitedPage.entries.map (fun pair =>
      EventObserver.recordLatestVisitedPage pair.1.1 pair.1.2 pair.2)) importer)
  rw [hboth.visits, hboth.pages] at hlast
  exact hboth.append hlast

/-- Adding the entries of a map adds to each id what the map has for it. -/
theorem addEach_getD (cached : UuidString → Option UInt32) {entries : List (Sigma fun _ : UuidString => UInt32)}
    (hnodup : entries.NodupKeys) (id : UuidString) :
    (addEach cached entries id).getD 0 = (cached id).getD 0 + (entries.dlookup id).getD 0 := by
  induction entries generalizing cached with
  | nil => simp [addEach]
  | cons pair entries ih =>
    obtain ⟨hnot, hnodup⟩ := List.nodupKeys_cons.1 hnodup
    rw [addEach, List.foldl_cons, ← addEach, ih _ hnodup, addCached]
    by_cases hid : id = pair.1
    · subst hid
      rw [Function.update_self, List.dlookup_cons_eq, List.dlookup_eq_none.2 hnot]
      cases cached pair.1 <;> simp
    · rw [Function.update_of_ne hid, List.dlookup_cons_ne _ _ hid]

/-- Setting the entries of a map overrides what the map has an entry for. -/
theorem setEach_eq (pages : UuidString → UuidString → Option UInt32)
    {entries : List (Sigma fun _ : UuidString × UuidString => UInt32)} (hnodup : entries.NodupKeys)
    (user id : UuidString) : setEach pages entries user id = (entries.dlookup (user, id)).or (pages user id) := by
  induction entries generalizing pages with
  | nil => simp [setEach]
  | cons pair entries ih =>
    obtain ⟨hnot, hnodup⟩ := List.nodupKeys_cons.1 hnodup
    rw [setEach, List.foldl_cons, ← setEach, ih _ hnodup]
    by_cases hkey : (user, id) = pair.1
    · obtain ⟨rfl, rfl⟩ := Prod.mk.inj (hkey : (user, id) = (pair.1.1, pair.1.2))
      rw [Function.update_self, Function.update_self, List.dlookup_cons_eq, List.dlookup_eq_none.2 hnot]
      rfl
    · rw [List.dlookup_cons_ne _ _ hkey]
      by_cases huser : user = pair.1.1
      · subst huser
        have hid : id ≠ pair.1.2 := fun hid => hkey (by rw [hid])
        rw [Function.update_self, Function.update_of_ne hid]
      · rw [Function.update_of_ne huser]

/-! ### The caches -/

namespace ObserverCaches

theorem lookup_increment (cached : AList fun _ : UuidString => UInt32) (id id' : UuidString) :
    ((increment cached id).lookup id').getD 0 =
      (cached.lookup id').getD 0 + if id' = id then 1 else 0 := by
  unfold increment
  by_cases hid : id' = id
  · subst hid
    rw [AList.lookup_insert, if_pos rfl]
    cases cached.lookup id' <;> simp
  · rw [AList.lookup_insert_ne hid, if_neg hid, UInt32.add_zero]

theorem lookup_increment_of_ne (cached : AList fun _ : UuidString => UInt32) {id id' : UuidString} (h : id' ≠ id) :
    (increment cached id).lookup id' = cached.lookup id' := AList.lookup_insert_ne h

theorem onGet_visits (user id : UuidString) (page : UInt32) (caches : ObserverCaches) :
    (caches.onGetDiscussionThreadById user id page).cachedNrOfThreadVisits =
      increment caches.cachedNrOfThreadVisits id := by
  unfold onGetDiscussionThreadById
  dsimp only
  split <;> rfl

theorem onGet_pages (user id : UuidString) (page : UInt32) (caches : ObserverCaches) :
    (caches.onGetDiscussionThreadById user id page).cachedLatestVisitedPage =
      if page > 0 then caches.cachedLatestVisitedPage.insert (user, id) page else caches.cachedLatestVisitedPage := by
  unfold onGetDiscussionThreadById
  dsimp only
  split <;> rfl

end ObserverCaches

/-! ### Requests under way -/

/-- What is taken out of a list. -/
theorem exists_eraseIdx_eq {α : Type*} {l : List α} {i : ℕ} {a : α} (h : l[i]? = some a) :
    ∃ before after, l = before ++ a :: after ∧ l.eraseIdx i = before ++ after := by
  obtain ⟨hi, rfl⟩ := List.getElem?_eq_some_iff.1 h
  refine ⟨l.take i, l.drop (i + 1), ?_, List.eraseIdx_eq_take_drop_succ l i⟩
  rw [← List.drop_eq_getElem_cons hi, List.take_append_drop]

/-- What is left is all but what was taken out. -/
theorem mem_append_of_ne {α : Type*} {before after : List α} {a b : α} (h : b ∈ before ++ a :: after) (hne : b ≠ a) :
    b ∈ before ++ after := by
  rcases List.mem_append.1 h with h | h
  · exact List.mem_append_left _ h
  · exact List.mem_append_right _ ((List.mem_cons.1 h).resolve_left hne)

theorem mem_append_cons_of_mem {α : Type*} {before after : List α} {a b : α} (h : b ∈ before ++ after) :
    b ∈ before ++ a :: after := by
  rcases List.mem_append.1 h with h | h
  · exact List.mem_append_left _ h
  · exact List.mem_append_right _ (List.mem_cons_of_mem _ h)

namespace PendingRead

/-- Is it a view of a thread? -/
def isViewOf (id : UuidString) : PendingRead → Bool
  | .getDiscussionThreadById _ threadId _ => threadId = id
  | .getAttachment _ => false

/-- It concerns what a store holds. A page is that of a user of the store. -/
def IsAbout (r : CountedRepositories σ) (store : σ) : PendingRead → Prop
  | .getDiscussionThreadById user id latestVisitedPage =>
    id ∈ r.threads store ∧ (latestVisitedPage > 0 → user ∈ r.users store)
  | .getAttachment _ => True

end PendingRead

/-- How many views of a thread are under way. -/
def pendingVisits (reads : List PendingRead) (id : UuidString) : UInt32 :=
  UInt32.ofNat (reads.countP (PendingRead.isViewOf id))

theorem pendingVisits_append (first second : List PendingRead) (id : UuidString) :
    pendingVisits (first ++ second) id = pendingVisits first id + pendingVisits second id := by
  unfold pendingVisits
  rw [List.countP_append, UInt32.ofNat_add]

theorem pendingVisits_view (user id : UuidString) (page : UInt32) (reads : List PendingRead) (id' : UuidString) :
    pendingVisits (.getDiscussionThreadById user id page :: reads) id' =
      pendingVisits reads id' + if id' = id then 1 else 0 := by
  have hview : PendingRead.isViewOf id' (.getDiscussionThreadById user id page) = decide (id = id') := rfl
  unfold pendingVisits
  rw [List.countP_cons, UInt32.ofNat_add, hview]
  by_cases heq : id' = id
  · rw [if_pos heq, if_pos (decide_eq_true heq.symm)]
    rfl
  · rw [if_neg heq, if_neg fun hsame => heq (of_decide_eq_true hsame).symm]
    rfl

theorem pendingVisits_attachment (id : UuidString) (reads : List PendingRead) (id' : UuidString) :
    pendingVisits (.getAttachment id :: reads) id' = pendingVisits reads id' := rfl

/-! ### The invariant -/

namespace CounterSystem

/-- The importer after what was recorded. -/
def imported (r : CountedRepositories σ) (store : σ) (s : CounterSystem σ) : Importer (Counted σ) :=
  Persistence.imported (importEvent r) s.log (freshImporter (Counted.fresh store))

/-- Nothing was counted for an id. -/
structure NotCounted (r : CountedRepositories σ) (store : σ) (s : CounterSystem σ) (id : UuidString) : Prop where
  visited : s.live.visited id = 0
  nrOfGetRequests : s.live.nrOfGetRequests id = 0
  latestPageVisited : ∀ threadId, s.live.latestPageVisited id threadId = 0
  cachedVisits : s.caches.cachedNrOfThreadVisits.lookup id = none
  cachedPages : ∀ threadId, s.caches.cachedLatestVisitedPage.lookup (id, threadId) = none
  importedVisits : ((s.imported r store).cachedNrOfThreadVisits id).getD 0 = 0
  importedPages : ∀ threadId, (s.imported r store).latestThreadVisitedPage id threadId = none

/-- The latest page of a user and a thread has yet to be told to the observer, in one of these requests. -/
def PageIsPending (s : CounterSystem σ) (reads : List PendingRead) (user id : UuidString) : Prop :=
  s.live.latestPageVisited user id > 0 ∧
    PendingRead.getDiscussionThreadById user id (s.live.latestPageVisited user id) ∈ reads

instance (s : CounterSystem σ) (reads : List PendingRead) (user id : UuidString) :
    Decidable (s.PageIsPending reads user id) := inferInstanceAs (Decidable (_ ∧ _))

/-- What was counted is in the log, still in the caches, or on the way there. -/
structure Consistent (r : CountedRepositories σ) (store : σ) (s : CounterSystem σ) : Prop where
  all : AllImported (importEvent r) s.log (freshImporter (Counted.fresh store))
  stored : (s.imported r store).store = Counted.fresh s.live.store
  visited : ∀ id ∈ r.threads s.live.store, s.live.visited id < 2 ^ 32 ∧
    UInt32.ofNat (s.live.visited id) = ((s.imported r store).cachedNrOfThreadVisits id).getD 0 +
      (s.caches.cachedNrOfThreadVisits.lookup id).getD 0 + pendingVisits s.reads id
  latestPageVisited : ∀ user ∈ r.users s.live.store, ∀ id, s.live.latestPageVisited user id =
    ((s.caches.cachedLatestVisitedPage.lookup (user, id)).or
      ((s.imported r store).latestThreadVisitedPage user id)).getD 0 ∨ s.PageIsPending s.reads user id
  reads : ∀ read ∈ s.reads, read.IsAbout r s.live.store
  nrOfGetRequests : ∀ id ∈ r.attachments s.live.store, s.live.nrOfGetRequests id = 0
  users : r.users s.live.store ⊆ s.issued
  threads : r.threads s.live.store ⊆ s.issued
  attachments : r.attachments s.live.store ⊆ s.issued
  notCounted : ∀ id ∉ s.issued, s.NotCounted r store id
  destroyed : s.running = false →
    s.caches.cachedNrOfThreadVisits = ∅ ∧ s.caches.cachedLatestVisitedPage = ∅ ∧ s.reads = []

/-- The actions that lose nothing: the direct writes are recorded whole or change nothing, no view of a thread ends
early and none is the last that 32 bits count, no attachment is asked for so that it counts, the page of a user that the
observer is told of is the latest of the thread unless that has yet to be told, and the observer goes with empty caches
when no request is under way. -/
def Lossless (r : CountedRepositories σ) (s : CounterSystem σ) : CounterAction → Prop
  | .write context call =>
    if accepts (r.perform context call s.live.store).1 then call.Recordable
    else (r.perform context call s.live.store).2 = s.live.store
  | .getDiscussionThreadById user id display =>
    id ∈ r.threads s.live.store → r.authorizedGetDiscussionThreadById s.live.store user id = true →
      ¬ s.NotUpdated r id display ∧ s.live.visited id + 1 < 2 ^ 32
  | .canGetAttachment user id =>
    ¬ (id ∈ r.attachments s.live.store ∧ r.authorizedCanGetAttachment s.live.store user id = true)
  | .getAttachment _ _ => True
  | .tellObserver i =>
    match s.reads[i]? with
    | some (.getDiscussionThreadById user id latestVisitedPage) =>
      latestVisitedPage = 0 ∨ latestVisitedPage = s.live.latestPageVisited user id ∨
        s.PageIsPending (s.reads.eraseIdx i) user id
    | _ => True
  | .updatePeriodicWrites => True
  | .destroy => s.caches.cachedNrOfThreadVisits.entries = [] ∧ s.caches.cachedLatestVisitedPage.entries = [] ∧ s.reads = []

variable {store : σ} {s : CounterSystem σ}

theorem consistent_start (store : σ) : (start r store).Consistent r store where
  all := trivial
  stored := rfl
  visited _ _ := ⟨Nat.two_pow_pos 32, rfl⟩
  latestPageVisited _ _ _ := .inl rfl
  reads _ h := absurd h List.not_mem_nil
  nrOfGetRequests _ _ := rfl
  users := fun _ h => Finset.mem_union_left _ (Finset.mem_union_left _ h)
  threads := fun _ h => Finset.mem_union_left _ (Finset.mem_union_right _ h)
  attachments := fun _ h => Finset.mem_union_right _ h
  notCounted _ _ := ⟨rfl, rfl, fun _ => rfl, rfl, fun _ => rfl, rfl, fun _ => rfl⟩
  destroyed _ := ⟨rfl, rfl, rfl⟩

theorem Consistent.updatePeriodicWrites (h : s.Consistent r store) :
    s.updatePeriodicWrites.Consistent r store := by
  have hcounts := importsCounts_blobs (r := r) s.caches (s.imported r store)
  have himported : s.updatePeriodicWrites.imported r store =
      Persistence.imported (importEvent r) s.caches.blobs (s.imported r store) := imported_append _ _ _ _
  have hvisits (id : UuidString) : ((s.updatePeriodicWrites.imported r store).cachedNrOfThreadVisits id).getD 0 =
      ((s.imported r store).cachedNrOfThreadVisits id).getD 0 + (s.caches.cachedNrOfThreadVisits.lookup id).getD 0 := by
    rw [himported, hcounts.visits]
    exact addEach_getD _ s.caches.cachedNrOfThreadVisits.nodupKeys id
  have hpages (user id : UuidString) : (s.updatePeriodicWrites.imported r store).latestThreadVisitedPage user id =
      (s.caches.cachedLatestVisitedPage.lookup (user, id)).or
        ((s.imported r store).latestThreadVisitedPage user id) := by
    rw [himported, hcounts.pages]
    exact setEach_eq _ s.caches.cachedLatestVisitedPage.nodupKeys user id
  exact {
    all := h.all.append _ hcounts.all
    stored := by rw [himported, hcounts.store]; exact h.stored
    visited := fun id hid => by
      obtain ⟨hbound, hvisited⟩ := h.visited id hid
      refine ⟨hbound, ?_⟩
      rw [hvisits, show (s.updatePeriodicWrites.caches.cachedNrOfThreadVisits.lookup id).getD 0 = 0 from rfl,
        UInt32.add_zero]
      exact hvisited
    latestPageVisited := fun user huser id => by
      rw [hpages]
      exact h.latestPageVisited user huser id
    reads := h.reads
    nrOfGetRequests := h.nrOfGetRequests
    users := h.users
    threads := h.threads
    attachments := h.attachments
    notCounted := fun id hid => by
      have hnone := h.notCounted id hid
      exact ⟨hnone.visited, hnone.nrOfGetRequests, hnone.latestPageVisited, rfl, fun _ => rfl,
        by rw [hvisits, hnone.importedVisits, hnone.cachedVisits]; rfl,
        fun threadId => by rw [hpages, hnone.cachedPages, hnone.importedPages]; rfl⟩
    destroyed := fun hstopped => ⟨rfl, rfl, (h.destroyed hstopped).2.2⟩ }

/-! ### Views of threads -/

/-- What the view of a thread does to the pages. The page that the observer is to be told of is the one that is kept, of
a user of the store; no other page changes, and none at all when the observer is told of none. -/
structure PageVisited (r : CountedRepositories σ) (user id : UuidString) (page : UInt32) (before after : Counted σ) :
    Prop where
  store : after.store = before.store
  visited : after.visited = before.visited
  nrOfGetRequests : after.nrOfGetRequests = before.nrOfGetRequests
  registered : page > 0 → user ∈ r.users before.store
  latest : page > 0 → after.latestPageVisited user id = page
  others : ∀ user' id', ¬ ((user', id') = (user, id) ∧ page > 0) →
    after.latestPageVisited user' id' = before.latestPageVisited user' id'

theorem pageVisited_self (user id : UuidString) (c : Counted σ) : PageVisited r user id 0 c c where
  store := rfl
  visited := rfl
  nrOfGetRequests := rfl
  registered h := absurd h (by decide)
  latest h := absurd h (by decide)
  others _ _ _ := rfl

theorem pageVisited_visitPage (user id : UuidString) (display : DisplayContext) (c : Counted σ) :
    PageVisited r user id (visitPage r user id display c).1 c (visitPage r user id display c).2 := by
  unfold visitPage
  dsimp only
  split
  case isFalse => exact pageVisited_self user id c
  case isTrue hregistered =>
    unfold Counted.updateLatestPageVisited
    split
    case isFalse => exact pageVisited_self user id c
    case isTrue hlater =>
      refine ⟨rfl, rfl, rfl, fun _ => hregistered.1, fun _ => ?_, fun user' id' hother => ?_⟩
      · dsimp only
        rw [Function.update_self, Function.update_self]
        rfl
      · dsimp only
        by_cases huser : user' = user
        · subst huser
          have hid : id' ≠ id := fun heq => hother ⟨by rw [heq], Nat.lt_of_le_of_lt (Nat.zero_le _) hlater⟩
          rw [Function.update_self, Function.update_of_ne hid]
        · rw [Function.update_of_ne huser]

/-- A view that the thread has counted, and the observer has yet to be told of. -/
theorem Consistent.viewed (h : s.Consistent r store) (hrunning : s.running = true) {user id : UuidString} {page : UInt32}
    {live : Counted σ} (hid : id ∈ r.threads s.live.store) (hbound : s.live.visited id + 1 < 2 ^ 32)
    (hvisit : PageVisited r user id page
      { s.live with visited := Function.update s.live.visited id (s.live.visited id + 1) } live) :
    ({ s with live := live, reads := s.reads ++ [.getDiscussionThreadById user id page] } : CounterSystem σ).Consistent r
      store := by
  have hstore : live.store = s.live.store := hvisit.store
  have hvisited : live.visited = Function.update s.live.visited id (s.live.visited id + 1) := hvisit.visited
  refine ⟨h.all, ?_, fun id' hid' => ?_, fun user' huser' id' => ?_, fun read hread => ?_, fun id' hid' => ?_, ?_, ?_, ?_,
    fun id' hid' => ?_, fun hstopped => by rw [hrunning] at hstopped; cases hstopped⟩
  · show (s.imported r store).store = Counted.fresh live.store
    rw [hstore]
    exact h.stored
  · -- one more on both sides for the thread, and nothing for the others
    obtain ⟨hbound', hvisited'⟩ := h.visited id' (hstore ▸ hid')
    dsimp only
    have hnil : pendingVisits [] id' = 0 := rfl
    rw [hvisited, pendingVisits_append, ← UInt32.add_assoc, pendingVisits_view, hnil, UInt32.zero_add]
    by_cases heq : id' = id
    · subst heq
      rw [Function.update_self, if_pos rfl, UInt32.ofNat_add]
      exact ⟨hbound, congrArg (· + 1) hvisited'⟩
    · rw [Function.update_of_ne heq, if_neg heq, UInt32.add_zero]
      exact ⟨hbound', hvisited'⟩
  · -- the page that was set has yet to be told
    have hpage := h.latestPageVisited user' (hstore ▸ huser') id'
    unfold PageIsPending at hpage ⊢
    dsimp only
    by_cases hlater : (user', id') = (user, id) ∧ page > 0
    · obtain ⟨hkey, hpositive⟩ := hlater
      obtain ⟨rfl, rfl⟩ := Prod.mk.inj hkey
      rw [hvisit.latest hpositive]
      exact .inr ⟨hpositive, List.mem_append_right _ (List.mem_singleton.2 rfl)⟩
    · rw [hvisit.others user' id' hlater]
      exact hpage.imp_right fun ⟨hpositive, hmem⟩ => ⟨hpositive, List.mem_append_left _ hmem⟩
  · show read.IsAbout r live.store
    rw [hstore]
    rcases List.mem_append.1 hread with hold | hnew
    · exact h.reads read hold
    · rw [List.mem_singleton.1 hnew]
      exact ⟨hid, hvisit.registered⟩
  · dsimp only
    rw [hvisit.nrOfGetRequests]
    exact h.nrOfGetRequests id' (hstore ▸ hid')
  · show r.users live.store ⊆ s.issued
    rw [hstore]
    exact h.users
  · show r.threads live.store ⊆ s.issued
    rw [hstore]
    exact h.threads
  · show r.attachments live.store ⊆ s.issued
    rw [hstore]
    exact h.attachments
  · have hnone := h.notCounted id' hid'
    have hne : id' ≠ id := fun heq => hid' (by rw [heq]; exact h.threads hid)
    exact { hnone with
      visited := by
        dsimp only
        rw [hvisited, Function.update_of_ne hne]
        exact hnone.visited
      nrOfGetRequests := by
        dsimp only
        rw [hvisit.nrOfGetRequests]
        exact hnone.nrOfGetRequests
      latestPageVisited := fun threadId => by
        have hother : ¬ ((id', threadId) = (user, id) ∧ page > 0) := fun ⟨hkey, hpositive⟩ =>
          hid' (by rw [(Prod.mk.inj hkey).1]; exact h.users (hvisit.registered hpositive))
        dsimp only
        rw [hvisit.others id' threadId hother]
        exact hnone.latestPageVisited threadId }

theorem Consistent.getDiscussionThreadById (h : s.Consistent r store) (hrunning : s.running = true)
    {user id : UuidString} {display : DisplayContext} (hlossless : Lossless r s (.getDiscussionThreadById user id display)) :
    (s.getDiscussionThreadById r user id display).Consistent r store := by
  unfold CounterSystem.getDiscussionThreadById
  split
  case isFalse => exact h
  case isTrue hfound =>
    obtain ⟨hupdated, hbound⟩ := hlossless hfound.1 hfound.2
    dsimp only
    rw [if_neg hupdated]
    exact h.viewed hrunning hfound.1 hbound (pageVisited_visitPage user id display _)

/-- A request of an attachment concerns no thread. -/
theorem Consistent.getAttachment (h : s.Consistent r store) (hrunning : s.running = true) (user id : UuidString) :
    (s.getAttachment r user id).Consistent r store := by
  unfold CounterSystem.getAttachment
  split
  case isFalse => exact h
  case isTrue =>
    exact { h with
      visited := fun id' hid' => by
        have hnone : pendingVisits [.getAttachment id] id' = 0 := rfl
        dsimp only
        rw [pendingVisits_append, hnone, UInt32.add_zero]
        exact h.visited id' hid'
      latestPageVisited := fun user' huser' id' =>
        (h.latestPageVisited user' huser' id').imp_right fun hpending => ⟨hpending.1, List.mem_append_left _ hpending.2⟩
      reads := fun read hread => by
        rcases List.mem_append.1 hread with hold | hnew
        · exact h.reads read hold
        · rw [List.mem_singleton.1 hnew]
          trivial
      notCounted := fun id' hid' => { h.notCounted id' hid' with }
      destroyed := fun hstopped => by rw [hrunning] at hstopped; cases hstopped }

/-! ### The observer is told -/

/-- The observer counts a view that was under way, and keeps its page. -/
theorem Consistent.toldView (h : s.Consistent r store) (hrunning : s.running = true) {user id : UuidString}
    {page : UInt32} {before after : List PendingRead}
    (hreads : s.reads = before ++ .getDiscussionThreadById user id page :: after)
    (hpage : page = 0 ∨ page = s.live.latestPageVisited user id ∨ s.PageIsPending (before ++ after) user id) :
    ({ s with
      reads := before ++ after
      caches := s.caches.onGetDiscussionThreadById user id page } : CounterSystem σ).Consistent r store := by
  have hcached : (s.caches.onGetDiscussionThreadById user id page).cachedNrOfThreadVisits =
      ObserverCaches.increment s.caches.cachedNrOfThreadVisits id := ObserverCaches.onGet_visits _ _ _ _
  have hcachedPages := ObserverCaches.onGet_pages user id page s.caches
  have habout := h.reads (.getDiscussionThreadById user id page) (by rw [hreads]; simp)
  exact { h with
    visited := fun id' hid' => by
      obtain ⟨hbound, hvisited⟩ := h.visited id' hid'
      refine ⟨hbound, ?_⟩
      dsimp only
      rw [hreads, pendingVisits_append, pendingVisits_view] at hvisited
      rw [hcached, ObserverCaches.lookup_increment, hvisited, pendingVisits_append]
      generalize (if id' = id then 1 else 0 : UInt32) = one
      show _ = ((s.imported r store).cachedNrOfThreadVisits id').getD 0 + _ + _
      ac_rfl
    latestPageVisited := fun user' huser' id' => by
      have hold := h.latestPageVisited user' huser' id'
      dsimp only
      rw [hcachedPages]
      by_cases hpositive : page > 0
      · rw [if_pos hpositive]
        by_cases hkey : (user', id') = (user, id)
        · obtain ⟨rfl, rfl⟩ := Prod.mk.inj hkey
          rw [AList.lookup_insert]
          rcases hpage with hpage0 | hlatest | hpending
          · rw [hpage0] at hpositive
            exact absurd hpositive (by decide)
          · exact .inl hlatest.symm
          · exact .inr hpending
        · rw [AList.lookup_insert_ne hkey]
          refine hold.imp_right fun ⟨hlive, hmem⟩ => ⟨hlive, mem_append_of_ne (hreads ▸ hmem) fun heq => hkey ?_⟩
          obtain ⟨rfl, rfl, -⟩ := PendingRead.getDiscussionThreadById.inj heq
          rfl
      · rw [if_neg hpositive]
        refine hold.imp_right fun ⟨hlive, hmem⟩ => ⟨hlive, mem_append_of_ne (hreads ▸ hmem) fun heq => hpositive ?_⟩
        rw [← (PendingRead.getDiscussionThreadById.inj heq).2.2]
        exact hlive
    reads := fun read hread => h.reads read (hreads ▸ mem_append_cons_of_mem hread)
    notCounted := fun id' hid' => by
      have hnone := h.notCounted id' hid'
      have hne : id' ≠ id := fun heq => hid' (by rw [heq]; exact h.threads habout.1)
      exact { hnone with
        cachedVisits := by
          dsimp only
          rw [hcached, ObserverCaches.lookup_increment_of_ne _ hne]
          exact hnone.cachedVisits
        cachedPages := fun threadId => by
          dsimp only
          rw [hcachedPages]
          split_ifs with hpositive
          · have hkey : (id', threadId) ≠ (user, id) := fun heq =>
              hid' (by rw [(Prod.mk.inj heq).1]; exact h.users (habout.2 hpositive))
            rw [AList.lookup_insert_ne hkey]
            exact hnone.cachedPages threadId
          · exact hnone.cachedPages threadId }
    destroyed := fun hstopped => by rw [hrunning] at hstopped; cases hstopped }

/-- What the observer counts of attachments concerns no thread. -/
theorem Consistent.toldAttachment (h : s.Consistent r store) (hrunning : s.running = true) {id : UuidString}
    {before after : List PendingRead} (hreads : s.reads = before ++ .getAttachment id :: after) :
    ({ s with reads := before ++ after, caches := s.caches.onGetAttachment id } : CounterSystem σ).Consistent r store := by
  exact { h with
    visited := fun id' hid' => by
      obtain ⟨hbound, hvisited⟩ := h.visited id' hid'
      refine ⟨hbound, hvisited.trans ?_⟩
      rw [hreads, pendingVisits_append, pendingVisits_attachment, pendingVisits_append]
      rfl
    latestPageVisited := fun user' huser' id' =>
      (h.latestPageVisited user' huser' id').imp_right fun ⟨hlive, hmem⟩ =>
        ⟨hlive, mem_append_of_ne (hreads ▸ hmem) PendingRead.noConfusion⟩
    reads := fun read hread => h.reads read (hreads ▸ mem_append_cons_of_mem hread)
    notCounted := fun id' hid' => { h.notCounted id' hid' with }
    destroyed := fun hstopped => by rw [hrunning] at hstopped; cases hstopped }

theorem Consistent.tellObserver (h : s.Consistent r store) (hrunning : s.running = true) {i : ℕ} {s' : CounterSystem σ}
    (hlossless : Lossless r s (.tellObserver i)) (hstep : s.tellObserver i = some s') : s'.Consistent r store := by
  unfold CounterSystem.tellObserver at hstep
  unfold Lossless at hlossless
  dsimp only at hlossless
  cases hread : s.reads[i]? with
  | none =>
    rw [hread] at hstep
    cases hstep
  | some read =>
    obtain ⟨before, after, hreads, herased⟩ := exists_eraseIdx_eq hread
    rw [hread] at hstep hlossless
    rw [herased] at hstep hlossless
    obtain rfl := Option.some.inj hstep
    cases read with
    | getDiscussionThreadById user id page => exact h.toldView hrunning hreads hlossless
    | getAttachment id => exact h.toldAttachment hrunning hreads

/-! ### Direct writes -/

theorem mem_created_users {before after : σ} {id : UuidString} (h : id ∈ r.users after) (hnew : id ∉ r.users before) :
    id ∈ created r before after :=
  Finset.mem_union_left _ (Finset.mem_union_left _ (Finset.mem_sdiff.2 ⟨h, hnew⟩))

theorem mem_created_threads {before after : σ} {id : UuidString} (h : id ∈ r.threads after)
    (hnew : id ∉ r.threads before) : id ∈ created r before after :=
  Finset.mem_union_left _ (Finset.mem_union_right _ (Finset.mem_sdiff.2 ⟨h, hnew⟩))

theorem mem_created_attachments {before after : σ} {id : UuidString} (h : id ∈ r.attachments after)
    (hnew : id ∉ r.attachments before) : id ∈ created r before after :=
  Finset.mem_union_right _ (Finset.mem_sdiff.2 ⟨h, hnew⟩)

theorem keepOf_of_mem {β : Type} {ids : Finset UuidString} {zero : β} {values : UuidString → β} {id : UuidString}
    (h : id ∈ ids) : keepOf ids zero values id = values id := if_pos h

theorem keepOf_of_zero {β : Type} {ids : Finset UuidString} {zero : β} {values : UuidString → β} {id : UuidString}
    (h : values id = zero) : keepOf ids zero values id = zero := by
  unfold keepOf
  rw [h, ite_self]

/-- A direct write, with the log that goes with it: nothing was counted for what is new. -/
theorem Consistent.written (h : s.Consistent r store) (hreads : s.reads = []) {context : ObserverContext} {call : RepositoryCall}
    {log : List (List UInt8)}
    (hdisjoint : Disjoint (created r s.live.store (r.perform context call s.live.store).2) s.issued)
    (hall : AllImported (importEvent r) log (freshImporter (Counted.fresh store)))
    (hstored : (Persistence.imported (importEvent r) log (freshImporter (Counted.fresh store))).store =
      Counted.fresh (r.perform context call s.live.store).2)
    (hvisits : (Persistence.imported (importEvent r) log (freshImporter (Counted.fresh store))).cachedNrOfThreadVisits =
      (s.imported r store).cachedNrOfThreadVisits)
    (hpages : (Persistence.imported (importEvent r) log (freshImporter (Counted.fresh store))).latestThreadVisitedPage =
      (s.imported r store).latestThreadVisitedPage) :
    ({ s with
      live := (s.live.perform r context call).2
      log := log
      issued := s.issued ∪ created r s.live.store (r.perform context call s.live.store).2 } : CounterSystem σ).Consistent
        r store := by
  have hnew {id : UuidString} (hid : id ∈ created r s.live.store (r.perform context call s.live.store).2) :
      s.NotCounted r store id := h.notCounted id fun hissued => (Finset.disjoint_left.1 hdisjoint) hid hissued
  refine ⟨hall, hstored, fun id hid => ?_, fun user huser id => ?_,
    fun read hread => absurd (hreads ▸ hread : read ∈ []) List.not_mem_nil, fun id hid => ?_, fun id hid => ?_,
    fun id hid => ?_, fun id hid => ?_, fun id hid => ?_, h.destroyed⟩
  · have hid : id ∈ r.threads (r.perform context call s.live.store).2 := hid
    show keepOf _ 0 s.live.visited id < 2 ^ 32 ∧ UInt32.ofNat (keepOf _ 0 s.live.visited id) =
      ((Persistence.imported (importEvent r) log _).cachedNrOfThreadVisits id).getD 0 + _ + pendingVisits s.reads id
    rw [keepOf_of_mem hid, hvisits]
    by_cases hold : id ∈ r.threads s.live.store
    · exact h.visited id hold
    · have hnone := hnew (mem_created_threads hid hold)
      rw [hnone.visited, hnone.importedVisits, hnone.cachedVisits, hreads]
      exact ⟨Nat.two_pow_pos 32, rfl⟩
  · have huser : user ∈ r.users (r.perform context call s.live.store).2 := huser
    refine .inl ?_
    show keepOf _ (fun _ => 0) s.live.latestPageVisited user id =
      (Option.or _ ((Persistence.imported (importEvent r) log _).latestThreadVisitedPage user id)).getD 0
    rw [keepOf_of_mem huser, hpages]
    by_cases hold : user ∈ r.users s.live.store
    · refine (h.latestPageVisited user hold id).resolve_right fun hpending => ?_
      rw [PageIsPending, hreads] at hpending
      exact absurd hpending.2 List.not_mem_nil
    · have hnone := hnew (mem_created_users huser hold)
      rw [hnone.latestPageVisited, hnone.importedPages, hnone.cachedPages]
      rfl
  · have hid : id ∈ r.attachments (r.perform context call s.live.store).2 := hid
    show keepOf _ 0 s.live.nrOfGetRequests id = 0
    rw [keepOf_of_mem hid]
    by_cases hold : id ∈ r.attachments s.live.store
    · exact h.nrOfGetRequests id hold
    · exact (hnew (mem_created_attachments hid hold)).nrOfGetRequests
  · by_cases hold : id ∈ r.users s.live.store
    · exact Finset.mem_union_left _ (h.users hold)
    · exact Finset.mem_union_right _ (mem_created_users hid hold)
  · by_cases hold : id ∈ r.threads s.live.store
    · exact Finset.mem_union_left _ (h.threads hold)
    · exact Finset.mem_union_right _ (mem_created_threads hid hold)
  · by_cases hold : id ∈ r.attachments s.live.store
    · exact Finset.mem_union_left _ (h.attachments hold)
    · exact Finset.mem_union_right _ (mem_created_attachments hid hold)
  · have hnone := h.notCounted id fun hissued => hid (Finset.mem_union_left _ hissued)
    exact {
      visited := keepOf_of_zero hnone.visited
      nrOfGetRequests := keepOf_of_zero hnone.nrOfGetRequests
      latestPageVisited := fun threadId =>
        congrFun (keepOf_of_zero (funext hnone.latestPageVisited : s.live.latestPageVisited id = fun _ => 0)) threadId
      cachedVisits := hnone.cachedVisits
      cachedPages := hnone.cachedPages
      importedVisits := by
        show ((Persistence.imported (importEvent r) log _).cachedNrOfThreadVisits id).getD 0 = 0
        rw [hvisits]
        exact hnone.importedVisits
      importedPages := fun threadId => by
        show (Persistence.imported (importEvent r) log _).latestThreadVisitedPage id threadId = none
        rw [hpages]
        exact hnone.importedPages threadId }

theorem Consistent.write (h : s.Consistent r store) {context : ObserverContext} {call : RepositoryCall}
    {s' : CounterSystem σ} (hlossless : Lossless r s (.write context call)) (hstep : s.write r context call = some s') :
    s'.Consistent r store := by
  unfold CounterSystem.write at hstep
  dsimp only at hstep
  split at hstep
  case isFalse => cases hstep
  case isTrue hallowed =>
    obtain ⟨hreads, hdisjoint⟩ := hallowed
    split at hstep
    case h_2 => cases hstep
    case h_1 blob hblob =>
      obtain rfl := Option.some.inj hstep
      have hstatus : (s.live.perform r context call).1 = (r.perform context call s.live.store).1 := rfl
      have hcases : if accepts (r.perform context call s.live.store).1 then call.Recordable
          else (r.perform context call s.live.store).2 = s.live.store := hlossless
      rw [hstatus]
      split at hcases
      case isTrue haccepted =>
        have himport := importEvent_write hblob hcases h.stored haccepted
        have himported : Persistence.imported (importEvent r) (s.log ++ [blob]) (freshImporter (Counted.fresh store)) =
            { (s.imported r store).withContext context with
              store := Counted.fresh (r.perform context call s.live.store).2 } := by
          rw [imported_append]
          exact congrArg Prod.snd himport
        rw [if_pos haccepted]
        refine h.written hreads hdisjoint (h.all.append _ ⟨congrArg Prod.fst himport, trivial⟩) ?_ ?_ ?_
        all_goals
          rw [himported]
          try rfl
      case isFalse hrejected =>
        rw [if_neg hrejected]
        refine h.written hreads hdisjoint h.all ?_ rfl rfl
        rw [hcases]
        exact h.stored

/-! ### Runs -/

theorem Consistent.step (h : s.Consistent r store) {action : CounterAction} {s' : CounterSystem σ}
    (hlossless : Lossless r s action) (hstep : s.step r action = some s') : s'.Consistent r store := by
  unfold CounterSystem.step at hstep
  split at hstep
  case isFalse => cases hstep
  case isTrue hrunning =>
    cases action with
    | write context call => exact h.write hlossless hstep
    | getDiscussionThreadById user id display =>
      obtain rfl := Option.some.inj hstep
      exact h.getDiscussionThreadById hrunning hlossless
    | canGetAttachment user id =>
      obtain rfl := Option.some.inj hstep
      rw [CounterSystem.canGetAttachment, if_neg hlossless]
      exact h
    | getAttachment user id =>
      obtain rfl := Option.some.inj hstep
      exact h.getAttachment hrunning user id
    | tellObserver i => exact h.tellObserver hrunning hlossless hstep
    | updatePeriodicWrites =>
      obtain rfl := Option.some.inj hstep
      exact h.updatePeriodicWrites
    | destroy =>
      obtain rfl := Option.some.inj hstep
      obtain ⟨hvisits, hpages, hreads⟩ := hlossless
      exact { h with
        notCounted := fun id hid => { h.notCounted id hid with }
        destroyed := fun _ => ⟨AList.ext hvisits, AList.ext hpages, hreads⟩ }

instance (r : CountedRepositories σ) [DecidableEq σ] (s : CounterSystem σ) (action : CounterAction) :
    Decidable (Lossless r s action) := by
  cases action with
  | tellObserver i =>
    unfold Lossless
    dsimp only
    split <;> infer_instance
  | _ =>
    unfold Lossless
    infer_instance

end CounterSystem

end Forum.Persistence
