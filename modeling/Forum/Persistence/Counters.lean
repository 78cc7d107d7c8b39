import Mathlib.Data.List.AList
import Forum.Library.Runs
import Forum.Persistence.RecordedEvents
import Forum.Persistence.EventFile

/-!
# Counters

Views of threads and requests of attachments are counted by the entities, at once, and by the
`EventObserver`, which writes what it counted from time to time. The import adds the counts up and gives
them back to the entities at its end. The repositories are a parameter again, and with them which
entities a store holds; an entity that is new starts to count at zero.

Requests that only read share a lock. Between the steps in which one of them counts and in which it tells the
observer there may be steps of others, and of the timer, but no direct write.
-/

namespace Forum.Persistence

open Forum.Library
open Forum.Repository (StatusCode)

/-- What the counters need of the repositories. -/
structure CountedRepositories (σ : Type) where
  perform : ObserverContext → RepositoryCall → σ → StatusCode × σ
  users : σ → Finset UuidString
  threads : σ → Finset UuidString
  attachments : σ → Finset UuidString
  latestVisibleChange : σ → UuidString → Int64
  /-- `authorization_->getDiscussionThreadById` for a user and a thread. -/
  authorizedGetDiscussionThreadById : σ → UuidString → UuidString → Bool
  /-- `authorization_->canGetAttachment` for a user and an attachment. -/
  authorizedCanGetAttachment : σ → UuidString → UuidString → Bool

/-- What a request asks to display. -/
structure DisplayContext where
  pageNumber : Int64
  checkNotChangedSince : Int64

/-- A store and the counters of its entities. Page zero stands for no page. -/
structure Counted (σ : Type) where
  store : σ
  visited : UuidString → ℕ
  nrOfGetRequests : UuidString → UInt32
  latestPageVisited : UuidString → UuidString → UInt32

/-- Keep the values of the ids of a collection only. -/
def keepOf {β : Type} (ids : Finset UuidString) (zero : β) (values : UuidString → β) : UuidString → β :=
  fun id => if id ∈ ids then values id else zero

variable {σ : Type} (r : CountedRepositories σ)

namespace Counted

/-- The store with every counter at zero. -/
def fresh (store : σ) : Counted σ := ⟨store, fun _ => 0, fun _ => 0, fun _ _ => 0⟩

/-- A direct write. The counters of what it deletes go with it. -/
def perform (context : ObserverContext) (call : RepositoryCall) (c : Counted σ) : StatusCode × Counted σ :=
  let result := r.perform context call c.store
  (result.1, {
    store := result.2
    visited := keepOf (r.threads result.2) 0 c.visited
    nrOfGetRequests := keepOf (r.attachments result.2) 0 c.nrOfGetRequests
    latestPageVisited := keepOf (r.users result.2) (fun _ => 0) c.latestPageVisited })

/-- `updateLatestPageVisited` of a user: whether the page is a later one. -/
def updateLatestPageVisited (c : Counted σ) (user threadId : UuidString) (pageNumber : UInt32) :
    Bool × Counted σ :=
  if c.latestPageVisited user threadId < pageNumber then
    (true, { c with
      latestPageVisited := Function.update c.latestPageVisited user
        (Function.update (c.latestPageVisited user) threadId pageNumber) })
  else (false, c)

end Counted

/-! ### The caches of the observer -/

/-- The maps of the `EventObserver`. A flush writes the entries of a map in some order. -/
structure ObserverCaches where
  cachedNrOfThreadVisits : AList fun _ : UuidString => UInt32
  cachedLatestVisitedPage : AList fun _ : UuidString × UuidString => UInt32
  cachedNrOfAttachmentGets : AList fun _ : UuidString => UInt32

namespace ObserverCaches

/-- The maps as they are constructed. -/
def empty : ObserverCaches := ⟨∅, ∅, ∅⟩

/-- `++it->second`, or a new entry. -/
def increment (cached : AList fun _ : UuidString => UInt32) (id : UuidString) : AList fun _ : UuidString => UInt32 :=
  cached.insert id (match cached.lookup id with | some n => n + 1 | none => 1)

/-- `onGetDiscussionThreadById`. -/
def onGetDiscussionThreadById (performedBy threadId : UuidString) (latestVisitedPage : UInt32)
    (caches : ObserverCaches) : ObserverCaches :=
  let caches := { caches with cachedNrOfThreadVisits := increment caches.cachedNrOfThreadVisits threadId }
  if latestVisitedPage > 0 then
    { caches with
      cachedLatestVisitedPage := caches.cachedLatestVisitedPage.insert (performedBy, threadId) latestVisitedPage }
  else caches

/-- `onGetAttachment`. -/
def onGetAttachment (attachmentId : UuidString) (caches : ObserverCaches) : ObserverCaches :=
  { caches with cachedNrOfAttachmentGets := increment caches.cachedNrOfAttachmentGets attachmentId }

/-- What `updatePeriodicWrites` records. -/
def blobs (caches : ObserverCaches) : List (List UInt8) :=
  caches.cachedNrOfThreadVisits.entries.map (fun pair => EventObserver.recordNumberOfVisits pair.1 pair.2) ++
    caches.cachedLatestVisitedPage.entries.map (fun pair =>
      EventObserver.recordLatestVisitedPage pair.1.1 pair.1.2 pair.2) ++
    caches.cachedNrOfAttachmentGets.entries.map (fun pair => EventObserver.recordNumberOfGets pair.1 pair.2)

end ObserverCaches

/-! ### The running system -/

/-- A request that has counted and has yet to tell the observer. It holds the shared lock. -/
inductive PendingRead
  | getDiscussionThreadById (user id : UuidString) (latestVisitedPage : UInt32)
  | getAttachment (id : UuidString)
  deriving DecidableEq

/-- What the observer does when it is told. -/
def ObserverCaches.onRead (caches : ObserverCaches) : PendingRead → ObserverCaches
  | .getDiscussionThreadById user id latestVisitedPage => caches.onGetDiscussionThreadById user id latestVisitedPage
  | .getAttachment id => caches.onGetAttachment id

/-- The store in memory, the requests under way, the observer with what it recorded, the ids that were given to entities
so far, and whether the observer is there. -/
structure CounterSystem (σ : Type) where
  live : Counted σ
  reads : List PendingRead
  caches : ObserverCaches
  log : List (List UInt8)
  issued : Finset UuidString
  running : Bool

/-- What can happen. Requests that read count first and tell the observer later, which ends them, in any order. The thread
of the timer calls `updatePeriodicWrites` whenever it comes to it. -/
inductive CounterAction
  | write (context : ObserverContext) (call : RepositoryCall)
  | getDiscussionThreadById (user id : UuidString) (display : DisplayContext)
  | canGetAttachment (user id : UuidString)
  | getAttachment (user id : UuidString)
  | tellObserver (i : ℕ)
  | updatePeriodicWrites
  | destroy

namespace CounterSystem

/-- The ids of the entities with counters. -/
def ids (store : σ) : Finset UuidString := r.users store ∪ r.threads store ∪ r.attachments store

/-- The ids that are new in a collection of a store. -/
def created (before after : σ) : Finset UuidString :=
  (r.users after \ r.users before) ∪ (r.threads after \ r.threads before) ∪
    (r.attachments after \ r.attachments before)

/-- The system before its first action. -/
def start (store : σ) : CounterSystem σ := ⟨Counted.fresh store, [], .empty, [], ids r store, true⟩

/-- Whether `getDiscussionThreadById` leaves early, as the thread did not change. -/
def NotUpdated (s : CounterSystem σ) (id : UuidString) (display : DisplayContext) : Prop :=
  display.checkNotChangedSince > 0 ∧ r.latestVisibleChange s.live.store id ≤ display.checkNotChangedSince

instance (s : CounterSystem σ) (id : UuidString) (display : DisplayContext) :
    Decidable (s.NotUpdated r id display) := by
  unfold NotUpdated
  infer_instance

/-- A direct write, which no other request shares the lock with. It is recorded if it is accepted. The ids of new entities
are new. -/
def write (context : ObserverContext) (call : RepositoryCall) (s : CounterSystem σ) : Option (CounterSystem σ) :=
  let result := s.live.perform r context call
  let created := created r s.live.store result.2.store
  if s.reads = [] ∧ Disjoint created s.issued then
    match call.record context with
    | some blob => some { s with
        live := result.2
        log := if Import.accepts result.1 then s.log ++ [blob] else s.log
        issued := s.issued ∪ created }
    | none => none
  else none

/-- The page that the view of a thread shows is kept for a user who is not anonymous. -/
def visitPage (user id : UuidString) (display : DisplayContext) (c : Counted σ) : UInt32 × Counted σ :=
  if user ∈ r.users c.store ∧ display.pageNumber > 0 then
    let pageNumber := display.pageNumber.toUInt64.toUInt32
    let updated := c.updateLatestPageVisited user id pageNumber
    (if updated.1 then pageNumber else 0, updated.2)
  else (0, c)

/-- `getDiscussionThreadById`, until it tells the observer. -/
def getDiscussionThreadById (user id : UuidString) (display : DisplayContext) (s : CounterSystem σ) :
    CounterSystem σ :=
  if id ∈ r.threads s.live.store ∧ r.authorizedGetDiscussionThreadById s.live.store user id = true then
    let live := { s.live with visited := Function.update s.live.visited id (s.live.visited id + 1) }
    let visit := visitPage r user id display live
    if s.NotUpdated r id display then { s with live := visit.2 }
    else { s with live := visit.2, reads := s.reads ++ [.getDiscussionThreadById user id visit.1] }
  else s

/-- `canGetAttachment`, until it tells the observer. -/
def canGetAttachment (user id : UuidString) (s : CounterSystem σ) : CounterSystem σ :=
  if id ∈ r.attachments s.live.store ∧ r.authorizedCanGetAttachment s.live.store user id = true then
    { s with
      live := { s.live with
        nrOfGetRequests := Function.update s.live.nrOfGetRequests id (s.live.nrOfGetRequests id + 1) }
      reads := s.reads ++ [.getAttachment id] }
  else s

/-- `getAttachment`. It tells the observer but does not count. -/
def getAttachment (user id : UuidString) (s : CounterSystem σ) : CounterSystem σ :=
  if id ∈ r.attachments s.live.store ∧ r.authorizedCanGetAttachment s.live.store user id = true then
    { s with reads := s.reads ++ [.getAttachment id] }
  else s

/-- A request tells the observer, and gives the lock back. -/
def tellObserver (i : ℕ) (s : CounterSystem σ) : Option (CounterSystem σ) :=
  match s.reads[i]? with
  | some read => some { s with reads := s.reads.eraseIdx i, caches := s.caches.onRead read }
  | none => none

/-- `updatePeriodicWrites`. -/
def updatePeriodicWrites (s : CounterSystem σ) : CounterSystem σ :=
  { s with log := s.log ++ s.caches.blobs, caches := .empty }

/-- `~EventObserverImpl`: the caches go as they are. -/
def destroy (s : CounterSystem σ) : CounterSystem σ := { s with running := false }

/-- One action. -/
def step (s : CounterSystem σ) (action : CounterAction) : Option (CounterSystem σ) :=
  if s.running then
    match action with
    | .write context call => s.write r context call
    | .getDiscussionThreadById user id display => some (s.getDiscussionThreadById r user id display)
    | .canGetAttachment user id => some (s.canGetAttachment r user id)
    | .getAttachment user id => some (s.getAttachment r user id)
    | .tellObserver i => s.tellObserver i
    | .updatePeriodicWrites => some s.updatePeriodicWrites
    | .destroy => some s.destroy
  else none

end CounterSystem

/-! ### The import -/

/-- `processEvent` of a blob, over repositories that count. -/
def importEvent (bytes : List UInt8) (importer : Importer (Counted σ)) : Bool × Importer (Counted σ) :=
  processEvent { memory := Memory.holding 0 bytes, perform := Counted.perform r } 0 bytes.length importer

/-- `updateAttachmentGetCount`, which `import` does not call. -/
def updateAttachmentGetCount (importer : Importer (Counted σ)) : Importer (Counted σ) :=
  { importer with store := { importer.store with
      nrOfGetRequests := fun id => match importer.cachedNrOfAttachmentGets id with
        | some nrOfGets =>
          if id ∈ r.attachments importer.store.store then importer.store.nrOfGetRequests id + nrOfGets
          else importer.store.nrOfGetRequests id
        | none => importer.store.nrOfGetRequests id } }

end Forum.Persistence
