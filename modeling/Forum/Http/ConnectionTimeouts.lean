import Mathlib.Data.Int.Notation
import Mathlib.Data.List.Nodup
import Mathlib.Logic.Function.Basic
import Mathlib.Tactic.SplitIfs
import Forum.Library.Runs

/-!
# Timeouts of connections

`ConnectionManagerWithTimeout` over `FixedHttpConnectionManager`: a connection is an object of a pool, known by its
address, and `TimeoutManager` disconnects the addresses that it holds when their time has come. A connection reads as soon
as its object is there, before its address is added to the timeouts; so it may be closed first, on another thread.

Each of these is a step: the delegate's `newConnection`, `addExpireIn`, the `remove` of `closeConnection`, its delegate's
`closeConnection`, and `checkTimeout`. When no connection begins to close before its address is added, the addresses are
those of open connections, and each is disconnected when it should (`timeoutsHit_of_admissible`).
-/

namespace Forum.Http

open Library

/-! ### The steps -/

/-- Where a connection stands: its object reads, it has been removed from the timeouts, or its object has been returned to
the pool. -/
inductive ConnectionStage
  | reading | removed | returned
  deriving DecidableEq

/-- A connection, with the time at which it expires, once that is added, and the first check when that time had come. -/
structure TimedConnection where
  address : ℕ
  stage : ConnectionStage
  expiresAt : Option ℤ
  dueAt : Option ℤ

/-- The connections there were, which of them the object at an address is, and the entries of the timeouts. Of each call of
`disconnectConnection`, which connection the object was, if any, and when. -/
structure ConnectionSystem where
  clock : ℤ
  connections : ℕ → Option TimedConnection
  pool : ℕ → Option ℕ
  timeouts : List (ℕ × ℤ)
  disconnected : List (Option ℕ × ℤ)

/-- What a thread does to the connections or to their timeouts. -/
inductive ConnectionAction
  | tick (now : ℤ)
  | newConnection (connection address : ℕ)
  | addExpireIn (connection : ℕ)
  | remove (connection : ℕ)
  | returnObject (connection : ℕ)
  | checkTimeout

namespace ConnectionSystem

/-- Before any connection. -/
def start (now : ℤ) : ConnectionSystem := ⟨now, fun _ => none, fun _ => none, [], []⟩

/-- Overwrites the state of a connection. -/
def setConnection (id : ℕ) (connection : TimedConnection) (s : ConnectionSystem) : ConnectionSystem :=
  { s with connections := Function.update s.connections id (some connection) }

/-- `addExpireAt`: nothing is inserted when there is an entry for the address. -/
def addExpireAt (address : ℕ) (expiresAt : ℤ) (s : ConnectionSystem) : ConnectionSystem :=
  if address ∈ s.timeouts.map Prod.fst then s else { s with timeouts := (address, expiresAt) :: s.timeouts }

/-- `checkTimeout`: what has expired is disconnected and erased. -/
def checkTimeout (s : ConnectionSystem) : ConnectionSystem :=
  { s with
    connections := fun id => (s.connections id).map fun connection =>
      { connection with dueAt := connection.dueAt.or ((connection.expiresAt.filter (· ≤ s.clock)).map fun _ => s.clock) }
    timeouts := s.timeouts.filter fun entry => s.clock < entry.2
    disconnected := s.disconnected ++
      (s.timeouts.filter fun entry => entry.2 ≤ s.clock).map fun entry => (s.pool entry.1, s.clock) }

/-- A step, for a default timeout. A connection takes an object of the pool that is free. -/
def step (timeout : ℤ) (s : ConnectionSystem) : ConnectionAction → Option ConnectionSystem
  | .tick now => if s.clock ≤ now then some { s with clock := now } else none
  | .newConnection id address =>
    if s.connections id = none ∧ s.pool address = none then
      some ({ s with pool := Function.update s.pool address (some id) }.setConnection id ⟨address, .reading, none, none⟩)
    else none
  | .addExpireIn id =>
    (s.connections id).bind fun connection =>
      if connection.expiresAt = none then
        some ((s.addExpireAt connection.address (s.clock + timeout)).setConnection id
          { connection with expiresAt := some (s.clock + timeout) })
      else none
  | .remove id =>
    (s.connections id).bind fun connection =>
      if connection.stage = .reading then
        some ({ s with timeouts := s.timeouts.filter (·.1 ≠ connection.address) }.setConnection id
          { connection with stage := .removed })
      else none
  | .returnObject id =>
    (s.connections id).bind fun connection =>
      if connection.stage = .removed then
        some ({ s with pool := Function.update s.pool connection.address none }.setConnection id
          { connection with stage := .returned })
      else none
  | .checkTimeout => some s.checkTimeout

/-- The times at which a connection was disconnected. -/
def disconnectedAt (s : ConnectionSystem) (id : ℕ) : List ℤ :=
  (s.disconnected.filter fun call => call.1 = some id).map Prod.snd

/-- The timeouts are those of objects that are not in the pool, no other object was disconnected, and a connection is
disconnected once, at the first check when its time has come, if it is open then. -/
structure TimeoutsHit (s : ConnectionSystem) : Prop where
  held : ∀ entry ∈ s.timeouts, (s.pool entry.1).isSome
  inUse : ∀ call ∈ s.disconnected, call.1.isSome
  once : ∀ id connection, s.connections id = some connection →
    s.disconnectedAt id = [] ∨ s.disconnectedAt id = connection.dueAt.toList
  whenDue : ∀ id connection, s.connections id = some connection → connection.stage = .reading →
    s.disconnectedAt id = connection.dueAt.toList

/-- An address is added for a connection that does not close yet. -/
def AddsOpen (s : ConnectionSystem) : ConnectionAction → Prop
  | .addExpireIn id => ∀ connection, s.connections id = some connection → connection.stage = .reading
  | _ => True

/-! ### What the steps keep -/

/-- What holds of one connection: it is listed from when its address is added to when it is due. -/
structure Holds (s : ConnectionSystem) (id : ℕ) (connection : TimedConnection) : Prop where
  listed : connection.stage = .reading → ∀ expiresAt, connection.expiresAt = some expiresAt → connection.dueAt = none →
    (connection.address, expiresAt) ∈ s.timeouts
  once : s.disconnectedAt id = [] ∨ s.disconnectedAt id = connection.dueAt.toList
  whenDue : connection.stage = .reading → s.disconnectedAt id = connection.dueAt.toList
  pending : connection.expiresAt = none → connection.dueAt = none

/-- The objects in use are those of connections that are not returned, and the entries are those of open connections that
have not been due. -/
structure Sound (s : ConnectionSystem) : Prop where
  owner : ∀ address id, s.pool address = some id ↔
    ∃ connection, s.connections id = some connection ∧ connection.address = address ∧ connection.stage ≠ .returned
  keys : (s.timeouts.map Prod.fst).Nodup
  entry : ∀ entry ∈ s.timeouts, ∃ id connection, s.connections id = some connection ∧ connection.address = entry.1 ∧
    connection.stage = .reading ∧ connection.expiresAt = some entry.2 ∧ connection.dueAt = none
  holds : ∀ id connection, s.connections id = some connection → s.Holds id connection
  inUse : ∀ call ∈ s.disconnected, call.1.isSome
  known : ∀ id, s.connections id = none → s.disconnectedAt id = []

theorem Sound.timeoutsHit {s : ConnectionSystem} (h : s.Sound) : s.TimeoutsHit where
  held := by
    intro entry hentry
    obtain ⟨id, connection, hid, haddress, hstage, -⟩ := h.entry entry hentry
    have howner := (h.owner entry.1 id).2 ⟨connection, hid, haddress, by rw [hstage]; decide⟩
    rw [howner]
    rfl
  inUse := h.inUse
  once := fun id connection hid => (h.holds id connection hid).once
  whenDue := fun id connection hid => (h.holds id connection hid).whenDue

theorem sound_start (now : ℤ) : (start now).Sound where
  owner := fun _ _ => ⟨fun h => (by cases h), fun ⟨_, h, _⟩ => (by cases h)⟩
  keys := List.nodup_nil
  entry := fun _ h => (by cases h)
  holds := fun _ _ h => (by cases h)
  inUse := fun _ h => (by cases h)
  known := fun _ _ => rfl

theorem connections_setConnection (s : ConnectionSystem) (id other : ℕ) (connection : TimedConnection) :
    (s.setConnection id connection).connections other =
      if other = id then some connection else s.connections other := by
  unfold setConnection
  split_ifs with heq
  · rw [heq]
    exact Function.update_self _ _ _
  · exact Function.update_of_ne heq _ _

variable {timeout : ℤ} {s s' : ConnectionSystem} {id : ℕ} {connection : TimedConnection}

/-- Only one connection has an object that is not in the pool. -/
theorem Sound.id_eq (h : s.Sound) {other : ℕ} {connection' : TimedConnection} (hid : s.connections id = some connection)
    (hother : s.connections other = some connection') (haddress : connection'.address = connection.address)
    (hstage : connection.stage ≠ .returned) (hstage' : connection'.stage ≠ .returned) : other = id := by
  have hfirst := (h.owner connection.address id).2 ⟨connection, hid, rfl, hstage⟩
  have hsecond := (h.owner connection.address other).2 ⟨connection', hother, haddress, hstage'⟩
  rw [hfirst] at hsecond
  exact (Option.some.inj hsecond).symm

/-- What holds of a connection depends on the entry for its address, and on when it was disconnected. -/
theorem Holds.congr (h : s.Holds id connection)
    (htimeouts : connection.stage = .reading → ∀ expiresAt, (connection.address, expiresAt) ∈ s.timeouts →
      (connection.address, expiresAt) ∈ s'.timeouts)
    (hdisconnected : s'.disconnected = s.disconnected) : s'.Holds id connection := by
  have hsame : s'.disconnectedAt id = s.disconnectedAt id := by
    unfold disconnectedAt
    rw [hdisconnected]
  refine ⟨fun hstage expiresAt hexpires hdue => ?_, ?_, ?_, h.pending⟩
  · exact htimeouts hstage expiresAt (h.listed hstage expiresAt hexpires hdue)
  · rw [hsame]
    exact h.once
  · rw [hsame]
    exact h.whenDue

/-- A step that changes one connection: the others are as they were, so only what concerns this one is left to show. -/
theorem Sound.change (h : s.Sound) {connection' : TimedConnection} {pool : ℕ → Option ℕ} {timeouts : List (ℕ × ℤ)}
    (howner : ∀ address other, pool address = some other ↔
      if other = id then connection'.address = address ∧ connection'.stage ≠ .returned else s.pool address = some other)
    (hkeys : (timeouts.map Prod.fst).Nodup)
    (hentry : ∀ entry ∈ timeouts, (connection'.address = entry.1 ∧ connection'.stage = .reading ∧
      connection'.expiresAt = some entry.2 ∧ connection'.dueAt = none) ∨
      entry ∈ s.timeouts ∧ ∀ old, s.connections id = some old → old.stage = .reading → old.address ≠ entry.1)
    (hkept : ∀ entry ∈ s.timeouts, entry ∈ timeouts ∨ ∃ old, s.connections id = some old ∧ old.stage ≠ .returned ∧
      old.address = entry.1)
    (hholds : ({ s with pool := pool, timeouts := timeouts } : ConnectionSystem).Holds id connection') :
    ({ s with pool := pool, timeouts := timeouts }.setConnection id connection' : ConnectionSystem).Sound := by
  refine ⟨fun address other => ?_, hkeys, fun entry hmem => ?_, fun other old hother => ?_, h.inUse, fun other hother => ?_⟩
  · rw [connections_setConnection]
    show pool address = some other ↔ _
    rw [howner]
    split_ifs with heq
    · constructor
      · exact fun ⟨haddress, hstage⟩ => ⟨connection', rfl, haddress, hstage⟩
      · rintro ⟨_, hsame, haddress, hstage⟩
        cases hsame
        exact ⟨haddress, hstage⟩
    · exact h.owner address other
  · rcases hentry entry hmem with hown | ⟨hold, hnot⟩
    · exact ⟨id, connection', by rw [connections_setConnection, if_pos rfl], hown⟩
    · obtain ⟨other, old, hother, haddress, hstage, hrest⟩ := h.entry entry hold
      refine ⟨other, old, ?_, haddress, hstage, hrest⟩
      rw [connections_setConnection, if_neg]
      · exact hother
      · rintro rfl
        exact hnot old hother hstage haddress
  · rw [connections_setConnection] at hother
    split_ifs at hother with heq
    · cases hother
      rw [heq]
      exact hholds.congr (fun _ _ hmem => hmem) rfl
    · have hsame : s.connections other = some old := hother
      refine (h.holds other old hsame).congr (fun hstage expiresAt hmem => ?_) rfl
      rcases hkept _ hmem with hkept | ⟨mine, hmine, hreturned, haddress⟩
      · exact hkept
      · exact absurd (h.id_eq hmine hsame haddress.symm hreturned (by rw [hstage]; decide)) heq
  · rw [connections_setConnection] at hother
    split_ifs at hother
    exact h.known other hother

theorem Sound.newConnection (h : s.Sound) {address : ℕ} (hid : s.connections id = none) (haddress : s.pool address = none) :
    ({ s with pool := Function.update s.pool address (some id) }.setConnection id
      ⟨address, .reading, none, none⟩ : ConnectionSystem).Sound := by
  have hunknown : ∀ other, s.pool other ≠ some id := by
    intro other hother
    obtain ⟨connection, hconnection, -⟩ := (h.owner other id).1 hother
    rw [hid] at hconnection
    cases hconnection
  refine h.change (fun a other => ?_) h.keys (fun entry hentry => Or.inr ⟨hentry, fun old hold => ?_⟩)
    (fun entry hentry => Or.inl hentry) ⟨fun _ _ hexpires => ?_, Or.inl (h.known id hid), fun _ => h.known id hid, fun _ => rfl⟩
  · by_cases ha : a = address
    · rw [ha, Function.update_self, haddress]
      constructor
      · intro heq
        rw [if_pos (Option.some.inj heq).symm]
        exact ⟨rfl, ConnectionStage.noConfusion⟩
      · intro hsame
        split_ifs at hsame with heq
        · rw [heq]
    · rw [Function.update_of_ne ha]
      split_ifs with heq
      · rw [heq]
        exact ⟨fun hpool => absurd hpool (hunknown a), fun hsame => absurd hsame.1.symm ha⟩
      · rfl
  · rw [hid] at hold
    cases hold
  · cases hexpires

theorem Sound.addExpireIn (h : s.Sound) (hid : s.connections id = some connection) (hstage : connection.stage = .reading)
    (hnone : connection.expiresAt = none) (expiresAt : ℤ) :
    ((s.addExpireAt connection.address expiresAt).setConnection id
      { connection with expiresAt := some expiresAt } : ConnectionSystem).Sound := by
  have hreturned : connection.stage ≠ .returned := by
    rw [hstage]
    decide
  have hnew : connection.address ∉ s.timeouts.map Prod.fst := by
    intro hmem
    obtain ⟨entry, hentry, haddress⟩ := List.mem_map.1 hmem
    obtain ⟨other, old, hother, hold, hreading, hexpires, -⟩ := h.entry entry hentry
    obtain rfl := h.id_eq hid hother (hold.trans haddress) hreturned (by rw [hreading]; decide)
    rw [hid] at hother
    cases hother
    rw [hnone] at hexpires
    cases hexpires
  have hdue := (h.holds id connection hid).pending hnone
  unfold addExpireAt
  rw [if_neg hnew]
  refine h.change (fun a other => ?_) ?_ (fun entry hentry => ?_) (fun entry hentry => Or.inl (List.mem_cons_of_mem _ hentry))
    ⟨fun _ e hexpires _ => ?_, (h.holds id connection hid).once, (h.holds id connection hid).whenDue, fun hnot => ?_⟩
  · split_ifs with heq
    · rw [heq, h.owner]
      constructor
      · rintro ⟨old, hold, haddress, hstage'⟩
        rw [hid] at hold
        cases hold
        exact ⟨haddress, hstage'⟩
      · exact fun hsame => ⟨connection, hid, hsame⟩
    · rfl
  · exact List.nodup_cons.2 ⟨hnew, h.keys⟩
  · rcases List.mem_cons.1 hentry with rfl | hentry
    · exact Or.inl ⟨rfl, hstage, rfl, hdue⟩
    · refine Or.inr ⟨hentry, fun old hold _ haddress => hnew ?_⟩
      rw [hid] at hold
      cases hold
      exact List.mem_map.2 ⟨entry, hentry, haddress.symm⟩
  · cases hexpires
    exact List.mem_cons_self
  · cases hnot

theorem Sound.remove (h : s.Sound) (hid : s.connections id = some connection) (hstage : connection.stage = .reading) :
    ({ s with timeouts := s.timeouts.filter (·.1 ≠ connection.address) }.setConnection id
      { connection with stage := .removed } : ConnectionSystem).Sound := by
  have hreturned : connection.stage ≠ .returned := by
    rw [hstage]
    decide
  refine h.change (fun a other => ?_) (h.keys.sublist (List.filter_sublist.map _)) (fun entry hentry => ?_)
    (fun entry hentry => ?_) ⟨fun hreading => ?_, (h.holds id connection hid).once, fun hreading => ?_,
      (h.holds id connection hid).pending⟩
  · split_ifs with heq
    · rw [heq, h.owner]
      constructor
      · rintro ⟨old, hold, haddress, -⟩
        rw [hid] at hold
        cases hold
        exact ⟨haddress, ConnectionStage.noConfusion⟩
      · exact fun hsame => ⟨connection, hid, hsame.1, hreturned⟩
    · rfl
  · obtain ⟨hold, hne⟩ := List.mem_filter.1 hentry
    refine Or.inr ⟨hold, fun old hsame _ haddress => ?_⟩
    rw [hid] at hsame
    cases hsame
    exact of_decide_eq_true hne haddress.symm
  · by_cases haddress : entry.1 = connection.address
    · exact Or.inr ⟨connection, hid, hreturned, haddress.symm⟩
    · exact Or.inl (List.mem_filter.2 ⟨hentry, decide_eq_true haddress⟩)
  · cases hreading
  · cases hreading

theorem Sound.returnObject (h : s.Sound) (hid : s.connections id = some connection) (hstage : connection.stage = .removed) :
    ({ s with pool := Function.update s.pool connection.address none }.setConnection id
      { connection with stage := .returned } : ConnectionSystem).Sound := by
  have hreturned : connection.stage ≠ .returned := by
    rw [hstage]
    decide
  have hpool := (h.owner connection.address id).2 ⟨connection, hid, rfl, hreturned⟩
  refine h.change (fun a other => ?_) h.keys (fun entry hentry => Or.inr ⟨hentry, fun old hold hreading => ?_⟩)
    (fun entry hentry => Or.inl hentry) ⟨fun hreading => ?_, (h.holds id connection hid).once, fun hreading => ?_,
      (h.holds id connection hid).pending⟩
  · by_cases ha : a = connection.address
    · rw [ha, Function.update_self]
      refine iff_of_false (fun hnone => by cases hnone) fun hsame => ?_
      split_ifs at hsame with heq
      · exact hsame.2 rfl
      · rw [hpool] at hsame
        exact heq (Option.some.inj hsame).symm
    · rw [Function.update_of_ne ha]
      split_ifs with heq
      · rw [heq]
        refine iff_of_false (fun hsame => ha ?_) fun hsame => hsame.2 rfl
        obtain ⟨old, hold, haddress, -⟩ := (h.owner a id).1 hsame
        rw [hid] at hold
        cases hold
        exact haddress.symm
      · rfl
  · rw [hid] at hold
    cases hold
    rw [hstage] at hreading
    cases hreading
  · cases hreading
  · cases hreading

/-! #### A check -/

/-- The times at which a check disconnects a connection. -/
def checked (s : ConnectionSystem) (id : ℕ) : List ℤ :=
  ((s.timeouts.filter fun entry => entry.2 ≤ s.clock).filter fun entry => s.pool entry.1 = some id).map fun _ => s.clock

theorem disconnectedAt_checkTimeout (s : ConnectionSystem) (id : ℕ) :
    s.checkTimeout.disconnectedAt id = s.disconnectedAt id ++ s.checked id := by
  unfold disconnectedAt checkTimeout checked
  dsimp only
  rw [List.filter_append, List.map_append, List.filter_map, List.map_map]
  rfl

/-- The entry of an address is that of the connection there. -/
theorem Sound.entry_of_pool (h : s.Sound) {entry : ℕ × ℤ} (hentry : entry ∈ s.timeouts) (hpool : s.pool entry.1 = some id)
    (hid : s.connections id = some connection) :
    connection.stage = .reading ∧ connection.expiresAt = some entry.2 ∧ connection.dueAt = none := by
  obtain ⟨other, old, hother, haddress, hreading, hexpires, hdue⟩ := h.entry entry hentry
  have howner := (h.owner entry.1 other).2 ⟨old, hother, haddress, by rw [hreading]; decide⟩
  rw [hpool] at howner
  cases howner
  rw [hid] at hother
  cases hother
  exact ⟨hreading, hexpires, hdue⟩

theorem Sound.checked_eq_nil (h : s.Sound) (hid : s.connections id = some connection)
    (hnot : ¬ (connection.stage = .reading ∧ connection.dueAt = none ∧
      ∃ expiresAt, connection.expiresAt = some expiresAt ∧ expiresAt ≤ s.clock)) : s.checked id = [] := by
  unfold checked
  rw [List.map_eq_nil_iff, List.filter_eq_nil_iff]
  intro entry hentry hpool
  obtain ⟨hmem, hle⟩ := List.mem_filter.1 hentry
  obtain ⟨hreading, hexpires, hdue⟩ := h.entry_of_pool hmem (of_decide_eq_true hpool) hid
  exact hnot ⟨hreading, hdue, entry.2, hexpires, of_decide_eq_true hle⟩

/-- A list without duplicates, all of whose elements are the same. -/
theorem eq_singleton {α : Type*} {list : List α} {a : α} (hnodup : list.Nodup) (hmem : a ∈ list)
    (hall : ∀ b ∈ list, b = a) : list = [a] := by
  cases list with
  | nil => cases hmem
  | cons b list =>
    obtain rfl := hall b List.mem_cons_self
    cases list with
    | nil => rfl
    | cons c list =>
      have heq := hall c (List.mem_cons_of_mem _ List.mem_cons_self)
      rw [heq] at hnodup
      exact absurd List.mem_cons_self (List.nodup_cons.1 hnodup).1

theorem Sound.checked_eq_singleton (h : s.Sound) (hid : s.connections id = some connection)
    (hreading : connection.stage = .reading) (hdue : connection.dueAt = none) {expiresAt : ℤ}
    (hexpires : connection.expiresAt = some expiresAt) (hle : expiresAt ≤ s.clock) : s.checked id = [s.clock] := by
  have hlisted := (h.holds id connection hid).listed hreading expiresAt hexpires hdue
  have hpool := (h.owner connection.address id).2 ⟨connection, hid, rfl, by rw [hreading]; decide⟩
  have hnodup : s.timeouts.Nodup := List.Nodup.of_map _ h.keys
  have hsingle : ((s.timeouts.filter fun entry => entry.2 ≤ s.clock).filter fun entry => s.pool entry.1 = some id) =
      [(connection.address, expiresAt)] := by
    refine eq_singleton ((hnodup.filter _).filter _) ?_ fun entry hentry => ?_
    · exact List.mem_filter.2 ⟨List.mem_filter.2 ⟨hlisted, decide_eq_true hle⟩, decide_eq_true hpool⟩
    · obtain ⟨hfirst, hsame⟩ := List.mem_filter.1 hentry
      obtain ⟨hmem, -⟩ := List.mem_filter.1 hfirst
      obtain ⟨-, hsecond, -⟩ := h.entry_of_pool hmem (of_decide_eq_true hsame) hid
      obtain ⟨old, hold, haddress, -⟩ := (h.owner entry.1 id).1 (of_decide_eq_true hsame)
      rw [hid] at hold
      cases hold
      rw [hexpires] at hsecond
      exact Prod.ext haddress.symm (Option.some.inj hsecond).symm
  unfold checked
  rw [hsingle]
  rfl

/-- A connection behind a check. -/
def due (clock : ℤ) (connection : TimedConnection) : TimedConnection :=
  { connection with dueAt := connection.dueAt.or ((connection.expiresAt.filter (· ≤ clock)).map fun _ => clock) }

theorem connections_checkTimeout (s : ConnectionSystem) (id : ℕ) :
    s.checkTimeout.connections id = (s.connections id).map (due s.clock) := rfl

theorem Sound.holds_checkTimeout (h : s.Sound) (hid : s.connections id = some connection) :
    s.checkTimeout.Holds id (due s.clock connection) := by
  have hold := h.holds id connection hid
  have hdisconnected := disconnectedAt_checkTimeout s id
  by_cases hexpired : connection.stage = .reading ∧ connection.dueAt = none ∧
      ∃ expiresAt, connection.expiresAt = some expiresAt ∧ expiresAt ≤ s.clock
  · obtain ⟨hreading, hdue, expiresAt, hexpires, hle⟩ := hexpired
    have hnow : (due s.clock connection).dueAt = some s.clock := by
      unfold due
      simp only [hdue, hexpires, Option.filter_some, decide_eq_true hle, if_true, Option.map_some, Option.none_or]
    rw [h.checked_eq_singleton hid hreading hdue hexpires hle, hold.whenDue hreading, hdue] at hdisconnected
    refine ⟨fun _ _ _ hnone => ?_, Or.inr ?_, fun _ => ?_, fun hnone => ?_⟩
    · rw [hnow] at hnone
      cases hnone
    · rw [hdisconnected, hnow]
      rfl
    · rw [hdisconnected, hnow]
      rfl
    · rw [show (due s.clock connection).expiresAt = connection.expiresAt from rfl, hexpires] at hnone
      cases hnone
  · rw [h.checked_eq_nil hid hexpired, List.append_nil] at hdisconnected
    have hlater : connection.stage = .reading → (due s.clock connection).dueAt = connection.dueAt := by
      intro hreading
      unfold due
      cases hdue : connection.dueAt with
      | some time => rfl
      | none =>
        cases hexpires : connection.expiresAt with
        | none => rfl
        | some expiresAt =>
          have hlt : ¬ expiresAt ≤ s.clock := fun hle => hexpired ⟨hreading, hdue, expiresAt, hexpires, hle⟩
          simp only [Option.filter_some, decide_eq_false hlt]
          rfl
    refine ⟨fun hreading expiresAt hexpires hnone => ?_, ?_, fun hreading => ?_, fun hnone => ?_⟩
    · rw [hlater hreading] at hnone
      have hmem := hold.listed hreading expiresAt hexpires hnone
      refine List.mem_filter.2 ⟨hmem, decide_eq_true ?_⟩
      have hlt : ¬ expiresAt ≤ s.clock := fun hle => hexpired ⟨hreading, hnone, expiresAt, hexpires, hle⟩
      show s.clock < expiresAt
      omega
    · rw [hdisconnected]
      rcases hold.once with hnil | hsome
      · exact Or.inl hnil
      · cases hdue : connection.dueAt with
        | none =>
          rw [hdue] at hsome
          exact Or.inl hsome
        | some time =>
          rw [hdue] at hsome
          right
          rw [hsome]
          unfold due
          rw [hdue]
          rfl
    · rw [hdisconnected, hlater hreading]
      exact hold.whenDue hreading
    · have hnone : connection.expiresAt = none := hnone
      unfold due
      rw [hold.pending hnone, hnone]
      rfl

theorem Sound.checkTimeout (h : s.Sound) : s.checkTimeout.Sound := by
  refine ⟨fun address other => ?_, h.keys.sublist (List.filter_sublist.map _), fun entry hentry => ?_,
    fun other connection' hother => ?_, fun call hcall => ?_, fun other hother => ?_⟩
  · rw [connections_checkTimeout]
    refine (h.owner address other).trans ⟨?_, ?_⟩
    · rintro ⟨connection, hconnection, haddress, hstage⟩
      exact ⟨due s.clock connection, by rw [hconnection, Option.map_some], haddress, hstage⟩
    · rintro ⟨connection', hconnection', haddress, hstage⟩
      obtain ⟨connection, hconnection, rfl⟩ := Option.map_eq_some_iff.1 hconnection'
      exact ⟨connection, hconnection, haddress, hstage⟩
  · obtain ⟨hmem, hlt⟩ := List.mem_filter.1 hentry
    obtain ⟨other, connection, hother, haddress, hreading, hexpires, hdue⟩ := h.entry entry hmem
    refine ⟨other, due s.clock connection, by rw [connections_checkTimeout, hother, Option.map_some], haddress, hreading,
      hexpires, ?_⟩
    have hlt : s.clock < entry.2 := of_decide_eq_true hlt
    unfold due
    have hnot : ¬ entry.2 ≤ s.clock := by omega
    simp only [hdue, hexpires, Option.filter_some, decide_eq_false hnot]
    rfl
  · rw [connections_checkTimeout] at hother
    obtain ⟨connection, hconnection, rfl⟩ := Option.map_eq_some_iff.1 hother
    exact h.holds_checkTimeout hconnection
  · rcases List.mem_append.1 hcall with hold | hnew
    · exact h.inUse call hold
    · obtain ⟨entry, hentry, rfl⟩ := List.mem_map.1 hnew
      exact h.timeoutsHit.held entry (List.mem_filter.1 hentry).1
  · rw [connections_checkTimeout, Option.map_eq_none_iff] at hother
    rw [disconnectedAt_checkTimeout, h.known other hother]
    unfold checked
    rw [List.nil_append, List.map_eq_nil_iff, List.filter_eq_nil_iff]
    intro entry hentry hpool
    obtain ⟨connection, hconnection, -⟩ := (h.owner entry.1 other).1 (of_decide_eq_true hpool)
    rw [hother] at hconnection
    cases hconnection

/-! ### Every interleaving -/

theorem Sound.step {action : ConnectionAction} (h : s.Sound) (hopen : s.AddsOpen action)
    (hstep : s.step timeout action = some s') : s'.Sound := by
  cases action with
  | tick now =>
    unfold ConnectionSystem.step at hstep
    dsimp only at hstep
    split_ifs at hstep
    cases hstep
    exact ⟨h.owner, h.keys, h.entry, fun id connection hid => (h.holds id connection hid).congr (fun _ _ hmem => hmem) rfl,
      h.inUse, h.known⟩
  | newConnection id address =>
    unfold ConnectionSystem.step at hstep
    dsimp only at hstep
    split_ifs at hstep with hfree
    cases hstep
    exact h.newConnection hfree.1 hfree.2
  | addExpireIn id =>
    obtain ⟨connection, hid, hstep⟩ := Option.bind_eq_some_iff.1 hstep
    split_ifs at hstep with hnone
    cases hstep
    exact h.addExpireIn hid (hopen connection hid) hnone _
  | remove id =>
    obtain ⟨connection, hid, hstep⟩ := Option.bind_eq_some_iff.1 hstep
    split_ifs at hstep with hreading
    cases hstep
    exact h.remove hid hreading
  | returnObject id =>
    obtain ⟨connection, hid, hstep⟩ := Option.bind_eq_some_iff.1 hstep
    split_ifs at hstep with hremoved
    cases hstep
    exact h.returnObject hid hremoved
  | checkTimeout =>
    cases hstep
    exact h.checkTimeout

instance (s : ConnectionSystem) (action : ConnectionAction) : Decidable (s.AddsOpen action) :=
  match action with
  | .addExpireIn id =>
    match h : s.connections id with
    | none => .isTrue fun connection hid => by
        rw [h] at hid
        cases hid
    | some connection => decidable_of_iff (connection.stage = .reading) ⟨fun hreading other hid => by
        rw [h] at hid
        cases hid
        exact hreading, fun hall => hall connection h⟩
  | .tick _ | .newConnection _ _ | .remove _ | .returnObject _ | .checkTimeout => .isTrue trivial

/-- In every interleaving in which no connection begins to close before its address is added, the timeouts hit the open
connections. -/
theorem timeoutsHit_of_admissible {timeout now : ℤ} {actions : List ConnectionAction} {s : ConnectionSystem}
    (hrun : runFrom (step timeout) (start now) actions = some s)
    (hopen : Admissible (step timeout) AddsOpen (start now) actions) : s.TimeoutsHit :=
  (runFrom_keeps (fun _ _ _ h hok hstep => h.step hok hstep) (sound_start now) hopen hrun).timeoutsHit

/-- A connection that stays open is disconnected when its time has come, and the next one at its address is not. -/
theorem timeoutsHit_reused :
    ∃ s, runFrom (step 30) (start 0) [.newConnection 0 7, .addExpireIn 0, .tick 30, .checkTimeout, .remove 0, .returnObject 0,
        .newConnection 1 7, .addExpireIn 1, .tick 40, .checkTimeout] = some s ∧
      s.TimeoutsHit ∧ s.disconnectedAt 0 = [30] ∧ s.disconnectedAt 1 = [] := by
  have hrun : runFrom (step 30) (start 0) [.newConnection 0 7, .addExpireIn 0, .tick 30, .checkTimeout, .remove 0,
    .returnObject 0, .newConnection 1 7, .addExpireIn 1, .tick 40, .checkTimeout] = some _ := rfl
  exact ⟨_, hrun, timeoutsHit_of_admissible hrun (by decide), by decide, by decide⟩

/-- A connection that is closed before its address is added stays in the timeouts, and the next one at its address is
disconnected in its place. -/
theorem not_timeoutsHit_closedEarly :
    ∃ s, runFrom (step 30) (start 0) [.newConnection 0 7, .remove 0, .returnObject 0, .addExpireIn 0] = some s ∧
      ¬ s.TimeoutsHit ∧
        ∃ s', runFrom (step 30) s [.tick 20, .newConnection 1 7, .addExpireIn 1, .tick 30, .checkTimeout] = some s' ∧
          ¬ s'.TimeoutsHit := by
  have hrun : runFrom (step 30) (start 0) [.newConnection 0 7, .remove 0, .returnObject 0, .addExpireIn 0] = some _ := rfl
  refine ⟨_, hrun, fun hhit => ?_, ⟨_, rfl, fun hhit => ?_⟩⟩
  · have hheld := hhit.held (7, 30) (by decide)
    revert hheld
    decide
  · have hdue := hhit.whenDue 1 _ rfl rfl
    revert hdue
    decide

end ConnectionSystem

end Forum.Http
