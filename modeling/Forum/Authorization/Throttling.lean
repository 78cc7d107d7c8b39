import Mathlib.Data.List.Sort
import Forum.Entities.Store
import Forum.Library.Ring

/-!
# Throttling

`DefaultThrottling`: how often a user may act. For each user and kind of action a `ThrottlingCheck` keeps
the times of the latest calls in a ring, and a call is throttled when the oldest of them is less than a
period ago. Calls are recorded whether throttled or not. A user is known by its id, an anonymous one by
its IP address.

A throttled call is one before which as many others as are allowed fell in the same period. The times
are not to decrease, and to be at least one period from the epoch: a ring starts with entries of `0`.
-/

namespace Forum.Authorization

open Forum.Library Forum.Entities

/-! ### One ring -/

/-- `while (currentIndex >= maxAllowed) currentIndex -= maxAllowed`. -/
def wrapIndex (maxAllowed : ℕ) (hpos : 0 < maxAllowed) (currentIndex : ℕ) : ℕ :=
  if maxAllowed ≤ currentIndex then wrapIndex maxAllowed hpos (currentIndex - maxAllowed) else currentIndex
termination_by currentIndex

theorem wrapIndex_eq_mod {maxAllowed : ℕ} (hpos : 0 < maxAllowed) (i : ℕ) : wrapIndex maxAllowed hpos i = i % maxAllowed := by
  induction i using Nat.strong_induction_on with
  | _ i ih =>
    unfold wrapIndex
    split_ifs with hle
    · rw [ih _ (by omega), Nat.mod_eq_sub_mod hle]
    · exact (Nat.mod_eq_of_lt (by omega)).symm

/-- `ThrottlingCheck`: the times of the latest calls, as many as are allowed in a period. -/
structure ThrottlingCheck extends Library.Ring Timestamp where
  maxAllowed : ℕ
  period : Timestamp
  /-- There are as many entries as calls allowed. -/
  length_entries : entries.length = maxAllowed

namespace ThrottlingCheck

theorem maxAllowed_pos (c : ThrottlingCheck) : 0 < c.maxAllowed :=
  c.length_entries ▸ Nat.zero_lt_of_lt c.currentIndex_lt

/-- A check for a positive number of calls; all entries are zero. -/
def construct (maxAllowed : ℕ) (period : Timestamp) (hpos : 0 < maxAllowed) : ThrottlingCheck where
  entries := List.replicate maxAllowed 0
  currentIndex := 0
  currentIndex_lt := by rwa [List.length_replicate]
  maxAllowed := maxAllowed
  period := period
  length_entries := List.length_replicate

/-- `ThrottlingCheck::isAllowed`: is the call throttled? The oldest entry becomes the newest one. -/
def isAllowed (c : ThrottlingCheck) (at' : Timestamp) : Bool × ThrottlingCheck :=
  let result := decide (c.oldest + c.period > at')
  (result,
    { c with
      entries := c.entries.set c.currentIndex at'
      currentIndex := wrapIndex c.maxAllowed c.maxAllowed_pos (c.currentIndex + 1)
      currentIndex_lt := by
        rw [wrapIndex_eq_mod, List.length_set, c.length_entries]
        exact Nat.mod_lt _ c.maxAllowed_pos
      length_entries := by rw [List.length_set, c.length_entries] })

variable (c : ThrottlingCheck)

theorem toRing_isAllowed (at' : Timestamp) : (c.isAllowed at').2.toRing = c.toRing.push at' := by
  simp only [isAllowed, Ring.push, wrapIndex_eq_mod, c.length_entries]

/-- The check after calls at some times. -/
def afterCalls (times : List Timestamp) : ThrottlingCheck := times.foldl (fun c at' => (c.isAllowed at').2) c

theorem toRing_afterCalls (times : List Timestamp) : (c.afterCalls times).toRing = times.foldl Ring.push c.toRing := by
  induction times generalizing c with
  | nil => rfl
  | cons t times ih => exact (ih _).trans (by rw [toRing_isAllowed]; rfl)

theorem period_afterCalls (times : List Timestamp) : (c.afterCalls times).period = c.period := by
  induction times generalizing c with
  | nil => rfl
  | cons t times ih => exact ih (c.isAllowed t).2

/-- After calls at times that do not decrease, a call is throttled exactly if as many as are allowed fell
in the period before it. -/
theorem isAllowed_afterCalls {maxAllowed : ℕ} {period : Timestamp} (hpos : 0 < maxAllowed) {times : List Timestamp}
    {at' : Timestamp} (hsorted : times.Pairwise (· ≤ ·)) (hnonneg : ∀ t ∈ times, 0 ≤ t) (hat : period ≤ at') :
    (((construct maxAllowed period hpos).afterCalls times).isAllowed at').1 =
      decide (maxAllowed ≤ times.countP fun t => t + period > at') := by
  let p : Timestamp → Bool := fun t => t + period > at'
  let entries := List.replicate maxAllowed 0 ++ times
  have holdest : entries[times.length]? = some ((construct maxAllowed period hpos).afterCalls times).oldest := by
    have h := (construct maxAllowed period hpos).getElem?_oldest times
    rw [← toRing_afterCalls] at h
    simpa [Ring.toList, construct] using h
  -- a call that is recent is followed by recent calls only
  have hpairwise : entries.Pairwise fun a b => p a → p b := by
    have hle : entries.Pairwise (· ≤ ·) := by
      refine List.pairwise_append.2 ⟨List.pairwise_replicate.2 (.inr le_rfl), hsorted, fun a ha b hb => ?_⟩
      rw [List.eq_of_mem_replicate ha]
      exact hnonneg b hb
    refine hle.imp fun {a b} hab ha => ?_
    simp only [p, gt_iff_lt, decide_eq_true_eq] at ha ⊢
    exact ha.trans_le (Int.add_le_add_right hab period)
  have hcount : entries.countP p = times.countP p := by
    have hzero : p 0 = false := decide_eq_false (by simpa using hat)
    simp [entries, List.countP_append, List.countP_replicate, hzero]
  have hlength : entries.length = maxAllowed + times.length := by simp [entries]
  have hiff := iff_le_countP_of_pairwise hpairwise holdest
  rw [hcount, hlength] at hiff
  have hresult : (((construct maxAllowed period hpos).afterCalls times).isAllowed at').1 =
      p ((construct maxAllowed period hpos).afterCalls times).oldest := by
    simp only [isAllowed, p, period_afterCalls]
    rfl
  rw [hresult, Bool.eq_iff_iff, hiff, decide_eq_true_eq]
  simp only [p]
  omega

end ThrottlingCheck

/-! ### Identities -/

/-- `IpAddress`: sixteen bytes as four numbers. -/
structure IpAddress where
  int32 : Vector UInt32 4 := .replicate 4 0
  deriving DecidableEq

/-- Is it an IPv4 address? -/
def IpAddress.isV4 (ip : IpAddress) : Bool :=
  ip.int32[1] = ip.int32[2] ∧ ip.int32[2] = ip.int32[3] ∧ ip.int32[1] = 0

/-- `std::hash<IpAddress>`: one number for IPv4, `boost::hash_range` of the four otherwise. -/
def IpAddress.hashValue (hashRange : List UInt32 → UInt64) (ip : IpAddress) : UInt64 :=
  if ip.isV4 then ip.int32[0].toUInt64 else hashRange ip.int32.toList

/-- `IdOrIpAddress`: either of the two. -/
inductive IdOrIpAddress
  | id (value : IdType)
  | ip (value : IpAddress)

namespace IdOrIpAddress

/-- The address stands in for an empty id. -/
def of (id : IdType) (ip : IpAddress) : IdOrIpAddress := if id ≠ 0 then .id id else .ip ip

/-- `getCompareStructure`. -/
def compareStructure : IdOrIpAddress → IdType × IpAddress
  | .id value => (value, {})
  | .ip value => (0, value)

/-- `operator==`. -/
instance : BEq IdOrIpAddress where
  beq a b := decide (a.compareStructure = b.compareStructure)

/-- `std::hash<IdOrIpAddress>`. -/
@[reducible] def hashable (hashRange : List UInt32 → UInt64) : Hashable IdOrIpAddress where
  hash
    | .id value => hash value
    | .ip value => value.hashValue hashRange

theorem beq_iff {a b : IdOrIpAddress} : a == b ↔ a.compareStructure = b.compareStructure := decide_eq_true_iff

instance : EquivBEq IdOrIpAddress where
  rfl := beq_iff.2 rfl
  symm h := beq_iff.2 (beq_iff.1 h).symm
  trans h h' := beq_iff.2 ((beq_iff.1 h).trans (beq_iff.1 h'))

/-- An empty id has the hash of an empty address. -/
instance (hashRange : List UInt32 → UInt64) : @LawfulHashable IdOrIpAddress _ (hashable hashRange) :=
  @LawfulHashable.mk _ _ (hashable hashRange) fun a b h => by
    have h := beq_iff.1 h
    cases a <;> cases b <;> simp only [compareStructure, Prod.mk.injEq] at h
    · rw [h.1]
    · obtain ⟨rfl, rfl⟩ := h
      rfl
    · obtain ⟨rfl, rfl⟩ := h
      rfl
    · rw [h.2]

/-- Two users are told apart by their ids, and two without an id by their addresses. -/
theorem of_beq_of_iff {id id' : IdType} {ip ip' : IpAddress} :
    of id ip == of id' ip' ↔ id = id' ∧ (id = 0 → ip = ip') := by
  rw [beq_iff]
  unfold of
  split_ifs with hid hid' hid' <;> simp only [compareStructure, Prod.mk.injEq] <;> grind

end IdOrIpAddress

/-! ### All users -/

/-- The kinds of actions that are throttled. -/
inductive UserActionThrottling
  | newContent | editContent | editPrivileges | vote | subscribe
  deriving DecidableEq

/-- How many actions of a kind are allowed, and in how many seconds. -/
def ThrottlingDefaultValues : UserActionThrottling → ℕ × Timestamp
  | .newContent => (10, 600)
  | .editContent => (10, 300)
  | .editPrivileges => (10, 10)
  | .vote => (10, 3600)
  | .subscribe => (10, 600)

theorem ThrottlingDefaultValues_pos (action : UserActionThrottling) :
    0 < (ThrottlingDefaultValues action).1 ∧ 0 < (ThrottlingDefaultValues action).2 := by
  cases action <;> decide

/-- The checks of a user, one for each kind of action. -/
structure UserThrottlingChecks where
  values : UserActionThrottling → ThrottlingCheck := fun action =>
    .construct (ThrottlingDefaultValues action).1 (ThrottlingDefaultValues action).2 (ThrottlingDefaultValues_pos action).1

/-- `DefaultThrottling`: a hash table of checks. -/
structure DefaultThrottling where
  /-- `boost::hash_range`. -/
  hashRange : List UInt32 → UInt64
  entries : @Std.HashMap IdOrIpAddress UserThrottlingChecks _ (IdOrIpAddress.hashable hashRange) := ∅

/-- A call of `DefaultThrottling::check`. -/
structure ThrottlingCall where
  action : UserActionThrottling
  at' : Timestamp
  id : IdType
  ip : IpAddress

namespace DefaultThrottling

/-- `DefaultThrottling::check`: the checks of a user are entered with the first call. -/
def check (t : DefaultThrottling) (call : ThrottlingCall) : Bool × DefaultThrottling :=
  let current := IdOrIpAddress.of call.id call.ip
  let checks := t.entries[current]?.getD {}
  let result := (checks.values call.action).isAllowed call.at'
  (result.1,
    { t with entries := t.entries.insert current { values := Function.update checks.values call.action result.2 } })

/-- The table after some calls. -/
def afterCalls (hashRange : List UInt32 → UInt64) (calls : List ThrottlingCall) : DefaultThrottling :=
  calls.foldl (fun t call => (t.check call).2) { hashRange := hashRange }

/-- The check of a user for a kind of action. -/
def checkOf (t : DefaultThrottling) (identity : IdOrIpAddress) (action : UserActionThrottling) : ThrottlingCheck :=
  (t.entries[identity]?.getD {}).values action

end DefaultThrottling

/-- Are two calls for the same kind of action, by the same user? -/
def ThrottlingCall.Alike (call call' : ThrottlingCall) : Prop :=
  call.action = call'.action ∧ call.id = call'.id ∧ (call.id = 0 → call.ip = call'.ip)

instance (call call' : ThrottlingCall) : Decidable (call.Alike call') :=
  inferInstanceAs (Decidable (_ ∧ _ ∧ (_ → _)))

theorem ThrottlingCall.alike_iff {call call' : ThrottlingCall} :
    call.Alike call' ↔ (IdOrIpAddress.of call.id call.ip == IdOrIpAddress.of call'.id call'.ip) ∧
      call.action = call'.action := by
  rw [IdOrIpAddress.of_beq_of_iff]
  exact and_comm

/-- How many calls of an action are allowed in a period. -/
def ThrottlingCall.maxAllowed (call : ThrottlingCall) : ℕ := (ThrottlingDefaultValues call.action).1

/-- The period of a call's action. -/
def ThrottlingCall.period (call : ThrottlingCall) : Timestamp := (ThrottlingDefaultValues call.action).2

namespace DefaultThrottling

/-- A call concerns one check only, whichever the place of the others in the table. -/
theorem checkOf_check (t : DefaultThrottling) (call : ThrottlingCall) (identity : IdOrIpAddress)
    (action : UserActionThrottling) :
    (t.check call).2.checkOf identity action =
      if (IdOrIpAddress.of call.id call.ip == identity) ∧ call.action = action then
        ((t.checkOf identity action).isAllowed call.at').2
      else t.checkOf identity action := by
  unfold checkOf check
  dsimp only
  rw [Std.HashMap.getElem?_insert]
  by_cases hidentity : IdOrIpAddress.of call.id call.ip == identity
  · rw [if_pos hidentity, Option.getD_some, Std.HashMap.getElem?_congr hidentity]
    by_cases haction : call.action = action
    · subst haction
      simp [hidentity]
    · simp [hidentity, haction, Function.update_of_ne (Ne.symm haction)]
  · simp [hidentity]

/-- The times of the calls that concern a check. -/
def timesOf (identity : IdOrIpAddress) (action : UserActionThrottling) (calls : List ThrottlingCall) : List Timestamp :=
  (calls.filter fun call => (IdOrIpAddress.of call.id call.ip == identity) ∧ call.action = action).map ThrottlingCall.at'

/-- The check of a user and action has seen the calls that concern it, and no others. -/
theorem checkOf_foldl_check (t : DefaultThrottling) (identity : IdOrIpAddress) (action : UserActionThrottling)
    (calls : List ThrottlingCall) :
    (calls.foldl (fun t call => (t.check call).2) t).checkOf identity action =
      (t.checkOf identity action).afterCalls (timesOf identity action calls) := by
  induction calls generalizing t with
  | nil => rfl
  | cons call calls ih =>
    rw [List.foldl_cons, ih, checkOf_check]
    by_cases hcall : (IdOrIpAddress.of call.id call.ip == identity) ∧ call.action = action
    · rw [if_pos hcall]
      simp only [timesOf, List.filter_cons, hcall, and_self, decide_true, if_true, List.map_cons]
      rfl
    · rw [if_neg hcall]
      simp only [timesOf, List.filter_cons, hcall, decide_false, Bool.false_eq_true, if_false]

/-- A call is throttled exactly if as many as are allowed, of the same kind and by the same user, were
made in the period before it. -/
theorem check_afterCalls (hashRange : List UInt32 → UInt64) {calls : List ThrottlingCall} {call : ThrottlingCall}
    (hsorted : (calls ++ [call]).Pairwise fun c c' => c.at' ≤ c'.at')
    (hperiod : ∀ c ∈ calls ++ [call], c.period ≤ c.at') :
    ((afterCalls hashRange calls).check call).1 =
      decide (call.maxAllowed ≤ calls.countP fun c => c.Alike call ∧ c.at' + call.period > call.at') := by
  have hpos : 0 < call.maxAllowed ∧ 0 < call.period := ThrottlingDefaultValues_pos call.action
  let times := timesOf (.of call.id call.ip) call.action calls
  have hcheck : (afterCalls hashRange calls).checkOf (.of call.id call.ip) call.action =
      (ThrottlingCheck.construct call.maxAllowed call.period hpos.1).afterCalls times := by
    refine (checkOf_foldl_check { hashRange := hashRange } _ _ calls).trans ?_
    simp only [checkOf, Std.HashMap.getElem?_empty]
    rfl
  have htimes : times.Pairwise (· ≤ ·) := by
    refine List.pairwise_map.2 (List.Pairwise.sublist List.filter_sublist ?_)
    exact (List.pairwise_append.1 hsorted).1
  have hnonneg : ∀ t ∈ times, 0 ≤ t := by
    intro t ht
    obtain ⟨c, hc, rfl⟩ := List.mem_map.1 ht
    have hc : c ∈ calls := (List.mem_filter.1 hc).1
    exact (ThrottlingDefaultValues_pos c.action).2.le.trans (hperiod c (List.mem_append_left _ hc))
  have hresult : ((afterCalls hashRange calls).check call).1 =
      (((ThrottlingCheck.construct call.maxAllowed call.period hpos.1).afterCalls times).isAllowed call.at').1 := by
    rw [← hcheck]
    rfl
  rw [hresult, ThrottlingCheck.isAllowed_afterCalls hpos.1 htimes hnonneg (hperiod call (by simp))]
  have hcount : (times.countP fun t => t + call.period > call.at') =
      calls.countP fun c => c.Alike call ∧ c.at' + call.period > call.at' := by
    simp only [times, timesOf, List.countP_map, List.countP_filter]
    refine List.countP_congr fun c _ => ?_
    simp only [Function.comp_apply, Bool.and_eq_true, decide_eq_true_eq, ThrottlingCall.alike_iff]
    tauto
  rw [hcount]

/-- Ten posts of a user at once throttle the next one a second before the period is over, but not the
post of another user. -/
theorem check_afterCalls_tenPosts :
    ((afterCalls (fun _ => 0) (.replicate 10 ⟨.newContent, 600, 1, {}⟩)).check ⟨.newContent, 1199, 1, {}⟩).1 = true ∧
      ((afterCalls (fun _ => 0) (.replicate 10 ⟨.newContent, 600, 1, {}⟩)).check ⟨.newContent, 1199, 2, {}⟩).1 = false := by
  constructor
  · rw [check_afterCalls (fun _ => 0) (by decide) (by decide)]
    decide
  · rw [check_afterCalls (fun _ => 0) (by decide) (by decide)]
    decide

end DefaultThrottling

end Forum.Authorization
