import Forum.Library.Runs
import Forum.Helpers.SeparateThreadConsumer

/-!
# EventCollector

The consumer that hands recorded events to the file. An action is one atomic step of one of the
parties: a producer's `tryEnqueue`, one step of the consumer's thread, or one of the two steps of the
destruction. `EventCollector` declares no destructor, so its member `appender_` goes first and only
then the destructor of `SeparateThreadConsumer` stops the thread, which still drains the buffer.

The state carries three histories that the code does not keep, for the statements: the blobs passed to
`FileAppender::append`, each with whether the appender was alive, the blobs that `tryEnqueue` accepted,
and the part of these that was accepted before the destruction began.
-/

namespace Forum.Persistence

open Forum.Helpers Forum.Library

/-- Where the consumer's thread is. `last` marks the call of `consumeValues` after the loop. -/
inductive ThreadLoop
  /-- At `while (!stopWriteThread_)`. -/
  | loopCondition
  /-- Waiting: about to evaluate `!queueEmpty()`. -/
  | waitQueueEmpty
  /-- Waiting: about to evaluate `stopWriteThread_`. -/
  | waitStop
  /-- About to enter the locked section of `consumeValues`. -/
  | consumeValues (last : Bool)
  /-- In `appender_.append(values, nrOfValues)`, before slot `next`. -/
  | append (values : Buffer) (nrOfValues next : ℕ) (last : Bool)
  /-- Freeing the blobs, before slot `next`. -/
  | freeValues (values : Buffer) (nrOfValues next : ℕ) (last : Bool)
  /-- After `onThreadFinish`. -/
  | finished
  deriving DecidableEq, Repr

/-- The collector. -/
structure EventCollector extends SeparateThreadConsumer SeparateThreadConsumerBlob where
  /-- The position of the consumer's thread. -/
  writeThread : ThreadLoop
  /-- Whether the member `appender_` still exists. -/
  appenderAlive : Bool
  /-- The blobs passed to `appender_.append`, each with whether the appender existed. -/
  appended : List (SeparateThreadConsumerBlob × Bool)
  /-- The blobs that `tryEnqueue` accepted. -/
  enqueued : List SeparateThreadConsumerBlob
  /-- Those accepted before the destruction began. -/
  promised : List SeparateThreadConsumerBlob

/-- One atomic step of one of the parties. -/
inductive CollectorAction
  /-- A producer's call of `tryEnqueue`; `enqueue` repeats it until it succeeds. -/
  | tryEnqueue (blob : SeparateThreadConsumerBlob)
  /-- A step of the consumer's thread. -/
  | thread
  /-- The destruction begins: the members of `EventCollector` are destroyed. -/
  | destroyMembers
  /-- The base class destructor calls `stopConsumer`. -/
  | stopConsumer

namespace EventCollector

/-- The collector after its construction. -/
def construct (capacity : ℕ) : EventCollector where
  toSeparateThreadConsumer := SeparateThreadConsumer.construct capacity
  writeThread := .loopCondition
  appenderAlive := true
  appended := []
  enqueued := []
  promised := []

/-- Where the thread goes after a call of `consumeValues`. -/
def afterConsume (last : Bool) : ThreadLoop := if last then .finished else .loopCondition

/-- The next step of the consumer's thread. -/
def threadStep (c : EventCollector) : Option EventCollector :=
  match c.writeThread with
  | .loopCondition =>
    some { c with writeThread := if c.stopWriteThread then .consumeValues true else .waitQueueEmpty }
  | .waitQueueEmpty =>
    some { c with writeThread := if c.queueEmpty then .waitStop else .consumeValues false }
  -- when both conditions fail the wait times out, and `onThreadWaitNoValues` does nothing
  | .waitStop => some { c with writeThread := if c.stopWriteThread then .consumeValues false else .loopCondition }
  | .consumeValues last =>
    let taken := c.takeValues
    some { c with
      toSeparateThreadConsumer := taken.2
      writeThread := if taken.1.2 > 0 then .append taken.1.1 taken.1.2 0 last else afterConsume last }
  | .append values nrOfValues next last =>
    if next < nrOfValues then
      some { c with
        appended := c.appended ++ [(c.slots values next, c.appenderAlive)]
        writeThread := .append values nrOfValues (next + 1) last }
    else some { c with writeThread := .freeValues values nrOfValues 0 last }
  | .freeValues values nrOfValues next last =>
    if next < nrOfValues then
      some { c with
        toSeparateThreadConsumer := c.setSlot values next (c.slots values next).free
        writeThread := .freeValues values nrOfValues (next + 1) last }
    else some { c with writeThread := afterConsume last }
  | .finished => none

/-- The next state, if the action can happen. -/
def step (c : EventCollector) : CollectorAction → Option EventCollector
  | .tryEnqueue blob =>
    let result := c.toSeparateThreadConsumer.tryEnqueue blob
    some { c with
      toSeparateThreadConsumer := result.2
      enqueued := if result.1 then c.enqueued ++ [blob] else c.enqueued
      promised := if result.1 && c.appenderAlive then c.promised ++ [blob] else c.promised }
  | .thread => c.threadStep
  | .destroyMembers => if c.appenderAlive then some { c with appenderAlive := false } else none
  | .stopConsumer =>
    if c.appenderAlive || c.stopWriteThread then none
    else some { c with stopWriteThread := true }

/-- The blobs the thread took and has not passed to the appender yet. -/
def inHand (c : EventCollector) : List SeparateThreadConsumerBlob :=
  match c.writeThread with
  | .append values nrOfValues next _ => c.segment values next nrOfValues
  | _ => []

/-- The blobs that were passed to the appender, in order. -/
def written (c : EventCollector) : List SeparateThreadConsumerBlob := c.appended.map Prod.fst

/-- Every blob enqueued in time reaches a living appender, once and in order. -/
structure Delivered (c : EventCollector) : Prop where
  /-- What was appended is what was enqueued first, in the same order. -/
  inOrder : c.written <+: c.enqueued
  /-- When the thread is done, everything enqueued before the destruction was appended. -/
  complete : c.writeThread = .finished → c.promised <+: c.written
  /-- A producer leaves the slots that are being consumed alone. -/
  untouched : ∀ values nrOfValues next last, c.writeThread = .append values nrOfValues next last →
    ∀ blob k, (c.toSeparateThreadConsumer.tryEnqueue blob).2.slots values k = c.slots values k
  /-- What was enqueued before the destruction was appended by a living appender. -/
  alive : ∀ p ∈ c.appended.take c.promised.length, p.2 = true

/-- The destruction begins only when the thread has appended everything that was enqueued. -/
def DestroyedIdle (c : EventCollector) (a : CollectorAction) : Prop :=
  a = .destroyMembers → c.bufferUsed = 0 ∧ c.inHand = []

/-! ### What every interleaving keeps -/

/-- Whether the thread has made the last swap. -/
def TookLast (c : EventCollector) : Prop :=
  match c.writeThread with
  | .append _ _ _ last => last = true
  | .freeValues _ _ _ last => last = true
  | .finished => True
  | _ => False

/-- Whether the thread is past its loop. -/
def LeftLoop (c : EventCollector) : Prop :=
  c.writeThread = .consumeValues true ∨ c.TookLast

/-- The array the thread works on is its own, and it stays within what it took. -/
def OwnArray (c : EventCollector) : Prop :=
  match c.writeThread with
  | .append values nrOfValues next _ => values = c.readBuffer ∧ next ≤ nrOfValues ∧ nrOfValues ≤ c.capacity
  | .freeValues values nrOfValues next _ => values = c.readBuffer ∧ next ≤ nrOfValues ∧ nrOfValues ≤ c.capacity
  | _ => True

/-- The invariant of the collector. -/
structure Invariant (c : EventCollector) : Prop where
  /-- Every accepted blob is in exactly one place, and the places keep the order. -/
  sequence : c.written ++ c.inHand ++ c.queued = c.enqueued
  own : c.OwnArray
  promised_prefix : c.promised <+: c.enqueued
  promised_alive : c.appenderAlive = true → c.promised = c.enqueued
  appended_alive : c.appenderAlive = true → ∀ p ∈ c.appended, p.2 = true
  stopped : c.stopWriteThread = true → c.appenderAlive = false
  leftLoop : c.LeftLoop → c.stopWriteThread = true
  /-- The last swap takes everything that was enqueued in time. -/
  drained : c.TookLast → c.promised <+: c.written ++ c.inHand

theorem invariant_construct (capacity : ℕ) : (construct capacity).Invariant where
  sequence := rfl
  own := trivial
  promised_prefix := List.prefix_rfl
  promised_alive _ := rfl
  appended_alive _ _ h := absurd h List.not_mem_nil
  stopped h := absurd h Bool.false_ne_true
  leftLoop h := by rcases h with h | h <;> cases h
  drained h := h.elim

/-- A step that only moves the thread, with nothing more in its hands. -/
theorem Invariant.move {c : EventCollector} (h : c.Invariant) {t : ThreadLoop}
    (hand : { c with writeThread := t }.inHand = c.inHand) (own : { c with writeThread := t }.OwnArray)
    (left : { c with writeThread := t }.LeftLoop → c.stopWriteThread = true)
    (took : { c with writeThread := t }.TookLast → c.TookLast) : { c with writeThread := t }.Invariant where
  sequence := by
    rw [hand]
    exact h.sequence
  own := own
  promised_prefix := h.promised_prefix
  promised_alive := h.promised_alive
  appended_alive := h.appended_alive
  stopped := h.stopped
  leftLoop := left
  drained ht := by
    rw [hand]
    exact h.drained (took ht)

theorem Invariant.tryEnqueue {c c' : EventCollector} (h : c.Invariant) {blob : SeparateThreadConsumerBlob}
    (hs : c.step (.tryEnqueue blob) = some c') : c'.Invariant := by
  obtain ⟨hread, hwrite, hstop, hslots⟩ := c.toSeparateThreadConsumer.tryEnqueue_frame blob
  have hhand : c'.inHand = c.inHand := by
    obtain rfl := Option.some.inj hs
    unfold inHand
    cases hthread : c.writeThread with
    | append values nrOfValues next last =>
      have hown := h.own
      rw [OwnArray, hthread] at hown
      exact c.segment_tryEnqueue blob (by rw [hown.1]; exact c.distinct) next nrOfValues
    | _ => rfl
  have hcapacity : (c.toSeparateThreadConsumer.tryEnqueue blob).2.capacity = c.capacity := by
    unfold SeparateThreadConsumer.tryEnqueue
    split <;> rfl
  have hown : c'.OwnArray := by
    obtain rfl := Option.some.inj hs
    have hown := h.own
    unfold OwnArray at hown ⊢
    cases hthread : c.writeThread <;> simp only [hthread, hread, hcapacity] at hown ⊢ <;> exact hown
  cases haccepted : (c.toSeparateThreadConsumer.tryEnqueue blob).1 with
  | false =>
    obtain rfl := Option.some.inj hs
    have hqueue := c.tryEnqueue_full haccepted
    simp only [haccepted, hqueue, Bool.false_and, Bool.false_eq_true, if_false]
    exact h
  | true =>
    have hqueued := c.queued_tryEnqueue haccepted
    obtain rfl := Option.some.inj hs
    have hsequence := h.sequence
    refine ⟨?_, hown, ?_, fun halive => ?_, h.appended_alive, fun hs => h.stopped (hstop ▸ hs),
      fun hl => hstop.symm ▸ h.leftLoop hl, fun ht => ?_⟩
    · rw [hhand]
      simp only [haccepted, if_true, ← hsequence, hqueued, List.append_assoc]
      rfl
    · simp only [haccepted, if_true, Bool.true_and]
      split
      · rename_i halive
        simp only [h.promised_alive halive, List.prefix_rfl]
      · exact h.promised_prefix.trans (List.prefix_append _ _)
    · simp only [haccepted, if_true, Bool.true_and] at halive ⊢
      rw [if_pos halive, h.promised_alive halive]
    · have hdead : c.appenderAlive = false := h.stopped (h.leftLoop (.inr ht))
      rw [hhand]
      simp only [haccepted, hdead, Bool.and_false, Bool.false_eq_true, if_false]
      exact h.drained ht

theorem inHand_of_not_append {c : EventCollector}
    (h : ∀ values nrOfValues next last, c.writeThread ≠ .append values nrOfValues next last) : c.inHand = [] := by
  unfold inHand
  split
  · rename_i hthread
    exact absurd hthread (h _ _ _ _)
  · rfl

theorem inHand_afterConsume (c : EventCollector) (last : Bool) :
    { c with writeThread := afterConsume last }.inHand = [] := by
  cases last <;> rfl

theorem ownArray_afterConsume (c : EventCollector) (last : Bool) :
    { c with writeThread := afterConsume last }.OwnArray := by
  cases last <;> trivial

theorem tookLast_afterConsume (c : EventCollector) (last : Bool) :
    { c with writeThread := afterConsume last }.TookLast ↔ last = true := by
  cases last <;> simp [afterConsume, TookLast]

theorem leftLoop_afterConsume (c : EventCollector) (last : Bool) :
    { c with writeThread := afterConsume last }.LeftLoop ↔ last = true := by
  cases last <;> simp [afterConsume, LeftLoop, TookLast]

/-- The swap: what was queued is now in the hands of the thread. -/
theorem Invariant.takeValues {c : EventCollector} (h : c.Invariant) {last : Bool}
    (hthread : c.writeThread = .consumeValues last) :
    { c with
      toSeparateThreadConsumer := c.takeValues.2
      writeThread := if c.takeValues.1.2 > 0 then .append c.takeValues.1.1 c.takeValues.1.2 0 last
        else afterConsume last }.Invariant := by
  have hbefore : c.inHand = [] := inHand_of_not_append (by simp [hthread])
  have hsequence := h.sequence
  rw [hbefore, List.append_nil] at hsequence
  have hstop : last = true → c.stopWriteThread = true := by
    rintro rfl
    exact h.leftLoop (.inl hthread)
  by_cases hused : c.takeValues.1.2 > 0
  · rw [if_pos hused]
    refine ⟨?_, ⟨rfl, Nat.zero_le _, c.bounded⟩, h.promised_prefix, h.promised_alive, h.appended_alive, h.stopped,
      fun hl => ?_, fun _ => ?_⟩
    · change c.written ++ c.queued ++ c.takeValues.2.queued = c.enqueued
      rw [SeparateThreadConsumer.queued_takeValues, List.append_nil, hsequence]
    · rcases hl with hl | hl
      · cases hl
      · exact hstop hl
    · change c.promised <+: c.written ++ c.queued
      rw [hsequence]
      exact h.promised_prefix
  · rw [if_neg hused]
    have hempty : c.queued = [] := by
      have : c.bufferUsed = 0 := by
        have : ¬ c.bufferUsed > 0 := hused
        omega
      rw [SeparateThreadConsumer.queued, this, SeparateThreadConsumer.segment_self]
    rw [hempty, List.append_nil] at hsequence
    let taken : EventCollector := { c with toSeparateThreadConsumer := c.takeValues.2 }
    have hhand := inHand_afterConsume taken last
    refine ⟨?_, ownArray_afterConsume taken last, h.promised_prefix, h.promised_alive, h.appended_alive, h.stopped,
      fun hl => hstop ((leftLoop_afterConsume taken last).1 hl), fun _ => ?_⟩
    · rw [hhand]
      change c.written ++ [] ++ c.takeValues.2.queued = c.enqueued
      rw [SeparateThreadConsumer.queued_takeValues, List.append_nil, List.append_nil, hsequence]
    · rw [hhand]
      change c.promised <+: c.written ++ []
      rw [List.append_nil, hsequence]
      exact h.promised_prefix

/-- One more blob goes from the hands of the thread to the appender. -/
theorem Invariant.appendNext {c : EventCollector} (h : c.Invariant) {values : Buffer} {nrOfValues next : ℕ}
    {last : Bool} (hthread : c.writeThread = .append values nrOfValues next last) (hnext : next < nrOfValues) :
    { c with
      appended := c.appended ++ [(c.slots values next, c.appenderAlive)]
      writeThread := .append values nrOfValues (next + 1) last }.Invariant := by
  have hhand : c.inHand = c.slots values next :: c.segment values (next + 1) nrOfValues := by
    rw [← c.segment_cons values hnext, inHand, hthread]
  have hmoved : (c.appended ++ [(c.slots values next, c.appenderAlive)]).map Prod.fst ++
      c.segment values (next + 1) nrOfValues = c.written ++ c.inHand := by
    rw [hhand, List.map_append, List.append_assoc]
    rfl
  have hown := h.own
  rw [OwnArray, hthread] at hown
  refine ⟨?_, ⟨hown.1, hnext, hown.2.2⟩, h.promised_prefix, h.promised_alive, fun halive p hp => ?_, h.stopped,
    fun hl => ?_, fun ht => ?_⟩
  · refine Eq.trans ?_ h.sequence
    rw [← hmoved]
    rfl
  · rcases List.mem_append.1 hp with hp | hp
    · exact h.appended_alive halive p hp
    · obtain rfl := List.mem_singleton.1 hp
      exact halive
  · rcases hl with hl | hl
    · cases hl
    · exact h.leftLoop (.inr (by rw [TookLast, hthread]; exact hl))
  · have hdrained := h.drained (by rw [TookLast, hthread]; exact ht)
    rw [← hmoved] at hdrained
    exact hdrained

/-- A consumed blob is freed, in the array of the thread. -/
theorem Invariant.freeNext {c : EventCollector} (h : c.Invariant) {values : Buffer} {nrOfValues next : ℕ}
    {last : Bool} (hthread : c.writeThread = .freeValues values nrOfValues next last) (hnext : next < nrOfValues) :
    { c with
      toSeparateThreadConsumer := c.setSlot values next (c.slots values next).free
      writeThread := .freeValues values nrOfValues (next + 1) last }.Invariant := by
  have hown := h.own
  rw [OwnArray, hthread] at hown
  have hhand : c.inHand = [] := inHand_of_not_append (by simp [hthread])
  have hqueued := c.queued_setSlot (b := values) (by rw [hown.1]; exact c.distinct) next (c.slots values next).free
  have hsequence := h.sequence
  rw [hhand] at hsequence
  refine ⟨?_, ⟨hown.1, hnext, hown.2.2⟩, h.promised_prefix, h.promised_alive, h.appended_alive, h.stopped,
    fun hl => ?_, fun ht => ?_⟩
  · refine Eq.trans ?_ hsequence
    rw [← hqueued]
    rfl
  · rcases hl with hl | hl
    · cases hl
    · exact h.leftLoop (.inr (by rw [TookLast, hthread]; exact hl))
  · have hdrained := h.drained (by rw [TookLast, hthread]; exact ht)
    rw [hhand] at hdrained
    exact hdrained

theorem Invariant.threadStep {c c' : EventCollector} (h : c.Invariant) (hs : c.threadStep = some c') :
    c'.Invariant := by
  unfold EventCollector.threadStep at hs
  cases hthread : c.writeThread with
  | loopCondition =>
    simp only [hthread, Option.some.injEq] at hs
    subst hs
    have hhand : c.inHand = [] := inHand_of_not_append (by simp [hthread])
    cases hstop : c.stopWriteThread
    · exact h.move hhand.symm trivial (by simp [LeftLoop, TookLast]) (by simp [TookLast])
    · exact h.move hhand.symm trivial (fun _ => hstop) (by simp [TookLast])
  | waitQueueEmpty =>
    simp only [hthread, Option.some.injEq] at hs
    subst hs
    have hhand : c.inHand = [] := inHand_of_not_append (by simp [hthread])
    cases c.queueEmpty
    · exact h.move hhand.symm trivial (by simp [LeftLoop, TookLast]) (by simp [TookLast])
    · exact h.move hhand.symm trivial (by simp [LeftLoop, TookLast]) (by simp [TookLast])
  | waitStop =>
    simp only [hthread, Option.some.injEq] at hs
    subst hs
    have hhand : c.inHand = [] := inHand_of_not_append (by simp [hthread])
    cases c.stopWriteThread
    · exact h.move hhand.symm trivial (by simp [LeftLoop, TookLast]) (by simp [TookLast])
    · exact h.move hhand.symm trivial (by simp [LeftLoop, TookLast]) (by simp [TookLast])
  | consumeValues last =>
    simp only [hthread, Option.some.injEq] at hs
    subst hs
    exact h.takeValues hthread
  | append values nrOfValues next last =>
    have hown := h.own
    rw [OwnArray, hthread] at hown
    simp only [hthread] at hs
    split at hs
    · rename_i hnext
      obtain rfl := Option.some.inj hs
      exact h.appendNext hthread hnext
    · rename_i hnext
      obtain rfl := Option.some.inj hs
      obtain rfl : next = nrOfValues := by omega
      refine h.move ?_ ⟨hown.1, Nat.zero_le _, hown.2.2⟩ (fun hl => ?_) (fun ht => ?_)
      · have hempty : c.inHand = [] := by rw [inHand, hthread]; exact c.segment_self values next
        exact hempty.symm
      · rcases hl with hl | hl
        · cases hl
        · exact h.leftLoop (.inr (by rw [TookLast, hthread]; exact hl))
      · rw [TookLast, hthread]
        exact ht
  | freeValues values nrOfValues next last =>
    simp only [hthread] at hs
    split at hs
    · rename_i hnext
      obtain rfl := Option.some.inj hs
      exact h.freeNext hthread hnext
    · obtain rfl := Option.some.inj hs
      have htook : c.TookLast ↔ last = true := by rw [TookLast, hthread]
      refine h.move ?_ (ownArray_afterConsume c last) (fun hl => ?_) (fun ht => ?_)
      · rw [inHand_afterConsume, inHand_of_not_append (by simp [hthread])]
      · exact h.leftLoop (.inr (htook.2 ((leftLoop_afterConsume c last).1 hl)))
      · exact htook.2 ((tookLast_afterConsume c last).1 ht)
  | finished =>
    simp only [hthread] at hs
    cases hs

theorem Invariant.step {c c' : EventCollector} {a : CollectorAction} (h : c.Invariant)
    (hs : c.step a = some c') : c'.Invariant := by
  cases a with
  | tryEnqueue blob => exact h.tryEnqueue hs
  | thread => exact h.threadStep hs
  | destroyMembers =>
    simp only [EventCollector.step] at hs
    split at hs
    · obtain rfl := Option.some.inj hs
      exact ⟨h.sequence, h.own, h.promised_prefix, fun h => absurd h Bool.false_ne_true,
        fun h => absurd h Bool.false_ne_true, fun _ => rfl, h.leftLoop, h.drained⟩
    · cases hs
  | stopConsumer =>
    simp only [EventCollector.step] at hs
    split at hs
    · cases hs
    · rename_i hdead
      obtain rfl := Option.some.inj hs
      simp only [Bool.or_eq_true, not_or, Bool.not_eq_true] at hdead
      exact ⟨h.sequence, h.own, h.promised_prefix, h.promised_alive, h.appended_alive, fun _ => hdead.1,
        fun _ => rfl, h.drained⟩

/-! ### Delivery -/

/-- The blobs that nobody has passed to the appender yet. -/
theorem Invariant.written_prefix {c : EventCollector} (h : c.Invariant) : c.written <+: c.enqueued :=
  ⟨c.inHand ++ c.queued, by rw [← List.append_assoc]; exact h.sequence⟩

/-- Everything but the living appender holds in every interleaving. -/
theorem Invariant.delivered {c : EventCollector} (h : c.Invariant)
    (alive : ∀ p ∈ c.appended.take c.promised.length, p.2 = true) : c.Delivered where
  inOrder := h.written_prefix
  complete hfinished := by
    have hdrained := h.drained (by rw [TookLast, hfinished]; trivial)
    rwa [inHand_of_not_append (by simp [hfinished]), List.append_nil] at hdrained
  untouched values nrOfValues next last hthread blob k := by
    have hown := h.own
    rw [OwnArray, hthread] at hown
    exact (c.toSeparateThreadConsumer.tryEnqueue_frame blob).2.2.2 values k
      (.inl (by rw [hown.1]; exact c.distinct))
  alive := alive

/-- What a run whose destruction found nothing to append keeps besides the invariant. -/
structure InTime (c : EventCollector) : Prop where
  invariant : c.Invariant
  alive : ∀ p ∈ c.appended.take c.promised.length, p.2 = true
  /-- Once the appender is gone, nothing that was promised is left to append. -/
  done : c.appenderAlive = false → c.promised.length ≤ c.appended.length

/-- What a step of the thread leaves alone; it appends one blob at most. -/
theorem threadStep_frame {c c' : EventCollector} (hs : c.threadStep = some c') :
    c'.appenderAlive = c.appenderAlive ∧ c'.promised = c.promised ∧ c'.stopWriteThread = c.stopWriteThread ∧
      c'.capacity = c.capacity ∧
      (c'.appended = c.appended ∨ ∃ blob, c'.appended = c.appended ++ [(blob, c.appenderAlive)]) := by
  unfold threadStep at hs
  split at hs
  case h_5 =>
    split at hs <;> obtain rfl := Option.some.inj hs
    · exact ⟨rfl, rfl, rfl, rfl, .inr ⟨_, rfl⟩⟩
    · exact ⟨rfl, rfl, rfl, rfl, .inl rfl⟩
  case h_6 => split at hs <;> obtain rfl := Option.some.inj hs <;> exact ⟨rfl, rfl, rfl, rfl, .inl rfl⟩
  case h_7 => cases hs
  all_goals
    obtain rfl := Option.some.inj hs
    exact ⟨rfl, rfl, rfl, rfl, .inl rfl⟩

/-- A step either destroys the appender, and nothing else, or leaves it as it is. -/
theorem step_cases {c c' : EventCollector} {a : CollectorAction} (hs : c.step a = some c') :
    (a = .destroyMembers ∧ c' = { c with appenderAlive := false }) ∨
      (c'.appenderAlive = c.appenderAlive ∧ (c.appenderAlive = false → c'.promised = c.promised) ∧
        (c.stopWriteThread = true → c'.stopWriteThread = true) ∧
        (c'.appended = c.appended ∨ ∃ blob, c'.appended = c.appended ++ [(blob, c.appenderAlive)])) := by
  cases a with
  | tryEnqueue blob =>
    obtain rfl := Option.some.inj hs
    refine .inr ⟨rfl, fun hdead => ?_, fun hstop => ?_, .inl rfl⟩
    · simp [hdead]
    · rw [← hstop]
      exact (c.toSeparateThreadConsumer.tryEnqueue_frame blob).2.2.1
  | thread =>
    obtain ⟨halive, hpromised, hstop, -, happended⟩ := threadStep_frame hs
    exact .inr ⟨halive, fun _ => hpromised, fun h => hstop.trans h, happended⟩
  | destroyMembers =>
    simp only [step] at hs
    split at hs
    · exact .inl ⟨rfl, (Option.some.inj hs).symm⟩
    · cases hs
  | stopConsumer =>
    simp only [step] at hs
    split at hs
    · cases hs
    · obtain rfl := Option.some.inj hs
      exact .inr ⟨rfl, fun _ => rfl, fun _ => rfl, .inl rfl⟩

theorem InTime.step {c c' : EventCollector} {a : CollectorAction} (h : c.InTime) (hok : c.DestroyedIdle a)
    (hs : c.step a = some c') : c'.InTime := by
  have hinvariant := h.invariant.step hs
  rcases step_cases hs with ⟨rfl, rfl⟩ | ⟨halive, hpromised, -, happended⟩
  · -- the step that destroys the appender: everything was appended before
    refine ⟨hinvariant, h.alive, fun _ => ?_⟩
    obtain ⟨hused, hhand⟩ := hok rfl
    have hsequence := h.invariant.sequence
    rw [hhand, SeparateThreadConsumer.queued, hused, SeparateThreadConsumer.segment_self, List.append_nil,
      List.append_nil] at hsequence
    have hlength : c.appended.length = c.enqueued.length := by rw [← hsequence, written, List.length_map]
    rw [hlength]
    exact h.invariant.promised_prefix.length_le
  · cases hcase : c.appenderAlive with
    | true =>
      refine ⟨hinvariant, fun p hp => ?_, fun hdead => ?_⟩
      · exact hinvariant.appended_alive (halive.trans hcase) p (List.mem_of_mem_take hp)
      · rw [halive, hcase] at hdead
        cases hdead
    | false =>
      have hdone := h.done hcase
      rcases happended with happended | ⟨blob, happended⟩
      · refine ⟨hinvariant, ?_, fun _ => ?_⟩
        · rw [happended, hpromised hcase]
          exact h.alive
        · rw [happended, hpromised hcase]
          exact hdone
      · refine ⟨hinvariant, ?_, fun _ => ?_⟩
        · rw [happended, hpromised hcase, List.take_append_of_le_length hdone]
          exact h.alive
        · rw [happended, hpromised hcase, List.length_append]
          omega

theorem inTime_construct (capacity : ℕ) : (construct capacity).InTime :=
  ⟨invariant_construct capacity, fun _ h => absurd (List.mem_of_mem_take h) List.not_mem_nil, fun _ => Nat.le_refl _⟩

/-! ### A destruction that comes too early -/

/-- The appender was destroyed before blob `n`, which was promised, was appended. -/
structure Late (n : ℕ) (c : EventCollector) : Prop where
  invariant : c.Invariant
  dead : c.appenderAlive = false
  promised : n < c.promised.length
  /-- What was appended from blob `n` on was appended by a destroyed appender. -/
  after : ∀ p ∈ c.appended.drop n, p.2 = false

theorem Late.step {n : ℕ} {c c' : EventCollector} {a : CollectorAction} (h : c.Late n)
    (hs : c.step a = some c') : c'.Late n := by
  have hinvariant := h.invariant.step hs
  rcases step_cases hs with ⟨rfl, rfl⟩ | ⟨halive, hpromised, -, happended⟩
  · exact ⟨hinvariant, rfl, h.promised, h.after⟩
  · refine ⟨hinvariant, halive.trans h.dead, by rw [hpromised h.dead]; exact h.promised, ?_⟩
    rcases happended with happended | ⟨blob, happended⟩
    · rw [happended]
      exact h.after
    · rw [happended, h.dead]
      intro p hp
      rw [List.drop_append] at hp
      rcases List.mem_append.1 hp with hp | hp
      · exact h.after p hp
      · obtain rfl := List.mem_singleton.1 (List.mem_of_mem_drop hp)
        rfl

/-- Blob `n` is then appended too late, or never. -/
theorem Late.not_delivered {n : ℕ} {c : EventCollector} (h : c.Late n) (hfinished : c.writeThread = .finished) :
    ¬ c.Delivered := by
  intro hdelivered
  have hlength : c.promised.length ≤ c.appended.length := by
    have := (hdelivered.complete hfinished).length_le
    rwa [written, List.length_map] at this
  have hn : n < c.appended.length := Nat.lt_of_lt_of_le h.promised hlength
  have hdead : c.appended[n].2 = false := by
    refine h.after _ ?_
    rw [List.drop_eq_getElem_cons hn]
    exact List.mem_cons_self
  have halive : c.appended[n].2 = true := by
    refine hdelivered.alive _ (List.mem_take_iff_getElem.2 ⟨n, ?_, rfl⟩)
    have := h.promised
    omega
  rw [hdead] at halive
  cases halive

/-- Destroying the members while a blob waits. -/
theorem Invariant.late {c c' : EventCollector} (h : c.Invariant) (hpending : ¬ c.DestroyedIdle .destroyMembers)
    (hs : c.step .destroyMembers = some c') : c'.Late c.appended.length := by
  have hinvariant := h.step hs
  simp only [EventCollector.step] at hs
  split at hs
  · rename_i halive
    obtain rfl := Option.some.inj hs
    refine ⟨hinvariant, rfl, ?_, fun p hp => ?_⟩
    · change c.appended.length < c.promised.length
      have hsequence := congrArg List.length h.sequence
      rw [h.promised_alive halive]
      rw [List.length_append, List.length_append, written, List.length_map] at hsequence
      have hlength : 0 < c.inHand.length + c.queued.length := by
        by_contra hzero
        refine hpending fun _ => ⟨?_, List.eq_nil_of_length_eq_zero (by omega)⟩
        have hused : c.queued.length = c.bufferUsed := by
          simp [SeparateThreadConsumer.queued, SeparateThreadConsumer.segment]
        omega
      omega
    · rw [List.drop_eq_nil_of_le (Nat.le_refl _)] at hp
      cases hp
  · cases hs

/-! ### The thread comes to its end -/

/-- How many steps the thread has left at most once it was told to stop. -/
def stepsLeft (c : EventCollector) : ℕ :=
  match c.writeThread with
  | .finished => 0
  | .freeValues _ nrOfValues next true => nrOfValues - next + 1
  | .append _ nrOfValues next true => nrOfValues - next + nrOfValues + 2
  | .consumeValues true => 2 * c.capacity + 3
  | .loopCondition => 2 * c.capacity + 4
  | .freeValues _ nrOfValues next false => nrOfValues - next + 2 * c.capacity + 5
  | .append _ nrOfValues next false => nrOfValues - next + nrOfValues + 2 * c.capacity + 6
  | .consumeValues false => 4 * c.capacity + 7
  | .waitStop => 4 * c.capacity + 8
  | .waitQueueEmpty => 4 * c.capacity + 9

theorem stepsLeft_afterConsume (c : EventCollector) (last : Bool) :
    { c with writeThread := afterConsume last }.stepsLeft = if last then 0 else 2 * c.capacity + 4 := by
  cases last <;> rfl

/-- A thread that was told to stop takes a step towards its end. -/
theorem stepsLeft_threadStep {c : EventCollector} (hstop : c.stopWriteThread = true) :
    c.writeThread = .finished ∨ ∃ c', c.threadStep = some c' ∧ c'.stepsLeft < c.stepsLeft := by
  unfold threadStep
  cases hthread : c.writeThread with
  | loopCondition => exact .inr ⟨_, rfl, by simp [stepsLeft, hthread, hstop]⟩
  | waitQueueEmpty =>
    refine .inr ⟨_, rfl, ?_⟩
    cases c.queueEmpty <;> simp [stepsLeft, hthread]
  | waitStop => exact .inr ⟨_, rfl, by simp [stepsLeft, hthread, hstop]⟩
  | consumeValues last =>
    refine .inr ⟨_, rfl, ?_⟩
    have hused : c.takeValues.1.2 ≤ c.capacity := c.bounded
    have hcapacity : c.takeValues.2.capacity = c.capacity := rfl
    by_cases hempty : c.takeValues.1.2 > 0
    · rw [if_pos hempty]
      cases last <;> simp only [stepsLeft, hthread, hcapacity] <;> omega
    · rw [if_neg hempty]
      cases last
      · simp only [stepsLeft, afterConsume, hthread, hcapacity, Bool.false_eq_true, if_false]
        omega
      · simp [stepsLeft, afterConsume, hthread]
  | append values nrOfValues next last =>
    refine .inr ?_
    by_cases hnext : next < nrOfValues
    · refine ⟨_, if_pos hnext, ?_⟩
      cases last <;> simp only [stepsLeft, hthread] <;> omega
    · refine ⟨_, if_neg hnext, ?_⟩
      cases last <;> simp only [stepsLeft, hthread] <;> omega
  | freeValues values nrOfValues next last =>
    refine .inr ?_
    by_cases hnext : next < nrOfValues
    · refine ⟨_, if_pos hnext, ?_⟩
      have hcapacity : (c.setSlot values next (c.slots values next).free).capacity = c.capacity := rfl
      cases last <;> simp only [stepsLeft, hthread, hcapacity] <;> omega
    · refine ⟨_, if_neg hnext, ?_⟩
      rw [stepsLeft_afterConsume]
      cases last
      · simp only [stepsLeft, hthread, Bool.false_eq_true, if_false]
        omega
      · simp [stepsLeft, hthread]
  | finished => exact .inl rfl

/-- The thread that was told to stop comes to its end. -/
theorem exists_finished {c : EventCollector} (hstop : c.stopWriteThread = true) :
    ∃ n c', runFrom step c (List.replicate n .thread) = some c' ∧ c'.stopWriteThread = true ∧
      c'.writeThread = .finished := by
  refine exists_runFrom_replicate (P := fun c => c.stopWriteThread = true)
    (Q := fun c => c.writeThread = .finished) stepsLeft (fun c hstop => ?_) hstop
  rcases stepsLeft_threadStep hstop with hfinished | ⟨c', hs, hlt⟩
  · exact .inl hfinished
  · exact .inr ⟨c', hs, (threadStep_frame hs).2.2.1.trans hstop, hlt⟩

/-! ### Delivery in every interleaving -/

/-- In every run that destroys the collector only when nothing waits, every blob is delivered, in every state on
the way. Destroying it while a blob waits makes every run after it end without delivering: the last drain goes
through the destroyed appender. And a run that was told to stop can always be finished. -/
theorem delivered_of_runFrom (capacity : ℕ) (actions : List CollectorAction) (c : EventCollector)
    (hrun : runFrom step (construct capacity) actions = some c) :
    (Admissible step DestroyedIdle (construct capacity) actions → c.Delivered) ∧
      (¬ c.DestroyedIdle .destroyMembers → ∀ c₁, c.step .destroyMembers = some c₁ →
        ∀ later c₂, runFrom step c₁ later = some c₂ → c₂.writeThread = .finished → ¬ c₂.Delivered) ∧
      (c.stopWriteThread = true → ∃ n c', runFrom step c (List.replicate n .thread) = some c' ∧
        c'.writeThread = .finished) := by
  have hinvariant : c.Invariant :=
    runFrom_invariant (fun _ _ _ h hs => h.step hs) (invariant_construct capacity) hrun
  refine ⟨fun hok => ?_, fun hpending c₁ hdestroy later c₂ hlater hfinished => ?_, fun hstop => ?_⟩
  · have hinTime : c.InTime :=
      runFrom_keeps (fun _ _ _ h hok hs => h.step hok hs) (inTime_construct capacity) hok hrun
    exact hinTime.invariant.delivered hinTime.alive
  · have hlate := hinvariant.late hpending hdestroy
    exact (runFrom_invariant (fun _ _ _ h hs => Late.step h hs) hlate hlater).not_delivered hfinished
  · obtain ⟨n, c', hthread, -, hfinished⟩ := exists_finished hstop
    exact ⟨n, c', hthread, hfinished⟩

/-- One blob is enqueued and appended before the destruction begins. -/
def idleDestruction : List CollectorAction :=
  .tryEnqueue ⟨some [1], 1⟩ :: List.replicate 7 .thread ++
    .destroyMembers :: .stopConsumer :: List.replicate 2 .thread

/-- One blob is enqueued, and the destruction begins at once. -/
def earlyDestruction : List CollectorAction :=
  .tryEnqueue ⟨some [1], 1⟩ :: .destroyMembers :: .stopConsumer :: List.replicate 6 .thread

theorem delivered_of_idleDestruction :
    ∃ c, runFrom step (construct 2) idleDestruction = some c ∧ c.writeThread = .finished ∧ c.Delivered := by
  have hrun : runFrom step (construct 2) idleDestruction =
      some ((runFrom step (construct 2) idleDestruction).get rfl) := (Option.some_get _).symm
  exact ⟨_, hrun, rfl, (delivered_of_runFrom 2 idleDestruction _ hrun).1
    ⟨nofun, nofun, nofun, nofun, nofun, nofun, nofun, nofun, fun _ => ⟨rfl, rfl⟩, nofun, nofun, nofun, trivial⟩⟩

/-- A blob that still waits when the destruction begins is written through the destroyed appender. -/
theorem not_delivered_of_earlyDestruction :
    ¬ ∀ capacity actions c, runFrom step (construct capacity) actions = some c → c.Delivered := by
  intro h
  have hrun : runFrom step (construct 2) earlyDestruction =
      some ((runFrom step (construct 2) earlyDestruction).get rfl) := (Option.some_get _).symm
  have hdelivered := h 2 earlyDestruction _ hrun
  have hdead : (⟨some [1], 1⟩, false) ∈
      ((runFrom step (construct 2) earlyDestruction).get rfl).appended.take 1 := by decide
  exact absurd (hdelivered.alive _ hdead) (by decide)

end EventCollector

end Forum.Persistence
