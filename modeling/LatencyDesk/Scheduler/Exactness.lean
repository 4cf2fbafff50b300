import LatencyDesk.Scheduler.Refinement

/-!
# Every run of the scheduler

`Exact` is what one call owes to the bag: the counter, the caps, no subtraction
below zero, and a result that the bag allows.  `ExactRun` adds what holds of a whole
run: every item that was inserted has left or is still queued, counted once, and
draining at any time sorts what is left.

`scheduler_is_exact_iff` says for which caps every run is exact, and
`byte_counter_wraps` is the run that is not when the byte cap is `usize::MAX`.
-/

namespace LatencyDesk.Scheduler

open Lib DeadlineScheduler List Machine Nat

/-- The items that a call puts into the queue. -/
def SchedulerEvent.inserted : SchedulerEvent → Bag
  | .pushed item _ result => pushInserted item result.outcome
  | .popped _ _ => 0

/-- The items that leave in a call: popped, expired or evicted. -/
def SchedulerEvent.left : SchedulerEvent → Bag
  | .pushed _ _ result => (result.expired : Bag) + result.evicted
  | .popped _ result => (result.expired : Bag) + (result.item.toList : Bag)

/-- The result of a call is one that the bag allows, and a pop returns what `peek` shows. -/
def Allowed (st : Step DeadlineScheduler SchedulerEvent) : Prop :=
  match st.event with
  | .pushed item now result => SpecPush st.pre.caps item now st.pre.bag result st.post.bag
  | .popped now result => SpecPop now st.pre.bag result st.post.bag ∧
      ((st.pre.items.map (·.id)).Nodup → result.item = st.pre.peek now)

structure Exact (st : Step DeadlineScheduler SchedulerEvent) : Prop where
  counted : st.post.queuedBytes.toNat = st.post.bag.total
  noUnderflow : st.event.left.total ≤ st.pre.queuedBytes.toNat
  items : st.post.bag.card ≤ st.post.maxItems
  bytes : st.post.bag.total ≤ st.post.maxBytes.toNat
  allowed : Allowed st

structure ExactRun (s : DeadlineScheduler) (calls : List SchedulerCall) : Prop where
  steps : ∀ st ∈ schedulerMachine.trace s calls, Exact st
  conserved : ((schedulerMachine.trace s calls).map (·.event.inserted)).sum =
    ((schedulerMachine.trace s calls).map (·.event.left)).sum + (schedulerMachine.run s calls).bag
  drains : ∀ now, let final := schedulerMachine.run s calls
    (drained now final.items.length final : Bag) = final.bag.live now ∧
      (drained now final.items.length final).Pairwise (·.urgency ≤ ·.urgency)

/-- Every run of a new scheduler with these caps is exact. -/
def IsExact (maxItems : Nat) (maxBytes : UInt64) : Prop :=
  ∀ s, DeadlineScheduler.new maxItems maxBytes = some s → ∀ calls, ExactRun s calls

section

variable {s : DeadlineScheduler} {st : Step DeadlineScheduler SchedulerEvent}

/-- A call keeps what it starts with: the items that were there and the ones it inserts are
the ones that leave and the ones that stay. -/
theorem Allowed.conserves (h : Allowed st) :
    st.event.left + st.post.bag = st.pre.bag + st.event.inserted := by
  obtain ⟨_, event, post⟩ := st
  cases event with
  | pushed item now res =>
    obtain ⟨_, hsum, hpost⟩ := SpecPush.removes h
    show (res.expired : Bag) + res.evicted + post.bag = _
    rw [hpost, ← add_assoc, hsum]
    rfl
  | popped now res => exact (SpecPop.conserves h.1).trans (add_zero _).symm

/-- What leaves in a call was in the bag before it. -/
theorem Allowed.left_le (h : Allowed st) :
    st.event.left.total ≤ st.pre.bag.total := by
  obtain ⟨_, event, post⟩ := st
  cases event with
  | pushed item now res =>
    obtain ⟨kept, hsum, -⟩ := SpecPush.removes h
    rw [← hsum, Bag.total_add]
    exact le_add_right _ _
  | popped now res =>
    rw [← SpecPop.conserves h.1, Bag.total_add]
    exact le_add_right _ _

/-- Every call is exact. -/
theorem DeadlineScheduler.Sound.step (h : s.Sound) (hcaps : Caps.Exact s.caps)
    (call : SchedulerCall) :
    Exact (schedulerMachine.stepAt s call) ∧ (schedulerMachine.step s call).2.Sound ∧
      (schedulerMachine.step s call).2.caps = s.caps := by
  have hstep : Allowed (schedulerMachine.stepAt s call) ∧
      (schedulerMachine.step s call).2.Sound ∧ (schedulerMachine.step s call).2.caps = s.caps := by
    cases call with
    | push item now => exact h.push hcaps item now
    | popNext now =>
      obtain ⟨hspec, hsnd, hsame⟩ := h.popNext now
      exact ⟨⟨hspec, fun hids => h.peek hids now⟩, hsnd, hsame⟩
  obtain ⟨hallowed, hsnd, hsame⟩ := hstep
  have hcount : s.queuedBytes.toNat = s.bag.total := h.counted
  have hleft : (schedulerMachine.stepAt s call).event.left.total ≤ s.queuedBytes.toNat := by
    rw [hcount]
    exact hallowed.left_le
  exact ⟨⟨hsnd.counted, hleft, hsnd.items, hsnd.bytes, hallowed⟩, hsnd, hsame⟩

/-- Every run of a sound scheduler is exact. -/
theorem DeadlineScheduler.Sound.run (h : s.Sound) (hcaps : Caps.Exact s.caps)
    (calls : List SchedulerCall) :
    (schedulerMachine.run s calls).Sound ∧
      (∀ st ∈ schedulerMachine.trace s calls, Exact st) ∧
      s.bag + ((schedulerMachine.trace s calls).map (·.event.inserted)).sum =
        ((schedulerMachine.trace s calls).map (·.event.left)).sum +
          (schedulerMachine.run s calls).bag := by
  induction calls generalizing s with
  | nil => exact ⟨h, nofun, add_comm _ _⟩
  | cons call calls ih =>
    obtain ⟨hexact, hsnd, hsame⟩ := h.step hcaps call
    obtain ⟨hfinal, hsteps, hsum⟩ := ih hsnd (hsame ▸ hcaps)
    refine ⟨hfinal, fun st hst => ?_, ?_⟩
    · rcases mem_cons.1 hst with rfl | hlater
      · exact hexact
      · exact hsteps st hlater
    · have hstep := hexact.allowed.conserves
      simp only [trace_cons, run_cons, map_cons, sum_cons]
      rw [← add_assoc]
      have hbag : s.bag + (schedulerMachine.stepAt s call).event.inserted =
          (schedulerMachine.stepAt s call).event.left + (schedulerMachine.step s call).2.bag :=
        hstep.symm
      rw [hbag, add_assoc, hsum, add_assoc]

end

variable {maxItems : Nat} {s : DeadlineScheduler}

theorem sound_new {maxBytes : UInt64} (h : DeadlineScheduler.new maxItems maxBytes = some s) :
    s.Sound ∧ s.caps = ⟨maxItems, maxBytes.toNat⟩ ∧ s.bag = 0 := by
  unfold new at h
  split_ifs at h
  cases h
  exact ⟨⟨rfl, zero_le _, zero_le _⟩, rfl, rfl⟩

/-! ## The byte cap `usize::MAX` -/

/-- An item of half of all bytes. -/
def hugeItem (id : UInt64) : ScheduledItem :=
  { id := id, priority := .input, deadline := 1, payloadBytes := 0x8000000000000000 }

def hugePushes : List SchedulerCall := [.push (hugeItem 1) 0, .push (hugeItem 2) 0]

theorem dropExpiredFrom_of_live {now : Nat} {idx : Nat}
    (h : ∀ item ∈ s.items, now < item.deadline) : dropExpiredFrom now s idx = ([], s) := by
  induction s, idx using dropExpiredFrom.induct now with
  | case1 s idx hidx hexp =>
    exact absurd hexp (not_le.2 (h _ (get_mem _ _)))
  | case2 s idx hidx hlive ih =>
    rw [dropExpiredFrom, dif_pos hidx, if_neg hlive]
    exact ih h
  | case3 s idx hidx => rw [dropExpiredFrom, dif_neg hidx]

theorem not_usizeMax_lt {bytes : UInt64} : ¬usizeMax < bytes := by
  have hbound := UInt64.toNat_lt bytes
  have hmax : usizeMax.toNat = 2 ^ 64 - 1 := rfl
  rw [UInt64.lt_iff_toNat_lt]
  omega

/-- With the byte cap `usize::MAX` a push looks at the number of the items only. -/
theorem push_of_usizeMax (hmax : s.maxBytes = usizeMax)
    (hlen : s.items.length < s.maxItems) (now : Nat)
    (hlive : ∀ item ∈ s.items, now < item.deadline) (item : ScheduledItem) :
    s.push item now = (⟨.inserted 0, [], []⟩,
      { s with queuedBytes := s.queuedBytes + item.payloadBytes, items := s.items ++ [item] }) := by
  have hroom : ¬s.isFullFor item = true := by
    simp only [isFullFor, hmax, Bool.or_eq_true, decide_eq_true_eq, not_or]
    exact ⟨not_le.2 hlen, not_usizeMax_lt⟩
  unfold push
  rw [if_neg (by rw [hmax]; exact not_usizeMax_lt), dropExpired, dropExpiredFrom_of_live hlive]
  dsimp only
  rw [evictFor, if_neg hroom]
  rfl

/-- The queue after the two pushes.  The counter has come back to zero. -/
theorem run_hugePushes (h : 1 < maxItems) :
    schedulerMachine.run
        { maxItems := maxItems, maxBytes := usizeMax, queuedBytes := 0, items := [] } hugePushes =
      { maxItems := maxItems, maxBytes := usizeMax, queuedBytes := 0,
        items := [hugeItem 1, hugeItem 2] } := by
  have hfirst := push_of_usizeMax (s := ⟨maxItems, usizeMax, 0, []⟩) rfl
    (show 0 < maxItems by omega) 0 (nofun) (hugeItem 1)
  have hsnd := push_of_usizeMax
    (s := ⟨maxItems, usizeMax, 0 + (hugeItem 1).payloadBytes, [hugeItem 1]⟩) rfl
    (show 1 < maxItems from h) 0
    (fun item hmem => by rw [mem_singleton.1 hmem]; exact zero_lt_one) (hugeItem 2)
  have hwrap : 0 + (hugeItem 1).payloadBytes + (hugeItem 2).payloadBytes = 0 := by decide
  rw [hwrap] at hsnd
  unfold hugePushes schedulerMachine
  simp only [run_cons, run_nil, record, hfirst, nil_append, hsnd, cons_append]

/-- The sum of the queued bytes is more than the counter can hold. -/
theorem not_counted_hugePushes (h : 1 < maxItems) :
    ¬∀ st ∈ schedulerMachine.trace
      { maxItems := maxItems, maxBytes := usizeMax, queuedBytes := 0, items := [] } hugePushes,
        st.post.queuedBytes.toNat = st.post.bag.total := by
  intro hcnt
  have hlast := hcnt _ (.tail _ (.head _))
  rw [show (schedulerMachine.stepAt (schedulerMachine.step
    { maxItems := maxItems, maxBytes := usizeMax, queuedBytes := 0, items := [] }
      (.push (hugeItem 1) 0)).2 (.push (hugeItem 2) 0)).post = _ from run_hugePushes h] at hlast
  have htotal : Bag.total ([hugeItem 1, hugeItem 2] : List ScheduledItem) = 2 ^ 64 := by decide
  have hzero : (0 : Nat) = 2 ^ 64 := Eq.trans hlast htotal
  exact absurd hzero (by decide)

/-- Every run of a new scheduler refines the bounded bag exactly when its byte cap is below
`usize::MAX`, or it has room for one item only. -/
theorem scheduler_is_exact_iff (maxItems : Nat) (maxBytes : UInt64) :
    IsExact maxItems maxBytes ↔ maxBytes < usizeMax ∨ maxItems ≤ 1 := by
  constructor
  · intro hexact
    by_contra hcaps
    rw [not_or, not_le] at hcaps
    have hmax : maxBytes = usizeMax := by
      have hle := mt UInt64.lt_iff_toNat_lt.2 hcaps.1
      have hbound := UInt64.toNat_lt maxBytes
      have husize : usizeMax.toNat = 2 ^ 64 - 1 := rfl
      exact UInt64.toNat_inj.1 (by omega)
    subst hmax
    have hnew : new maxItems usizeMax =
        some { maxItems := maxItems, maxBytes := usizeMax, queuedBytes := 0, items := [] } :=
      if_pos ⟨by omega, by decide⟩
    exact not_counted_hugePushes hcaps.2
      fun st hst => ((hexact _ hnew hugePushes).steps st hst).counted
  · intro hcaps s hnew calls
    obtain ⟨hsnd, hsame, hempty⟩ := sound_new hnew
    have hexact : Caps.Exact s.caps := by
      rw [hsame]
      exact hcaps.imp UInt64.lt_iff_toNat_lt.1 id
    obtain ⟨hfinal, hsteps, hsum⟩ := hsnd.run hexact calls
    rw [hempty, zero_add] at hsum
    exact ⟨hsteps, hsum, fun now => hfinal.drained now (le_refl _)⟩

/-- Two items of half of all bytes in a queue of two items: the queue holds more than its byte
cap, and it counts zero bytes. -/
theorem byte_counter_wraps :
    let s : DeadlineScheduler :=
      { maxItems := 2, maxBytes := usizeMax, queuedBytes := 0, items := [] }
    new 2 usizeMax = some s ∧
      (schedulerMachine.run s hugePushes).queuedBytes = 0 ∧
      (schedulerMachine.run s hugePushes).items = [hugeItem 1, hugeItem 2] ∧
      usizeMax.toNat < (schedulerMachine.run s hugePushes).bag.total := by
  have hrun := run_hugePushes (by decide : 1 < 2)
  refine ⟨rfl, ?_, ?_, ?_⟩
  · rw [hrun]
  · rw [hrun]
  · rw [hrun]
    decide

/-! ## Rejected pushes -/

/-- An eviction loop that finds no room has evicted every item of a less urgent class. -/
theorem evictFor_stuck_bag (item : ScheduledItem) (s : DeadlineScheduler)
    (h : (evictFor item s).2.1 = false) :
    (evictFor item s).2.2.bag = s.bag.filter (·.priority.rank ≤ item.priority.rank) := by
  induction s using evictFor.induct item with
  | case1 s hfull hvictim =>
    rw [evictFor, if_pos hfull, hvictim]
    exact (Multiset.filter_eq_self.2 (victim_eq_none hvictim)).symm
  | case2 s hfull idx hvictim ih =>
    rw [evictFor, if_pos hfull, hvictim] at h ⊢
    rw [ih h, ← removeAt_bag idx, Multiset.filter_cons_of_neg]
    exact Nat.not_le.2 (victim_eq_some hvictim).lessUrgent
  | case3 s hfull =>
    rw [evictFor, if_neg hfull] at h
    cases h

/-- A rejected push keeps all that has not expired exactly when the item alone is too large, or
nothing less urgent is queued. -/
theorem rejected_push_keeps_live_iff (s : DeadlineScheduler) (item : ScheduledItem) (now : Nat)
    (h : ∀ evicted, (s.push item now).1.outcome ≠ .inserted evicted) :
    s.bag.live now ≤ (s.push item now).2.bag ↔
      s.maxBytes < item.payloadBytes ∨
        ∀ other ∈ s.bag.live now, other.priority.rank ≤ item.priority.rank := by
  unfold push at h ⊢
  by_cases hover : s.maxBytes < item.payloadBytes
  · rw [if_pos hover]
    exact iff_of_true (Multiset.filter_le _ _) (.inl hover)
  rw [if_neg hover] at h ⊢
  have hlive := (dropExpired_drops s now).split.2
  have hstuck := evictFor_stuck_bag item (s.dropExpired now).2
  dsimp only at h ⊢
  generalize evictFor item (s.dropExpired now).2 = res at h hstuck ⊢
  obtain ⟨_, _ | _, _⟩ := res
  · rw [hstuck rfl, hlive, Multiset.le_filter]
    exact ⟨fun hle => .inr hle.2, fun hor => ⟨le_rfl, hor.resolve_left hover⟩⟩
  · exact absurd rfl (h _)

def refinementItem : ScheduledItem := ⟨2, .refinement, 9, 3⟩

def controlItem : ScheduledItem := ⟨3, .control, 9, 5⟩

/-- A queue of ten bytes with an input item of six and the refinement. -/
def crowded : DeadlineScheduler := ⟨4, 10, 9, [⟨1, .input, 9, 6⟩, refinementItem]⟩

/-- The refinement is evicted, and there is no room behind it. -/
theorem push_crowded : crowded.push controlItem 0 =
    (⟨.rejectedCapacity, [], [refinementItem]⟩, ⟨4, 10, 6, [⟨1, .input, 9, 6⟩]⟩) := by
  unfold push
  rw [if_neg (by decide), dropExpired, dropExpiredFrom_of_live (by decide)]
  dsimp only
  rw [evictFor, if_pos (by decide), show victim _ _ = some ⟨1, by decide⟩ by decide]
  dsimp only
  rw [evictFor, if_pos (by decide), show victim _ _ = none by decide]
  rfl

theorem crowded_push_loses : ¬crowded.bag.live 0 ≤ (crowded.push controlItem 0).2.bag :=
  mt (rejected_push_keeps_live_iff crowded controlItem 0
    (fun _ => by rw [push_crowded]; exact nofun)).1 (by decide)

theorem rejected_push_evicts : (crowded.push controlItem 0).1.outcome = .rejectedCapacity ∧
    refinementItem ∈ crowded.bag.live 0 ∧
    refinementItem ∉ (crowded.push controlItem 0).2.bag := by
  rw [push_crowded]
  decide

end LatencyDesk.Scheduler
