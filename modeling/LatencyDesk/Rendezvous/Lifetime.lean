import LatencyDesk.Rendezvous.Introduction

/-!
# How long an id is taken, and when a waiting peer is reached

After a pairing the id is reserved until the earlier of the two expiries.  An
abort or a sweep turns the reservation into a completed entry that lasts for
the longest lifetime from then on, which is past both expiries.  A confirmation
keeps the earlier expiry.  So the id of a confirmed match can be registered
again while the other registration has not expired
(`confirmed_id_is_accepted_early`).  `paired_id_is_refused` is what holds: with
equal expiries, or without a confirmation, the id is refused until the later
one.

A reciprocal registration is matched when it is admissible and there is room
for a reservation (`reciprocal_is_matched_iff`).  The registration cap counts
the registrations of all devices, so strangers can use it up
(`strangers_block_a_pair`).
-/

namespace LatencyDesk.Rendezvous

open Lib Protocol List UInt64 AList RendezvousBroker RendezvousRegistration

/-- The calls of the trace were made at times that never go back. -/
def InOrder (h : BrokerTrace) : Prop := h.Pairwise fun a b => a.event.now ≤ b.event.now

instance (h : BrokerTrace) : Decidable (InOrder h) :=
  inferInstanceAs (Decidable (h.Pairwise fun a b => a.event.now ≤ b.event.now))

/-! ## A paired id across one call -/

/-- The id is reserved, or completed until the time at least. -/
structure Held (broker : RendezvousBroker) (matchId : MatchId) (reservedUntil last : UInt64) :
    Prop where
  notWaiting : broker.pending.lookup matchId = none
  kept : broker.reserved.lookup matchId = some ⟨reservedUntil⟩ ∨
    ∃ expiresAt, broker.completed.lookup matchId = some expiresAt ∧ last ≤ expiresAt

variable {broker after : RendezvousBroker} {matchId : MatchId} {device : DeviceId}
  {reservedUntil last now expiresAt : UInt64} {registration : RendezvousRegistration}
  {outcome : RegisterOutcome} {e : BrokerEvent} {waiter : PendingRegistration}
  {delivery : RendezvousDelivery}
  (hadm : broker.Admissible device registration now expiresAt)

section

variable (h : Held broker matchId reservedUntil last)

include h

theorem Held.cleanup (hnow : now < last) (htomb : last ≤ tombstone now) :
    Held (broker.cleanup now).2 matchId reservedUntil last := by
  have hpend : matchId ∉ broker.expiredPending now :=
    not_mem_expiredPending h.notWaiting
  refine ⟨?_, ?_⟩
  · refine Option.eq_none_iff_forall_ne_some.2 fun pend hsome => ?_
    rw [cleanup_pending_eq_some, h.notWaiting] at hsome
    cases hsome.1
  by_cases hexp : matchId ∈ broker.expiredReserved now
  · refine .inr ⟨tombstone now, ?_, htomb⟩
    rw [lookup_cleanup_completed, if_pos (.inl hexp), Option.filter_eq_some_iff]
    exact ⟨rfl, decide_eq_true (UInt64.lt_of_lt_of_le hnow htomb)⟩
  · rcases h.kept with hresv | ⟨expiresAt, hcompl, hlong⟩
    · rw [mem_expiredReserved] at hexp
      refine .inl (cleanup_reserved_eq_some.2 ⟨hresv, ?_⟩)
      exact UInt64.not_le.1 fun hle => hexp ⟨_, hresv, hle⟩
    · refine .inr ⟨expiresAt, ?_, hlong⟩
      rw [cleanup_completed_of_kept hexp hpend, hcompl, Option.filter_eq_some_iff]
      exact ⟨rfl, decide_eq_true (UInt64.lt_of_lt_of_le hnow hlong)⟩

include hadm in
/-- A held id is not admissible. -/
theorem Held.ne_of_admissible : matchId ≠ registration.matchId := by
  intro hid
  rcases h.kept with hresv | ⟨_, hcompl, _⟩
  · rw [hid, hadm.notReserved] at hresv
    cases hresv
  · rw [hid, hadm.notCompleted] at hcompl
    cases hcompl

include hadm in
theorem Held.addWaiting :
    Held (broker.addWaiting device registration expiresAt) matchId reservedUntil last := by
  refine ⟨?_, h.kept⟩
  simp only [RendezvousBroker.addWaiting]
  rw [lookup_insert_ne (h.ne_of_admissible hadm), h.notWaiting]

include hadm in
theorem Held.reserve (waiting : PendingRegistration) :
    Held (broker.reserve device registration waiting expiresAt) matchId reservedUntil last := by
  have hne := h.ne_of_admissible hadm
  refine ⟨?_, ?_⟩
  · simp only [RendezvousBroker.reserve]
    rw [lookup_erase_ne hne, h.notWaiting]
  · simp only [RendezvousBroker.reserve]
    rw [lookup_insert_ne hne]
    exact h.kept

/-- Another completed entry, written over the id or over another one. -/
theorem Held.complete {other : MatchId} (hlast : last ≤ expiresAt)
    (hpend : after.pending.lookup matchId = none)
    (hresv : matchId ≠ other → after.reserved.lookup matchId = broker.reserved.lookup matchId)
    (hcompl : after.completed = broker.completed.insert other expiresAt) :
    Held after matchId reservedUntil last := by
  refine ⟨hpend, ?_⟩
  by_cases hid : matchId = other
  · subst hid
    exact .inr ⟨expiresAt, by rw [hcompl, lookup_insert], hlast⟩
  · rw [hresv hid, hcompl, lookup_insert_ne hid]
    exact h.kept

end

/-- The call confirms the match of the id. -/
def ConfirmsCall (matchId : MatchId) : BrokerEvent → Prop
  | .confirmed other _ _ => other = matchId
  | _ => False

/-- A call at a time before the expiry keeps the id held. -/
theorem Held.step (h : Held broker matchId reservedUntil last) (hplc : broker.Placed)
    (heff : Effect broker e after) (hnow : e.now < last)
    (htomb : last ≤ tombstone e.now)
    (hconf : reservedUntil = last ∨ ¬ConfirmsCall matchId e) :
    Held after matchId reservedUntil last := by
  cases heff with
  | refused | notTaken | cleaned => exact h.cleanup hnow htomb
  | waits hadm => exact (h.cleanup hnow htomb).addWaiting hadm
  | matched hadm => exact (h.cleanup hnow htomb).reserve hadm _
  | taken =>
    have hcleaned := h.cleanup hnow htomb
    exact ⟨hcleaned.notWaiting, hcleaned.kept⟩
  | notConfirmed | notCancelled => exact h
  | @confirmed other _ reserved hthere =>
    -- The completed entry has the expiry of the reservation.
    rcases h.kept with hkept | ⟨expiresAt, hcompl, hlong⟩
    · by_cases hid : matchId = other
      · subst hid
        obtain rfl := Option.some.inj (hthere.symm.trans hkept)
        rcases hconf with hequal | hne
        · exact h.complete (hequal ▸ UInt64.le_refl _) h.notWaiting (fun hne => absurd rfl hne) rfl
        · exact absurd rfl hne
      · exact ⟨h.notWaiting, .inl ((lookup_erase_ne hid).trans hkept)⟩
    · have hid : matchId ≠ other := by
        rintro rfl
        rw [(hplc.reserved matchId reserved hthere).2] at hcompl
        cases hcompl
      exact ⟨h.notWaiting, .inr ⟨expiresAt, (lookup_insert_ne hid).trans hcompl, hlong⟩⟩
  | abortedFree => exact h.complete htomb h.notWaiting (fun _ => rfl) rfl
  | aborted =>
    exact h.complete htomb h.notWaiting (fun hid => lookup_erase_ne hid) rfl
  | cancelled =>
    refine h.complete htomb ?_ (fun _ => rfl) rfl
    rw [lookup_erase_eq, h.notWaiting, ite_self]

/-! ## A paired id across a run -/

/-- What is accepted was admissible after the sweep. -/
theorem admissible_of_accepted
    (h : Effect broker (.registered device registration now (.ok outcome)) after) :
    ∃ expiresAt, (broker.cleanup now).2.Admissible device registration now expiresAt := by
  cases h with
  | waits hadm | matched hadm => exact ⟨_, hadm⟩

section

variable (h : Held broker matchId reservedUntil last)

include h

/-- A registration for a held id is accepted at or after the expiry. -/
theorem Held.le_of_accepted
    (heff : Effect broker (.registered device registration now (.ok outcome)) after)
    (hid : registration.matchId = matchId) (htomb : last ≤ tombstone now) :
    last ≤ now := by
  refine UInt64.not_lt.1 fun hearly => ?_
  obtain ⟨_, hadm⟩ := admissible_of_accepted heff
  exact (h.cleanup hearly htomb).ne_of_admissible hadm hid.symm

/-- Calls before the expiry keep the id held. -/
theorem Held.run (hplc : broker.Placed)
    (calls : List BrokerCall)
    (htimes : ∀ st ∈ machine.trace broker calls, st.event.now < last ∧
      last ≤ tombstone st.event.now)
    (hconf : reservedUntil = last ∨
      ∀ st ∈ machine.trace broker calls, ¬ConfirmsCall matchId st.event) :
    Held (machine.run broker calls) matchId reservedUntil last := by
  induction calls generalizing broker with
  | nil => exact h
  | cons call calls ih =>
    rw [Machine.trace_cons, forall_mem_cons] at htimes hconf
    have heff := effect_step broker call
    have hstep := h.step hplc heff htimes.1.1 htimes.1.2 (hconf.imp_right And.left)
    exact ih hstep (hplc.step heff) htimes.2 (hconf.imp_right And.right)

end

variable {later : UInt64}

/-- A registration that encodes expires within the longest lifetime. -/
theorem expiry_le_tombstone (hencodes : ∃ bytes, registration.encode = .ok bytes)
    (hexp : checkedAdd now registration.ttlSeconds.toUInt64 = some expiresAt)
    (hlater : now ≤ later) : expiresAt ≤ tombstone later := by
  obtain ⟨_, henc⟩ := hencodes
  have hmax := UInt16.le_iff_toNat_le.1 (ttl_of_encode henc).2
  have hsum := checkedAdd_eq_some.1 hexp
  have hbound := toNat_lt expiresAt
  rw [le_iff_toNat_le] at hlater ⊢
  rw [UInt16.toNat_toUInt64] at hsum
  rw [tombstone, toNat_saturatingAdd, UInt16.toNat_toUInt64]
  omega

/-- The pairing reserves the id until the earlier expiry. -/
theorem held_of_pairs (hwaiter : broker.pending.lookup delivery.registration.matchId = some waiter)
    (hpairs : PairsWith waiter delivery expiresAt e) (heff : Effect broker e after)
    (last : UInt64) :
    Held after delivery.registration.matchId (min waiter.expiresAt expiresAt) last := by
  obtain ⟨_, rfl, hexp⟩ := hpairs
  cases heff with
  | matched hadm hthere =>
    have hpend := (cleanup_pending_eq_some.1 hthere).1
    rw [hwaiter, Option.some.injEq] at hpend
    rw [hadm.expiry, Option.some.injEq] at hexp
    subst hpend hexp
    refine ⟨?_, .inl ?_⟩
    · simp only [reserve]
      rw [lookup_erase]
    · simp only [reserve]
      rw [lookup_insert]

variable {limits : RendezvousLimits}

/-- A waiting registration, and the time at which it was let wait. -/
theorem Waiting.exists_accepted {calls : List BrokerCall}
    (h : Waiting waiter (machine.trace (.start limits) calls)) :
    ∃ st ∈ machine.trace (.start limits) calls,
      (∃ bytes, waiter.registration.encode = .ok bytes) ∧
        checkedAdd st.event.now waiter.registration.ttlSeconds.toUInt64 =
          some waiter.expiresAt := by
  obtain ⟨_, st, _, htrace, ⟨_, hev, hexp⟩, _⟩ := h
  have hmem : st ∈ machine.trace (.start limits) calls := by
    rw [htrace]
    exact mem_append_right _ mem_cons_self
  obtain ⟨before, call, _, _, rfl⟩ := machine.mem_trace hmem
  have heff := effect_step (machine.run (.start limits) before) call
  rw [show (machine.step _ call).1 = _ from hev] at heff
  obtain ⟨_, hadm⟩ := admissible_of_accepted heff
  refine ⟨_, hmem, hadm.encodes, ?_⟩
  rw [hev]
  exact hexp

/-- Both registrations of a pairing expire within the longest lifetime from any later
time on. -/
theorem pairing_le_tombstone {before : List BrokerCall} {call : BrokerCall}
    (hwaiter : (machine.run (.start limits) before).pending.lookup
      delivery.registration.matchId = some waiter) (hpairs : PairsWith waiter delivery expiresAt
      (machine.step (machine.run (.start limits) before) call).1)
    (hearlier : ∀ st ∈ machine.trace (.start limits) before, st.event.now ≤ later)
    (hnow : (machine.step (machine.run (.start limits) before) call).1.now ≤ later)
    (hlast : last = waiter.expiresAt ∨ last = expiresAt) :
    last ≤ tombstone later := by
  rcases hlast with rfl | rfl
  · obtain ⟨st, hst, hencodes, hexp⟩ :=
      ((run_recorded limits before).pending _ waiter hwaiter).2.exists_accepted
    exact expiry_le_tombstone hencodes hexp (hearlier st hst)
  · obtain ⟨_, hev, hexp⟩ := hpairs
    have heff := effect_step (machine.run (.start limits) before) call
    rw [hev] at hnow heff
    obtain ⟨_, hadm⟩ := admissible_of_accepted heff
    exact expiry_le_tombstone hadm.encodes hexp hnow

/-- After a pairing, a registration for the id is accepted only at or after both expiries,
when these are equal or no call confirms the match in between. -/
theorem paired_id_is_refused {limits : RendezvousLimits} {calls : List BrokerCall}
    {earlier between later : BrokerTrace} {st again : Step RendezvousBroker BrokerEvent}
    (htrace : machine.trace (.start limits) calls = earlier ++ st :: (between ++ again :: later))
    (horder : InOrder (machine.trace (.start limits) calls))
    {waiter : PendingRegistration} {delivery : RendezvousDelivery} {expiresAt : UInt64}
    (hwaiter : st.pre.pending.lookup delivery.registration.matchId = some waiter)
    (hpairs : PairsWith waiter delivery expiresAt st.event)
    (hconfirm : waiter.expiresAt = expiresAt ∨
      ∀ x ∈ between, ¬ConfirmsCall delivery.registration.matchId x.event)
    {device : DeviceId} {registration : RendezvousRegistration} {now : UInt64}
    {outcome : RegisterOutcome}
    (hagain : again.event = .registered device registration now (.ok outcome))
    (hid : registration.matchId = delivery.registration.matchId) :
    waiter.expiresAt ≤ now ∧ expiresAt ≤ now := by
  suffices hboth : ∀ last, last = waiter.expiresAt ∨ last = expiresAt → last ≤ now from
    ⟨hboth _ (.inl rfl), hboth _ (.inr rfl)⟩
  intro last hlast
  rw [htrace] at horder
  obtain ⟨_, hrest, hcross⟩ := pairwise_append.1 horder
  obtain ⟨hafter, hrest⟩ := pairwise_cons.1 hrest
  obtain ⟨_, _, hbtw⟩ := pairwise_append.1 hrest
  have hnow : again.event.now = now := by rw [hagain]; rfl
  obtain ⟨before, call, _, _, rfl, rfl, hafterTrace⟩ := machine.trace_eq_append_cons htrace
  -- The two expiries are within the longest lifetime from every later step on.
  have htomb : ∀ x ∈ between ++ again :: later,
      last ≤ tombstone x.event.now := fun x hx =>
    pairing_le_tombstone hwaiter hpairs
      (fun y hy => hcross y hy x (mem_cons_of_mem _ hx)) (hafter x hx) hlast
  obtain ⟨mid, call', _, _, rfl, rfl, _⟩ := machine.trace_eq_append_cons hafterTrace.symm
  have heff := effect_step (machine.run (.start limits) before) call
  have hplc := (run_placed limits before).step heff
  have hlateAgain := htomb _ (mem_append_right _ mem_cons_self)
  rw [hnow] at hlateAgain
  refine UInt64.not_lt.1 fun hearly => absurd ?_ (UInt64.not_le.2 hearly)
  have hheld := (held_of_pairs hwaiter hpairs heff last).run hplc mid (fun x hx => ?_)
    (hconfirm.imp_left fun hequal => ?_)
  · have hacc := effect_step
      (machine.run (machine.stepAt (machine.run (.start limits) before) call).post mid) call'
    rw [show (machine.step _ call').1 = _ from hagain] at hacc
    exact hheld.le_of_accepted hacc hid hlateAgain
  · have hle := hbtw x hx _ mem_cons_self
    rw [hnow] at hle
    exact ⟨UInt64.lt_of_le_of_lt hle hearly, htomb x (mem_append_left _ hx)⟩
  · rw [hequal] at hlast ⊢
    rw [or_self] at hlast
    rw [hlast]
    exact ite_self _

/-- A pair registers, the match is aborted, and the waiter registers again later. -/
def abortAndReuse : List BrokerCall :=
  [.register sampleInitiator .sample 100, .register sampleResponder sampleAnswer 101,
    .abortMatch RendezvousRegistration.sample.matchId 102,
    .register sampleInitiator .sample 250]

/-- A pair registers, the match is confirmed, and the waiter registers again when its first
registration has expired.  The answer of the pair lasts until 161. -/
def confirmAndReuse : List BrokerCall :=
  [.register sampleInitiator .sample 100, .register sampleResponder sampleAnswer 101,
    .confirmMatch RendezvousRegistration.sample.matchId 102,
    .register sampleInitiator .sample 130]

/-- The registration that waits in the samples. -/
def sampleWaiter : PendingRegistration := ⟨sampleInitiator, .sample, 130⟩

theorem aborted_id_is_refused :
    (machine.run (.start {}) (abortAndReuse.take 3)).register sampleInitiator .sample 250 =
        (.ok (.waiting 280), machine.run (.start {}) abortAndReuse) ∧
      sampleWaiter.expiresAt ≤ 250 ∧ (161 : UInt64) ≤ 250 := by
  refine ⟨rfl, ?_⟩
  exact @paired_id_is_refused {} abortAndReuse [_] [_] [] _ _ rfl (by decide +kernel) sampleWaiter
    ⟨sampleResponder, sampleAnswer⟩ 161 rfl ⟨101, rfl, rfl⟩ (.inr (forall_mem_singleton.2 id))
    _ _ _ _ rfl rfl

/-- The id of a confirmed match is accepted before the answer expires. -/
theorem confirmed_id_is_accepted_early :
    InOrder (machine.trace (.start {}) confirmAndReuse) ∧
      (machine.trace (.start {}) confirmAndReuse).map Step.event =
        [.registered sampleInitiator .sample 100 (.ok (.waiting 130)),
          .registered sampleResponder sampleAnswer 101 (.ok (.matched ⟨sampleInitiator, .sample⟩)),
          .confirmed RendezvousRegistration.sample.matchId 102 (.ok ()),
          .registered sampleInitiator .sample 130 (.ok (.waiting 160))] ∧
      checkedAdd 101 sampleAnswer.ttlSeconds.toUInt64 = some 161 :=
  ⟨by decide +kernel, rfl, rfl⟩

/-! ## A waiting peer -/

/-- In every state that a run reaches, the reciprocal of a live waiting registration is
matched exactly when it encodes, its expiry does not overflow, its id is not completed, the
registrations of all devices leave one of the cap, and there is room for a reservation. -/
theorem reciprocal_is_matched_iff (limits : RendezvousLimits) (calls : List BrokerCall)
    {waiter : PendingRegistration} {device : DeviceId} {registration : RendezvousRegistration}
    {now : UInt64}
    (hwaiter : (machine.run (.start limits) calls).pending.lookup registration.matchId =
      some waiter)
    (hlive : now < waiter.expiresAt) (hreciprocal : RendezvousBroker.Reciprocal waiter device
      registration) :
    let broker := ((machine.run (.start limits) calls).cleanup now).2
    ((machine.run (.start limits) calls).register device registration now).1 =
        .ok (.matched ⟨waiter.device, waiter.registration⟩) ↔
      (∃ bytes, registration.encode = .ok bytes) ∧
        now.toNat + registration.ttlSeconds.toNat < 2 ^ 64 ∧
        broker.completed.lookup registration.matchId = none ∧
        broker.pending.length + 2 * broker.reserved.length + 2 * broker.matchCount <
          broker.limits.maxSuccessfulRegistrations ∧
        broker.ReservationRoom := by
  intro broker
  have hbalanced : broker.Balanced := (run_balanced limits calls).cleanup now
  have hplc : broker.Placed := (run_placed limits calls).cleanup now
  have hpend : broker.pending.lookup registration.matchId = some waiter :=
    cleanup_pending_eq_some.2 ⟨hwaiter, hlive⟩
  rw [← hbalanced.successful]
  constructor
  · intro hmtch
    have heff := effect_register (machine.run (.start limits) calls) device registration now
    rw [hmtch] at heff
    generalize (register _ _ _ _).2 = after at heff
    cases heff with
    | @matched _ _ _ expiresAt _ _ hadm _ _ hroom =>
      have hsum := checkedAdd_eq_some.1 hadm.expiry
      have hbound := toNat_lt expiresAt
      rw [UInt16.toNat_toUInt64] at hsum
      exact ⟨hadm.encodes, by omega, hadm.notCompleted, hadm.room, hroom⟩
  · intro ⟨hencodes, htime, hcompl, hcap, hroom⟩
    have hoth : registration.expectedPeerFingerprint ≠ device.bytes := by
      rw [hreciprocal.expectsWaiter]
      exact fun hbytes => hreciprocal.distinct (DeviceId.mk.injEq _ _ _ _ ▸ hbytes)
    obtain ⟨expiresAt, hexp⟩ : ∃ expiresAt,
        checkedAdd now registration.ttlSeconds.toUInt64 = some expiresAt := by
      refine Option.ne_none_iff_exists'.1 fun hnone => ?_
      rw [checkedAdd_eq_none, UInt16.toNat_toUInt64] at hnone
      omega
    have hadm : broker.Admissible device registration now expiresAt :=
      ⟨hencodes, hoth, hcompl, hplc.reserved_of_waiting hpend,
        hplc.waiting _ waiter hpend device, hexp, hcap⟩
    unfold register
    rw [admission_of_admissible hadm, hpend]
    rcases pair_cases broker device registration waiter expiresAt with
      ⟨_, hnot⟩ | ⟨_, hpair⟩
    · exact absurd ⟨hreciprocal, hroom⟩ hnot
    · exact congrArg Prod.fst hpair

theorem sample_reciprocal :
    RendezvousBroker.Reciprocal sampleWaiter sampleResponder sampleAnswer :=
  ⟨by decide, rfl, rfl, by decide, rfl, rfl⟩

theorem sample_is_matched :
    ((machine.run (.start {}) [.register sampleInitiator .sample 100]).register sampleResponder
      sampleAnswer 101).1 = .ok (.matched ⟨sampleInitiator, .sample⟩) :=
  (reciprocal_is_matched_iff {} [.register sampleInitiator .sample 100] rfl (by decide)
    sample_reciprocal).2 ⟨⟨_, rfl⟩, by decide, rfl, by decide, ⟨by decide, by decide, by decide⟩⟩

/-- A limit of one match, and of the two registrations that it takes. -/
def onePair : RendezvousLimits := { maxSuccessfulRegistrations := 2, maxMatches := 1 }

/-- A device that waits for somebody else. -/
def stranger : DeviceId := ⟨.replicate 32 6, by decide⟩

/-- A pair is not matched, though nothing is confirmed or reserved: a stranger holds the
second of the two registrations. -/
theorem strangers_block_a_pair :
    ∃ broker, RendezvousBroker.new onePair = .ok broker ∧
      let state := machine.run broker [.register sampleInitiator .sample 100,
        .register stranger { sample with matchId := .replicate 16 8 } 101]
      state.pending.lookup sampleAnswer.matchId = some sampleWaiter ∧
        102 < sampleWaiter.expiresAt ∧
        RendezvousBroker.Reciprocal sampleWaiter sampleResponder sampleAnswer ∧
        state.matchCount + state.reserved.length < state.limits.maxMatches ∧
        (state.register sampleResponder sampleAnswer 102).1 = .error .capacity :=
  ⟨.start onePair, rfl, rfl, by decide, sample_reciprocal, by decide, rfl⟩

end LatencyDesk.Rendezvous
