import LatencyDesk.Rendezvous.Broker

/-!
# The accounts of the broker

`successful_registrations` is one counter for three things: a waiting
registration holds one slot, a reservation two, and a confirmed match two for
good.  `Balanced` says so, with the caps and with the releases, which never ask
for more than is there.

`Placed` says where an id can be.  A reserved id is neither waiting nor
completed, and a waiting id has no delivery.  A delivery is guarded by the
reservation or by the completed entry of its id, which lasts at least as long.
Both hold after every run (`run_balanced`, `run_placed`).

That a waiting id is not completed is not among them.  `abort_match` writes the
completed entry of the id that it is given and leaves a waiting registration
alone, so the id of a waiting registration can be completed as well
(`abort_of_pending_completes`).  The rest of the accounts and this one hold when
no abort names a waiting id (`broker_accounts`).
-/

namespace LatencyDesk.Rendezvous

open Lib Protocol List Option AList RendezvousBroker RendezvousRegistration Nat

variable {ν : Type} {t : Table MatchId ν} (limits : RendezvousLimits) (calls : List BrokerCall)
  {broker : RendezvousBroker}

namespace RendezvousBroker

/-! ## Counters -/

/-- The counter and the caps. -/
structure Balanced (broker : RendezvousBroker) : Prop where
  successful : broker.successfulRegistrations =
    broker.pending.length + 2 * broker.reserved.length + 2 * broker.matchCount
  registrations : broker.successfulRegistrations ≤ broker.limits.maxSuccessfulRegistrations
  total : broker.matchCount + broker.reserved.length ≤ broker.limits.maxMatches
  devices : ∀ device, broker.devicePending device ≤ broker.limits.maxPendingPerDevice
  exact : ∀ release ∈ broker.releases, release.released = release.requested

variable {broker : RendezvousBroker}

theorem start_balanced : (start limits).Balanced where
  successful := rfl
  registrations := zero_le _
  total := zero_le _
  devices _ := zero_le _
  exact := nofun

theorem Balanced.cleanup (h : broker.Balanced) (now : UInt64) :
    (broker.cleanup now).2.Balanced := by
  have hpend := broker.pending.length_eraseAll_keysWhere fun _ p => p.expiresAt ≤ now
  have hresv := broker.reserved.length_eraseAll_keysWhere fun _ r => r.expiresAt ≤ now
  have hsuccessful := h.successful
  have htotal := h.total
  rw [cleanup_eq]
  unfold expiredPending expiredReserved
  refine ⟨by dsimp only; omega, le_trans (by dsimp only; omega) h.registrations,
    by dsimp only; omega, fun device => ?_, ?_⟩
  · refine le_trans ?_ (h.devices device)
    unfold devicePending
    rw [count_eraseAll_keysWhere]
    exact count_le_count fun _ _ hboth => (Bool.and_eq_true_iff.1 hboth).1
  · intro release hrel
    rw [append_assoc, mem_append, mem_append] at hrel
    rcases hrel with hold | hpendingLog | hreservedLog
    · exact h.exact release hold
    · exact exact_of_mem_releaseLog hpendingLog (by omega)
    · exact exact_of_mem_releaseLog hreservedLog (by omega)

variable {expiresAt now : UInt64} {reg : RendezvousRegistration} {matchId : MatchId}
  {device : DeviceId} {waiting : PendingRegistration} {e : BrokerEvent}
  {after : RendezvousBroker} (hadm : Admissible broker device reg now expiresAt)

include hadm in
theorem Balanced.addWaiting (h : broker.Balanced)
    (hpend : broker.pending.lookup reg.matchId = none)
    (hroom : WaitingRoom broker device) :
    (broker.addWaiting device reg expiresAt).Balanced := by
  have hsuccessful := h.successful
  refine ⟨?_, hadm.room, h.total, fun other => ?_, h.exact⟩
  · simp only [RendezvousBroker.addWaiting]
    rw [length_insert hpend]
    omega
  have hdev := h.devices other
  have hmax := hroom.device
  unfold devicePending at ⊢
  simp only [RendezvousBroker.addWaiting]
  rw [count_insert hpend]
  split
  · next hoth =>
    obtain rfl : device = other := of_decide_eq_true hoth
    exact hmax
  · exact hdev

include hadm in
theorem Balanced.reserve (h : broker.Balanced)
    (hpend : broker.pending.lookup reg.matchId = some waiting)
    (hroom : ReservationRoom broker) :
    (broker.reserve device reg waiting expiresAt).Balanced := by
  have hsuccessful := h.successful
  have hlen := length_erase hpend
  have htotal := hroom.total
  refine ⟨?_, hadm.room, ?_, fun other => ?_, h.exact⟩
  iterate 2
    · simp only [RendezvousBroker.reserve]
      rw [length_insert hadm.notReserved]
      omega
  · exact le_trans (count_erase_le _ _) (h.devices other)

/-- One more release, of slots that are there. -/
theorem exact_snoc {releases : List Release} {requested available : Nat}
    (h : ∀ release ∈ releases, release.released = release.requested)
    (henough : requested ≤ available) :
    ∀ release ∈ releases ++ [⟨requested, min requested available⟩],
      release.released = release.requested := by
  intro release hrel
  rw [mem_append, mem_singleton] at hrel
  rcases hrel with hold | rfl
  · exact h release hold
  · exact min_eq_left henough

theorem Balanced.step (h : broker.Balanced) (heff : Effect broker e after) : after.Balanced := by
  have hsuccessful := h.successful
  have hregistrations := h.registrations
  have htotal := h.total
  cases heff with
  | refused _ _ now | notTaken _ _ now | cleaned now => exact h.cleanup now
  | @waits _ _ now _ hadm hvacant hroom =>
    exact (h.cleanup now).addWaiting hadm hvacant hroom
  | @matched _ _ now _ _ _ hadm hthere _ hroom =>
    exact (h.cleanup now).reserve hadm hthere hroom
  | @taken _ _ now => exact { h.cleanup now with }
  | notConfirmed | notCancelled => exact h
  | confirmed hthere =>
    have hlen := length_erase hthere
    exact ⟨by dsimp only; omega, h.registrations, by dsimp only; omega, h.devices, h.exact⟩
  | abortedFree => exact { h with }
  | aborted hthere =>
    have hlen := length_erase hthere
    exact ⟨by dsimp only; omega, by dsimp only; omega, by dsimp only; omega, h.devices,
      exact_snoc h.exact (by omega)⟩
  | cancelled hthere =>
    have hlen := length_erase hthere
    exact ⟨by dsimp only; omega, by dsimp only; omega, h.total,
      fun other => le_trans (count_erase_le _ _) (h.devices other),
      exact_snoc h.exact (by omega)⟩

theorem run_balanced :
    (machine.run (start limits) calls).Balanced :=
  machine.run_induction (start_balanced limits)
    (fun broker call h => h.step (effect_step broker call)) calls

/-! ## Places -/

/-- Where an id can be. -/
structure Placed (broker : RendezvousBroker) : Prop where
  reserved : ∀ matchId reserved, broker.reserved.lookup matchId = some reserved →
    broker.pending.lookup matchId = none ∧ broker.completed.lookup matchId = none
  waiting : ∀ matchId pending, broker.pending.lookup matchId = some pending →
    ∀ device, broker.deliveries.lookup (device, matchId) = none
  guarded : ∀ device matchId stored,
    broker.deliveries.lookup (device, matchId) = some stored →
      (∃ reserved, broker.reserved.lookup matchId = some reserved ∧
        reserved.expiresAt = stored.expiresAt) ∨
      ∃ expiresAt, broker.completed.lookup matchId = some expiresAt ∧ stored.expiresAt ≤ expiresAt

theorem start_placed : (start limits).Placed :=
  ⟨nofun, nofun, nofun⟩

/-- An id that is neither reserved nor completed has no delivery. -/
theorem Placed.no_delivery (h : broker.Placed) (hcompl : broker.completed.lookup matchId = none)
    (hresv : broker.reserved.lookup matchId = none) (device : DeviceId) :
    broker.deliveries.lookup (device, matchId) = none := by
  refine eq_none_iff_forall_ne_some.2 fun stored hstor => ?_
  rcases h.guarded device matchId stored hstor with ⟨_, hsome, _⟩ | ⟨_, hsome, _⟩
  · rw [hresv] at hsome
    cases hsome
  · rw [hcompl] at hsome
    cases hsome

/-- The sweep does not complete an id that is neither waiting nor reserved. -/
theorem cleanup_completed_of_kept (hresv : matchId ∉ broker.expiredReserved now)
    (hpend : matchId ∉ broker.expiredPending now) :
    (broker.cleanup now).2.completed.lookup matchId =
      (broker.completed.lookup matchId).filter fun expiresAt => now < expiresAt := by
  rw [lookup_cleanup_completed, if_neg (not_or.2 ⟨hresv, hpend⟩)]

variable {reserved : ReservedMatch}

theorem not_mem_expiredReserved (h : broker.reserved.lookup matchId = some reserved)
    (hlive : now < reserved.expiresAt) :
    matchId ∉ broker.expiredReserved now := by
  rw [mem_expiredReserved]
  rintro ⟨_, hoth, hexp⟩
  rw [h, Option.some.injEq] at hoth
  exact absurd hlive (UInt64.not_lt.2 (hoth ▸ hexp))

theorem not_mem_expiredPending (h : broker.pending.lookup matchId = none) :
    matchId ∉ broker.expiredPending now := by
  rw [mem_expiredPending, h]
  exact nofun

section

variable (h : broker.Placed)

include h

theorem Placed.cleanup (now : UInt64) :
    (broker.cleanup now).2.Placed := by
  refine ⟨?_, ?_, ?_⟩
  · intro matchId reserved hresv
    obtain ⟨hold, hlive⟩ := cleanup_reserved_eq_some.1 hresv
    obtain ⟨hpend, hcompl⟩ := h.reserved matchId reserved hold
    constructor
    · refine eq_none_iff_forall_ne_some.2 fun pend hsome => ?_
      rw [cleanup_pending_eq_some, hpend] at hsome
      cases hsome.1
    · rw [cleanup_completed_of_kept (not_mem_expiredReserved hold hlive)
        (not_mem_expiredPending hpend), hcompl]
      rfl
  · intro matchId pend hpend device
    have hnone := h.waiting matchId pend (cleanup_pending_eq_some.1 hpend).1 device
    refine eq_none_iff_forall_ne_some.2 fun stored hsome => ?_
    rw [cleanup_deliveries_eq_some, hnone] at hsome
    cases hsome.2.1
  · intro device matchId stored hstor
    obtain ⟨hkept, hold, hlive⟩ := cleanup_deliveries_eq_some.1 hstor
    rcases h.guarded device matchId stored hold with
      ⟨reserved, hresv, hexp⟩ | ⟨expiresAt, hcompl, hexp⟩
    · exact .inl ⟨reserved, cleanup_reserved_eq_some.2 ⟨hresv, hexp ▸ hlive⟩, hexp⟩
    refine .inr ⟨expiresAt, ?_, hexp⟩
    -- A waiting id has no delivery, so this one is not swept with the waiting ones.
    have hpend : broker.pending.lookup matchId = none :=
      eq_none_iff_forall_ne_some.2 fun pend hsome => by
        have hnone := h.waiting matchId pend hsome device
        rw [hold] at hnone
        cases hnone
    rw [cleanup_completed_of_kept hkept (not_mem_expiredPending hpend), hcompl, filter_eq_some_iff]
    exact ⟨rfl, decide_eq_true (UInt64.lt_of_lt_of_le hlive hexp)⟩

include hadm in
theorem Placed.addWaiting :
    (broker.addWaiting device reg expiresAt).Placed := by
  refine ⟨fun matchId reserved hresv => ?_, fun matchId pend hpend other => ?_, h.guarded⟩
  · obtain ⟨hpend, hcompl⟩ := h.reserved matchId reserved hresv
    refine ⟨?_, hcompl⟩
    have hne : matchId ≠ reg.matchId := by
      rintro rfl
      cases hadm.notReserved.symm.trans hresv
    simp only [RendezvousBroker.addWaiting]
    rw [lookup_insert_ne hne, hpend]
  · simp only [RendezvousBroker.addWaiting] at hpend
    rw [lookup_insert_eq] at hpend
    split at hpend
    · next hid =>
      rw [hid]
      exact h.no_delivery hadm.notCompleted hadm.notReserved other
    · exact h.waiting matchId pend hpend other

include hadm in
theorem Placed.reserve :
    (broker.reserve device reg waiting expiresAt).Placed := by
  have hnone := h.no_delivery hadm.notCompleted hadm.notReserved
  unfold RendezvousBroker.reserve
  refine ⟨fun matchId reserved hresv => ?_, fun matchId pend hpend other => ?_,
    fun other matchId stored hstor => ?_⟩
  · rw [lookup_insert_eq] at hresv
    rw [lookup_erase_eq]
    split at hresv
    · next hid =>
      rw [if_pos hid, hid]
      exact ⟨rfl, hadm.notCompleted⟩
    · next hid =>
      rw [if_neg hid]
      exact h.reserved matchId reserved hresv
  · rw [lookup_erase_eq] at hpend
    split at hpend
    · cases hpend
    next hid =>
    rw [lookup_insert_ne fun hkey => hid (congrArg Prod.snd hkey)]
    exact h.waiting matchId pend hpend other
  · rw [lookup_insert_eq] at hstor
    split at hstor
    · next hkey =>
      cases hstor
      exact .inl ⟨_, by rw [show matchId = reg.matchId from congrArg Prod.snd hkey,
        lookup_insert], rfl⟩
    · have hid : matchId ≠ reg.matchId := by
        rintro rfl
        rw [hnone other] at hstor
        cases hstor
      rw [lookup_insert_ne hid]
      exact h.guarded other matchId stored hstor

theorem Placed.take (key : DeviceId × MatchId) :
    { broker with deliveries := broker.deliveries.erase key }.Placed := by
  refine ⟨h.reserved, fun other pending hpend q => ?_, fun q other left hleft => ?_⟩
  · rw [lookup_erase_eq, h.waiting other pending hpend q, ite_self]
  · rw [lookup_erase_eq] at hleft
    split at hleft
    · cases hleft
    · exact h.guarded q other left hleft

theorem Placed.confirm (hresv : broker.reserved.lookup matchId = some reserved) :
    { broker with
      reserved := broker.reserved.erase matchId
      completed := broker.completed.insert matchId reserved.expiresAt
      matchCount := broker.matchCount + 1 }.Placed := by
  refine ⟨fun other kept hkept => ?_, h.waiting, fun device other stored hstor => ?_⟩
  · rw [lookup_erase_eq] at hkept
    split at hkept
    · cases hkept
    next hid =>
    rw [lookup_insert_ne hid]
    exact h.reserved other kept hkept
  · rw [lookup_erase_eq, lookup_insert_eq]
    rcases h.guarded device other stored hstor with
      ⟨guard, hguard, hexp⟩ | ⟨expiresAt, hcompl, hexp⟩
    · by_cases hid : other = matchId
      · subst hid
        rw [hresv, Option.some.injEq] at hguard
        exact .inr ⟨reserved.expiresAt, if_pos rfl, by rw [hguard, hexp]; exact UInt64.le_refl _⟩
      · rw [if_neg hid]
        exact .inl ⟨guard, hguard, hexp⟩
    · have hid : other ≠ matchId := by
        rintro rfl
        rw [(h.reserved other reserved hresv).2] at hcompl
        cases hcompl
      rw [if_neg hid, if_neg hid]
      exact .inr ⟨expiresAt, hcompl, hexp⟩

/-- An id is completed, and its deliveries and its reservation go. -/
theorem Placed.complete
    (hpend : ∀ other, other ≠ matchId → after.pending.lookup other = broker.pending.lookup other)
    (hresv : ∀ other, after.reserved.lookup other =
      if other = matchId then none else broker.reserved.lookup other)
    (hdels : ∀ device other, after.deliveries.lookup (device, other) =
      if other = matchId then none else broker.deliveries.lookup (device, other))
    (hcompl : after.completed = broker.completed.insert matchId expiresAt) :
    after.Placed := by
  refine ⟨fun other kept hkept => ?_, fun other pend hsome device => ?_,
    fun device other stored hstor => ?_⟩
  · rw [hresv] at hkept
    split at hkept
    · cases hkept
    next hid =>
    rw [hpend other hid, hcompl, lookup_insert_ne hid]
    exact h.reserved other kept hkept
  · rw [hdels]
    split
    · rfl
    next hid =>
    rw [hpend other hid] at hsome
    exact h.waiting other pend hsome device
  · rw [hdels] at hstor
    split at hstor
    · cases hstor
    next hid =>
    rw [hresv, if_neg hid, hcompl, lookup_insert_ne hid]
    exact h.guarded device other stored hstor

end

theorem lookup_retain_ne {dels : Table (DeviceId × MatchId) StoredDelivery} (device : DeviceId)
    (other : MatchId) :
    (dels.retain fun key _ => key.2 ≠ matchId).lookup (device, other) =
      if other = matchId then none else dels.lookup (device, other) :=
  (lookup_dropDeliveries [matchId]).trans (by simp only [mem_singleton])

theorem lookup_eq_ite (h : t.lookup matchId = none) (other : MatchId) :
    t.lookup other = if other = matchId then none else t.lookup other := by
  split
  · next hid => rw [hid, h]
  · rfl

theorem Placed.reserved_of_waiting (h : broker.Placed) {pend : PendingRegistration}
    (hpend : broker.pending.lookup matchId = some pend) :
    broker.reserved.lookup matchId = none := by
  refine eq_none_iff_forall_ne_some.2 fun reserved hsome => ?_
  rw [(h.reserved matchId reserved hsome).1] at hpend
  cases hpend

theorem Placed.step (h : broker.Placed) (heff : Effect broker e after) : after.Placed := by
  cases heff with
  | refused _ _ now | notTaken _ _ now | cleaned now => exact h.cleanup now
  | @waits _ _ now _ hadm => exact (h.cleanup now).addWaiting hadm
  | @matched _ _ now _ _ _ hadm => exact (h.cleanup now).reserve hadm
  | @taken _ _ now => exact (h.cleanup now).take _
  | notConfirmed | notCancelled => exact h
  | confirmed hthere => exact h.confirm hthere
  | abortedFree hfree =>
    exact h.complete (fun _ _ => rfl) (lookup_eq_ite hfree) lookup_retain_ne rfl
  | aborted =>
    exact h.complete (fun _ _ => rfl) (lookup_erase_eq _) lookup_retain_ne rfl
  | @cancelled matchId pending hthere =>
    refine h.complete (fun other hid => lookup_erase_ne hid)
      (lookup_eq_ite (h.reserved_of_waiting hthere)) (fun device other => ?_) rfl
    split
    · next hid =>
      rw [hid]
      exact h.waiting matchId pending hthere device
    · rfl

theorem run_placed :
    (machine.run (start limits) calls).Placed :=
  machine.run_induction (start_placed limits)
    (fun broker call h => h.step (effect_step broker call)) calls

/-! ## Waiting and completed ids -/

/-- No id is both waiting and completed. -/
def Separate (broker : RendezvousBroker) : Prop :=
  ∀ matchId pending, broker.pending.lookup matchId = some pending →
    broker.completed.lookup matchId = none

theorem Separate.cleanup (h : broker.Separate) (hplc : broker.Placed) (now : UInt64) :
    (broker.cleanup now).2.Separate := by
  intro matchId pend hpend
  obtain ⟨hold, hlive⟩ := cleanup_pending_eq_some.1 hpend
  rw [cleanup_completed_of_kept, h matchId pend hold]
  · rfl
  · rw [mem_expiredReserved, hplc.reserved_of_waiting hold]
    exact nofun
  · rw [mem_expiredPending]
    rintro ⟨_, hoth, hexp⟩
    rw [hold, some.injEq] at hoth
    exact absurd hlive (UInt64.not_lt.2 (hoth ▸ hexp))

include hadm in
theorem Separate.addWaiting (h : broker.Separate) :
    (broker.addWaiting device reg expiresAt).Separate := by
  intro matchId pend hpend
  simp only [RendezvousBroker.addWaiting] at hpend
  rw [lookup_insert_eq] at hpend
  split at hpend
  · next hid =>
    rw [hid]
    exact hadm.notCompleted
  · exact h matchId pend hpend

variable (h : broker.Separate)

include h

theorem Separate.reserve (device : DeviceId)
    (reg : RendezvousRegistration) (waiting : PendingRegistration) (expiresAt : UInt64) :
    (broker.reserve device reg waiting expiresAt).Separate := by
  intro matchId pend hpend
  simp only [RendezvousBroker.reserve] at hpend
  rw [lookup_erase_eq] at hpend
  split at hpend
  · cases hpend
  · exact h matchId pend hpend

/-- An id that is not waiting is completed. -/
theorem Separate.complete
    (hpend : ∀ other, after.pending.lookup other =
      if other = matchId then none else broker.pending.lookup other)
    (hcompl : after.completed = broker.completed.insert matchId expiresAt) :
    after.Separate := by
  intro other pend hsome
  rw [hpend] at hsome
  split at hsome
  · cases hsome
  next hid =>
  rw [hcompl, lookup_insert_ne hid]
  exact h other pend hsome

/-- Every call but the abort of a waiting id keeps waiting and completed ids apart. -/
theorem Separate.step (hplc : broker.Placed)
    (heff : Effect broker e after)
    (habort : ∀ matchId now released, e = .aborted matchId now released →
      broker.pending.lookup matchId = none) :
    after.Separate := by
  cases heff with
  | refused _ _ now | notTaken _ _ now | @taken _ _ now | cleaned now => exact h.cleanup hplc now
  | @waits _ _ now _ hadm => exact (h.cleanup hplc now).addWaiting hadm
  | @matched _ _ now => exact (h.cleanup hplc now).reserve _ _ _ _
  | notConfirmed | notCancelled => exact h
  | @confirmed matchId _ reserved hthere =>
    exact h.complete (lookup_eq_ite (hplc.reserved matchId reserved hthere).1) rfl
  | abortedFree _ now | aborted _ now => exact h.complete (lookup_eq_ite (habort _ now _ rfl)) rfl
  | cancelled => exact h.complete (lookup_erase_eq _) rfl

end RendezvousBroker

/-! ## The accounts of a run -/

/-- The counter, the caps, the places of the ids and the releases. -/
structure Accounts (broker : RendezvousBroker) : Prop where
  successful : broker.successfulRegistrations =
    broker.pending.length + 2 * broker.reserved.length + 2 * broker.matchCount
  registrations : broker.successfulRegistrations ≤ broker.limits.maxSuccessfulRegistrations
  total : broker.matchCount + broker.reserved.length ≤ broker.limits.maxMatches
  devices : ∀ device, broker.devicePending device ≤ broker.limits.maxPendingPerDevice
  pendingReserved : ∀ matchId ∈ broker.pending, matchId ∉ broker.reserved
  pendingCompleted : ∀ matchId ∈ broker.pending, matchId ∉ broker.completed
  reservedCompleted : ∀ matchId ∈ broker.reserved, matchId ∉ broker.completed
  deliveries : ∀ key ∈ broker.deliveries, key.2 ∈ broker.reserved ∨ key.2 ∈ broker.completed
  releases : ∀ release ∈ broker.releases, release.released = release.requested

/-- The step aborts the match of an id that is waiting. -/
def abortsWaiting (step : Step RendezvousBroker BrokerEvent) : Bool :=
  match step.event with
  | .aborted matchId _ _ => (step.pre.pending.lookup matchId).isSome
  | _ => false

theorem lookup_of_mem {matchId : MatchId} (h : matchId ∈ t) :
    ∃ value, t.lookup matchId = some value :=
  isSome_iff_exists.1 (lookup_isSome.2 h)

theorem Accounts.of_invariants (hbalanced : broker.Balanced)
    (hplc : broker.Placed) (hseparate : broker.Separate) : Accounts broker where
  successful := hbalanced.successful
  registrations := hbalanced.registrations
  total := hbalanced.total
  devices := hbalanced.devices
  pendingReserved matchId hpend := by
    obtain ⟨pending, hlook⟩ := lookup_of_mem hpend
    exact lookup_eq_none.1 (hplc.reserved_of_waiting hlook)
  pendingCompleted matchId hpend := by
    obtain ⟨pending, hlook⟩ := lookup_of_mem hpend
    exact lookup_eq_none.1 (hseparate matchId pending hlook)
  reservedCompleted matchId hresv := by
    obtain ⟨reserved, hlook⟩ := lookup_of_mem hresv
    exact lookup_eq_none.1 (hplc.reserved matchId reserved hlook).2
  deliveries key hkey := by
    obtain ⟨stored, hlook⟩ := isSome_iff_exists.1 (lookup_isSome.2 hkey)
    rcases hplc.guarded key.1 key.2 stored hlook with ⟨_, hsome, _⟩ | ⟨_, hsome, _⟩
    · exact .inl (lookup_isSome.1 (by rw [hsome]; rfl))
    · exact .inr (lookup_isSome.1 (by rw [hsome]; rfl))
  releases := hbalanced.exact

/-- A run that aborts no waiting id keeps waiting and completed ids apart. -/
theorem run_separate
    (h : ∀ step ∈ machine.trace (.start limits) calls, abortsWaiting step = false) :
    (machine.run (.start limits) calls).Separate := by
  have hrun := machine.trace_induction
    (P := fun trace broker => broker.Placed ∧
      ((∀ step ∈ trace, abortsWaiting step = false) → broker.Separate))
    ⟨start_placed limits, fun _ => nofun⟩ ?_ calls
  · exact hrun.2 h
  intro trace broker call ⟨hplc, hseparate⟩
  have heff := effect_step broker call
  refine ⟨hplc.step heff, fun hall => ?_⟩
  rw [forall_mem_append, forall_mem_singleton] at hall
  refine (hseparate hall.1).step hplc heff fun matchId now released hev => ?_
  have hnone := hall.2
  unfold abortsWaiting at hnone
  rw [show (machine.stepAt broker call).event = _ from hev] at hnone
  rwa [isSome_eq_false_iff, isNone_iff_eq_none] at hnone

theorem new_eq_ok {limits : RendezvousLimits}
    (h : new limits = .ok broker) : broker = .start limits := by
  unfold new at h
  split at h
  · cases h
  next valid hval =>
  cases h
  unfold RendezvousLimits.validate at hval
  split_ifs at hval
  cases hval
  rfl

/-- In every run in which no abort names a waiting id, the accounts are right. -/
theorem broker_accounts {limits : RendezvousLimits} {broker : RendezvousBroker}
    (hnew : new limits = .ok broker) (calls : List BrokerCall)
    (haborts : ∀ step ∈ machine.trace broker calls, abortsWaiting step = false) :
    Accounts (machine.run broker calls) := by
  obtain rfl := new_eq_ok hnew
  exact .of_invariants (run_balanced limits calls)
    (run_placed limits calls) (run_separate limits calls haborts)

/-- The two sides register, and the match is aborted. -/
def abortedMatch : List BrokerCall :=
  [.register sampleInitiator .sample 100, .register sampleResponder sampleAnswer 101,
    .abortMatch RendezvousRegistration.sample.matchId 102]

theorem abortedMatch_accounts :
    (machine.run (.start {}) (abortedMatch.take 2)).reserved.length = 1 ∧
      Accounts (machine.run (.start {}) abortedMatch) :=
  ⟨by decide +kernel, broker_accounts (show new {} = .ok (.start {}) from rfl)
    abortedMatch (by decide +kernel)⟩

/-- The abort of a waiting id leaves it waiting and completed. -/
theorem abort_of_pending_completes :
    ∃ broker calls, new {} = .ok broker ∧
      ((machine.trace broker calls).map fun step => step.event.now).Pairwise (· ≤ ·) ∧
      ∃ matchId, matchId ∈ (machine.run broker calls).pending ∧
        matchId ∈ (machine.run broker calls).completed :=
  ⟨.start {}, [.register sampleInitiator .sample 100,
      .abortMatch sample.matchId 101], rfl, by decide +kernel,
    sample.matchId, by decide +kernel, by decide +kernel⟩

end LatencyDesk.Rendezvous
