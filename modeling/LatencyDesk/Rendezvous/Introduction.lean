import LatencyDesk.Lib.Since
import LatencyDesk.Rendezvous.Accounting

/-!
# Whom the broker introduces

A registration waits from the call that told its device to wait to the first
call that cancels it, pairs it or sweeps it.  `Waiting` says this about a trace,
and every entry of `pending` is waiting in this sense.  So a caller that is
matched gets the offer of a device that asked for it, and that still waited.

A delivery is there from the pairing that left it to the first call that takes
it.  `Offered` says this about a trace, and every entry of `deliveries` is
offered.  No second pairing of the id comes in between, so one pairing gives
one delivery.

`introductions_consent` puts both together for every call of every run.
-/

namespace LatencyDesk.Rendezvous

open Lib Protocol RendezvousBroker AList RendezvousRegistration

abbrev BrokerTrace := List (Step RendezvousBroker BrokerEvent)

/-- The time of the sweep that the call starts with. -/
def BrokerEvent.sweep : BrokerEvent → Option UInt64
  | .registered _ _ now _ => some now
  | .taken _ _ now _ => some now
  | .cleaned now _ => some now
  | _ => none

/-- The call lets the registration wait until its own expiry. -/
def Waits (waiter : PendingRegistration) (e : BrokerEvent) : Prop :=
  ∃ now, e = .registered waiter.device waiter.registration now (.ok (.waiting waiter.expiresAt)) ∧
    checkedAdd now waiter.registration.ttlSeconds.toUInt64 = some waiter.expiresAt

/-- The call pairs two registrations of the id. -/
def Pairs (matchId : MatchId) : BrokerEvent → Prop
  | .registered _ registration _ (.ok (.matched _)) => registration.matchId = matchId
  | _ => False

/-- The call cancels the registration. -/
def Cancels (waiter : PendingRegistration) : BrokerEvent → Prop
  | .cancelled device matchId _ _ =>
    device = waiter.device ∧ matchId = waiter.registration.matchId
  | _ => False

/-- The call sweeps at a time at or after the expiry of the registration. -/
def Expires (waiter : PendingRegistration) (e : BrokerEvent) : Prop :=
  match e.sweep with
  | some now => waiter.expiresAt ≤ now
  | none => False

/-- The registration was let wait, and has not been cancelled, matched or swept since. -/
def Waiting (waiter : PendingRegistration) (h : BrokerTrace) : Prop :=
  Since (fun st => ¬Cancels waiter st.event ∧ ¬Pairs waiter.registration.matchId st.event ∧
      ¬Expires waiter st.event)
    (fun _ st => Waits waiter st.event) h

/-- The call gives the device its delivery for the id. -/
def Takes (device : DeviceId) (matchId : MatchId) : BrokerEvent → Prop
  | .taken taker other _ (.ok _) => taker = device ∧ other = matchId
  | _ => False

/-- The call pairs the waiting registration with the one in the delivery, which expires
at the given time. -/
def PairsWith (waiter : PendingRegistration) (delivery : RendezvousDelivery) (expiresAt : UInt64)
    (e : BrokerEvent) : Prop :=
  ∃ now, e = .registered delivery.peer delivery.registration now
      (.ok (.matched ⟨waiter.device, waiter.registration⟩)) ∧
    checkedAdd now delivery.registration.ttlSeconds.toUInt64 = some expiresAt

/-- The waiting registration was paired with the one in the delivery while it waited, and
since then its device has not taken a delivery for the id, nor was the id paired again. -/
def Offered (waiter : PendingRegistration) (delivery : RendezvousDelivery) (expiresAt : UInt64)
    (h : BrokerTrace) : Prop :=
  Since (fun st => ¬Takes waiter.device waiter.registration.matchId st.event ∧
      ¬Pairs waiter.registration.matchId st.event)
    (fun earlier st => PairsWith waiter delivery expiresAt st.event ∧ Waiting waiter earlier) h

/-! ## Entries across one call -/

section step

variable {broker after : RendezvousBroker} {e : BrokerEvent} {matchId : MatchId}

/-- A waiting registration was let wait by the call, or it waited before and the call has
not ended it. -/
theorem step_pending {waiter : PendingRegistration}
    (hplc : ∀ id w, broker.pending.lookup id = some w → w.registration.matchId = id)
    (heff : Effect broker e after) (h : after.pending.lookup matchId = some waiter) :
    waiter.registration.matchId = matchId ∧
      (Waits waiter e ∨ broker.pending.lookup matchId = some waiter ∧ ¬Cancels waiter e ∧
        ¬Pairs matchId e ∧ ¬Expires waiter e) := by
  have hswept : ∀ {now : UInt64}, (broker.cleanup now).2.pending.lookup matchId = some waiter →
      ¬Cancels waiter e → ¬Pairs matchId e → (Expires waiter e → waiter.expiresAt ≤ now) →
      waiter.registration.matchId = matchId ∧ (Waits waiter e ∨
        broker.pending.lookup matchId = some waiter ∧ ¬Cancels waiter e ∧ ¬Pairs matchId e ∧
          ¬Expires waiter e) := by
    intro now hlook hcancels hpairs hexp
    obtain ⟨hold, hlive⟩ := cleanup_pending_eq_some.1 hlook
    refine ⟨hplc _ _ hold, .inr ⟨hold, hcancels, hpairs, fun hgone => ?_⟩⟩
    exact UInt64.not_le.2 hlive (hexp hgone)
  cases heff with
  | refused | notTaken | taken | cleaned => exact hswept h id id id
  | @waits _ _ now _ hadm =>
    simp only [addWaiting] at h
    rw [lookup_insert_eq] at h
    split at h
    · next hid =>
      cases h
      exact ⟨hid.symm, .inl ⟨now, rfl, hadm.expiry⟩⟩
    · exact hswept h id id id
  | matched =>
    simp only [reserve] at h
    rw [lookup_erase_eq] at h
    split at h
    · cases h
    · next hid => exact hswept h id (fun hpaired => hid hpaired.symm) id
  | notConfirmed | confirmed | abortedFree | aborted => exact ⟨hplc _ _ h, .inr ⟨h, id, id, id⟩⟩
  | notCancelled hoth =>
    refine ⟨hplc _ _ h, .inr ⟨h, fun hcancels => ?_, id, id⟩⟩
    obtain ⟨hcaller, hid⟩ := hcancels
    rw [hplc _ _ h] at hid
    exact hoth waiter (hid ▸ h) hcaller.symm
  | cancelled =>
    rw [lookup_erase_eq] at h
    split at h
    · cases h
    next hid =>
    refine ⟨hplc _ _ h, .inr ⟨h, fun hcancels => hid ?_, id, id⟩⟩
    rw [hcancels.2, hplc _ _ h]

/-- A delivery was left by the call, or it was there before and the call has neither taken
it nor paired its id. -/
theorem step_deliveries {dev : DeviceId} {stored : StoredDelivery} (hplc : broker.Placed)
    (heff : Effect broker e after)
    (h : after.deliveries.lookup (dev, matchId) = some stored) :
    (broker.deliveries.lookup (dev, matchId) = some stored ∧ ¬Takes dev matchId e ∧
        ¬Pairs matchId e) ∨
      ∃ waiter expiresAt, broker.pending.lookup matchId = some waiter ∧ waiter.device = dev ∧
        stored.expiresAt = min waiter.expiresAt expiresAt ∧
        PairsWith waiter stored.delivery expiresAt e := by
  have hswept : ∀ {now : UInt64},
      (broker.cleanup now).2.deliveries.lookup (dev, matchId) = some stored →
        broker.deliveries.lookup (dev, matchId) = some stored :=
    fun hlook => (cleanup_deliveries_eq_some.1 hlook).2.1
  have hretained : ∀ {other : MatchId}, (broker.deliveries.retain fun key _ =>
      key.2 ≠ other).lookup (dev, matchId) = some stored →
        broker.deliveries.lookup (dev, matchId) = some stored := by
    intro other hkept
    rw [lookup_retain, Option.filter_eq_some_iff] at hkept
    exact hkept.1
  cases heff with
  | refused | waits | notTaken | cleaned => exact .inl ⟨hswept h, id, id⟩
  | @matched _ reg now expiresAt waiting _ hadm hthere _ _ hnames =>
    simp only [reserve] at h
    rw [lookup_insert_eq] at h
    split at h
    · next hkey =>
      cases h
      obtain ⟨rfl, rfl⟩ := Prod.mk.inj hkey
      rw [hnames]
      exact .inr ⟨waiting, expiresAt, (cleanup_pending_eq_some.1 hthere).1,
        rfl, rfl, now, rfl, hadm.expiry⟩
    · refine .inl ⟨hswept h, id, fun hid => ?_⟩
      have hnone := (hplc.cleanup now).no_delivery hadm.notCompleted hadm.notReserved dev
      rw [show reg.matchId = matchId from hid, h] at hnone
      cases hnone
  | taken =>
    rw [lookup_erase_eq] at h
    split at h
    · cases h
    next hkey =>
    refine .inl ⟨hswept h, fun htakes => hkey ?_, id⟩
    rw [htakes.1, htakes.2]
  | notConfirmed | confirmed | notCancelled | cancelled => exact .inl ⟨h, id, id⟩
  | abortedFree | aborted => exact .inl ⟨hretained h, id, id⟩

end step

/-! ## Entries and the trace -/

/-- Every entry of the broker has its origin in the trace. -/
structure Recorded (h : BrokerTrace) (broker : RendezvousBroker) : Prop where
  placed : broker.Placed
  pending : ∀ matchId waiter, broker.pending.lookup matchId = some waiter →
    waiter.registration.matchId = matchId ∧ Waiting waiter h
  deliveries : ∀ device matchId stored,
    broker.deliveries.lookup (device, matchId) = some stored →
      ∃ waiter expiresAt, (waiter.device = device ∧ waiter.registration.matchId = matchId) ∧
        stored.expiresAt = min waiter.expiresAt expiresAt ∧
        Offered waiter stored.delivery expiresAt h

variable (limits : RendezvousLimits)

theorem start_recorded : Recorded [] (.start limits) :=
  ⟨start_placed limits, nofun, nofun⟩

theorem Recorded.step {h : BrokerTrace} {broker : RendezvousBroker} (hrecd : Recorded h broker)
    (call : BrokerCall) :
    Recorded (h ++ [machine.stepAt broker call]) (machine.step broker call).2 := by
  have hids : ∀ id w, broker.pending.lookup id = some w → w.registration.matchId = id :=
    fun id w hlook => (hrecd.pending id w hlook).1
  have heff := effect_step broker call
  refine ⟨hrecd.placed.step heff, ?_, ?_⟩
  · intro matchId waiter hlook
    obtain ⟨hid, horigin⟩ := step_pending hids heff hlook
    refine ⟨hid, ?_⟩
    rcases horigin with hwaits | ⟨hold, hcancel, hpair, hexpire⟩
    · exact Since.of_mark hwaits
    · exact (hrecd.pending matchId waiter hold).2.snoc ⟨hcancel, hid ▸ hpair, hexpire⟩
  · intro dev matchId stored hlook
    rcases step_deliveries hrecd.placed heff hlook with
      ⟨hold, htake, hpair⟩ | ⟨waiter, expiresAt, hwaiter, hdev, hexp, hpairs⟩
    · obtain ⟨waiter, expiresAt, ⟨rfl, rfl⟩, hexp, hoffd⟩ :=
        hrecd.deliveries dev matchId stored hold
      exact ⟨waiter, expiresAt, ⟨rfl, rfl⟩, hexp, hoffd.snoc ⟨htake, hpair⟩⟩
    · obtain ⟨hid, hwait⟩ := hrecd.pending matchId waiter hwaiter
      exact ⟨waiter, expiresAt, ⟨hdev, hid⟩, hexp, Since.of_mark ⟨hpairs, hwait⟩⟩

theorem run_recorded (calls : List BrokerCall) :
    Recorded (machine.trace (.start limits) calls) (machine.run (.start limits) calls) :=
  machine.trace_induction (start_recorded limits) (fun _ _ call h => h.step call) calls

/-! ## What the calls return -/

/-- A caller that is matched gets the offer of a device that waited for it.  The two
registrations name each other, and neither has expired. -/
structure Consented (earlier : BrokerTrace) (device : DeviceId)
    (registration : RendezvousRegistration) (now : UInt64) (waiter : PendingRegistration) :
    Prop where
  waiting : Waiting waiter earlier
  expectsWaiter : registration.expectedPeerFingerprint = waiter.device.bytes
  expectsCaller : waiter.registration.expectedPeerFingerprint = device.bytes
  distinct : waiter.device ≠ device
  role : waiter.registration.role ≠ registration.role
  matchId : waiter.registration.matchId = registration.matchId
  generation : waiter.registration.generation = registration.generation
  exchangeId : waiter.registration.credentials.exchangeId = registration.credentials.exchangeId
  live : now < waiter.expiresAt
  ownLive : ∃ expiresAt, checkedAdd now registration.ttlSeconds.toUInt64 = some expiresAt ∧
    now < expiresAt

/-- The call returned a match only between registrations that consent. -/
def MatchedByConsent (earlier : BrokerTrace) (e : BrokerEvent) : Prop :=
  ∀ device registration now delivery,
    e = .registered device registration now (.ok (.matched delivery)) →
      ∃ waiter, delivery = ⟨waiter.device, waiter.registration⟩ ∧
        Consented earlier device registration now waiter

/-- The call gave a delivery only to the device that waited, once, and before either of
the two registrations expired. -/
def TakenByWaiter (earlier : BrokerTrace) (e : BrokerEvent) : Prop :=
  ∀ device matchId now delivery, e = .taken device matchId now (.ok delivery) →
    ∃ waiter expiresAt, (waiter.device = device ∧ waiter.registration.matchId = matchId) ∧
      Offered waiter delivery expiresAt earlier ∧ now < waiter.expiresAt ∧ now < expiresAt

variable {h : BrokerTrace} {broker after : RendezvousBroker} {e : BrokerEvent}

/-- A registration that encodes lives for some time. -/
theorem lt_expiry {reg : RendezvousRegistration} {now expiresAt : UInt64}
    (hencodes : ∃ bytes, reg.encode = .ok bytes)
    (hexp : checkedAdd now reg.ttlSeconds.toUInt64 = some expiresAt) :
    now < expiresAt := by
  obtain ⟨_, henc⟩ := hencodes
  have hmin := UInt16.le_iff_toNat_le.1 (ttl_of_encode henc).1
  have hfive : minTtlSeconds.toNat = 5 := rfl
  have hsum := checkedAdd_eq_some.1 hexp
  rw [UInt64.lt_iff_toNat_lt, hsum, UInt16.toNat_toUInt64]
  omega

theorem Recorded.matchedByConsent
    (hrecd : Recorded h broker) (heff : Effect broker e after) : MatchedByConsent h e := by
  rintro dev reg now delivery rfl
  cases heff with
  | @matched _ _ _ expiresAt waiting _ hadm hthere hrecip _ hnames =>
    obtain ⟨hpend, hlive⟩ := cleanup_pending_eq_some.1 hthere
    obtain ⟨hid, hwaits⟩ := hrecd.pending _ waiting hpend
    exact ⟨waiting, hnames, hwaits, hrecip.expectsWaiter, hrecip.expectsCaller,
      hrecip.distinct, hrecip.role, hid, hrecip.generation,
      hrecip.exchangeId, hlive,
      ⟨expiresAt, hadm.expiry, lt_expiry hadm.encodes hadm.expiry⟩⟩

theorem Recorded.takenByWaiter
    (hrecd : Recorded h broker) (heff : Effect broker e after) : TakenByWaiter h e := by
  rintro dev matchId now delivery rfl
  cases heff with
  | @taken _ _ _ stored hthere =>
    obtain ⟨_, hold, hlive⟩ := cleanup_deliveries_eq_some.1 hthere
    obtain ⟨waiter, expiresAt, hwaiter, hexp, hoffd⟩ :=
      hrecd.deliveries _ _ stored hold
    rw [hexp, lt_min64] at hlive
    exact ⟨waiter, expiresAt, hwaiter, hoffd, hlive.1, hlive.2⟩

/-- In every run, every match is between registrations that consent, and every delivery is
taken by the device that waited, once for its pairing. -/
theorem introductions_consent (limits : RendezvousLimits) (calls : List BrokerCall) :
    Throughout (fun earlier st =>
        MatchedByConsent earlier st.event ∧ TakenByWaiter earlier st.event)
      (machine.trace (.start limits) calls) := by
  intro earlier st later heq
  obtain ⟨before, call, _, _, rfl, rfl, _⟩ := machine.trace_eq_append_cons heq
  have hrecd := run_recorded limits before
  have heff := effect_step (machine.run (.start limits) before) call
  exact ⟨hrecd.matchedByConsent heff, hrecd.takenByWaiter heff⟩

end LatencyDesk.Rendezvous
