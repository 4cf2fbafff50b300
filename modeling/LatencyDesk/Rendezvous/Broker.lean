import LatencyDesk.Lib.Machine
import LatencyDesk.Lib.Table
import LatencyDesk.Protocol.Registration

/-!
# The rendezvous broker

`RendezvousBroker` in `crates/rendezvous/src/lib.rs`.  Two devices register for
one match id.  The first one waits in `pending`, and the second one, when it is
the exact reciprocal, moves the id to `reserved` and leaves its own offer for
the waiter in `deliveries`.  A match that is confirmed, aborted or expired
leaves its id in `completed` for a while.

The four maps are tables.  `cleanup` sweeps a map in the order of its entries,
and the order does not show in the result.  The sums and products that the
source saturates are compared with a bound that fits a `usize`, so they are
plain here.  `releases` is a record of the calls of `release_registrations`.
No operation reads it.

There are three groups: the operations as the source has them, the broker as a
machine with one event for each call, and `Effect`, which says once what a call
can do (`effect_step`).  Every invariant of the broker is a case analysis of it.
-/

namespace LatencyDesk.Rendezvous

open Lib Protocol List Option

abbrev MatchId := Bytes 16

/-- The fingerprint of a client certificate, which is never zero. -/
structure DeviceId where
  bytes : Bytes 32
  nonzero : bytes ≠ .replicate 32 0
deriving DecidableEq

inductive RendezvousError where
  | invalidLimits
  | invalidDeviceId
  | invalidRegistration (error : ProtocolError)
  | selfMatch
  | replay
  | peerMismatch
  | roleMismatch
  | generationMismatch
  | capacity
  | deviceCapacity
  | timeOverflow
  | deliveryUnavailable
deriving DecidableEq

/-- `DeviceId::new`. -/
def DeviceId.new (fingerprint : Bytes 32) : Except RendezvousError DeviceId :=
  if h : fingerprint = .replicate 32 0 then .error .invalidDeviceId else .ok ⟨fingerprint, h⟩

structure RendezvousLimits where
  maxPending : Nat := 1024
  maxPendingPerDevice : Nat := 4
  maxSuccessfulRegistrations : Nat := 64
  maxMatches : Nat := 32
deriving DecidableEq

/-- Checks the ranges of the limits. -/
def RendezvousLimits.validate (limits : RendezvousLimits) :
    Except RendezvousError RendezvousLimits :=
  if ¬(1 ≤ limits.maxPending ∧ limits.maxPending ≤ 4096) ∨
      ¬(1 ≤ limits.maxPendingPerDevice ∧ limits.maxPendingPerDevice ≤ 16) ∨
      ¬(2 ≤ limits.maxSuccessfulRegistrations ∧ limits.maxSuccessfulRegistrations ≤ 64) ∨
      ¬(1 ≤ limits.maxMatches ∧ limits.maxMatches ≤ 32) ∨
      limits.maxPending < limits.maxPendingPerDevice ∨
      limits.maxSuccessfulRegistrations < limits.maxMatches * 2 then
    .error .invalidLimits
  else
    .ok limits

structure RendezvousDelivery where
  peer : DeviceId
  registration : RendezvousRegistration
deriving DecidableEq

inductive RegisterOutcome where
  | waiting (expiresAt : UInt64)
  | matched (delivery : RendezvousDelivery)
deriving DecidableEq

structure PendingRegistration where
  device : DeviceId
  registration : RendezvousRegistration
  expiresAt : UInt64

structure StoredDelivery where
  delivery : RendezvousDelivery
  expiresAt : UInt64

structure ReservedMatch where
  expiresAt : UInt64

/-- One call of `release_registrations`: what it was asked for and what it gave. -/
structure Release where
  requested : Nat
  released : Nat

structure RendezvousBroker where
  limits : RendezvousLimits
  pending : Table MatchId PendingRegistration
  deliveries : Table (DeviceId × MatchId) StoredDelivery
  reserved : Table MatchId ReservedMatch
  completed : Table MatchId UInt64
  successfulRegistrations : Nat
  /-- `matches`. -/
  matchCount : Nat
  releases : List Release

namespace RendezvousBroker

/-- The broker before its first call. -/
def start (limits : RendezvousLimits) : RendezvousBroker where
  limits := limits
  pending := ∅
  deliveries := ∅
  reserved := ∅
  completed := ∅
  successfulRegistrations := 0
  matchCount := 0
  releases := []

/-- `RendezvousBroker::new`. -/
def new (limits : RendezvousLimits) : Except RendezvousError RendezvousBroker :=
  match limits.validate with
  | .error e => .error e
  | .ok limits => .ok (start limits)

/-! ## The operations -/

/-- Lowers the count of registrations. -/
def releaseRegistrations (broker : RendezvousBroker) (requested : Nat) : Nat × RendezvousBroker :=
  let released := min requested broker.successfulRegistrations
  (released,
    { broker with
      successfulRegistrations := broker.successfulRegistrations - released
      releases := broker.releases ++ [⟨requested, released⟩] })

/-- `now.saturating_add(u64::from(RendezvousRegistration::MAX_TTL_SECONDS))`. -/
def tombstone (now : UInt64) : UInt64 :=
  saturatingAdd now RendezvousRegistration.maxTtlSeconds.toUInt64

/-- One turn of the first loop of `cleanup`. -/
def expirePending (now : UInt64) (state : Nat × RendezvousBroker) (matchId : MatchId) :
    Nat × RendezvousBroker :=
  let (released, broker) := state
  let broker :=
    { broker with
      pending := broker.pending.erase matchId
      completed := broker.completed.insert matchId (tombstone now) }
  let (count, broker) := broker.releaseRegistrations 1
  (released + count, broker)

/-- One turn of the second loop of `cleanup`. -/
def expireReserved (now : UInt64) (state : Nat × RendezvousBroker) (matchId : MatchId) :
    Nat × RendezvousBroker :=
  let (released, broker) := state
  let broker :=
    { broker with
      reserved := broker.reserved.erase matchId
      deliveries := broker.deliveries.retain fun key _ => key.2 ≠ matchId
      completed := broker.completed.insert matchId (tombstone now) }
  let (count, broker) := broker.releaseRegistrations 2
  (released + count, broker)

/-- Drops what has expired, leaving tombstones. -/
def cleanup (broker : RendezvousBroker) (now : UInt64) : Nat × RendezvousBroker :=
  let expiredPending := broker.pending.keysWhere fun _ pending => pending.expiresAt ≤ now
  let (released, broker) := expiredPending.foldl (expirePending now) (0, broker)
  let broker :=
    { broker with
      deliveries := broker.deliveries.retain fun _ delivery => now < delivery.expiresAt }
  let expiredReserved := broker.reserved.keysWhere fun _ reserved => reserved.expiresAt ≤ now
  let (released, broker) := expiredReserved.foldl (expireReserved now) (released, broker)
  (released,
    { broker with completed := broker.completed.retain fun _ expiresAt => now < expiresAt })

/-- The part of `register` that moves a waiting registration to a reservation. -/
def reserve (broker : RendezvousBroker) (device : DeviceId)
    (registration : RendezvousRegistration) (waiting : PendingRegistration)
    (expiresAt : UInt64) : RendezvousBroker :=
  let matchId := registration.matchId
  let deliveryExpiry := min waiting.expiresAt expiresAt
  { broker with
    pending := broker.pending.erase matchId
    deliveries := broker.deliveries.insert (waiting.device, matchId)
      { delivery := { peer := device, registration := registration }
        expiresAt := deliveryExpiry }
    reserved := broker.reserved.insert matchId { expiresAt := deliveryExpiry }
    successfulRegistrations := broker.successfulRegistrations + 1 }

/-- The part of `register` for an id that has a waiting registration. -/
def pair (broker : RendezvousBroker) (device : DeviceId) (registration : RendezvousRegistration)
    (waiting : PendingRegistration) (expiresAt : UInt64) :
    Except RendezvousError RegisterOutcome × RendezvousBroker :=
  if waiting.device = device then
    (.error .replay, broker)
  else if waiting.registration.expectedPeerFingerprint ≠ device.bytes ∨
      registration.expectedPeerFingerprint ≠ waiting.device.bytes then
    (.error .peerMismatch, broker)
  else if waiting.registration.role = registration.role then
    (.error .roleMismatch, broker)
  else if waiting.registration.generation ≠ registration.generation ∨
      waiting.registration.credentials.exchangeId ≠ registration.credentials.exchangeId then
    (.error .generationMismatch, broker)
  else if broker.limits.maxPending ≤ broker.deliveries.length ∨
      broker.limits.maxPending * 4 ≤ broker.completed.length ∨
      broker.limits.maxMatches ≤ broker.matchCount + broker.reserved.length then
    (.error .capacity, broker)
  else
    (.ok (.matched { peer := waiting.device, registration := waiting.registration }),
      broker.reserve device registration waiting expiresAt)

/-- The part of `register` that lets a registration wait. -/
def addWaiting (broker : RendezvousBroker) (device : DeviceId)
    (registration : RendezvousRegistration) (expiresAt : UInt64) : RendezvousBroker :=
  { broker with
    pending := broker.pending.insert registration.matchId
      { device := device, registration := registration, expiresAt := expiresAt }
    successfulRegistrations := broker.successfulRegistrations + 1 }

/-- The number of waiting registrations of a device. -/
def devicePending (broker : RendezvousBroker) (device : DeviceId) : Nat :=
  broker.pending.count fun _ pending => pending.device = device

/-- The part of `register` for an id that has no waiting registration. -/
def wait (broker : RendezvousBroker) (device : DeviceId) (registration : RendezvousRegistration)
    (expiresAt : UInt64) : Except RendezvousError RegisterOutcome × RendezvousBroker :=
  if broker.limits.maxPending ≤ broker.pending.length ∨
      broker.limits.maxPending * 4 ≤ broker.completed.length then
    (.error .capacity, broker)
  else if broker.limits.maxPendingPerDevice ≤ broker.devicePending device then
    (.error .deviceCapacity, broker)
  else
    (.ok (.waiting expiresAt), broker.addWaiting device registration expiresAt)

/-- The part of `register` behind `cleanup`. -/
def admission (broker : RendezvousBroker) (device : DeviceId)
    (registration : RendezvousRegistration) (now : UInt64) :
    Except RendezvousError RegisterOutcome × RendezvousBroker :=
  match registration.encode with
  | .error e => (.error (.invalidRegistration e), broker)
  | .ok _ =>
    if registration.expectedPeerFingerprint = device.bytes then
      (.error .selfMatch, broker)
    else if (broker.completed.lookup registration.matchId).isSome ∨
        (broker.reserved.lookup registration.matchId).isSome ∨
        (broker.deliveries.lookup (device, registration.matchId)).isSome then
      (.error .replay, broker)
    else
      match checkedAdd now registration.ttlSeconds.toUInt64 with
      | none => (.error .timeOverflow, broker)
      | some expiresAt =>
        if broker.limits.maxSuccessfulRegistrations ≤ broker.successfulRegistrations then
          (.error .capacity, broker)
        else
          match broker.pending.lookup registration.matchId with
          | some waiting => broker.pair device registration waiting expiresAt
          | none => broker.wait device registration expiresAt

/-- Keeps the first of two devices waiting for the second. -/
def register (broker : RendezvousBroker) (device : DeviceId)
    (registration : RendezvousRegistration) (now : UInt64) :
    Except RendezvousError RegisterOutcome × RendezvousBroker :=
  (broker.cleanup now).2.admission device registration now

/-- Hands a device its delivery, once. -/
def takeDelivery (broker : RendezvousBroker) (device : DeviceId) (matchId : MatchId)
    (now : UInt64) : Except RendezvousError RendezvousDelivery × RendezvousBroker :=
  let broker := (broker.cleanup now).2
  match broker.deliveries.lookup (device, matchId) with
  | some stored =>
    (.ok stored.delivery, { broker with deliveries := broker.deliveries.erase (device, matchId) })
  | none => (.error .deliveryUnavailable, broker)

/-- A reserved match counts as completed. -/
def confirmMatch (broker : RendezvousBroker) (matchId : MatchId) (now : UInt64) :
    Except RendezvousError Unit × RendezvousBroker :=
  match broker.reserved.lookup matchId with
  | none => (.error .deliveryUnavailable, broker)
  | some reserved =>
    if reserved.expiresAt ≤ now then
      (.error .deliveryUnavailable, broker)
    else
      (.ok (),
        { broker with
          reserved := broker.reserved.erase matchId
          completed := broker.completed.insert matchId reserved.expiresAt
          matchCount := broker.matchCount + 1 })

/-- Ends a match, reserved or not. -/
def abortMatch (broker : RendezvousBroker) (matchId : MatchId) (now : UInt64) :
    Nat × RendezvousBroker :=
  let (released, broker) :=
    match broker.reserved.lookup matchId with
    | some _ =>
      { broker with reserved := broker.reserved.erase matchId }.releaseRegistrations 2
    | none => (0, broker)
  (released,
    { broker with
      deliveries := broker.deliveries.retain fun key _ => key.2 ≠ matchId
      completed := broker.completed.insert matchId (tombstone now) })

/-- Takes back a registration that waits. -/
def cancelWaiting (broker : RendezvousBroker) (device : DeviceId) (matchId : MatchId)
    (now : UInt64) : Nat × RendezvousBroker :=
  if (broker.pending.lookup matchId).any fun pending => pending.device = device then
    { broker with
      pending := broker.pending.erase matchId
      completed := broker.completed.insert matchId (tombstone now) }.releaseRegistrations 1
  else
    (0, broker)

/-! ## What the operations do -/

/-- The record that a loop of equal releases leaves. -/
def releaseLog (requested : Nat) : Nat → Nat → List Release
  | _, 0 => []
  | available, count + 1 =>
    ⟨requested, min requested available⟩ :: releaseLog requested (available - requested) count

/-- Enough registrations are there, so every release is exact. -/
theorem exact_of_mem_releaseLog {requested available count : Nat} {release : Release}
    (h : release ∈ releaseLog requested available count) (henough : count * requested ≤ available) :
    release.released = release.requested := by
  induction count generalizing available with
  | zero => cases h
  | succ count ih =>
    rw [Nat.add_mul] at henough
    rw [releaseLog, mem_cons] at h
    rcases h with rfl | h
    · exact Nat.min_eq_left (by omega)
    · exact ih h (by omega)

/-- Remove the deliveries of the matches, one after the other. -/
def dropDeliveries (deliveries : Table (DeviceId × MatchId) StoredDelivery)
    (matchIds : List MatchId) : Table (DeviceId × MatchId) StoredDelivery :=
  matchIds.foldl (fun deliveries matchId => deliveries.retain fun key _ => key.2 ≠ matchId)
    deliveries

theorem lookup_dropDeliveries {dels : Table (DeviceId × MatchId) StoredDelivery}
    (matchIds : List MatchId) {device : DeviceId} {matchId : MatchId} :
    (dropDeliveries dels matchIds).lookup (device, matchId) =
      if matchId ∈ matchIds then none else dels.lookup (device, matchId) := by
  induction matchIds generalizing dels with
  | nil => simp [dropDeliveries]
  | cons first matchIds ih =>
    have hstep : dropDeliveries dels (first :: matchIds) =
        dropDeliveries (dels.retain fun key _ => key.2 ≠ first) matchIds := rfl
    rw [hstep, ih, AList.lookup_retain]
    cases dels.lookup (device, matchId) <;> by_cases hfirst : matchId = first <;>
      simp [hfirst, Option.filter]

variable (now : UInt64) (matchIds : List MatchId) (released : Nat) {broker : RendezvousBroker}

theorem foldl_expirePending :
    (matchIds.foldl (expirePending now) (released, broker)).2 =
      { broker with
        pending := broker.pending.eraseAll matchIds
        completed := broker.completed.insertAll matchIds (tombstone now)
        successfulRegistrations := broker.successfulRegistrations - matchIds.length
        releases := broker.releases ++
          releaseLog 1 broker.successfulRegistrations matchIds.length } := by
  induction matchIds generalizing released broker with
  | nil => simp [AList.eraseAll, AList.insertAll, releaseLog]
  | cons first matchIds ih =>
    rw [foldl_cons, expirePending, releaseRegistrations, ih]
    simp only [length_cons, releaseLog, append_assoc, singleton_append]
    congr 1
    · omega
    · rw [min_comm, ← Nat.sub_eq_sub_min]

theorem foldl_expireReserved :
    (matchIds.foldl (expireReserved now) (released, broker)).2 =
      { broker with
        reserved := broker.reserved.eraseAll matchIds
        deliveries := dropDeliveries broker.deliveries matchIds
        completed := broker.completed.insertAll matchIds (tombstone now)
        successfulRegistrations := broker.successfulRegistrations - matchIds.length * 2
        releases := broker.releases ++
          releaseLog 2 broker.successfulRegistrations matchIds.length } := by
  induction matchIds generalizing released broker with
  | nil => simp [AList.eraseAll, AList.insertAll, dropDeliveries, releaseLog]
  | cons first matchIds ih =>
    rw [foldl_cons, expireReserved, releaseRegistrations, ih]
    simp only [length_cons, releaseLog, append_assoc, singleton_append]
    congr 1
    · omega
    · rw [min_comm, ← Nat.sub_eq_sub_min]

def expiredPending (broker : RendezvousBroker) (now : UInt64) : List MatchId :=
  broker.pending.keysWhere fun _ pending => pending.expiresAt ≤ now

def expiredReserved (broker : RendezvousBroker) (now : UInt64) : List MatchId :=
  broker.reserved.keysWhere fun _ reserved => reserved.expiresAt ≤ now

variable (broker : RendezvousBroker)

/-- The state that `cleanup` leaves. -/
theorem cleanup_eq :
    (broker.cleanup now).2 =
      { broker with
        pending := broker.pending.eraseAll (broker.expiredPending now)
        deliveries := dropDeliveries
          (broker.deliveries.retain fun _ delivery => now < delivery.expiresAt)
          (broker.expiredReserved now)
        reserved := broker.reserved.eraseAll (broker.expiredReserved now)
        completed :=
          ((broker.completed.insertAll (broker.expiredPending now) (tombstone now)).insertAll
            (broker.expiredReserved now) (tombstone now)).retain fun _ expiresAt => now < expiresAt
        successfulRegistrations := broker.successfulRegistrations -
          (broker.expiredPending now).length - (broker.expiredReserved now).length * 2
        releases := broker.releases ++
          releaseLog 1 broker.successfulRegistrations (broker.expiredPending now).length ++
          releaseLog 2 (broker.successfulRegistrations - (broker.expiredPending now).length)
            (broker.expiredReserved now).length } := by
  unfold cleanup
  dsimp only
  rw [foldl_expireReserved, foldl_expirePending]
  rfl

variable {broker : RendezvousBroker} {device : DeviceId} {registration : RendezvousRegistration}
  {matchId : MatchId} {now expiresAt : UInt64}

theorem cleanup_pending_eq_some {pending : PendingRegistration} :
    (broker.cleanup now).2.pending.lookup matchId = some pending ↔
      broker.pending.lookup matchId = some pending ∧ now < pending.expiresAt := by
  rw [cleanup_eq, expiredPending, AList.lookup_eraseAll_keysWhere, filter_eq_some_iff]
  simp only [← decide_not, UInt64.not_le, decide_eq_true_eq]

theorem cleanup_reserved_eq_some {reserved : ReservedMatch} :
    (broker.cleanup now).2.reserved.lookup matchId = some reserved ↔
      broker.reserved.lookup matchId = some reserved ∧ now < reserved.expiresAt := by
  rw [cleanup_eq, expiredReserved, AList.lookup_eraseAll_keysWhere, filter_eq_some_iff]
  simp only [← decide_not, UInt64.not_le, decide_eq_true_eq]

theorem cleanup_deliveries_eq_some {stored : StoredDelivery} :
    (broker.cleanup now).2.deliveries.lookup (device, matchId) = some stored ↔
      matchId ∉ broker.expiredReserved now ∧
        broker.deliveries.lookup (device, matchId) = some stored ∧ now < stored.expiresAt := by
  rw [cleanup_eq, lookup_dropDeliveries, AList.lookup_retain]
  split
  · next h => exact iff_of_false nofun fun hmem => hmem.1 h
  next h =>
  rw [filter_eq_some_iff, decide_eq_true_eq]
  exact (and_iff_right h).symm

theorem lookup_cleanup_completed :
    (broker.cleanup now).2.completed.lookup matchId =
      (if matchId ∈ broker.expiredReserved now ∨ matchId ∈ broker.expiredPending now then
        some (tombstone now)
      else broker.completed.lookup matchId).filter fun expiresAt => now < expiresAt := by
  rw [cleanup_eq, AList.lookup_retain, AList.lookup_insertAll, AList.lookup_insertAll, ite_or]

theorem mem_expiredPending :
    matchId ∈ broker.expiredPending now ↔
      ∃ pend, broker.pending.lookup matchId = some pend ∧ pend.expiresAt ≤ now := by
  simp [expiredPending, AList.mem_keysWhere]

theorem mem_expiredReserved :
    matchId ∈ broker.expiredReserved now ↔
      ∃ reserved, broker.reserved.lookup matchId = some reserved ∧ reserved.expiresAt ≤ now := by
  simp [expiredReserved, AList.mem_keysWhere]

/-- What `register` has checked of a registration that it accepts. -/
structure Admissible (broker : RendezvousBroker) (device : DeviceId)
    (registration : RendezvousRegistration) (now expiresAt : UInt64) : Prop where
  encodes : ∃ bytes, registration.encode = .ok bytes
  other : registration.expectedPeerFingerprint ≠ device.bytes
  notCompleted : broker.completed.lookup registration.matchId = none
  notReserved : broker.reserved.lookup registration.matchId = none
  notDelivered : broker.deliveries.lookup (device, registration.matchId) = none
  expiry : checkedAdd now registration.ttlSeconds.toUInt64 = some expiresAt
  room : broker.successfulRegistrations < broker.limits.maxSuccessfulRegistrations

/-- The registration answers the waiting one. -/
structure Reciprocal (waiting : PendingRegistration) (device : DeviceId)
    (registration : RendezvousRegistration) : Prop where
  distinct : waiting.device ≠ device
  expectsCaller : waiting.registration.expectedPeerFingerprint = device.bytes
  expectsWaiter : registration.expectedPeerFingerprint = waiting.device.bytes
  role : waiting.registration.role ≠ registration.role
  generation : waiting.registration.generation = registration.generation
  exchangeId : waiting.registration.credentials.exchangeId = registration.credentials.exchangeId

/-- The bounds of a new reservation. -/
structure ReservationRoom (broker : RendezvousBroker) : Prop where
  deliveries : broker.deliveries.length < broker.limits.maxPending
  completed : broker.completed.length < broker.limits.maxPending * 4
  total : broker.matchCount + broker.reserved.length < broker.limits.maxMatches

/-- The bounds of a new waiting registration. -/
structure WaitingRoom (broker : RendezvousBroker) (device : DeviceId) : Prop where
  pending : broker.pending.length < broker.limits.maxPending
  completed : broker.completed.length < broker.limits.maxPending * 4
  device : broker.devicePending device < broker.limits.maxPendingPerDevice

section

variable (broker : RendezvousBroker) (device : DeviceId) (registration : RendezvousRegistration)

theorem pair_cases (waiting : PendingRegistration) (expiresAt : UInt64) :
    (∃ e, broker.pair device registration waiting expiresAt = (.error e, broker)) ∧
        ¬(Reciprocal waiting device registration ∧ ReservationRoom broker) ∨
      (Reciprocal waiting device registration ∧ ReservationRoom broker) ∧
        broker.pair device registration waiting expiresAt =
          (.ok (.matched ⟨waiting.device, waiting.registration⟩),
            broker.reserve device registration waiting expiresAt) := by
  unfold pair
  split_ifs with hdev hpeer hrole hgen hroom
  · exact .inl ⟨⟨_, rfl⟩, fun h => h.1.distinct hdev⟩
  · exact .inl ⟨⟨_, rfl⟩, fun h => hpeer.elim (· h.1.expectsCaller) (· h.1.expectsWaiter)⟩
  · exact .inl ⟨⟨_, rfl⟩, fun h => h.1.role hrole⟩
  · exact .inl ⟨⟨_, rfl⟩, fun h => hgen.elim (· h.1.generation) (· h.1.exchangeId)⟩
  · refine .inl ⟨⟨_, rfl⟩, fun h => ?_⟩
    have := h.2.deliveries
    have := h.2.completed
    have := h.2.total
    omega
  · rw [not_or, not_not, not_not] at hpeer hgen
    refine .inr ⟨⟨⟨hdev, hpeer.1, hpeer.2, hrole, hgen.1, hgen.2⟩, ?_⟩, rfl⟩
    exact ⟨by omega, by omega, by omega⟩

theorem wait_cases (expiresAt : UInt64) :
    (∃ e, broker.wait device registration expiresAt = (.error e, broker)) ∨
      WaitingRoom broker device ∧ broker.wait device registration expiresAt =
        (.ok (.waiting expiresAt), broker.addWaiting device registration expiresAt) := by
  unfold wait
  split_ifs with hroom hdev
  iterate 2 exact .inl ⟨_, rfl⟩
  · exact .inr ⟨⟨by omega, by omega, by omega⟩, rfl⟩

theorem admission_of_not
    (h : ∀ expiresAt, ¬Admissible broker device registration now expiresAt) :
    ∃ e, broker.admission device registration now = (.error e, broker) := by
  unfold admission
  split
  · exact ⟨_, rfl⟩
  next bytes henc =>
  split
  · exact ⟨_, rfl⟩
  next hself =>
  split
  · exact ⟨_, rfl⟩
  next hreplay =>
  split
  · exact ⟨_, rfl⟩
  next expiresAt hexp =>
  split
  · exact ⟨_, rfl⟩
  next hroom =>
  simp only [not_or, not_isSome_iff_eq_none] at hreplay
  exact absurd ⟨⟨bytes, henc⟩, hself, hreplay.1, hreplay.2.1, hreplay.2.2, hexp,
    Nat.lt_of_not_le hroom⟩ (h expiresAt)

end

theorem admission_of_admissible
    (h : Admissible broker device registration now expiresAt) :
    broker.admission device registration now =
      match broker.pending.lookup registration.matchId with
      | some waiting => broker.pair device registration waiting expiresAt
      | none => broker.wait device registration expiresAt := by
  obtain ⟨_, henc⟩ := h.encodes
  unfold admission
  rw [henc]
  rw [if_neg h.other, h.notCompleted, h.notReserved, h.notDelivered, if_neg (by simp), h.expiry]
  dsimp only
  rw [if_neg (Nat.not_le.2 h.room)]

end RendezvousBroker

/-! ## The broker as a machine -/

inductive BrokerCall where
  | register (device : DeviceId) (registration : RendezvousRegistration) (now : UInt64)
  | takeDelivery (device : DeviceId) (matchId : MatchId) (now : UInt64)
  | confirmMatch (matchId : MatchId) (now : UInt64)
  | abortMatch (matchId : MatchId) (now : UInt64)
  | cancelWaiting (device : DeviceId) (matchId : MatchId) (now : UInt64)
  | cleanup (now : UInt64)

/-- One call with what it returned. -/
inductive BrokerEvent where
  | registered (device : DeviceId) (registration : RendezvousRegistration) (now : UInt64)
      (result : Except RendezvousError RegisterOutcome)
  | taken (device : DeviceId) (matchId : MatchId) (now : UInt64)
      (result : Except RendezvousError RendezvousDelivery)
  | confirmed (matchId : MatchId) (now : UInt64) (result : Except RendezvousError Unit)
  | aborted (matchId : MatchId) (now : UInt64) (released : Nat)
  | cancelled (device : DeviceId) (matchId : MatchId) (now : UInt64) (released : Nat)
  | cleaned (now : UInt64) (released : Nat)

/-- The time that the call was given. -/
def BrokerEvent.now : BrokerEvent → UInt64
  | .registered _ _ now _ => now
  | .taken _ _ now _ => now
  | .confirmed _ now _ => now
  | .aborted _ now _ => now
  | .cancelled _ _ now _ => now
  | .cleaned now _ => now

def machine : Machine RendezvousBroker BrokerCall BrokerEvent where
  step broker
    | .register device registration now =>
      record (.registered device registration now) (broker.register device registration now)
    | .takeDelivery device matchId now =>
      record (.taken device matchId now) (broker.takeDelivery device matchId now)
    | .confirmMatch matchId now =>
      record (.confirmed matchId now) (broker.confirmMatch matchId now)
    | .abortMatch matchId now => record (.aborted matchId now) (broker.abortMatch matchId now)
    | .cancelWaiting device matchId now =>
      record (.cancelled device matchId now) (broker.cancelWaiting device matchId now)
    | .cleanup now => record (.cleaned now) (broker.cleanup now)

/-! ## What a call can do -/

/-- The event of a call and the broker after it. -/
inductive Effect (broker : RendezvousBroker) : BrokerEvent → RendezvousBroker → Prop where
  | refused (device : DeviceId) (registration : RendezvousRegistration) (now : UInt64)
      (error : RendezvousError) :
    Effect broker (.registered device registration now (.error error)) (broker.cleanup now).2
  | waits {device : DeviceId} {registration : RendezvousRegistration} {now expiresAt : UInt64}
      (admissible : (broker.cleanup now).2.Admissible device registration now expiresAt)
      (vacant : (broker.cleanup now).2.pending.lookup registration.matchId = none)
      (room : (broker.cleanup now).2.WaitingRoom device) :
    Effect broker (.registered device registration now (.ok (.waiting expiresAt)))
      ((broker.cleanup now).2.addWaiting device registration expiresAt)
  | matched {device : DeviceId} {registration : RendezvousRegistration} {now expiresAt : UInt64}
      {waiting : PendingRegistration} {delivery : RendezvousDelivery}
      (admissible : (broker.cleanup now).2.Admissible device registration now expiresAt)
      (there : (broker.cleanup now).2.pending.lookup registration.matchId = some waiting)
      (reciprocal : RendezvousBroker.Reciprocal waiting device registration)
      (room : (broker.cleanup now).2.ReservationRoom)
      (names : delivery = ⟨waiting.device, waiting.registration⟩) :
    Effect broker (.registered device registration now (.ok (.matched delivery)))
      ((broker.cleanup now).2.reserve device registration waiting expiresAt)
  | notTaken (device : DeviceId) (matchId : MatchId) (now : UInt64) :
    Effect broker (.taken device matchId now (.error .deliveryUnavailable)) (broker.cleanup now).2
  | taken {device : DeviceId} {matchId : MatchId} {now : UInt64} {stored : StoredDelivery}
      (there : (broker.cleanup now).2.deliveries.lookup (device, matchId) = some stored) :
    Effect broker (.taken device matchId now (.ok stored.delivery))
      { (broker.cleanup now).2 with
        deliveries := (broker.cleanup now).2.deliveries.erase (device, matchId) }
  | notConfirmed (matchId : MatchId) (now : UInt64) :
    Effect broker (.confirmed matchId now (.error .deliveryUnavailable)) broker
  | confirmed {matchId : MatchId} {now : UInt64} {reserved : ReservedMatch}
      (there : broker.reserved.lookup matchId = some reserved) (live : now < reserved.expiresAt) :
    Effect broker (.confirmed matchId now (.ok ()))
      { broker with
        reserved := broker.reserved.erase matchId
        completed := broker.completed.insert matchId reserved.expiresAt
        matchCount := broker.matchCount + 1 }
  | abortedFree {matchId : MatchId} (free : broker.reserved.lookup matchId = none) (now : UInt64) :
    Effect broker (.aborted matchId now 0)
      { broker with
        deliveries := broker.deliveries.retain fun key _ => key.2 ≠ matchId
        completed := broker.completed.insert matchId (RendezvousBroker.tombstone now) }
  | aborted {matchId : MatchId} {reserved : ReservedMatch}
      (there : broker.reserved.lookup matchId = some reserved) (now : UInt64) :
    Effect broker (.aborted matchId now (min 2 broker.successfulRegistrations))
      { broker with
        reserved := broker.reserved.erase matchId
        deliveries := broker.deliveries.retain fun key _ => key.2 ≠ matchId
        completed := broker.completed.insert matchId (RendezvousBroker.tombstone now)
        successfulRegistrations :=
          broker.successfulRegistrations - min 2 broker.successfulRegistrations
        releases := broker.releases ++ [⟨2, min 2 broker.successfulRegistrations⟩] }
  | notCancelled {device : DeviceId} {matchId : MatchId}
      (other : ∀ pending, broker.pending.lookup matchId = some pending → pending.device ≠ device)
      (now : UInt64) :
    Effect broker (.cancelled device matchId now 0) broker
  | cancelled {matchId : MatchId} {pending : PendingRegistration}
      (there : broker.pending.lookup matchId = some pending) (now : UInt64) :
    Effect broker (.cancelled pending.device matchId now (min 1 broker.successfulRegistrations))
      { broker with
        pending := broker.pending.erase matchId
        completed := broker.completed.insert matchId (RendezvousBroker.tombstone now)
        successfulRegistrations :=
          broker.successfulRegistrations - min 1 broker.successfulRegistrations
        releases := broker.releases ++ [⟨1, min 1 broker.successfulRegistrations⟩] }
  | cleaned (now : UInt64) :
    Effect broker (.cleaned now (broker.cleanup now).1) (broker.cleanup now).2

open RendezvousBroker

variable (broker : RendezvousBroker)

/-- A registration is refused, waits or is matched. -/
theorem effect_register (device : DeviceId)
    (registration : RendezvousRegistration) (now : UInt64) :
    Effect broker (.registered device registration now (broker.register device registration now).1)
      (broker.register device registration now).2 := by
  unfold register
  by_cases hadm : ∃ expiresAt, (broker.cleanup now).2.Admissible device registration now expiresAt
  · obtain ⟨expiresAt, h⟩ := hadm
    rw [admission_of_admissible h]
    split
    · next waiting hpend =>
      rcases (broker.cleanup now).2.pair_cases device registration waiting expiresAt with
        ⟨⟨e, herror⟩, -⟩ | ⟨hpair, hmtch⟩
      · rw [herror]
        exact .refused device registration now e
      · rw [hmtch]
        exact .matched h hpend hpair.1 hpair.2 rfl
    · next hpend =>
      rcases (broker.cleanup now).2.wait_cases device registration expiresAt with
        ⟨e, herror⟩ | ⟨hroom, hwait⟩
      · rw [herror]
        exact .refused device registration now e
      · rw [hwait]
        exact .waits h hpend hroom
  · obtain ⟨e, herror⟩ :=
      admission_of_not _ _ _ (not_exists.1 hadm)
    rw [herror]
    exact .refused device registration now e

/-- A registration that is refused leaves what `cleanup` leaves. -/
theorem refused_registration_changes_nothing (broker : RendezvousBroker) (device : DeviceId)
    (registration : RendezvousRegistration) (now : UInt64) (error : RendezvousError)
    (h : (broker.register device registration now).1 = .error error) :
    (broker.register device registration now).2 = (broker.cleanup now).2 := by
  have heff := effect_register broker device registration now
  rw [h] at heff
  generalize (broker.register device registration now).2 = after at heff
  cases heff
  rfl

/-- The certificate that the registration of the sample does not expect. -/
def sampleInitiator : DeviceId := ⟨.replicate 32 4, by decide⟩

/-- The certificate that it expects. -/
def sampleResponder : DeviceId := ⟨.replicate 32 5, by decide⟩

/-- The answer to the sample registration. -/
def sampleAnswer : RendezvousRegistration :=
  { RendezvousRegistration.sample with
    role := .responder
    ttlSeconds := 60
    expectedPeerFingerprint := sampleInitiator.bytes
    credentials :=
      { RendezvousRegistration.sample.credentials with role := .controlled } }

/-- Two registrations wait, until 120 and 165, and a match is reserved. -/
def sampleBroker : RendezvousBroker :=
  machine.run (.start {})
    [.register sampleInitiator { RendezvousRegistration.sample with matchId := .replicate 16 1 } 90,
      .register sampleInitiator .sample 100, .register sampleResponder sampleAnswer 101,
      .register sampleResponder { sampleAnswer with matchId := .replicate 16 2 } 105]

/-- A device that expects itself, when the first of the two has expired. -/
theorem sample_refused_registration :
    let call := sampleBroker.register sampleResponder .sample 125
    (sampleBroker.pending.length = 2 ∧ sampleBroker.reserved.length = 1) ∧
      call.1 = .error .selfMatch ∧ call.2 = (sampleBroker.cleanup 125).2 ∧
      call.2.pending.length = 1 ∧ call.2.reserved.length = 1 := by
  have herror : (sampleBroker.register sampleResponder .sample 125).1 = .error .selfMatch := by
    decide +kernel
  exact ⟨by decide +kernel, herror,
    refused_registration_changes_nothing sampleBroker sampleResponder .sample 125 _ herror,
    by decide +kernel, by decide +kernel⟩

theorem effect_step (call : BrokerCall) :
    Effect broker (machine.step broker call).1 (machine.step broker call).2 := by
  cases call with
  | register device registration now => exact effect_register broker device registration now
  | takeDelivery device matchId now =>
    simp only [machine, takeDelivery]
    split
    · next stored hstor => exact .taken hstor
    · exact .notTaken device matchId now
  | confirmMatch matchId now =>
    simp only [machine, confirmMatch]
    split
    · exact .notConfirmed matchId now
    next reserved hresv =>
    split
    · exact .notConfirmed matchId now
    · next hlive => exact .confirmed hresv (UInt64.not_le.1 hlive)
  | abortMatch matchId now =>
    simp only [machine, abortMatch]
    split
    · next reserved hresv => exact .aborted hresv now
    · next hresv => exact .abortedFree hresv now
  | cancelWaiting device matchId now =>
    simp only [machine, cancelWaiting]
    split
    · next h =>
      obtain ⟨pend, hpend, hdev⟩ := any_eq_true _ _ |>.1 h
      obtain rfl := of_decide_eq_true hdev
      exact .cancelled hpend now
    · next h =>
      refine .notCancelled (fun pend hpend hdev => h ?_) now
      rw [hpend]
      exact decide_eq_true hdev
  | cleanup now => exact .cleaned now

end LatencyDesk.Rendezvous
