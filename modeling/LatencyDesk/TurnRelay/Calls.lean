import LatencyDesk.Lib.Machine
import LatencyDesk.TurnRelay.Effect

/-!
# The relay as a machine

The calls of the relay carry the time, and the events what the calls returned.

A call that fails has at most pruned the allocation that it looked at
(`perform_fails`); a `create` that fails has at most swept the allocations that
are over.  `Effect` joins this with the successes: every call leaves the state
alone, prunes, sweeps, inserts an allocation, removes one, or changes one in one
of five ways (`Touch`).  The invariants of the relay are proved from it.
-/

namespace LatencyDesk.TurnRelay

open Lib Protocol Fallible AList

/-! ## Calls -/

/-- The public methods; the time is given beside. -/
inductive RelayCall where
  | create (key : UdpTuple) (credentials : AllocationCredentials) (relayedAddress : SocketAddr)
      (requestedLifetime : Option UInt64)
  | authenticateRequest (key : UdpTuple) (encodedRequest : List UInt8)
  | staleNonceChallenge (key : UdpTuple) (encodedRequest : List UInt8)
  | rotateNonce (request : AuthenticatedRequest) (nonce : List UInt8)
  | refresh (request : AuthenticatedRequest)
  | createPermissions (request : AuthenticatedRequest)
  | bindChannel (request : AuthenticatedRequest)
  | authorizeSend (key : UdpTuple) (peer : SocketAddr) (payloadBytes : UInt64)
  | authorizeChannelData (key : UdpTuple) (channel : UInt16) (payloadBytes : UInt64)
  | routePeerDatagram (key : UdpTuple) (peer : SocketAddr) (payloadBytes : UInt64)
  | allocationInfo (key : UdpTuple)
  | counters (key : UdpTuple)
  | cleanup
deriving DecidableEq

/-- What a call returns. -/
inductive Reply where
  | done
  | allocation (info : AllocationInfo)
  | refreshed (info : Option AllocationInfo)
  | authenticated (request : AuthenticatedRequest)
  | challenged (challenge : RelayState.StaleNonceChallenge)
  | peer (address : SocketAddr)
  | route (route : DeliveryRoute)
  | counted (counters : TrafficCounters)
deriving DecidableEq

structure RelayEvent where
  now : UInt64
  call : RelayCall
  result : Except StateError Reply
deriving DecidableEq

namespace RelayCall

variable (hmac : List UInt8 → List UInt8 → Bytes 32)

def perform (now : UInt64) : RelayCall → Relay Reply
  | create key credentials relayedAddress requestedLifetime =>
    .allocation <$> RelayState.create key credentials relayedAddress now requestedLifetime
  | authenticateRequest key encodedRequest =>
    .authenticated <$> RelayState.authenticateRequest hmac key encodedRequest now
  | staleNonceChallenge key encodedRequest =>
    .challenged <$> RelayState.staleNonceChallenge hmac key encodedRequest now
  | rotateNonce request nonce => (fun _ => .done) <$> RelayState.rotateNonce request nonce now
  | refresh request => .refreshed <$> RelayState.refresh request now
  | createPermissions request => (fun _ => .done) <$> RelayState.createPermissions request now
  | bindChannel request => (fun _ => .done) <$> RelayState.bindChannel request now
  | authorizeSend key peer payloadBytes =>
    (fun _ => .done) <$> RelayState.authorizeSend key peer payloadBytes now
  | authorizeChannelData key channel payloadBytes =>
    .peer <$> RelayState.authorizeChannelData key channel payloadBytes now
  | routePeerDatagram key peer payloadBytes =>
    .route <$> RelayState.routePeerDatagram key peer payloadBytes now
  | allocationInfo key => .allocation <$> RelayState.allocationInfo key now
  | counters key => .counted <$> RelayState.counters key now
  | cleanup => (fun _ => .done) <$> RelayState.cleanup now

/-- The allocation that the call looks at, if it is about one that exists. -/
def tuple : RelayCall → Option UdpTuple
  | create _ _ _ _ => none
  | authenticateRequest key _ => some key
  | staleNonceChallenge key _ => some key
  | rotateNonce request _ => some request.tuple
  | refresh request => some request.tuple
  | createPermissions request => some request.tuple
  | bindChannel request => some request.tuple
  | authorizeSend key _ _ => some key
  | authorizeChannelData key _ _ => some key
  | routePeerDatagram key _ _ => some key
  | allocationInfo key => some key
  | counters key => some key
  | cleanup => none

/-- The request that the call uses. -/
def request : RelayCall → Option AuthenticatedRequest
  | rotateNonce request _ => some request
  | refresh request => some request
  | createPermissions request => some request
  | bindChannel request => some request
  | _ => none

end RelayCall

/-- One relay, with calls that carry the time. -/
def relayMachine (hmac : List UInt8 → List UInt8 → Bytes 32) :
    Machine RelayState (UInt64 × RelayCall) RelayEvent where
  step state timed := record (RelayEvent.mk timed.1 timed.2) (timed.2.perform hmac timed.1 state)

/-- The steps of one relay. -/
abbrev RelayTrace := List (Step RelayState RelayEvent)

/-- The calls come at non-decreasing times. -/
def InOrder (h : RelayTrace) : Prop := h.Pairwise fun a b => a.event.now ≤ b.event.now

instance (h : RelayTrace) : Decidable (InOrder h) :=
  inferInstanceAs (Decidable (h.Pairwise fun a b => a.event.now ≤ b.event.now))

theorem inOrder_snoc {h : RelayTrace} {step : Step RelayState RelayEvent} :
    InOrder (h ++ [step]) ↔ InOrder h ∧ ∀ earlier ∈ h, earlier.event.now ≤ step.event.now := by
  unfold InOrder
  rw [List.pairwise_append]
  simp

/-- The steps of a run have the times of its calls. -/
theorem map_now_trace (hmac : List UInt8 → List UInt8 → Bytes 32) (s : RelayState)
    (calls : List (UInt64 × RelayCall)) :
    ((relayMachine hmac).trace s calls).map (·.event.now) = calls.map Prod.fst := by
  induction calls generalizing s with
  | nil => rfl
  | cons timed calls ih =>
    rw [Machine.trace_cons, List.map_cons, ih]
    rfl

/-! ## Failures -/

namespace RelayState

variable {hmac : List UInt8 → List UInt8 → Bytes 32} {key : UdpTuple} {now : UInt64}
  (request : AuthenticatedRequest) (peer : SocketAddr) (payloadBytes : UInt64)

theorem requirePermissionAndAccount_fails :
    Fallible.FailsWithin (Looks key now)
      (requirePermissionAndAccount key peer payloadBytes now) := by
  refine .bind .get fun _ => ?_
  refine .bind liveAllocationMut_within fun _ => ?_
  refine .bind .failIf fun _ => ?_
  iterate 2 refine .bind .okOr fun _ => ?_
  refine .bind .failIf fun _ => ?_
  exact .modify

variable (encodedRequest : List UInt8)

theorem authenticateRequestInner_within {allowStaleNonce : Bool} :
    Fallible.Within (Looks key now)
      (authenticateRequestInner hmac key encodedRequest now allowStaleNonce) := by
  refine .bind liveAllocationMut_within fun _ => ?_
  refine .bind .ofExcept fun _ => ?_
  refine .bind .failIf fun _ => ?_
  refine .bind .ofExcept fun _ => ?_
  refine .bind .get fun _ => ?_
  refine .bind liveAllocationMut_within fun _ => ?_
  iterate 2 refine .bind .failIf fun _ => ?_
  exact .pure

theorem staleNonceChallenge_within :
    Fallible.Within (Looks key now) (staleNonceChallenge hmac key encodedRequest now) := by
  refine .bind (authenticateRequestInner_within _) fun _ => ?_
  refine .bind .ofExcept fun _ => ?_
  refine .bind liveAllocationMut_within fun _ => ?_
  refine .bind .failIf fun _ => ?_
  exact .pure

theorem allocationInfo_within : Fallible.Within (Looks key now) (allocationInfo key now) :=
  .bind liveAllocationMut_within fun _ => .pure

theorem counters_within : Fallible.Within (Looks key now) (counters key now) :=
  .bind liveAllocationMut_within fun _ => .pure

theorem rotateNonce_fails {nonce : List UInt8} :
    Fallible.FailsWithin (Looks request.tuple now) (rotateNonce request nonce now) := by
  refine .bind .ofExcept fun _ => ?_
  refine .bind authorizedAllocationMut_within fun _ => ?_
  refine .bind .okOr fun _ => ?_
  exact .modify

theorem remove_fails : Fallible.FailsWithin (Looks key now) (remove key) := by
  refine .bind .get fun _ => ?_
  refine .bind .okOr fun _ => ?_
  exact .modify

theorem refresh_fails : Fallible.FailsWithin (Looks request.tuple now) (refresh request now) := by
  refine .bind authorizedAllocationMut_within fun _ => ?_
  refine .bind .ofExcept fun lifetime => ?_
  split_ifs
  · exact .bind_of_total remove_fails fun _ _ _ _ h => by cases h
  refine .bind .okOr fun _ => ?_
  refine .bind authorizedAllocationMut_within fun _ => ?_
  exact .bind_of_total .modify fun _ _ _ _ h => by cases h

theorem createPermissions_fails :
    Fallible.FailsWithin (Looks request.tuple now) (createPermissions request now) := by
  refine .bind .ofExcept fun _ => ?_
  refine .bind .get fun _ => ?_
  refine .bind .failIf fun _ => ?_
  refine .bind authorizedAllocationMut_within fun _ => ?_
  refine .bind .ofExcept fun _ => ?_
  refine .bind .okOr fun _ => ?_
  refine .bind authorizedAllocationMut_within fun _ => ?_
  refine .bind .failIf fun _ => ?_
  exact .modify

theorem bindChannel_fails :
    Fallible.FailsWithin (Looks request.tuple now) (bindChannel request now) := by
  refine .bind .ofExcept fun (channel, peer) => ?_
  refine .bind .failIf fun _ => ?_
  refine .bind authorizedAllocationMut_within fun _ => ?_
  refine .bind .get fun _ => ?_
  refine .bind .ofExcept fun _ => ?_
  iterate 3 refine .bind .okOr fun _ => ?_
  refine .bind authorizedAllocationMut_within fun _ => ?_
  iterate 4 refine .bind .failIf fun _ => ?_
  exact .modify

theorem authorizeSend_fails :
    Fallible.FailsWithin (Looks key now) (authorizeSend key peer payloadBytes now) := by
  refine .bind liveAllocationMut_within fun _ => ?_
  refine .bind .get fun _ => ?_
  refine .bind .ofExcept fun _ => ?_
  exact requirePermissionAndAccount_fails _ _

theorem authorizeChannelData_fails {channel : UInt16} :
    Fallible.FailsWithin (Looks key now) (authorizeChannelData key channel payloadBytes now) := by
  refine .bind liveAllocationMut_within fun _ => ?_
  refine .bind .okOr fun _ => ?_
  exact .bind_of_total (requirePermissionAndAccount_fails _ _) fun _ _ _ _ h => by cases h

/-- The last look of a routed datagram succeeds, since the one before it did. -/
theorem routePeerDatagram_fails :
    Fallible.FailsWithin (Looks key now) (routePeerDatagram key peer payloadBytes now) := by
  refine .bind liveAllocationMut_within fun _ => ?_
  refine .bind .get fun _ => ?_
  refine .bind .ofExcept fun _ => ?_
  intro s e t h
  rcases bind_error.1 h with hfails | ⟨_, _, hrequire, h⟩
  · exact requirePermissionAndAccount_fails _ _ s _ _ hfails
  obtain ⟨_, _, _, _, hlook, hexp, _, _, _, rfl⟩ :=
    requirePermissionAndAccount_ok hrequire
  rcases bind_error.1 h with hfails | ⟨_, _, _, h⟩
  · rw [liveAllocationMut_put hlook (by exact hexp)] at hfails
    cases hfails
  · cases h

/-- A sweep, if anything. -/
def Sweeps (now : UInt64) (s t : RelayState) : Prop := t = s ∨ t = s.cleanedAt now

variable (s : RelayState)

theorem cleanedAt_cleanedAt (now : UInt64) :
    (s.cleanedAt now).cleanedAt now = s.cleanedAt now := by
  unfold cleanedAt
  simp [retain]

theorem lookup_cleanedAt :
    (s.cleanedAt now).allocations.lookup key =
      (s.allocations.lookup key).filter fun alloc => now < alloc.expiresAt :=
  lookup_retain

instance : Std.Refl (Sweeps now) := ⟨fun _ => Or.inl rfl⟩

theorem Sweeps.trans {s t u : RelayState} (hst : Sweeps now s t) (htu : Sweeps now t u) :
    Sweeps now s u := by
  rcases hst with rfl | rfl
  · exact htu
  rcases htu with rfl | rfl
  · exact .inr rfl
  · exact .inr (cleanedAt_cleanedAt s now)

instance : Trans (Sweeps now) (Sweeps now) (Sweeps now) := ⟨Sweeps.trans⟩

theorem create_fails {creds : AllocationCredentials} {relayedAddress : SocketAddr}
    {requestedLifetime : Option UInt64} :
    Fallible.FailsWithin (Sweeps now) (create key creds relayedAddress now requestedLifetime) := by
  refine .bind .ofExcept fun _ => ?_
  refine .bind .get fun _ => ?_
  refine .bind .ofExcept fun _ => ?_
  refine .bind (fun _ => .inr rfl) fun _ => ?_
  refine .bind .get fun _ => ?_
  iterate 4 refine .bind .failIf fun _ => ?_
  iterate 2 refine .bind .okOr fun _ => ?_
  exact .bind_of_total .modify fun _ _ _ _ h => by cases h

end RelayState

open RelayState

variable {hmac : List UInt8 → List UInt8 → Bytes 32} {now : UInt64} {call : RelayCall}
  {key : UdpTuple}

/-- A call that fails has looked, and no more. -/
theorem perform_fails (hkey : call.tuple = some key) :
    Fallible.FailsWithin (Looks key now) (call.perform hmac now) := by
  cases call
  all_goals cases hkey
  case authenticateRequest => exact (authenticateRequestInner_within _).fails.map
  case staleNonceChallenge => exact (staleNonceChallenge_within _).fails.map
  case allocationInfo => exact allocationInfo_within.fails.map
  case counters => exact counters_within.fails.map
  case rotateNonce => exact (rotateNonce_fails _).map
  case refresh => exact (refresh_fails _).map
  case createPermissions => exact (createPermissions_fails _).map
  case bindChannel => exact (bindChannel_fails _).map
  case authorizeSend => exact (authorizeSend_fails _ _).map
  case authorizeChannelData => exact (authorizeChannelData_fails _).map
  case routePeerDatagram => exact (routePeerDatagram_fails _ _).map

/-! ## Effects -/

/-- The ways in which a call changes the allocation at a key. -/
inductive Touch (s : RelayState) (now : UInt64) :
    RelayCall → UdpTuple → Allocation → Allocation → Prop
  | rotated {request : AuthenticatedRequest} {nonce : List UInt8} {allocation : Allocation}
      {nextGeneration : UInt64} (hnonce : CredentialPart nonce) :
      Authorizes s request now allocation →
      nextGeneration.toNat = allocation.credentialGeneration.toNat + 1 →
      Touch s now (.rotateNonce request nonce) request.tuple allocation
        { allocation.pruneChildren now with
          credentials := allocation.credentials.withNonce nonce hnonce
          credentialGeneration := nextGeneration }
  | refreshed {request : AuthenticatedRequest} {allocation : Allocation} {expiresAt : UInt64} :
      Authorizes s request now allocation → expiresAt.toNat = now.toNat + 600 →
      Touch s now (.refresh request) request.tuple allocation
        { allocation.pruneChildren now with expiresAt := expiresAt }
  | permitted {request : AuthenticatedRequest} {allocation : Allocation} {expiresAt : UInt64} :
      Authorizes s request now allocation → request.method = .createPermission →
      (∀ peer ∈ request.message.peers,
        validatePermissionIp s.policy allocation.relayedAddress peer.ip = .ok ()) →
      expiresAt.toNat = now.toNat + 300 →
      (allocation.pruneChildren now).permissions.length +
          (uniqueIps request.message).countP (fun ip =>
            ((allocation.pruneChildren now).permissions.lookup ip).isNone) ≤
        s.quota.maxPermissionsPerAllocation →
      Touch s now (.createPermissions request) request.tuple allocation
        { allocation.pruneChildren now with
          permissions := (allocation.pruneChildren now).permissions.insertAll
            (uniqueIps request.message) { expiresAt := expiresAt } }
  | bound {request : AuthenticatedRequest} {allocation : Allocation} {channel : UInt16}
      {peer : SocketAddr} {permissionExpires channelExpires quarantineUntil : UInt64} :
      Authorizes s request now allocation →
      requestChannel request.message = .ok (channel, peer) →
      validatePeer s.policy allocation.relayedAddress peer = .ok () →
      HasPlace s.quota now (allocation.pruneChildren now) channel peer →
      permissionExpires.toNat = now.toNat + 300 → channelExpires.toNat = now.toNat + 600 →
      quarantineUntil.toNat = now.toNat + 900 →
      Touch s now (.bindChannel request) request.tuple allocation
        { allocation.pruneChildren now with
          permissions := (allocation.pruneChildren now).permissions.insert peer.ip
            { expiresAt := permissionExpires }
          channels := (allocation.pruneChildren now).channels.insert channel
            { peer := peer, expiresAt := channelExpires, quarantineUntil := quarantineUntil } }
  | accounted {call : RelayCall} {key : UdpTuple} {allocation : Allocation}
      {packets bytes : UInt64} :
      packets ≤ s.quota.maxPacketsPerAllocation → bytes ≤ s.quota.maxPayloadBytesPerAllocation →
      Touch s now call key allocation
        { allocation.pruneChildren now with
          counters := { packets := packets, payloadBytes := bytes } }

/-- What a call does to the relay. -/
inductive Effect (s : RelayState) (now : UInt64) :
    RelayCall → Except StateError Reply → RelayState → Prop
  | looked {call : RelayCall} {result : Except StateError Reply} {key : UdpTuple}
      {t : RelayState} : Looks key now s t → Effect s now call result t
  | swept {call : RelayCall} {result : Except StateError Reply} {t : RelayState} :
      Sweeps now s t → Effect s now call result t
  | created {key : UdpTuple} {credentials : AllocationCredentials} {relayedAddress : SocketAddr}
      {requestedLifetime : Option UInt64} {info : AllocationInfo}
      {expiresAt incarnation : UInt64} :
      Vacant s now key credentials relayedAddress → expiresAt.toNat = now.toNat + 600 →
      incarnation.toNat = s.nextIncarnation.toNat + 1 →
      Effect s now (.create key credentials relayedAddress requestedLifetime)
        (.ok (.allocation info))
        { s.cleanedAt now with
          nextIncarnation := incarnation
          allocations := (s.cleanedAt now).allocations.insert key
            (freshAllocation credentials relayedAddress incarnation expiresAt) }
  | removed {request : AuthenticatedRequest} {allocation : Allocation} :
      Authorizes s request now allocation →
      Effect s now (.refresh request) (.ok (.refreshed none))
        { s with allocations := (s.put request.tuple
            (allocation.pruneChildren now)).allocations.erase request.tuple }
  | touched {call : RelayCall} {key : UdpTuple} {allocation written : Allocation}
      {reply : Reply} :
      s.allocations.lookup key = some allocation → now < allocation.expiresAt →
      Touch s now call key allocation written → Effect s now call (.ok reply) (s.put key written)

variable {s t : RelayState} {result : Except StateError Reply}

/-- A change leaves the allocation the one that it is. -/
theorem Touch.identity {alloc written : Allocation}
    (h : Touch s now call key alloc written) :
    written.incarnation = alloc.incarnation ∧
      written.relayedAddress = alloc.relayedAddress ∧
      written.credentials.username = alloc.credentials.username ∧
      written.credentials.realm = alloc.credentials.realm ∧
      written.credentials.authIdentity = alloc.credentials.authIdentity ∧
      written.credentials.integrityKey = alloc.credentials.integrityKey := by
  cases h <;> exact ⟨rfl, rfl, rfl, rfl, rfl, rfl⟩

variable {reply : Reply}

theorem Effect.of_account {peer : SocketAddr} {payloadBytes : UInt64}
    (h : requirePermissionAndAccount key peer payloadBytes now s = (.ok (), t)) :
    Effect s now call (.ok reply) t := by
  obtain ⟨_, _, _, _, hlook, hlive, _, hpackets, hbytes, rfl⟩ :=
    requirePermissionAndAccount_ok h
  exact .touched hlook hlive (.accounted hpackets hbytes)

theorem effect_of_ok (h : call.perform hmac now s = (.ok reply, t)) :
    Effect s now call (.ok reply) t := by
  cases call
  all_goals obtain ⟨_, hcall, rfl⟩ := map_ok.1 h
  case create =>
    obtain ⟨hvacant, _, _, hexp, hinc, rfl⟩ := create_ok hcall
    exact .created hvacant hexp hinc
  case authenticateRequest =>
    exact .looked ((authenticateRequestInner_within _).apply hcall)
  case staleNonceChallenge => exact .looked ((staleNonceChallenge_within _).apply hcall)
  case rotateNonce =>
    obtain ⟨hnonce, _, _, halloc, hgen, rfl⟩ := rotateNonce_ok hcall
    exact .touched halloc.found halloc.live (.rotated hnonce halloc hgen)
  case refresh =>
    obtain ⟨_, halloc, ⟨rfl, rfl⟩ | ⟨_, hexp, rfl⟩⟩ := refresh_ok hcall
    · exact .removed halloc
    · exact .touched halloc.found halloc.live (.refreshed halloc hexp)
  case createPermissions =>
    obtain ⟨_, _, hmethod, halloc, hval, hexp, hroom, rfl⟩ := createPermissions_ok hcall
    exact .touched halloc.found halloc.live (.permitted halloc hmethod hval hexp hroom)
  case bindChannel =>
    obtain ⟨_, _, _, _, _, _, hchan, halloc, hval, hplace, hperm, hexp, huntil, rfl⟩ :=
      bindChannel_ok hcall
    exact .touched halloc.found halloc.live (.bound halloc hchan hval hplace hperm hexp huntil)
  case authorizeSend => exact .of_account (authorizeSend_ok hcall).2
  case authorizeChannelData => exact .of_account (authorizeChannelData_ok hcall).2
  case routePeerDatagram => exact .of_account (routePeerDatagram_ok hcall).2
  case allocationInfo => exact .looked (allocationInfo_within.apply hcall)
  case counters => exact .looked (counters_within.apply hcall)
  case cleanup => exact .swept (.inr (modify_ok.1 hcall))

/-- Every call has one of the effects. -/
theorem perform_effect (hmac : List UInt8 → List UInt8 → Bytes 32) (s : RelayState)
    (now : UInt64) (call : RelayCall) :
    Effect s now call (call.perform hmac now s).1 (call.perform hmac now s).2 := by
  rcases hres : call.perform hmac now s with ⟨e | _, t⟩
  · cases htuple : call.tuple with
    | some key => exact .looked (perform_fails htuple s e t hres)
    | none =>
      cases call with
      | create key creds relayedAddress requestedLifetime =>
        exact .swept ((create_fails).map s e t hres)
      | cleanup => cases hres
      | _ => cases htuple
  · exact effect_of_ok hres

variable (h : Effect s now call result t)

include h in
/-- An allocation after a call is new, or it was there before and was left, pruned or changed.
Only a live allocation is pruned or changed. -/
theorem Effect.origin {after : Allocation}
    (hlook : t.allocations.lookup key = some after) :
    (∃ creds relayedAddress expiresAt,
        after = freshAllocation creds relayedAddress t.nextIncarnation expiresAt ∧
          t.nextIncarnation.toNat = s.nextIncarnation.toNat + 1) ∨
      ∃ alloc, s.allocations.lookup key = some alloc ∧
        (after = alloc ∨ (now < alloc.expiresAt ∧
          (after = alloc.pruneChildren now ∨
            ((∃ reply, result = .ok reply) ∧ Touch s now call key alloc after)))) := by
  cases h with
  | looked hlooks =>
    rcases hlooks with rfl | ⟨alloc, hfnd, hlive, rfl⟩
    · exact .inr ⟨after, hlook, .inl rfl⟩
    rw [lookup_put hfnd] at hlook
    split_ifs at hlook with heq
    · cases hlook
      exact .inr ⟨alloc, by rw [heq, hfnd], .inr ⟨hlive, .inl rfl⟩⟩
    · exact .inr ⟨after, hlook, .inl rfl⟩
  | swept hsweeps =>
    rcases hsweeps with rfl | rfl
    · exact .inr ⟨after, hlook, .inl rfl⟩
    · rw [lookup_cleanedAt, Option.filter_eq_some_iff] at hlook
      exact .inr ⟨after, hlook.1, .inl rfl⟩
  | created hvacant _ hinc =>
    rw [lookup_insert_eq] at hlook
    split_ifs at hlook with heq
    · cases hlook
      exact .inl ⟨_, _, _, rfl, hinc⟩
    · rw [lookup_cleanedAt, Option.filter_eq_some_iff] at hlook
      exact .inr ⟨after, hlook.1, .inl rfl⟩
  | removed halloc =>
    rw [lookup_erase_eq] at hlook
    split_ifs at hlook with heq
    rw [lookup_put halloc.found, if_neg heq] at hlook
    exact .inr ⟨after, hlook, .inl rfl⟩
  | touched hfnd hlive htouch =>
    rw [lookup_put hfnd] at hlook
    split_ifs at hlook with heq
    · cases hlook
      subst heq
      exact .inr ⟨_, hfnd, .inr ⟨hlive, .inr ⟨⟨_, rfl⟩, htouch⟩⟩⟩
    · exact .inr ⟨after, hlook, .inl rfl⟩

include h in
theorem Effect.nextIncarnation_le :
    s.nextIncarnation.toNat ≤ t.nextIncarnation.toNat := by
  cases h with
  | looked hlooks => rcases hlooks with rfl | ⟨_, _, _, rfl⟩ <;> exact Nat.le_refl _
  | swept hsweeps => rcases hsweeps with rfl | rfl <;> exact Nat.le_refl _
  | created _ _ hinc =>
    dsimp only
    omega
  | removed | touched => exact Nat.le_refl _

include h in
/-- No call changes which relay this is. -/
theorem Effect.constants :
    t.stateInstance = s.stateInstance ∧ t.quota = s.quota ∧ t.policy = s.policy := by
  cases h with
  | looked hlooks => rcases hlooks with rfl | ⟨_, _, _, rfl⟩ <;> exact ⟨rfl, rfl, rfl⟩
  | swept hsweeps => rcases hsweeps with rfl | rfl <;> exact ⟨rfl, rfl, rfl⟩
  | created | removed | touched => exact ⟨rfl, rfl, rfl⟩

theorem run_constants (hmac : List UInt8 → List UInt8 → Bytes 32) (s : RelayState)
    (calls : List (UInt64 × RelayCall)) :
    ((relayMachine hmac).run s calls).stateInstance = s.stateInstance ∧
      ((relayMachine hmac).run s calls).quota = s.quota ∧
      ((relayMachine hmac).run s calls).policy = s.policy := by
  refine (relayMachine hmac).run_induction
    (P := fun t => t.stateInstance = s.stateInstance ∧ t.quota = s.quota ∧ t.policy = s.policy)
    ⟨rfl, rfl, rfl⟩ ?_ calls
  intro t timed ⟨hinst, hquota, hpolicy⟩
  obtain ⟨hinst', hquota', hpolicy'⟩ := (perform_effect hmac t timed.1 timed.2).constants
  exact ⟨hinst'.trans hinst, hquota'.trans hquota, hpolicy'.trans hpolicy⟩

end LatencyDesk.TurnRelay
