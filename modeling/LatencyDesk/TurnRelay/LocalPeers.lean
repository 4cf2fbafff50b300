import LatencyDesk.TurnRelay.Replay

/-!
# Peers on the local host

A relay whose policy does not allow loopback peers refuses `127.0.0.0/8` and
`::1`.  The checks test an IPv6 address as the IPv6 address that it is, so the
IPv4-mapped form of a loopback address, `::ffff:127.0.0.1`, passes all three of
them (`mapped_loopback_is_let_through`).  The same holds of the mapped forms of
the unspecified, the multicast and the broadcast addresses, which the checks
refuse as IPv4 addresses.

Where no request names such an address, no permission is made for one and no
datagram is let through to one (`no_local_peer`).
-/

namespace LatencyDesk.TurnRelay

open Lib Protocol RelayState List

/-- An IPv6 address that maps an IPv4 address which is no peer. -/
def IpAddr.MapsToLocal (ip : IpAddr) : Prop :=
  ∃ mapped ∈ ip.toIpv4Mapped, mapped.isLoopback ∨ mapped.isUnspecified ∨ mapped.isMulticast ∨
    mapped.isBroadcast

/-- The address is on the local host, or it maps one that is no peer. -/
def IpAddr.ReachesLocal (ip : IpAddr) : Prop := ip.isLoopback ∨ ip.MapsToLocal

instance (ip : IpAddr) : Decidable ip.MapsToLocal :=
  inferInstanceAs (Decidable (∃ mapped ∈ ip.toIpv4Mapped, _))

instance (ip : IpAddr) : Decidable ip.ReachesLocal :=
  inferInstanceAs (Decidable (ip.isLoopback ∨ ip.MapsToLocal))

/-- The call asks for a permission for a mapped address which is no peer. -/
def NamesMapped : RelayCall → Prop
  | .createPermissions request => ∃ peer ∈ request.message.peers, peer.ip.MapsToLocal
  | .bindChannel request => ∃ peer ∈ request.message.peers, peer.ip.MapsToLocal
  | _ => False

instance : (call : RelayCall) → Decidable (NamesMapped call)
  | .createPermissions request =>
    inferInstanceAs (Decidable (∃ peer ∈ request.message.peers, peer.ip.MapsToLocal))
  | .bindChannel request =>
    inferInstanceAs (Decidable (∃ peer ∈ request.message.peers, peer.ip.MapsToLocal))
  | .create .. | .authenticateRequest .. | .staleNonceChallenge .. | .rotateNonce .. | .refresh ..
  | .authorizeSend .. | .authorizeChannelData .. | .routePeerDatagram .. | .cleanup
  | .allocationInfo .. | .counters .. => .isFalse id

/-- No permission is for the local host. -/
def NoLocalPermission (s : RelayState) : Prop :=
  ∀ key allocation, s.allocations.lookup key = some allocation →
    ∀ ip permission, allocation.permissions.lookup ip = some permission → ¬ip.ReachesLocal

section

variable {s t : RelayState} {now : UInt64} {call : RelayCall}
  {res : Except StateError Reply} {policy : PeerPolicy} {relayedAddress peer : SocketAddr}
  {msg : Message}

theorem lastAttribute_mem {α : Type} {pick : Attribute → Option α} {a : α}
    (h : lastAttribute msg pick = some a) :
    ∃ item ∈ msg.attributes, pick item = some a := by
  have hfold : ∀ (items : List Attribute) (found : Option α),
      items.foldl (fun found item => (pick item).or found) found = some a →
      found = some a ∨ ∃ item ∈ items, pick item = some a := by
    intro items
    induction items with
    | nil => exact fun found h => .inl h
    | cons first items ih =>
      intro found h
      rcases ih _ h with hfirst | ⟨item, hitem, hpick⟩
      · rcases Option.or_eq_some_iff.1 hfirst with hpick | ⟨_, hfnd⟩
        · exact .inr ⟨first, mem_cons_self, hpick⟩
        · exact .inl hfnd
      · exact .inr ⟨item, mem_cons_of_mem _ hitem, hpick⟩
  rcases hfold msg.attributes none h with hnone | hitem
  · cases hnone
  · exact hitem

/-- The peer of a binding is one of the addresses of its request. -/
theorem peer_of_requestChannel {channel : UInt16} (h : requestChannel msg = .ok (channel, peer)) :
    peer ∈ msg.peers := by
  unfold requestChannel at h
  split at h
  · cases h
  dsimp only at h
  split at h
  · next hpeer =>
    cases h
    obtain ⟨item, hitem, hpick⟩ := lastAttribute_mem hpeer
    exact mem_filterMap.2 ⟨item, hitem, hpick⟩
  · cases h

theorem not_loopback_of_validatePermissionIp {ip : IpAddr} (hlab : policy.allowLoopbackLab = false)
    (h : validatePermissionIp policy relayedAddress ip = .ok ()) : ip.isLoopback = false := by
  unfold validatePermissionIp at h
  split_ifs at h with hbad
  simp only [hlab, Bool.or_eq_true, not_or] at hbad
  simpa using hbad.2

theorem not_loopback_of_validatePeer (hlab : policy.allowLoopbackLab = false)
    (h : validatePeer policy relayedAddress peer = .ok ()) : peer.ip.isLoopback = false := by
  unfold validatePeer at h
  split_ifs at h with hbad
  simp only [hlab, Bool.or_eq_true, not_or] at hbad
  simpa using hbad.1.2

theorem NoLocalPermission.effect (h : NoLocalPermission s)
    (hlab : s.policy.allowLoopbackLab = false) (hcall : ¬NamesMapped call)
    (heff : Effect s now call res t) : NoLocalPermission t := by
  intro key after hlook ip perm hperm
  rcases heff.origin hlook with ⟨_, _, _, hafter, _⟩ | ⟨alloc, hfnd, hchange⟩
  · rw [hafter] at hperm
    cases hperm
  have hbef := h key alloc hfnd ip
  have hpruned : ∀ perm,
      (alloc.pruneChildren now).permissions.lookup ip = some perm →
      ¬ip.ReachesLocal := by
    intro perm hperm
    rw [Allocation.lookup_permissions_prune, Option.filter_eq_some_iff] at hperm
    exact hbef perm hperm.1
  rcases hchange with rfl | ⟨_, rfl | ⟨_, htouch⟩⟩
  · exact hbef perm hperm
  · exact hpruned perm hperm
  cases htouch with
  | rotated | refreshed | accounted => exact hpruned perm hperm
  | permitted _ _ hval =>
    rw [AList.lookup_insertAll] at hperm
    split_ifs at hperm with hip
    · obtain ⟨peer, hpeer, rfl⟩ := mem_map.1 (mem_dedup.1 hip)
      intro hlocal
      rcases hlocal with hloopback | hmapped
      · rw [not_loopback_of_validatePermissionIp hlab (hval peer hpeer)] at hloopback
        cases hloopback
      · exact hcall ⟨peer, hpeer, hmapped⟩
    · exact hpruned perm hperm
  | bound _ hchan hval =>
    rw [AList.lookup_insert_eq] at hperm
    split_ifs at hperm with hip
    · intro hlocal
      rw [hip] at hlocal
      rcases hlocal with hloopback | hmapped
      · rw [not_loopback_of_validatePeer hlab hval] at hloopback
        cases hloopback
      · exact hcall ⟨_, peer_of_requestChannel hchan, hmapped⟩
    · exact hpruned perm hperm

end

/-- A relay without the lab option, when no request names a mapped address which is no peer. -/
theorem no_local_peer (hmac : List UInt8 → List UInt8 → Bytes 32) {quota : Quota}
    {policy : PeerPolicy} {counter counter' : UInt64} {s : RelayState}
    (hnew : new quota policy counter = (.ok s, counter'))
    (hlab : policy.allowLoopbackLab = false) {calls : List (UInt64 × RelayCall)}
    (hcalls : ∀ timed ∈ calls, ¬NamesMapped timed.2) :
    NoLocalPermission ((relayMachine hmac).run s calls) ∧
      ∀ step ∈ (relayMachine hmac).trace s calls, ∀ key peer,
        LetsThrough key peer step.event → ¬peer.ip.ReachesLocal := by
  obtain ⟨_, hempty, _, _, hpolicy, _⟩ := new_ok hnew
  have hrun : ∀ calls, (∀ timed ∈ calls, ¬NamesMapped timed.2) →
      NoLocalPermission ((relayMachine hmac).run s calls) := by
    intro calls hcalls
    have hkeeps := (relayMachine hmac).trace_induction_of
      (P := fun _ s => s.policy.allowLoopbackLab = false ∧ NoLocalPermission s) (s := s) ?_ ?_
      hcalls
    · exact hkeeps.2
    · refine ⟨by rw [hpolicy, hlab], fun key alloc hlook => ?_⟩
      rw [hempty] at hlook
      cases hlook
    · intro _ s timed hcall ⟨hlab, hlocal⟩
      have heff := perform_effect hmac s timed.1 timed.2
      refine ⟨?_, hlocal.effect hlab hcall heff⟩
      rw [← hlab]
      exact congrArg PeerPolicy.allowLoopbackLab heff.constants.2.2
  refine ⟨hrun calls hcalls, fun step hstep key peer hthrough => ?_⟩
  -- What was let through had a permission in the state before the call.
  obtain ⟨before, timed, _, rfl, rfl⟩ := (relayMachine hmac).mem_trace hstep
  obtain ⟨_, _, haccount⟩ := account_of_letsThrough hthrough
  obtain ⟨alloc, perm, _, _, hlook, _, hperm, _⟩ :=
    requirePermissionAndAccount_ok haccount
  rw [Allocation.lookup_permissions_prune, Option.filter_eq_some_iff] at hperm
  exact hrun before (fun timed htimed => hcalls timed (mem_append_left _ htimed))
    key alloc hlook peer.ip perm hperm.1

/-! ## Samples -/

/-- `2001:db8::` with the last octet. -/
def documentationV6 (last : UInt8) : Bytes 16 :=
  ⟨[0x20, 0x01, 0x0d, 0xb8] ++ List.replicate 11 0 ++ [last], rfl⟩

def sampleTupleV6 : UdpTuple :=
  { client := .v6 (documentationV6 1) 5000 0 0, server := .v6 (documentationV6 2) 3478 0 0 }

def sampleRelayV6 : SocketAddr := .v6 (documentationV6 2) 55000 0 0

/-- `[::ffff:127.0.0.1]:50000`. -/
def mappedLoopback : SocketAddr :=
  .v6 ⟨List.replicate 10 0 ++ [255, 255, 127, 0, 0, 1], rfl⟩ 50000 0 0

def samplePermissionV6 (peer : SocketAddr) : List UInt8 :=
  sampleEncoded .createPermission [.xorPeerAddress peer] [99]

/-- One datagram to the peer, after the request for a permission. -/
def sampleCallsV6 (peer : SocketAddr) : List (UInt64 × RelayCall) :=
  [(10, .create sampleTupleV6 sampleCredentials sampleRelayV6 none),
    (20, .authenticateRequest sampleTupleV6 (samplePermissionV6 peer)),
    (30, .createPermissions (sampleRequest sampleTupleV6 (samplePermissionV6 peer))),
    (40, .authorizeSend sampleTupleV6 peer 100)]

/-- The run of a relay with the default quota and the default policy. -/
def sampleTraceV6 (peer : SocketAddr) : List RelayEvent :=
  match RelayState.new default {} 1 with
  | (.ok s, _) => ((relayMachine sampleHmac).trace s (sampleCallsV6 peer)).map (·.event)
  | (.error _, _) => []

theorem mapped_loopback_is_let_through :
    ({} : PeerPolicy).allowLoopbackLab = false ∧ mappedLoopback.ip.ReachesLocal ∧
      sampleTraceV6 mappedLoopback =
        [⟨10, .create sampleTupleV6 sampleCredentials sampleRelayV6 none,
            .ok (.allocation ⟨sampleRelayV6, 610⟩)⟩,
          ⟨20, .authenticateRequest sampleTupleV6 (samplePermissionV6 mappedLoopback),
            .ok (.authenticated (sampleRequest sampleTupleV6 (samplePermissionV6 mappedLoopback)))⟩,
          ⟨30, .createPermissions
              (sampleRequest sampleTupleV6 (samplePermissionV6 mappedLoopback)), .ok .done⟩,
          ⟨40, .authorizeSend sampleTupleV6 mappedLoopback 100, .ok .done⟩] := by
  decide +kernel

/-- A peer that is not on the local host. -/
def samplePeerV6 : SocketAddr := .v6 (documentationV6 7) 50000 0 0

/-- The same run for this peer: the datagram is let through, and nothing reaches the local host. -/
theorem sample_no_local_peer : ∃ s counter',
    new default {} 1 = (.ok s, counter') ∧
      (∀ timed ∈ sampleCallsV6 samplePeerV6, ¬NamesMapped timed.2) ∧
      (sampleTraceV6 samplePeerV6).drop 3 =
        [⟨40, .authorizeSend sampleTupleV6 samplePeerV6 100, .ok .done⟩] ∧
      NoLocalPermission ((relayMachine sampleHmac).run s (sampleCallsV6 samplePeerV6)) := by
  exact ⟨_, _, rfl, by decide +kernel, by decide +kernel, (no_local_peer sampleHmac
    (show new default {} 1 = _ from rfl) rfl (by decide +kernel)).1⟩

end LatencyDesk.TurnRelay
