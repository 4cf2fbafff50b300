import Mathlib.Data.List.Dedup
import LatencyDesk.TurnRelay.Integrity
import LatencyDesk.TurnRelay.World

/-!
# No relaying without a permission

A datagram is let through only while the allocation has a permission for the
address of the peer.  `Traced` says where the entries of an allocation come from:
every permission from a successful CreatePermission or ChannelBind of the same
incarnation, 300 seconds before the permission ends, and every binding from a
ChannelBind, 600 seconds before the binding ends.  The request of that call was
one of the allocation as it stood, so it was authentic for it (`Issued`).

`relaying_needs_permission` is the result for a program with any number of
relays.
-/

namespace LatencyDesk.TurnRelay

open Lib Protocol RelayState List Option Fallible AList Allocation Machine

/-- The call let a datagram of the allocation to or from the peer through. -/
def LetsThrough (key : UdpTuple) (peer : SocketAddr) (event : RelayEvent) : Prop :=
  match event.call, event.result with
  | .authorizeSend key' peer' _, .ok _ => key' = key ∧ peer' = peer
  | .routePeerDatagram key' peer' _, .ok _ => key' = key ∧ peer' = peer
  | .authorizeChannelData key' _ _, .ok (.peer peer') => key' = key ∧ peer' = peer
  | _, _ => False

instance (key : UdpTuple) (peer : SocketAddr) (event : RelayEvent) :
    Decidable (LetsThrough key peer event) := by
  unfold LetsThrough
  split <;> infer_instance

/-- The step was a successful call with a request that was authentic for the allocation, which
had the incarnation. -/
def UsesAuthentic (hmac : List UInt8 → List UInt8 → Bytes 32)
    (step : Step RelayState RelayEvent) (key : UdpTuple) (incarnation : UInt64)
    (request : AuthenticatedRequest) : Prop :=
  request.tuple = key ∧ (∃ reply, step.event.result = .ok reply) ∧
    ∃ allocation, HasIncarnation step.pre key incarnation allocation ∧
      Authentic hmac allocation request

/-- The step made a permission for the address. -/
def Permits (hmac : List UInt8 → List UInt8 → Bytes 32) (step : Step RelayState RelayEvent)
    (key : UdpTuple) (incarnation : UInt64) (ip : IpAddr) : Prop :=
  ∃ request, UsesAuthentic hmac step key incarnation request ∧
    ((step.event.call = .createPermissions request ∧
        ∃ peer ∈ request.message.peers, peer.ip = ip) ∨
      (step.event.call = .bindChannel request ∧
        ∃ channel peer, requestChannel request.message = .ok (channel, peer) ∧ peer.ip = ip))

/-- The step bound the channel to the peer. -/
def Binds (hmac : List UInt8 → List UInt8 → Bytes 32) (step : Step RelayState RelayEvent)
    (key : UdpTuple) (incarnation : UInt64) (channel : UInt16) (peer : SocketAddr) : Prop :=
  ∃ request, UsesAuthentic hmac step key incarnation request ∧
    step.event.call = .bindChannel request ∧
    requestChannel request.message = .ok (channel, peer)

/-- Every entry of an allocation was made by a step of the history. -/
structure Traced (hmac : List UInt8 → List UInt8 → Bytes 32) (h : RelayTrace) (key : UdpTuple)
    (allocation : Allocation) : Prop where
  permissions : ∀ ip permission, allocation.permissions.lookup ip = some permission →
    ∃ step ∈ h, Permits hmac step key allocation.incarnation ip ∧
      permission.expiresAt.toNat = step.event.now.toNat + 300
  channels : ∀ channel binding, allocation.channels.lookup channel = some binding →
    ∃ step ∈ h, Binds hmac step key allocation.incarnation channel binding.peer ∧
      binding.expiresAt.toNat = step.event.now.toNat + 600

section

variable {hmac : List UInt8 → List UInt8 → Bytes 32} {h : RelayTrace} {key : UdpTuple}
  {allocation : Allocation} {now : UInt64} (htraced : Traced hmac h key allocation)

include htraced in
theorem Traced.snoc (step : Step RelayState RelayEvent) :
    Traced hmac (h ++ [step]) key allocation := by
  refine ⟨fun ip perm hlook => ?_, fun channel binding hlook => ?_⟩
  · obtain ⟨made, hmade, hpermits⟩ := htraced.permissions ip perm hlook
    exact ⟨made, mem_append_left _ hmade, hpermits⟩
  · obtain ⟨made, hmade, hbinds⟩ := htraced.channels channel binding hlook
    exact ⟨made, mem_append_left _ hmade, hbinds⟩

include htraced in
theorem Traced.prune (now : UInt64) :
    Traced hmac h key (allocation.pruneChildren now) := by
  refine ⟨fun ip perm hlook => ?_, fun channel binding hlook => ?_⟩
  · rw [lookup_permissions_prune, filter_eq_some_iff] at hlook
    exact htraced.permissions ip perm hlook.1
  · rw [lookup_channels_prune, filter_eq_some_iff] at hlook
    exact htraced.channels channel binding hlook.1

include htraced in
/-- A change of the allocation makes entries only with a request that is authentic for it. -/
theorem Traced.touch {step : Step RelayState RelayEvent} {written : Allocation}
    (hfnd : step.pre.allocations.lookup key = some allocation)
    (hauthentic : ∀ req, step.event.call.request = some req →
      Authorizes step.pre req step.event.now allocation → Authentic hmac allocation req)
    (hok : ∃ reply, step.event.result = .ok reply)
    (htouch : Touch step.pre step.event.now step.event.call key allocation written) :
    Traced hmac (h ++ [step]) key written := by
  have hpruned := (htraced.prune step.event.now).snoc step
  have hlast : step ∈ h ++ [step] := mem_append_right h (mem_singleton_self step)
  have hhas : HasIncarnation step.pre key allocation.incarnation allocation := ⟨hfnd, rfl⟩
  generalize hcall : step.event.call = call at htouch hauthentic
  cases htouch with
  | rotated | refreshed | accounted => exact ⟨hpruned.permissions, hpruned.channels⟩
  | @permitted req _ expiresAt halloc _ _ hexp =>
    have huses := hauthentic req rfl halloc
    refine ⟨fun ip perm hlook => ?_, hpruned.channels⟩
    rw [lookup_insertAll] at hlook
    split_ifs at hlook with hip
    · cases hlook
      obtain ⟨peer, hpeer, rfl⟩ := mem_map.1 (mem_dedup.1 hip)
      exact ⟨step, hlast, ⟨req, ⟨rfl, hok, allocation, hhas, huses⟩,
        .inl ⟨hcall, peer, hpeer, rfl⟩⟩, hexp⟩
    · exact hpruned.permissions ip perm hlook
  | @bound req _ channel peer _ _ _ halloc hchan _ _ hperm hexp =>
    have huses := hauthentic req rfl halloc
    refine ⟨fun ip perm hlook => ?_, fun other binding hlook => ?_⟩
    · rw [lookup_insert_eq] at hlook
      split_ifs at hlook with hip
      · cases hlook
        exact ⟨step, hlast, ⟨req, ⟨rfl, hok, allocation, hhas, huses⟩,
          .inr ⟨hcall, channel, peer, hchan, hip.symm⟩⟩, hperm⟩
      · exact hpruned.permissions ip perm hlook
    · rw [lookup_insert_eq] at hlook
      split_ifs at hlook with hoth
      · cases hlook
        subst hoth
        exact ⟨step, hlast, ⟨req, ⟨rfl, hok, allocation, hhas, huses⟩, hcall, hchan⟩, hexp⟩
      · exact hpruned.channels other binding hlook

theorem traced_fresh
    (creds : AllocationCredentials) (relayedAddress : SocketAddr)
    {incarnation expiresAt : UInt64} :
    Traced hmac h key (freshAllocation creds relayedAddress incarnation expiresAt) where
  permissions := nofun
  channels := nofun

end

variable {hmac : List UInt8 → List UInt8 → Bytes 32}

/-- In the history of a relay every entry is traced. -/
theorem traced_of_run {first : RelayState}
    (hfirst : first.allocations = ∅) {calls : List (UInt64 × RelayCall)}
    (hsealed : Sealed ((relayMachine hmac).trace first calls)) (key : UdpTuple)
    (allocation : Allocation)
    (hlook : ((relayMachine hmac).run first calls).allocations.lookup key = some allocation) :
    Traced hmac ((relayMachine hmac).trace first calls) key allocation := by
  induction calls using reverseRecOn generalizing key allocation with
  | nil =>
    rw [run_nil, hfirst] at hlook
    cases hlook
  | append_singleton calls timed ih =>
    rw [trace_snoc] at hsealed ⊢
    rw [run_snoc] at hlook
    obtain ⟨hbef, hlink⟩ := throughout_snoc.1 hsealed
    generalize hs : (relayMachine hmac).run first calls = s at hlook hlink
    have heff := perform_effect hmac s timed.1 timed.2
    rcases heff.origin hlook with ⟨_, _, _, hafter, _⟩ | ⟨before, hfnd, hchange⟩
    · rw [hafter]
      exact traced_fresh _ _
    have htraced := ih hbef key before (by rw [hs]; exact hfnd)
    rcases hchange with rfl | ⟨_, rfl | ⟨hok, htouch⟩⟩
    · exact htraced.snoc _
    · exact (htraced.prune _).snoc _
    -- The request of the call was given out before, and it is one of the allocation.
    refine htraced.touch hfnd ?_ hok htouch
    intro req hreq hauth
    obtain ⟨issue, hissue, hissues⟩ := hlink req hreq hauth.same_instance
    have hiss := (issued_of_run hfirst).2 issue hissue req hissues
    rw [hs] at hiss
    exact hiss.authentic before ⟨hauth.found, hauth.incarnation⟩ hauth.generation

/-- A datagram that was let through was taken into account. -/
theorem account_of_letsThrough {s : RelayState}
    {timed : UInt64 × RelayCall} {key : UdpTuple} {peer : SocketAddr}
    (h : LetsThrough key peer ((relayMachine hmac).stepAt s timed).event) :
    ∃ payloadBytes t,
      requirePermissionAndAccount key peer payloadBytes timed.1 s = (.ok (), t) := by
  obtain ⟨_, _⟩ := timed
  unfold LetsThrough at h
  split at h
  · next key' peer' payloadBytes _ hcall hres =>
    obtain ⟨rfl, rfl⟩ := h
    subst hcall
    obtain ⟨_, hsend, _⟩ := map_ok.1 (Prod.ext hres rfl)
    exact ⟨payloadBytes, _, (authorizeSend_ok hsend).2⟩
  · next key' peer' payloadBytes _ hcall hres =>
    obtain ⟨rfl, rfl⟩ := h
    subst hcall
    obtain ⟨_, hrt, _⟩ := map_ok.1 (Prod.ext hres rfl)
    exact ⟨payloadBytes, _, (routePeerDatagram_ok hrt).2⟩
  · next key' channel payloadBytes peer' hcall hres =>
    obtain ⟨rfl, rfl⟩ := h
    subst hcall
    obtain ⟨_, hsend, hpeer⟩ := map_ok.1 (Prod.ext hres rfl)
    cases hpeer
    exact ⟨payloadBytes, _, (authorizeChannelData_ok hsend).2⟩
  · exact h.elim

/-- Whatever a program does with its relays, at times that never go back for the one in question:
a datagram is let through only while a permission lasts that an authentic request made for the
same incarnation of the allocation, and channel data only while a binding lasts. -/
theorem relaying_needs_permission (hmac : List UInt8 → List UInt8 → Bytes 32)
    (calls : List WorldCall) (index : Nat) {earlier later : RelayTrace}
    {step : Step RelayState RelayEvent}
    (htrace : relayTrace index ((worldMachine hmac).trace .start calls) = earlier ++ step :: later)
    (horder : InOrder (relayTrace index ((worldMachine hmac).trace .start calls)))
    {key : UdpTuple} {peer : SocketAddr} (hthrough : LetsThrough key peer step.event) :
    ∃ allocation, step.pre.allocations.lookup key = some allocation ∧
      (∃ made ∈ earlier, Permits hmac made key allocation.incarnation peer.ip ∧
        made.event.now ≤ step.event.now ∧
        step.event.now.toNat < made.event.now.toNat + 300) ∧
      ∀ channel payloadBytes, step.event.call = .authorizeChannelData key channel payloadBytes →
        ∃ made ∈ earlier, Binds hmac made key allocation.incarnation channel peer ∧
          made.event.now ≤ step.event.now ∧
          step.event.now.toNat < made.event.now.toNat + 600 := by
  obtain ⟨_, _, _, _, first, before, timed, _, hnew, hearlier, hsealed, rfl, _⟩ :=
    relay_of_world htrace
  rw [htrace] at horder
  have hpast : ∀ made ∈ earlier, made.event.now ≤ timed.1 := by
    intro made hmade
    exact (pairwise_append.1 horder).2.2 made hmade _ mem_cons_self
  obtain ⟨_, _, haccount⟩ := account_of_letsThrough hthrough
  obtain ⟨allocation, perm, _, _, hlook, hlive, hperm, _⟩ :=
    requirePermissionAndAccount_ok haccount
  subst hearlier
  have htraced := traced_of_run (new_ok hnew).2.1 hsealed key allocation hlook
  refine ⟨allocation, hlook, ?_, ?_⟩
  · rw [lookup_permissions_prune, filter_eq_some_iff] at hperm
    obtain ⟨made, hmade, hpermits, hexp⟩ :=
      htraced.permissions peer.ip perm hperm.1
    have hlasts : timed.1.toNat < perm.expiresAt.toNat := of_decide_eq_true hperm.2
    refine ⟨made, hmade, hpermits, hpast made hmade, ?_⟩
    show timed.1.toNat < _
    omega
  · intro channel payloadBytes hcall
    obtain ⟨now, _⟩ := timed
    subst hcall
    -- The call returned the peer that the channel is bound to.
    have hres : ((relayMachine hmac).stepAt ((relayMachine hmac).run first before)
        (now, .authorizeChannelData key channel payloadBytes)).event.result = .ok (.peer peer) := by
      unfold LetsThrough at hthrough
      split at hthrough
      iterate 2 next hcall _ => cases hcall
      · next hcall hres =>
        rw [hres, hthrough.2]
      · exact hthrough.elim
    obtain ⟨_, hsend, hpeer⟩ := map_ok.1 (Prod.ext hres rfl)
    cases hpeer
    obtain ⟨⟨_, binding, hfnd, hbind, rfl⟩, _⟩ := authorizeChannelData_ok hsend
    rw [hlook] at hfnd
    cases hfnd
    rw [lookup_channels_prune, filter_eq_some_iff] at hbind
    obtain ⟨made, hmade, hbinds, hexp⟩ := htraced.channels channel binding hbind.1
    have hlasts : now.toNat < binding.expiresAt.toNat := by
      have hnot : ¬binding.expiresAt ≤ now := by simpa using hbind.2
      exact UInt64.not_le.1 hnot
    refine ⟨made, hmade, hbinds, hpast made hmade, ?_⟩
    show now.toNat < _
    omega

/-! A relay with one allocation, for a user whose key is a single byte. -/

def sampleTuple : UdpTuple :=
  { client := .v4 ⟨[192, 0, 2, 1], rfl⟩ 5000, server := .v4 ⟨[192, 0, 2, 2], rfl⟩ 3478 }

def sampleRelay : SocketAddr := .v4 ⟨[192, 0, 2, 2], rfl⟩ 55000

def samplePeer : SocketAddr := .v4 ⟨[198, 51, 100, 7], rfl⟩ 50000

def sampleKey : Bytes 32 := .replicate 32 5

def sampleCredentials : AllocationCredentials where
  username := [97]
  realm := [98]
  nonce := [99]
  authIdentity := [1]
  integrityKey := sampleKey
  parts_valid := by decide
  identity_valid := by decide

/-- A request of the user. -/
def sampleEncoded (method : Method) (attributes : List Attribute) (nonce : List UInt8) :
    List UInt8 :=
  match encodeWithIntegrity sampleHmac
    { header := { kind := .request, method := method, transactionId := .replicate 12 7 }
      attributes := attributes ++ [.username [97], .realm [98], .nonce nonce] }
    sampleKey.toList with
  | .ok encoded => encoded
  | .error _ => []

/-- The request that the first incarnation of the allocation on the first relay gives out. -/
def sampleRequest (tuple : UdpTuple) (encodedRequest : List UInt8) : AuthenticatedRequest :=
  { stateInstance := 1, tuple := tuple, allocationIncarnation := 1, credentialGeneration := 1
    verified := match verifyIntegrity sampleHmac encodedRequest sampleKey.toList with
      | .ok verified => verified
      | .error _ =>
        ⟨{ header := { kind := .error, method := .data, transactionId := .replicate 12 0 }
           attributes := [] }⟩ }

def samplePermission : List UInt8 :=
  sampleEncoded .createPermission [.xorPeerAddress samplePeer] [99]

def sampleCalls : List WorldCall :=
  [.new default {}, .on 0 10 (.create sampleTuple sampleCredentials sampleRelay none),
    .on 0 20 (.authenticateRequest sampleTuple samplePermission),
    .on 0 30 (.createPermissions (sampleRequest sampleTuple samplePermission)),
    .on 0 329 (.authorizeSend sampleTuple samplePeer 100)]

/-- The last second of a permission. -/
theorem sample_needs_permission : ∃ earlier step,
    relayTrace 0 ((worldMachine sampleHmac).trace .start sampleCalls) = earlier ++ [step] ∧
      LetsThrough sampleTuple samplePeer step.event ∧
      ∃ allocation, step.pre.allocations.lookup sampleTuple = some allocation ∧
        ∃ made ∈ earlier,
          Permits sampleHmac made sampleTuple allocation.incarnation samplePeer.ip := by
  have hne : relayTrace 0 ((worldMachine sampleHmac).trace .start sampleCalls) ≠ [] := by
    decide +kernel
  have horder : InOrder (relayTrace 0 ((worldMachine sampleHmac).trace .start sampleCalls)) := by
    decide +kernel
  have hlast : ∀ hne, LetsThrough sampleTuple samplePeer ((relayTrace 0
      ((worldMachine sampleHmac).trace .start sampleCalls)).getLast hne).event := by
    decide +kernel
  have htrace := (dropLast_append_getLast hne).symm
  obtain ⟨allocation, hlook, ⟨made, hmade, hpermits, _⟩, _⟩ :=
    relaying_needs_permission sampleHmac sampleCalls 0 htrace horder (hlast hne)
  exact ⟨_, _, htrace, hlast hne, allocation, hlook, made, hmade, hpermits⟩

/-! ## Calls that fail -/

/-- The second table is the first one without some of what is over. -/
def UpToExpiry (now : UInt64) (s t : RelayState) : Prop :=
  ∀ key, t.allocations.lookup key = s.allocations.lookup key ∨
    ∃ allocation, s.allocations.lookup key = some allocation ∧
      (t.allocations.lookup key = some (allocation.pruneChildren now) ∨
        allocation.expiresAt ≤ now ∧ t.allocations.lookup key = none)

theorem upToExpiry_of_error {s t : RelayState} {now : UInt64} {call : RelayCall} {e : StateError}
    (heff : Effect s now call (.error e) t) : UpToExpiry now s t := by
  intro key
  cases heff with
  | looked hlooks =>
    rcases hlooks with rfl | ⟨alloc, hfnd, _, rfl⟩
    · exact .inl rfl
    rw [lookup_put hfnd]
    split_ifs with heq
    · exact .inr ⟨alloc, heq ▸ hfnd, .inl rfl⟩
    · exact .inl rfl
  | swept hsweeps =>
    rcases hsweeps with rfl | rfl
    · exact .inl rfl
    rw [lookup_cleanedAt]
    cases hfnd : s.allocations.lookup key with
    | none => exact .inl rfl
    | some alloc =>
      by_cases hlive : now < alloc.expiresAt
      · exact .inl (filter_eq_some_iff.2 ⟨rfl, decide_eq_true hlive⟩)
      · exact .inr ⟨alloc, rfl, .inr ⟨UInt64.not_lt.1 hlive,
          filter_eq_none_iff.2 fun _ hmem => by cases hmem; simpa using hlive⟩⟩

/-- A call that fails changes no more than a look at the table does, and counts nothing.
A request for permissions that succeeds installs one for every peer. -/
theorem failed_calls_are_atomic (hmac : List UInt8 → List UInt8 → Bytes 32) (now : UInt64)
    (s t : RelayState) :
    (∀ (call : RelayCall) error, call.perform hmac now s = (.error error, t) →
      UpToExpiry now s t ∧
      ∀ key before after, s.allocations.lookup key = some before →
        t.allocations.lookup key = some after →
        after.counters = before.counters ∧
        ∀ ip permission, after.permissions.lookup ip = some permission →
          before.permissions.lookup ip = some permission) ∧
    ∀ request, createPermissions request now s = (.ok (), t) →
      ∃ after, t.allocations.lookup request.tuple = some after ∧
        ∀ peer ∈ request.message.peers, ∃ permission,
          after.permissions.lookup peer.ip = some permission ∧
          permission.expiresAt.toNat = now.toNat + 300 := by
  constructor
  · intro call e h
    have heff := perform_effect hmac s now call
    rw [h] at heff
    have hupto := upToExpiry_of_error heff
    refine ⟨hupto, fun key before after hbefore hafter => ?_⟩
    rcases hupto key with hsame | ⟨_, hfnd, hpruned | ⟨_, hgone⟩⟩
    · cases hafter.symm.trans (hsame.trans hbefore)
      exact ⟨rfl, fun _ _ => id⟩
    · cases hfnd.symm.trans hbefore
      cases hafter.symm.trans hpruned
      refine ⟨rfl, fun _ _ hperm => ?_⟩
      rw [lookup_permissions_prune, filter_eq_some_iff] at hperm
      exact hperm.1
    · cases hafter.symm.trans hgone
  · intro request h
    obtain ⟨_, _, _, hauth, _, hexp, _, rfl⟩ := createPermissions_ok h
    refine ⟨_, (lookup_put hauth.found _).trans (if_pos rfl), fun peer hpeer => ?_⟩
    have hmem : peer.ip ∈ uniqueIps request.message :=
      mem_dedup.2 (mem_map_of_mem hpeer)
    exact ⟨_, (lookup_insertAll).trans (if_pos hmem), hexp⟩

/-- A relay with one permission. -/
def samplePermitted : RelayState where
  stateInstance := 1
  allocations := AList.insert sampleTuple
    { freshAllocation sampleCredentials sampleRelay 1 610 with
      permissions := AList.insert samplePeer.ip ⟨330⟩ ∅ } ∅
  nextIncarnation := 1
  quota := default
  policy := {}
  quota_valid := by decide

/-- After its last second the permission lets no datagram through. -/
theorem sample_expired_permission : ∃ t,
    (RelayCall.authorizeSend sampleTuple samplePeer 100).perform sampleHmac 330 samplePermitted =
        (.error .notPermitted, t) ∧
      UpToExpiry 330 samplePermitted t := by
  have h : ∃ t, (RelayCall.authorizeSend sampleTuple samplePeer 100).perform sampleHmac 330
      samplePermitted = (.error .notPermitted, t) := ⟨_, Prod.ext (by decide +kernel) rfl⟩
  obtain ⟨t, h⟩ := h
  exact ⟨t, h, ((failed_calls_are_atomic sampleHmac 330 _ t).1 _ _ h).1⟩

end LatencyDesk.TurnRelay
