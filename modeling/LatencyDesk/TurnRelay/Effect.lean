import LatencyDesk.TurnRelay.State

/-!
# What the success of a method means

One lemma for each method of the relay (`create_ok`, `bindChannel_ok` and the
like) says what holds when it succeeds, and which state it leaves.  Both are in
terms of the allocation as it was before the call.

The methods look at an allocation more than once.  Pruning twice at one time is
pruning once (`pruneChildren_pruneChildren`), so the second look sees what the
first one left, and the lemmas have one look each.
-/

namespace LatencyDesk.TurnRelay

open Lib Protocol List Fallible AList Allocation RelayState

/-! ## Pruning -/

namespace Allocation

variable (allocation : Allocation) (now : UInt64)

theorem map_overdue : (allocation.overdue now).map (·.channel) =
    allocation.channels.keysWhere fun _ binding => binding.expiresAt ≤ now := by
  rw [overdue, map_filterMap]
  congr 1
  funext entry
  split <;> simp_all

variable {expired : ExpiredBinding}

theorem mem_overdue : expired ∈ allocation.overdue now ↔
    ∃ binding, allocation.channels.lookup expired.channel = some binding ∧
      binding.expiresAt ≤ now ∧ expired.peer = binding.peer ∧
      expired.quarantineUntil = binding.quarantineUntil := by
  rw [overdue, mem_filterMap]
  constructor
  · intro ⟨entry, hent, hsome⟩
    split_ifs at hsome with hover
    cases hsome
    exact ⟨entry.2, mem_entries.1 hent, hover, rfl, rfl⟩
  · intro ⟨binding, hlook, hover, hpeer, huntil⟩
    refine ⟨⟨expired.channel, binding⟩, mem_entries.2 hlook, ?_⟩
    rw [if_pos hover, ← hpeer, ← huntil]

theorem lookup_permissions_prune (ip : IpAddr) :
    (allocation.pruneChildren now).permissions.lookup ip =
      (allocation.permissions.lookup ip).filter fun perm => now < perm.expiresAt :=
  lookup_retain

theorem lookup_channels_prune (channel : UInt16) :
    (allocation.pruneChildren now).channels.lookup channel =
      (allocation.channels.lookup channel).filter fun binding => !(binding.expiresAt ≤ now) := by
  show (allocation.channels.eraseAll ((allocation.overdue now).map (·.channel))).lookup channel = _
  rw [map_overdue, lookup_eraseAll_keysWhere]

theorem mem_expired_prune :
    expired ∈ (allocation.pruneChildren now).expiredBindings ↔
      (expired ∈ allocation.expiredBindings ∨ expired ∈ allocation.overdue now) ∧
        now < expired.quarantineUntil := by
  show expired ∈ (allocation.expiredBindings ++ allocation.overdue now).filter _ ↔ _
  rw [mem_filter, mem_append, decide_eq_true_iff]

theorem overdue_prune : (allocation.pruneChildren now).overdue now = [] := by
  rw [eq_nil_iff_forall_not_mem]
  intro expired hexp
  obtain ⟨_, hlook, hover, _⟩ := (mem_overdue _ _).1 hexp
  rw [lookup_channels_prune] at hlook
  simp [hover] at hlook

theorem pruneChildren_pruneChildren :
    (allocation.pruneChildren now).pruneChildren now = allocation.pruneChildren now := by
  have hover := overdue_prune allocation now
  rw [pruneChildren, hover]
  congr 1
  · simp [pruneChildren, retain]
  · simp [pruneChildren]

end Allocation

/-! ## Looking at an allocation -/

namespace RelayState

/-- Nothing changed, or the live allocation at the key was pruned. -/
def Looks (key : UdpTuple) (now : UInt64) (s t : RelayState) : Prop :=
  t = s ∨ ∃ allocation, s.allocations.lookup key = some allocation ∧
    now < allocation.expiresAt ∧ t = s.put key (allocation.pruneChildren now)

variable {u : RelayState} {found again : Allocation}

section

variable {key : UdpTuple} {now : UInt64} {s t : RelayState} {allocation written : Allocation}
  (h : s.allocations.lookup key = some allocation)

include h in
theorem lookup_put (written : Allocation) {other : UdpTuple} :
    (s.put key written).allocations.lookup other =
      if other = key then some written else s.allocations.lookup other :=
  lookup_replace_eq h written other

theorem put_put {first written : Allocation} :
    (s.put key first).put key written = s.put key written := by
  unfold put
  rw [replace_replace]

theorem Looks.refl (s : RelayState) : Looks key now s s := Or.inl rfl

instance : Std.Refl (Looks key now) := ⟨Looks.refl⟩

theorem Looks.trans (hst : Looks key now s t) (htu : Looks key now t u) :
    Looks key now s u := by
  rcases hst with rfl | ⟨a, ha, hlive, rfl⟩
  · exact htu
  rcases htu with rfl | ⟨b, hb, _, rfl⟩
  · exact .inr ⟨a, ha, hlive, rfl⟩
  -- The second look finds the pruned allocation.
  rw [lookup_put ha, if_pos rfl] at hb
  cases hb
  rw [pruneChildren_pruneChildren, put_put]
  exact .inr ⟨a, ha, hlive, rfl⟩

instance : Trans (Looks key now) (Looks key now) (Looks key now) := ⟨Looks.trans⟩

theorem liveAllocationMut_ok :
    liveAllocationMut key now s = (.ok found, t) ↔
      ∃ allocation, s.allocations.lookup key = some allocation ∧ now < allocation.expiresAt ∧
        found = allocation.pruneChildren now ∧ t = s.put key found := by
  unfold liveAllocationMut
  constructor
  · intro h
    split at h
    · cases h
    next allocation hlook =>
    split_ifs at h with hexp
    · cases h
    · cases h
      exact ⟨allocation, hlook, UInt64.not_le.1 hexp, rfl, rfl⟩
  · intro ⟨allocation, hlook, hlive, hfnd, ht⟩
    rw [hlook]
    dsimp only
    rw [if_neg (UInt64.not_le.2 hlive), ht, hfnd]

include h in
theorem liveAllocationMut_put (hlive : now < written.expiresAt) :
    liveAllocationMut key now (s.put key written) =
      (.ok (written.pruneChildren now), s.put key (written.pruneChildren now)) := by
  rw [liveAllocationMut_ok]
  refine ⟨written, ?_, hlive, rfl, (put_put).symm⟩
  rw [lookup_put h, if_pos rfl]

theorem liveAllocationMut_within :
    Fallible.Within (Looks key now) (liveAllocationMut key now) := by
  intro s
  unfold liveAllocationMut
  split
  · exact Looks.refl s
  next allocation hlook =>
  split_ifs with hexp
  · exact Looks.refl s
  · exact .inr ⟨allocation, hlook, UInt64.not_le.1 hexp, rfl⟩

/-- A second look finds the same. -/
theorem liveAllocationMut_again (hfirst : liveAllocationMut key now s = (.ok found, t))
    (hsnd : liveAllocationMut key now t = (.ok again, u)) : again = found ∧ u = t := by
  obtain ⟨_, hlook, _, rfl, rfl⟩ := liveAllocationMut_ok.1 hfirst
  obtain ⟨_, hpruned, _, rfl, rfl⟩ := liveAllocationMut_ok.1 hsnd
  rw [lookup_put hlook, if_pos rfl] at hpruned
  cases hpruned
  rw [pruneChildren_pruneChildren, put_put]
  exact ⟨rfl, rfl⟩

end

section

variable {request : AuthenticatedRequest} {now : UInt64} {method : Method} {s t : RelayState}

/-- The request is one of the allocation as it stands. -/
structure Authorizes (s : RelayState) (request : AuthenticatedRequest) (now : UInt64)
    (allocation : Allocation) : Prop where
  found : s.allocations.lookup request.tuple = some allocation
  live : now < allocation.expiresAt
  same_instance : request.stateInstance = s.stateInstance
  incarnation : allocation.incarnation = request.allocationIncarnation
  generation : allocation.credentialGeneration = request.credentialGeneration

theorem authorizedAllocationMut_ok
    (h : authorizedAllocationMut request now method s = (.ok found, t)) :
    request.method = method ∧ ∃ allocation, Authorizes s request now allocation ∧
      found = allocation.pruneChildren now ∧ t = s.put request.tuple found := by
  unfold authorizedAllocationMut at h
  simp only [bind_failIf_ok, bind_get_ok] at h
  obtain ⟨hmethod, hinst, h⟩ := h
  obtain ⟨_, _, hlive, h⟩ := bind_ok.1 h
  simp only [bind_failIf_ok] at h
  obtain ⟨hinc, hgen, rfl, rfl⟩ := h
  obtain ⟨allocation, hlook, hexp, rfl, rfl⟩ := liveAllocationMut_ok.1 hlive
  exact ⟨not_not.1 hmethod, allocation, ⟨hlook, hexp, not_not.1 hinst,
    not_not.1 hinc, not_not.1 hgen⟩, rfl, rfl⟩

theorem authorizedAllocationMut_within :
    Fallible.Within (Looks request.tuple now) (authorizedAllocationMut request now method) := by
  refine .bind .failIf fun _ => ?_
  refine .bind .get fun _ => ?_
  refine .bind .failIf fun _ => ?_
  refine .bind liveAllocationMut_within fun _ => ?_
  iterate 2 refine .bind .failIf fun _ => ?_
  exact .pure

theorem authorizedAllocationMut_again
    (hfirst : authorizedAllocationMut request now method s = (.ok found, t))
    (hsnd : authorizedAllocationMut request now method t = (.ok again, u)) :
    again = found ∧ u = t := by
  obtain ⟨_, _, halloc, rfl, rfl⟩ := authorizedAllocationMut_ok hfirst
  obtain ⟨_, _, hpruned, rfl, rfl⟩ := authorizedAllocationMut_ok hsnd
  have hlook := hpruned.found
  rw [lookup_put halloc.found, if_pos rfl] at hlook
  cases hlook
  rw [pruneChildren_pruneChildren, put_put]
  exact ⟨rfl, rfl⟩

end

/-! ## Successes -/

variable {policy : PeerPolicy}

theorem new_ok {quota : Quota} {counter counter' : UInt64} {s : RelayState}
    (h : new quota policy counter = (.ok s, counter')) :
    s.stateInstance = counter ∧ s.allocations = ∅ ∧ s.nextIncarnation = 0 ∧ s.quota = quota ∧
      s.policy = policy ∧ counter'.toNat = counter.toNat + 1 := by
  unfold new at h
  simp only [bind_get_ok, bind_okOr_ok, bind_modify_ok, bind_ofExcept_ok] at h
  obtain ⟨_, hfoll, _, hval, rfl, rfl⟩ := h
  unfold Quota.validate at hval
  split_ifs at hval
  cases hval
  exact ⟨rfl, rfl, rfl, rfl, rfl, checkedAdd_eq_some.1 hfoll⟩

/-- The counter of instances never goes back. -/
theorem new_counter_le (quota : Quota) (policy : PeerPolicy) (counter : UInt64) :
    counter.toNat ≤ (new quota policy counter).2.toNat := by
  have hlast : (new quota policy counter).2 = (checkedAdd counter 1).getD counter := by
    simp only [new, bind, Fallible.get, Fallible.okOr, Fallible.ofExcept, Fallible.modify,
      pure]
    cases checkedAdd counter 1 <;> cases quota.validate <;> rfl
  rw [hlast]
  cases hfoll : checkedAdd counter 1 with
  | none => exact Nat.le_refl _
  | some following =>
    have hnext : following.toNat = _ := checkedAdd_eq_some.1 hfoll
    rw [Option.getD_some, hnext]
    exact Nat.le_add_right _ _

section

variable {request : AuthenticatedRequest} {key : UdpTuple} {now : UInt64} {s t : RelayState}

theorem rotateNonce_ok {nonce : List UInt8} (h : rotateNonce request nonce now s = (.ok (), t)) :
    ∃ (hnonce : CredentialPart nonce) (allocation : Allocation) (nextGeneration : UInt64),
      Authorizes s request now allocation ∧
      nextGeneration.toNat = allocation.credentialGeneration.toNat + 1 ∧
      t = s.put request.tuple { allocation.pruneChildren now with
        credentials := allocation.credentials.withNonce nonce hnonce
        credentialGeneration := nextGeneration } := by
  obtain ⟨_, hpart, h⟩ := bind_ofExcept_ok.1 h
  obtain ⟨_, _, hauthd, h⟩ := bind_ok.1 h
  simp only [bind_okOr_ok, modify_ok] at h
  obtain ⟨nextGeneration, hgen, rfl⟩ := h
  obtain ⟨_, allocation, halloc, rfl, rfl⟩ := authorizedAllocationMut_ok hauthd
  unfold validateCredentialPart at hpart
  split_ifs at hpart with hnonce
  cases hpart
  refine ⟨hnonce, allocation, nextGeneration, halloc, checkedAdd_eq_some.1 hgen, ?_⟩
  rw [put_put]
  rfl

/-- The two outcomes of a refresh. -/
theorem refresh_ok {info : Option AllocationInfo} (h : refresh request now s = (.ok info, t)) :
    ∃ allocation, Authorizes s request now allocation ∧
      ((info = none ∧ t = { s with allocations := (s.put request.tuple
          (allocation.pruneChildren now)).allocations.erase request.tuple }) ∨
        ∃ expiresAt, expiresAt.toNat = now.toNat + 600 ∧
          t = s.put request.tuple
            { allocation.pruneChildren now with expiresAt := expiresAt }) := by
  obtain ⟨_, _, hauthd, h⟩ := bind_ok.1 h
  obtain ⟨_, _, h⟩ := bind_ofExcept_ok.1 h
  obtain ⟨_, allocation, halloc, hfnd, hmid⟩ := authorizedAllocationMut_ok hauthd
  refine ⟨allocation, halloc, ?_⟩
  split_ifs at h
  · obtain ⟨_, _, hremove, h⟩ := bind_ok.1 h
    obtain ⟨rfl, rfl⟩ := pure_ok.1 h
    unfold remove at hremove
    simp only [bind_get_ok, bind_okOr_ok, modify_ok] at hremove
    obtain ⟨_, _, rfl⟩ := hremove
    subst hfnd hmid
    exact .inl ⟨rfl, rfl⟩
  · obtain ⟨expiresAt, hexp, h⟩ := bind_okOr_ok.1 h
    obtain ⟨_, _, hagain, h⟩ := bind_ok.1 h
    simp only [bind_modify_ok] at h
    obtain ⟨rfl, rfl⟩ := h
    obtain ⟨rfl, rfl⟩ := authorizedAllocationMut_again hauthd hagain
    subst hfnd hmid
    rw [put_put]
    exact .inr ⟨expiresAt, checkedAdd_eq_some.1 hexp, rfl⟩

variable {relayedAddress : SocketAddr}

theorem validatePermissionIps_ok {peers : List SocketAddr}
    (h : validatePermissionIps policy relayedAddress peers = .ok ()) :
    ∀ peer ∈ peers, validatePermissionIp policy relayedAddress peer.ip = .ok () := by
  induction peers with
  | nil => exact nofun
  | cons first peers ih =>
    rw [validatePermissionIps] at h
    split at h
    · cases h
    next hfirst =>
    rw [forall_mem_cons]
    exact ⟨hfirst, ih h⟩

/-- The addresses of a request for permissions. -/
def uniqueIps (message : Message) : List IpAddr := (message.peers.map (·.ip)).dedup

theorem createPermissions_ok (h : createPermissions request now s = (.ok (), t)) :
    ∃ allocation expiresAt,
      request.method = .createPermission ∧ Authorizes s request now allocation ∧
      (∀ peer ∈ request.message.peers,
        validatePermissionIp s.policy allocation.relayedAddress peer.ip = .ok ()) ∧
      expiresAt.toNat = now.toNat + 300 ∧
      (allocation.pruneChildren now).permissions.length +
          (uniqueIps request.message).countP (fun ip =>
            ((allocation.pruneChildren now).permissions.lookup ip).isNone) ≤
        s.quota.maxPermissionsPerAllocation ∧
      t = s.put request.tuple { allocation.pruneChildren now with
        permissions := (allocation.pruneChildren now).permissions.insertAll
          (uniqueIps request.message) { expiresAt := expiresAt } } := by
  unfold createPermissions at h
  simp only [bind_ofExcept_ok, bind_get_ok, bind_failIf_ok] at h
  obtain ⟨peers, hpeers, _, h⟩ := h
  obtain ⟨_, _, hauthd, h⟩ := bind_ok.1 h
  simp only [bind_ofExcept_ok, bind_okOr_ok] at h
  obtain ⟨_, hval, expiresAt, hexp, h⟩ := h
  obtain ⟨_, _, hagain, h⟩ := bind_ok.1 h
  simp only [bind_failIf_ok, modify_ok] at h
  obtain ⟨hroom, rfl⟩ := h
  obtain ⟨rfl, rfl⟩ := authorizedAllocationMut_again hauthd hagain
  obtain ⟨hmethod, allocation, halloc, rfl, rfl⟩ := authorizedAllocationMut_ok hauthd
  have hpeers' : peers = request.message.peers := by
    unfold requestPeers at hpeers
    split_ifs at hpeers
    exact (Except.ok.inj hpeers).symm
  subst hpeers'
  rw [put_put]
  exact ⟨allocation, expiresAt, hmethod, halloc, validatePermissionIps_ok hval,
    checkedAdd_eq_some.1 hexp, Nat.le_of_not_lt hroom, rfl⟩

/-- The allocation has a place for the binding. -/
structure HasPlace (quota : Quota) (now : UInt64) (allocation : Allocation) (channel : UInt16)
    (peer : SocketAddr) : Prop where
  unquarantined : ∀ expired ∈ allocation.expiredBindings, now < expired.quarantineUntil →
    halfShared channel peer expired = false
  same_peer : ∀ binding, allocation.channels.lookup channel = some binding → binding.peer = peer
  same_channel : ∀ other binding, allocation.channels.lookup other = some binding →
    binding.peer = peer → other = channel
  channel_room : allocation.channels.lookup channel = none →
    allocation.channels.length < quota.maxChannelsPerAllocation
  permission_room : allocation.permissions.lookup peer.ip = none →
    allocation.permissions.length < quota.maxPermissionsPerAllocation

theorem bindChannel_ok (h : bindChannel request now s = (.ok (), t)) :
    ∃ allocation channel peer permissionExpires channelExpires quarantineUntil,
      requestChannel request.message = .ok (channel, peer) ∧
      Authorizes s request now allocation ∧
      validatePeer s.policy allocation.relayedAddress peer = .ok () ∧
      HasPlace s.quota now (allocation.pruneChildren now) channel peer ∧
      permissionExpires.toNat = now.toNat + 300 ∧ channelExpires.toNat = now.toNat + 600 ∧
      quarantineUntil.toNat = now.toNat + 900 ∧
      t = s.put request.tuple { allocation.pruneChildren now with
        permissions := (allocation.pruneChildren now).permissions.insert peer.ip
          { expiresAt := permissionExpires }
        channels := (allocation.pruneChildren now).channels.insert channel
          { peer := peer, expiresAt := channelExpires, quarantineUntil := quarantineUntil } } := by
  obtain ⟨⟨channel, peer⟩, hchan, h⟩ := bind_ofExcept_ok.1 h
  obtain ⟨_, h⟩ := bind_failIf_ok.1 h
  obtain ⟨_, _, hauthd, h⟩ := bind_ok.1 h
  simp only [bind_get_ok, bind_ofExcept_ok, bind_okOr_ok] at h
  obtain ⟨_, hval, permissionExpires, hperm, channelExpires, hexpires, quarantineUntil,
    huntil, h⟩ := h
  obtain ⟨_, _, hagain, h⟩ := bind_ok.1 h
  simp only [bind_failIf_ok, modify_ok] at h
  obtain ⟨hquarantine, hcollision, hchannels, hperms, rfl⟩ := h
  obtain ⟨rfl, rfl⟩ := authorizedAllocationMut_again hauthd hagain
  obtain ⟨_, allocation, halloc, rfl, rfl⟩ := authorizedAllocationMut_ok hauthd
  have hexp' : channelExpires.toNat = now.toNat + 600 := checkedAdd_eq_some.1 hexpires
  have huntil' : quarantineUntil.toNat = channelExpires.toNat + 300 := checkedAdd_eq_some.1 huntil
  rw [put_put]
  refine ⟨allocation, channel, peer, permissionExpires, channelExpires, quarantineUntil, hchan,
    halloc, hval, ?_, checkedAdd_eq_some.1 hperm, hexp', by omega, rfl⟩
  simp only [Bool.or_eq_true, not_or, any_eq_true, not_exists, not_and, Bool.and_eq_true,
    decide_eq_true_eq] at hquarantine hcollision
  constructor
  · intro expired hexp hnow
    exact Bool.eq_false_iff.2 (hquarantine expired hexp hnow)
  · intro binding hbind
    have hany := hcollision.1
    rw [hbind] at hany
    simpa using hany
  · intro other binding hbind hpeer
    by_contra hoth
    exact hcollision.2 ⟨other, binding⟩ (mem_entries.2 hbind) hoth hpeer
  · intro hnone
    rw [hnone] at hchannels
    exact Nat.lt_of_not_le fun hfull => hchannels ⟨rfl, hfull⟩
  · intro hnone
    rw [hnone] at hperms
    exact Nat.lt_of_not_le fun hfull => hperms ⟨rfl, hfull⟩

variable {payloadBytes : UInt64} {peer : SocketAddr}

/-- The relay took the datagram into account. -/
theorem requirePermissionAndAccount_ok
    (h : requirePermissionAndAccount key peer payloadBytes now s = (.ok (), t)) :
    ∃ allocation perm packets bytes,
      s.allocations.lookup key = some allocation ∧ now < allocation.expiresAt ∧
      (allocation.pruneChildren now).permissions.lookup peer.ip = some perm ∧
      packets ≤ s.quota.maxPacketsPerAllocation ∧ bytes ≤ s.quota.maxPayloadBytesPerAllocation ∧
      t = s.put key { allocation.pruneChildren now with
        counters := { packets := packets, payloadBytes := bytes } } := by
  obtain ⟨_, _, hlive, h⟩ := bind_ok.1 (bind_get_ok.1 h)
  simp only [bind_failIf_ok, bind_okOr_ok, modify_ok] at h
  obtain ⟨hpermitted, packets, _, bytes, _, hquota, rfl⟩ := h
  obtain ⟨allocation, hlook, hexp, rfl, rfl⟩ := liveAllocationMut_ok.1 hlive
  obtain ⟨perm, hperm⟩ := Option.ne_none_iff_exists'.1 (Option.isNone_iff_eq_none.not.1 hpermitted)
  rw [not_or, UInt64.not_lt, UInt64.not_lt] at hquota
  rw [put_put]
  exact ⟨allocation, perm, packets, bytes, hlook, hexp, hperm, hquota.1, hquota.2, rfl⟩

/-- Looking first does not change what is taken into account. -/
theorem requirePermissionAndAccount_after_look {mid : RelayState}
    (hlook : liveAllocationMut key now s = (.ok found, mid))
    (h : requirePermissionAndAccount key peer payloadBytes now mid = (.ok (), t)) :
    requirePermissionAndAccount key peer payloadBytes now s = (.ok (), t) := by
  obtain ⟨allocation, hlookup, hexp, rfl, rfl⟩ := liveAllocationMut_ok.1 hlook
  have hagain : liveAllocationMut key now (s.put key (allocation.pruneChildren now)) =
      (.ok (allocation.pruneChildren now), s.put key (allocation.pruneChildren now)) := by
    rw [liveAllocationMut_put hlookup, pruneChildren_pruneChildren]
    exact hexp
  obtain ⟨_, _, hlive, hrest⟩ := bind_ok.1 (bind_get_ok.1 h)
  rw [hagain] at hlive
  cases hlive
  exact bind_get_ok.2 (bind_ok.2 ⟨_, _, hlook, hrest⟩)

theorem authorizeSend_ok (h : authorizeSend key peer payloadBytes now s = (.ok (), t)) :
    (∃ allocation, s.allocations.lookup key = some allocation ∧
        validatePeer s.policy allocation.relayedAddress peer = .ok ()) ∧
      requirePermissionAndAccount key peer payloadBytes now s = (.ok (), t) := by
  obtain ⟨_, _, hlive, h⟩ := bind_ok.1 h
  simp only [bind_get_ok, bind_ofExcept_ok] at h
  obtain ⟨_, hval, hrest⟩ := h
  have haccount := requirePermissionAndAccount_after_look hlive hrest
  obtain ⟨allocation, hlook, _, rfl, rfl⟩ := liveAllocationMut_ok.1 hlive
  exact ⟨⟨allocation, hlook, hval⟩, haccount⟩

theorem authorizeChannelData_ok {channel : UInt16}
    (h : authorizeChannelData key channel payloadBytes now s = (.ok peer, t)) :
    (∃ allocation binding, s.allocations.lookup key = some allocation ∧
        (allocation.pruneChildren now).channels.lookup channel = some binding ∧
        binding.peer = peer) ∧
      requirePermissionAndAccount key peer payloadBytes now s = (.ok (), t) := by
  obtain ⟨_, _, hlive, h⟩ := bind_ok.1 h
  obtain ⟨binding, hbind, h⟩ := bind_okOr_ok.1 h
  obtain ⟨_, _, hrest, h⟩ := bind_ok.1 h
  obtain ⟨rfl, rfl⟩ := pure_ok.1 h
  have haccount := requirePermissionAndAccount_after_look hlive hrest
  obtain ⟨allocation, hlook, _, rfl, rfl⟩ := liveAllocationMut_ok.1 hlive
  exact ⟨⟨allocation, binding, hlook, hbind, rfl⟩, haccount⟩

theorem routePeerDatagram_ok {route : DeliveryRoute}
    (h : routePeerDatagram key peer payloadBytes now s = (.ok route, t)) :
    (∃ allocation, s.allocations.lookup key = some allocation ∧
        validatePermissionIp s.policy allocation.relayedAddress peer.ip = .ok ()) ∧
      requirePermissionAndAccount key peer payloadBytes now s = (.ok (), t) := by
  obtain ⟨_, _, hlive, h⟩ := bind_ok.1 h
  simp only [bind_get_ok, bind_ofExcept_ok] at h
  obtain ⟨_, hval, h⟩ := h
  obtain ⟨_, _, hrest, h⟩ := bind_ok.1 h
  obtain ⟨_, _, hlast, h⟩ := bind_ok.1 h
  have hafter := (pure_ok.1 h).2
  have haccount := requirePermissionAndAccount_after_look hlive hrest
  obtain ⟨allocation, hlook, _, rfl, rfl⟩ := liveAllocationMut_ok.1 hlive
  refine ⟨⟨allocation, hlook, hval⟩, ?_⟩
  -- The last look finds what was just written, and it is pruned already.
  obtain ⟨accounted, _, _, _, haccounted, _, _, _, _, rfl⟩ :=
    requirePermissionAndAccount_ok haccount
  obtain ⟨_, hlook', _, rfl, rfl⟩ := liveAllocationMut_ok.1 hlast
  rw [lookup_put haccounted, if_pos rfl] at hlook'
  cases hlook'
  rw [put_put] at hafter
  rw [haccount, hafter]
  have hpruned := pruneChildren_pruneChildren accounted now
  show (_, s.put key { accounted.pruneChildren now with counters := _ }) = (_, s.put key
    { (accounted.pruneChildren now).pruneChildren now with counters := _ })
  rw [hpruned]

/-- The swept state takes the allocation. -/
structure Vacant (s : RelayState) (now : UInt64) (key : UdpTuple)
    (credentials : AllocationCredentials) (relayedAddress : SocketAddr) : Prop where
  no_duplicate : (s.cleanedAt now).allocations.lookup key = none
  unused : ∀ other allocation, (s.cleanedAt now).allocations.lookup other = some allocation →
    allocation.relayedAddress ≠ relayedAddress
  room : (s.cleanedAt now).allocations.length < s.quota.maxAllocations
  user_room : ((s.cleanedAt now).allocations.count fun _ allocation =>
    ofUser credentials.username credentials.authIdentity allocation) < s.quota.maxAllocationsPerUser

theorem create_ok {creds : AllocationCredentials} {requestedLifetime : Option UInt64}
    {info : AllocationInfo}
    (h : create key creds relayedAddress now requestedLifetime s = (.ok info, t)) :
    Vacant s now key creds relayedAddress ∧
      ∃ expiresAt incarnation, expiresAt.toNat = now.toNat + 600 ∧
        incarnation.toNat = s.nextIncarnation.toNat + 1 ∧
        t = { s.cleanedAt now with
          nextIncarnation := incarnation
          allocations := (s.cleanedAt now).allocations.insert key
            (freshAllocation creds relayedAddress incarnation expiresAt) } := by
  unfold create cleanup at h
  simp only [bind_ofExcept_ok, bind_get_ok, bind_modify_ok, bind_failIf_ok, bind_okOr_ok] at h
  obtain ⟨_, _, _, _, hduplicate, haddr, hglobal, huser, expiresAt, hexp, incarnation,
    hinc, _, rfl⟩ := h
  refine ⟨⟨Option.not_isSome_iff_eq_none.1 hduplicate, ?_, Nat.lt_of_not_le hglobal,
    Nat.lt_of_not_le huser⟩, expiresAt, incarnation, checkedAdd_eq_some.1 hexp,
    checkedAdd_eq_some.1 hinc, rfl⟩
  intro other allocation hoth heq
  refine haddr (any_eq_true.2 ⟨⟨other, allocation⟩, mem_entries.2 hoth, ?_⟩)
  exact decide_eq_true heq

theorem authenticateRequest_ok {hmac : List UInt8 → List UInt8 → Bytes 32}
    {encodedRequest : List UInt8}
    (h : authenticateRequest hmac key encodedRequest now s = (.ok request, t)) :
    ∃ allocation, s.allocations.lookup key = some allocation ∧ now < allocation.expiresAt ∧
      verifyIntegrity hmac encodedRequest allocation.credentials.integrityKey.toList =
        .ok request.verified ∧
      requestCredentials request.message = .ok
        { username := allocation.credentials.username, realm := allocation.credentials.realm,
          nonce := allocation.credentials.nonce } ∧
      request.stateInstance = s.stateInstance ∧ request.tuple = key ∧
      request.allocationIncarnation = allocation.incarnation ∧
      request.credentialGeneration = allocation.credentialGeneration ∧
      t = s.put key (allocation.pruneChildren now) := by
  obtain ⟨_, _, hlive, h⟩ := bind_ok.1 h
  simp only [bind_ofExcept_ok, bind_failIf_ok, bind_get_ok] at h
  obtain ⟨verified, hver, _, creds, hcreds, h⟩ := h
  obtain ⟨_, _, hagain, h⟩ := bind_ok.1 h
  simp only [bind_failIf_ok] at h
  obtain ⟨hnames, hnonce, rfl, rfl⟩ := h
  obtain ⟨rfl, rfl⟩ := liveAllocationMut_again hlive hagain
  obtain ⟨allocation, hlook, hexp, rfl, rfl⟩ := liveAllocationMut_ok.1 hlive
  rw [not_or, not_not, not_not] at hnames
  obtain ⟨huser, hrealm⟩ : allocation.credentials.username = creds.username ∧
    allocation.credentials.realm = creds.realm := hnames
  have hnonce' : allocation.credentials.nonce = creds.nonce :=
    not_not.1 fun hne => hnonce ⟨trivial, hne⟩
  refine ⟨allocation, hlook, hexp, ?_, ?_, rfl, rfl, rfl, rfl, rfl⟩
  · change (verifyIntegrity hmac encodedRequest
      allocation.credentials.integrityKey.toList).mapError _ = _ at hver
    generalize verifyIntegrity hmac _ _ = answer at hver ⊢
    cases answer with
    | error e => cases hver
    | ok msg =>
      cases hver
      rfl
  · show requestCredentials verified.message = _
    rw [hcreds, huser, hrealm, hnonce']

end

end RelayState

end LatencyDesk.TurnRelay
