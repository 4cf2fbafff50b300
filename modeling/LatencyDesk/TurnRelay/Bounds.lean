import LatencyDesk.TurnRelay.Permission

/-!
# The relay stays within its quotas

For every run of one relay at non-decreasing times, with whatever requests the
calls carry.

Most bounds are checked where an entry is made.  The number of bindings in
quarantine is not: a binding goes there when it expires, and nothing is counted.
The bound holds because the bindings in quarantine at one time were all live
together 300 seconds before.  `windowCount start` counts the bindings, live or
expired, whose quarantine ends in the 600 seconds after `start`.  A new binding
is in the window only when every expired binding is outside of it, and then the
window holds no more than the channels; otherwise the count does not grow.  The
bindings in quarantine at `now` are in the window that starts at `now`.
-/

namespace LatencyDesk.TurnRelay

open Lib Protocol RelayState List Option AList Nat Bool

/-! ## One allocation -/

/-- The quarantine ends in the 600 seconds after the start. -/
def inWindow (start : Nat) (quarantineUntil : UInt64) : Bool :=
  start < quarantineUntil.toNat && quarantineUntil.toNat ≤ start + 600

variable {call : RelayCall}

namespace Allocation

def windowCount (allocation : Allocation) (start : Nat) : Nat :=
  (allocation.channels.count fun _ binding => inWindow start binding.quarantineUntil) +
    allocation.expiredBindings.countP fun binding => inWindow start binding.quarantineUntil

/-- What holds of an allocation at every time from `now` on. -/
structure Bounded (quota : Quota) (now : UInt64) (allocation : Allocation) : Prop where
  permissions : allocation.permissions.length ≤ quota.maxPermissionsPerAllocation
  channels : allocation.channels.length ≤ quota.maxChannelsPerAllocation
  injective : ∀ channel other binding binding',
    allocation.channels.lookup channel = some binding →
    allocation.channels.lookup other = some binding' → binding.peer = binding'.peer →
    channel = other
  apart : ∀ channel binding, allocation.channels.lookup channel = some binding →
    ∀ expired ∈ allocation.expiredBindings, channel = expired.channel ↔ binding.peer = expired.peer
  quarantine : ∀ channel binding, allocation.channels.lookup channel = some binding →
    binding.quarantineUntil.toNat = binding.expiresAt.toNat + 300
  ended : ∀ expired ∈ allocation.expiredBindings, expired.quarantineUntil.toNat ≤ now.toNat + 300
  window : ∀ start, allocation.windowCount start ≤ quota.maxChannelsPerAllocation
  packets : allocation.counters.packets ≤ quota.maxPacketsPerAllocation
  payloadBytes : allocation.counters.payloadBytes ≤ quota.maxPayloadBytesPerAllocation

variable {quota : Quota} {now later : UInt64} {allocation : Allocation}

theorem Bounded.mono (h : Bounded quota now allocation) (hle : now ≤ later) :
    Bounded quota later allocation := by
  refine { h with ended := fun expired hexp => ?_ }
  have hended := h.ended expired hexp
  have hle' : now.toNat ≤ later.toNat := hle
  omega

/-- Pruning moves bindings to the expired ones, and drops some of these. -/
theorem windowCount_prune {start : Nat} :
    (allocation.pruneChildren now).windowCount start ≤ allocation.windowCount start := by
  have hmoved : ((allocation.pruneChildren now).channels.count fun _ binding =>
        inWindow start binding.quarantineUntil) +
      ((allocation.overdue now).countP fun binding => inWindow start binding.quarantineUntil) =
      allocation.channels.count fun _ binding => inWindow start binding.quarantineUntil := by
    show ((allocation.channels.eraseAll ((allocation.overdue now).map (·.channel))).count _) + _ = _
    rw [map_overdue, AList.count_eraseAll_keysWhere]
    unfold AList.count overdue
    induction allocation.channels.entries with
    | nil => rfl
    | cons entry rest ih =>
      simp only [countP_cons, filterMap_cons] at ih ⊢
      by_cases hended : entry.2.expiresAt ≤ now
      · simp only [hended, decide_true, Bool.not_true, Bool.and_false, if_true, countP_cons]
        simp only [Bool.false_eq_true, if_false]
        omega
      · simp only [hended, decide_false, Bool.not_false, Bool.and_true, if_false] at ⊢
        omega
  have hexp : ((allocation.pruneChildren now).expiredBindings.countP fun binding =>
        inWindow start binding.quarantineUntil) ≤
      (allocation.expiredBindings.countP fun binding => inWindow start binding.quarantineUntil) +
        (allocation.overdue now).countP fun binding =>
          inWindow start binding.quarantineUntil := by
    rw [← countP_append]
    exact filter_sublist.countP_le
  unfold windowCount
  omega

theorem Bounded.prune (h : Bounded quota now allocation) :
    Bounded quota now (allocation.pruneChildren now) := by
  have hchan : ∀ {channel binding},
      (allocation.pruneChildren now).channels.lookup channel = some binding →
      allocation.channels.lookup channel = some binding := by
    intro channel binding hlook
    rw [lookup_channels_prune, filter_eq_some_iff] at hlook
    exact hlook.1
  constructor
  · exact le_trans (length_filter_le _ _) h.permissions
  · have hlen := length_eraseAll_keysWhere allocation.channels
      fun _ binding => binding.expiresAt ≤ now
    have hbound := h.channels
    show (allocation.channels.eraseAll ((allocation.overdue now).map (·.channel))).length ≤ _
    rw [map_overdue]
    omega
  · intro channel other binding binding' hlook hlook'
    exact h.injective _ _ _ _ (hchan hlook) (hchan hlook')
  · -- A binding that went over was a channel beside the ones that are left.
    intro channel binding hlook expired hexp
    obtain ⟨hstor | hmoved, _⟩ := (mem_expired_prune _ _).1 hexp
    · exact h.apart channel binding (hchan hlook) expired hstor
    obtain ⟨moved, hmoved, _, hpeer, _⟩ := (mem_overdue _ _).1 hmoved
    constructor
    · intro heq
      have hsame := hchan hlook
      rw [heq, hmoved] at hsame
      cases hsame
      exact hpeer.symm
    · intro heq
      exact h.injective _ _ _ _ (hchan hlook) hmoved (by rw [heq, hpeer])
  · exact fun channel binding hlook => h.quarantine channel binding (hchan hlook)
  · intro expired hexp
    obtain ⟨hstor | hmoved, _⟩ := (mem_expired_prune _ _).1 hexp
    · exact h.ended expired hstor
    · obtain ⟨moved, hmoved, hended, _, huntil⟩ := (mem_overdue _ _).1 hmoved
      have hquarantine := h.quarantine _ _ hmoved
      have hended' : moved.expiresAt.toNat ≤ now.toNat := hended
      rw [huntil]
      omega
  · exact fun start => le_trans windowCount_prune (h.window start)
  · exact h.packets
  · exact h.payloadBytes

variable {channel : UInt16} {peer : SocketAddr}

/-- A binding that shares the channel or the peer shares both. -/
theorem halfShared_eq_false {expired : ExpiredBinding} :
    halfShared channel peer expired = false ↔
      (channel = expired.channel ↔ peer = expired.peer) := by
  unfold halfShared
  rw [eq_comm (a := channel), eq_comm (a := peer)]
  by_cases hchan : expired.channel = channel <;> by_cases hpeer : expired.peer = peer <;>
    simp [hpeer]

theorem Bounded.bind {permissionExpires channelExpires quarantineUntil : UInt64}
    (h : Bounded quota now allocation)
    (hpruned : ∀ expired ∈ allocation.expiredBindings, now < expired.quarantineUntil)
    (hplace : HasPlace quota now allocation channel peer)
    (hexpires : channelExpires.toNat = now.toNat + 600)
    (huntil : quarantineUntil.toNat = now.toNat + 900) :
    Bounded quota now { allocation with
      permissions := allocation.permissions.insert peer.ip { expiresAt := permissionExpires }
      channels := allocation.channels.insert channel
        { peer := peer, expiresAt := channelExpires, quarantineUntil := quarantineUntil } } := by
  have hchannels : (allocation.channels.insert channel
      { peer := peer, expiresAt := channelExpires, quarantineUntil := quarantineUntil }).length ≤
      quota.maxChannelsPerAllocation := by
    refine le_trans (length_insert_le _ _ _) ?_
    split_ifs with hnone
    · exact hplace.channel_room hnone
    · exact h.channels
  constructor
  · refine le_trans (length_insert_le _ _ _) ?_
    split_ifs with hnone
    · exact hplace.permission_room hnone
    · exact h.permissions
  · exact hchannels
  · exact lookup_insert_injective h.injective hplace.same_channel
  · intro first binding hfirst expired hexp
    rw [lookup_insert_eq] at hfirst
    split_ifs at hfirst with heq
    · cases hfirst
      rw [heq]
      exact halfShared_eq_false.1 (hplace.unquarantined expired hexp (hpruned expired hexp))
    · exact h.apart first binding hfirst expired hexp
  · intro first binding hfirst
    rw [lookup_insert_eq] at hfirst
    split_ifs at hfirst with heq
    · cases hfirst
      show quarantineUntil.toNat = channelExpires.toNat + 300
      omega
    · exact h.quarantine first binding hfirst
  · exact h.ended
  · intro start
    have hold := h.window start
    have hinsert := count_insert_eq
      (p := fun _ binding => inWindow start binding.quarantineUntil) allocation.channels channel
    have herase := count_erase_le
      (p := fun _ binding => inWindow start binding.quarantineUntil) allocation.channels channel
    unfold windowCount at hold ⊢
    dsimp only at ⊢
    by_cases hnew : inWindow start quarantineUntil = true
    · -- The window starts so late that nothing in it has expired.
      have hnone : (allocation.expiredBindings.countP fun binding =>
          inWindow start binding.quarantineUntil) = 0 := by
        rw [countP_eq_zero]
        intro expired hexp hin
        have hended := h.ended expired hexp
        simp only [inWindow, and_eq_true, decide_eq_true_eq] at hnew hin
        omega
      have hall := countP_le_length (l := (allocation.channels.insert channel
        { peer := peer, expiresAt := channelExpires, quarantineUntil := quarantineUntil }).entries)
        (p := fun entry => inWindow start entry.2.quarantineUntil)
      rw [hnone]
      exact le_trans hall hchannels
    · rw [hinsert, if_neg hnew]
      omega
  · exact h.packets
  · exact h.payloadBytes

/-- Every way of changing an allocation keeps its bounds. -/
theorem Bounded.touch {s : RelayState} {key : UdpTuple} {written : Allocation}
    (h : Bounded s.quota now allocation) (htouch : Touch s now call key allocation written) :
    Bounded s.quota now written := by
  cases htouch with
  | rotated | refreshed => exact { h.prune with }
  | permitted _ _ _ _ hroom =>
    exact { h.prune with
      permissions := le_trans (length_insertAll_le _) hroom }
  | bound _ _ _ hplace _ hexpires huntil =>
    refine h.prune.bind (fun expired hexp => ?_) hplace hexpires huntil
    exact ((mem_expired_prune _ _).1 hexp).2
  | accounted hpackets hbytes =>
    exact { h.prune with packets := hpackets, payloadBytes := hbytes }

theorem freshAllocation_bounded
    {creds : AllocationCredentials} {relayedAddress : SocketAddr}
    {incarnation expiresAt : UInt64} :
    Bounded quota now (freshAllocation creds relayedAddress incarnation expiresAt) where
  permissions := zero_le _
  channels := zero_le _
  injective := nofun
  apart := nofun
  quarantine := nofun
  ended := nofun
  window := fun _ => zero_le _
  packets := UInt64.zero_le
  payloadBytes := UInt64.zero_le

end Allocation

/-! ## The relay -/

namespace RelayState

/-- What holds of the relay at every time from `now` on. -/
structure Bounded (now : UInt64) (s : RelayState) : Prop where
  total : s.allocations.length ≤ s.quota.maxAllocations
  per_user : ∀ username authIdentity, (s.allocations.count fun _ allocation =>
    ofUser username authIdentity allocation) ≤ s.quota.maxAllocationsPerUser
  distinct : ∀ key other allocation allocation', s.allocations.lookup key = some allocation →
    s.allocations.lookup other = some allocation' →
    allocation.relayedAddress = allocation'.relayedAddress → key = other
  each : ∀ key allocation, s.allocations.lookup key = some allocation →
    allocation.Bounded s.quota now

variable {now later : UInt64} {s t : RelayState} {key : UdpTuple}
  {allocation written : Allocation} (h : Bounded now s)

include h in
theorem Bounded.mono (hle : now ≤ later) : Bounded later s :=
  { h with each := fun key allocation hlook => (h.each key allocation hlook).mono hle }

include h in
theorem Bounded.put (hlook : s.allocations.lookup key = some allocation)
    (haddr : written.relayedAddress = allocation.relayedAddress)
    (husername : written.credentials.username = allocation.credentials.username)
    (hident : written.credentials.authIdentity = allocation.credentials.authIdentity)
    (hwritten : written.Bounded s.quota now) : Bounded now (s.put key written) := by
  have hlook' := lookup_put hlook
  -- The address at a key is the one that was there before.
  have hback : ∀ other found, (s.put key written).allocations.lookup other = some found →
      ∃ before, s.allocations.lookup other = some before ∧
        before.relayedAddress = found.relayedAddress := by
    intro other found hfnd
    rw [hlook'] at hfnd
    split_ifs at hfnd with heq
    · cases hfnd
      exact ⟨allocation, by rw [heq, hlook], haddr.symm⟩
    · exact ⟨found, hfnd, rfl⟩
  constructor
  · exact le_trans (le_of_eq (length_replace hlook written)) h.total
  · intro username authIdentity
    have hcount := count_replace
      (p := fun _ allocation => ofUser username authIdentity allocation) hlook written
    have huser : ofUser username authIdentity written =
        ofUser username authIdentity allocation := by
      unfold ofUser
      rw [husername, hident]
    rw [huser] at hcount
    have hbound := h.per_user username authIdentity
    show (s.allocations.replace key written).count _ ≤ s.quota.maxAllocationsPerUser
    omega
  · intro first second found found' hfirst hsnd heq
    obtain ⟨before, hbef, haddr'⟩ := hback first found hfirst
    obtain ⟨before', hbef', haddr''⟩ := hback second found' hsnd
    exact h.distinct first second before before' hbef hbef' (by rw [haddr', heq, haddr''])
  · intro other found hfnd
    rw [hlook'] at hfnd
    split_ifs at hfnd with heq
    · cases hfnd
      exact hwritten
    · exact h.each other found hfnd

include h in
/-- Fewer allocations are within the bounds. -/
theorem Bounded.fewer {allocations : Table UdpTuple Allocation}
    (hback : ∀ {other found}, allocations.lookup other = some found →
      s.allocations.lookup other = some found)
    (hcount : ∀ p, allocations.count p ≤ s.allocations.count p) :
    Bounded now { s with allocations := allocations } := by
  constructor
  · rw [length_eq_count]
    refine le_trans (hcount _) ?_
    rw [← length_eq_count]
    exact h.total
  · exact fun username authIdentity => le_trans (hcount _) (h.per_user username authIdentity)
  · exact fun first second found found' hfirst hsnd =>
      h.distinct first second found found' (hback hfirst) (hback hsnd)
  · exact fun other found hfnd => h.each other found (hback hfnd)

include h in
theorem Bounded.cleaned : Bounded now (s.cleanedAt now) := by
  refine h.fewer (fun {other found} hfnd => ?_) fun p => filter_sublist.countP_le
  rw [lookup_retain, filter_eq_some_iff] at hfnd
  exact hfnd.1

include h in
theorem Bounded.insert {creds : AllocationCredentials} {relayedAddress : SocketAddr}
    {incarnation expiresAt : UInt64} (hvacant : Vacant s now key creds relayedAddress) :
    Bounded now { s.cleanedAt now with
      nextIncarnation := incarnation
      allocations := (s.cleanedAt now).allocations.insert key
        (freshAllocation creds relayedAddress incarnation expiresAt) } := by
  have hclean := h.cleaned
  constructor
  · rw [length_insert hvacant.no_duplicate]
    exact hvacant.room
  · intro username authIdentity
    rw [count_insert hvacant.no_duplicate]
    split_ifs with huser
    · -- The new allocation counts for the user whose room was checked.
      obtain ⟨husername, hident⟩ := and_eq_true_iff.1 huser
      have huser' : creds.username = username := of_decide_eq_true husername
      have hident' : creds.authIdentity = authIdentity := of_decide_eq_true hident
      have hroom := hvacant.user_room
      rw [huser', hident'] at hroom
      exact hroom
    · exact hclean.per_user username authIdentity
  · exact lookup_insert_injective hclean.distinct fun other found hfnd heq =>
      absurd heq (hvacant.unused other found hfnd)
  · intro other found hfnd
    rw [lookup_insert_eq] at hfnd
    split_ifs at hfnd with heq
    · cases hfnd
      exact Allocation.freshAllocation_bounded
    · exact hclean.each other found hfnd

include h in
theorem Bounded.erase (key : UdpTuple) :
    Bounded now { s with allocations := s.allocations.erase key } := by
  refine h.fewer (fun {other found} hfnd => ?_) fun p => count_erase_le _ _
  rw [lookup_erase_eq] at hfnd
  split_ifs at hfnd
  exact hfnd

include h in
theorem Bounded.look (hlooks : Looks key now s t) : Bounded now t := by
  rcases hlooks with rfl | ⟨allocation, hlook, _, rfl⟩
  · exact h
  · exact h.put hlook rfl rfl rfl (h.each key allocation hlook).prune

include h in
/-- Every call keeps the bounds. -/
theorem Bounded.effect {res : Except StateError Reply} (heff : Effect s now call res t) :
    Bounded now t := by
  cases heff with
  | looked hlooks => exact h.look hlooks
  | swept hsweeps =>
    rcases hsweeps with rfl | rfl
    · exact h
    · exact h.cleaned
  | created hvacant => exact h.insert hvacant
  | removed halloc =>
    exact (h.look (.inr ⟨_, halloc.found, halloc.live, rfl⟩)).erase _
  | touched hlook _ htouch =>
    obtain ⟨_, haddr, husername, _, hident, _⟩ := htouch.identity
    exact h.put hlook haddr husername hident ((h.each _ _ hlook).touch htouch)

/-- Every run keeps the bounds. -/
theorem Bounded.run {hmac : List UInt8 → List UInt8 → Bytes 32} (hs : ∀ now, Bounded now s)
    (calls : List (UInt64 × RelayCall)) (horder : InOrder ((relayMachine hmac).trace s calls))
    (hnow : ∀ step ∈ (relayMachine hmac).trace s calls, step.event.now ≤ now) :
    Bounded now ((relayMachine hmac).run s calls) := by
  have hrun := (relayMachine hmac).trace_induction
    (P := fun h s => InOrder h → ∀ now, (∀ step ∈ h, step.event.now ≤ now) → Bounded now s)
    (fun _ now _ => hs now) ?_ calls
  · exact hrun horder now hnow
  · intro h s timed ih horder now hnow
    obtain ⟨hbef, hlast⟩ := inOrder_snoc.1 horder
    have hstep := (ih hbef timed.1 hlast).effect (perform_effect hmac s timed.1 timed.2)
    exact hstep.mono (hnow _ (mem_append_right h (mem_singleton_self _)))

end RelayState

/-! ## The quotas -/

/-- The bindings in quarantine: those that were stored as expired, and those that are over and
were not moved yet. -/
def Allocation.quarantinedAt (allocation : Allocation) (now : UInt64) : List ExpiredBinding :=
  (allocation.expiredBindings ++ allocation.overdue now).filter fun binding =>
    now < binding.quarantineUntil

structure Allocation.WithinQuota (quota : Quota) (now : UInt64) (allocation : Allocation) :
    Prop where
  permissions : allocation.permissions.length ≤ quota.maxPermissionsPerAllocation
  channels : allocation.channels.length ≤ quota.maxChannelsPerAllocation
  injective : ∀ channel other binding binding',
    allocation.channels.lookup channel = some binding →
    allocation.channels.lookup other = some binding' → binding.peer = binding'.peer →
    channel = other
  apart : ∀ channel binding, allocation.channels.lookup channel = some binding →
    now < binding.expiresAt → ∀ expired ∈ allocation.quarantinedAt now,
      halfShared channel binding.peer expired = false
  quarantined : (allocation.quarantinedAt now).length ≤ quota.maxChannelsPerAllocation
  packets : allocation.counters.packets ≤ quota.maxPacketsPerAllocation
  payloadBytes : allocation.counters.payloadBytes ≤ quota.maxPayloadBytesPerAllocation

structure RelayState.WithinQuota (quota : Quota) (now : UInt64) (s : RelayState) : Prop where
  total : s.allocationCount ≤ quota.maxAllocations
  per_user : ∀ username authIdentity, (s.allocations.count fun _ allocation =>
    ofUser username authIdentity allocation) ≤ quota.maxAllocationsPerUser
  distinct : ∀ key other allocation allocation', s.allocations.lookup key = some allocation →
    s.allocations.lookup other = some allocation' →
    allocation.relayedAddress = allocation'.relayedAddress → key = other
  each : ∀ key allocation, s.allocations.lookup key = some allocation →
    allocation.WithinQuota quota now

theorem Allocation.Bounded.withinQuota {quota : Quota} {now : UInt64} {allocation : Allocation}
    (h : allocation.Bounded quota now) : allocation.WithinQuota quota now := by
  have hpruned := h.prune
  constructor
  · exact h.permissions
  · exact h.channels
  · exact h.injective
  · intro channel binding hlook hlive expired hexp
    refine halfShared_eq_false.2 (hpruned.apart channel binding ?_ expired hexp)
    rw [lookup_channels_prune, filter_eq_some_iff]
    exact ⟨hlook, by simp [UInt64.not_le.2 hlive]⟩
  · -- What is in quarantine now is in the window that starts now.
    refine le_trans ?_ (hpruned.window now.toNat)
    have hall : (allocation.quarantinedAt now).countP
        (fun binding => inWindow now.toNat binding.quarantineUntil) =
          (allocation.quarantinedAt now).length := by
      rw [countP_eq_length]
      intro expired hexp
      have hended := hpruned.ended expired hexp
      have hnow : now.toNat < expired.quarantineUntil.toNat :=
        ((mem_expired_prune _ _).1 hexp).2
      simp only [inWindow, and_eq_true, decide_eq_true_eq]
      omega
    rw [← hall]
    exact le_add_left _ _
  · exact h.packets
  · exact h.payloadBytes

/-- Whatever the calls of a relay are, when their times never go back, its quotas hold from the
last of them on. -/
theorem relay_stays_within_quota (hmac : List UInt8 → List UInt8 → Bytes 32) {quota : Quota}
    {policy : PeerPolicy} {counter counter' : UInt64} {s : RelayState}
    (hnew : new quota policy counter = (.ok s, counter'))
    (calls : List (UInt64 × RelayCall)) (horder : InOrder ((relayMachine hmac).trace s calls))
    {now : UInt64} (hnow : ∀ step ∈ (relayMachine hmac).trace s calls, step.event.now ≤ now) :
    ((relayMachine hmac).run s calls).WithinQuota quota now := by
  obtain ⟨_, hempty, _, hquota, _⟩ := new_ok hnew
  have hstart : ∀ now, s.Bounded now := by
    intro now
    constructor
    · rw [hempty]
      exact zero_le _
    · intro username authIdentity
      rw [hempty]
      exact zero_le _
    · intro key other allocation alloc' hlook
      rw [hempty] at hlook
      cases hlook
    · intro key allocation hlook
      rw [hempty] at hlook
      cases hlook
  have hrun := RelayState.Bounded.run hstart calls horder hnow
  have hquota' := (run_constants hmac s calls).2.1
  rw [hquota] at hquota'
  rw [← hquota']
  exact ⟨hrun.total, hrun.per_user, hrun.distinct,
    fun key allocation hlook => (hrun.each key allocation hlook).withinQuota⟩

/-- A request of the sample user for the sample peer. -/
def sampleAsk (method : Method) (attributes : List Attribute) : AuthenticatedRequest :=
  sampleRequest sampleTuple (sampleEncoded method (.xorPeerAddress samplePeer :: attributes) [99])

/-- The channel that is bound at 40 expires at 640, and its peer is bound again in the quarantine
that follows. -/
def sampleBindings : List (UInt64 × RelayCall) :=
  [(10, .create sampleTuple sampleCredentials sampleRelay none),
    (20, .authenticateRequest sampleTuple samplePermission),
    (30, .createPermissions (sampleAsk .createPermission [])),
    (40, .bindChannel (sampleAsk .channelBind [.channelNumber 0x4000])),
    (500, .refresh (sampleAsk .refresh [.lifetime 600])),
    (700, .bindChannel (sampleAsk .channelBind [.channelNumber 0x4001])),
    (710, .bindChannel (sampleAsk .channelBind [.channelNumber 0x4000])),
    (720, .authorizeChannelData sampleTuple 0x4000 9)]

/-- The permissions, the channels and the bindings in quarantine of the sample allocation. -/
def sampleHeld (s : RelayState) : Option (List Nat) :=
  (s.allocations.lookup sampleTuple).map fun allocation =>
    [allocation.permissions.length, allocation.channels.length, allocation.expiredBindings.length]

theorem default_stays_within_quota : ∃ s counter',
    new default {} 1 = (.ok s, counter') ∧
      ((relayMachine sampleHmac).trace s sampleBindings).map (fun step => sampleHeld step.post) =
        [some [0, 0, 0], some [0, 0, 0], some [1, 0, 0], some [1, 1, 0], some [0, 1, 0],
          some [0, 0, 1], some [1, 1, 1], some [1, 1, 1]] ∧
      (((relayMachine sampleHmac).trace s sampleBindings).drop 5).map (·.event.result) =
        [.error .channelQuarantined, .ok .done, .ok (.peer samplePeer)] ∧
      ((relayMachine sampleHmac).run s sampleBindings).WithinQuota default 720 := by
  refine ⟨_, _, rfl, by decide +kernel, by decide +kernel,
    relay_stays_within_quota sampleHmac (show new default {} 1 = _ from rfl) sampleBindings ?_ ?_⟩
  · decide +kernel
  · decide +kernel

end LatencyDesk.TurnRelay
