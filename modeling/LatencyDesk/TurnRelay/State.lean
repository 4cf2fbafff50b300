import LatencyDesk.Lib.Fallible
import LatencyDesk.Lib.Table
import LatencyDesk.TurnRelay.Wire

/-!
# The allocations of the relay

`crates/turn-relay/src/lib.rs`: allocations, their permissions and channel
bindings, and the traffic that they admit.

A method of `RelayState` is a `Relay` method: it answers with a `Result` and it
leaves a state, also when it fails.  Expiry is lazy.  `cleanup` drops the
allocations that are over, and `liveAllocationMut`, through which every method
looks at an allocation, prunes what is over inside it.  So a method that fails
can have pruned the allocation that it looked at.

Credentials and quotas are only built by their checks, so both carry what the
checks ensure.  A `HashMap` is a `Table`, a `HashSet` a list without
duplicates, and a write through `get_mut` is a `replace`.  The keyed hash is a
parameter of the methods that verify a request.
-/

namespace LatencyDesk.TurnRelay

open Lib Protocol

def defaultAllocationLifetime : UInt64 := 600

def maxAllocationLifetime : UInt64 := 600

def permissionLifetime : UInt64 := 300

def channelLifetime : UInt64 := 600

def quarantineLifetime : UInt64 := 300

def maxGlobalAllocations : Nat := 4096

def maxUserAllocations : Nat := 256

def maxPermissions : Nat := 64

def maxChannels : Nat := 64

def maxTrafficPackets : UInt64 := 1000000000

/-- `1 << 40`. -/
def maxTrafficBytes : UInt64 := 1099511627776

def maxCredentialBytes : Nat := 512

inductive StateError where
  | invalidQuota
  | invalidCredentials
  | invalidTuple
  | invalidRelay
  | relayAddressInUse
  | duplicateAllocation
  | missingAllocation
  | expiredAllocation
  | globalQuota
  | userQuota
  | permissionQuota
  | channelQuota
  | trafficQuota
  | invalidPeer
  | invalidChannel
  | channelCollision
  | channelQuarantined
  | notPermitted
  | channelNotBound
  | wrongCredentials
  | staleNonce
  | staleAuthorization
  | incarnationExhausted
  | integrity
  | wrongRequestMethod
  | timeOverflow
deriving DecidableEq

/-- The client and the server of an allocation; the transport is UDP. -/
structure UdpTuple where
  client : SocketAddr
  server : SocketAddr
deriving DecidableEq

/-! ## Credentials and quotas -/

/-- A user name, a realm or a nonce. -/
def CredentialPart (value : List UInt8) : Prop :=
  value ≠ [] ∧ value.length ≤ maxCredentialBytes ∧ (fromUtf8 value).isSome

instance (value : List UInt8) : Decidable (CredentialPart value) :=
  inferInstanceAs (Decidable (_ ∧ _))

def validateCredentialPart (value : List UInt8) :
    Except StateError { part : List UInt8 // CredentialPart part } :=
  if h : CredentialPart value then .ok ⟨value, h⟩ else .error .invalidCredentials

structure AllocationCredentials where
  username : List UInt8
  realm : List UInt8
  nonce : List UInt8
  authIdentity : List UInt8
  integrityKey : Bytes 32
  parts_valid : ∀ value ∈ [username, realm, nonce], CredentialPart value
  identity_valid : authIdentity ≠ [] ∧ authIdentity.length ≤ maxCredentialBytes
deriving DecidableEq

namespace AllocationCredentials

def new (username realm nonce authIdentity : List UInt8) (integrityKey : Bytes 32) :
    Except StateError AllocationCredentials :=
  if hparts : ∀ value ∈ [username, realm, nonce], CredentialPart value then
    if hidentity : authIdentity ≠ [] ∧ authIdentity.length ≤ maxCredentialBytes then
      .ok { username := username, realm := realm, nonce := nonce, authIdentity := authIdentity,
            integrityKey := integrityKey, parts_valid := hparts, identity_valid := hidentity }
    else
      .error .invalidCredentials
  else
    .error .invalidCredentials

/-- `credentials.nonce = nonce` for a nonce that was checked. -/
def withNonce (credentials : AllocationCredentials) (nonce : List UInt8)
    (h : CredentialPart nonce) : AllocationCredentials :=
  { credentials with
    nonce := nonce
    parts_valid := by
      have hparts := credentials.parts_valid
      simp only [List.forall_mem_cons] at hparts ⊢
      exact ⟨hparts.1, hparts.2.1, h, hparts.2.2.2⟩ }

end AllocationCredentials

structure Quota where
  maxAllocations : Nat
  maxAllocationsPerUser : Nat
  maxPermissionsPerAllocation : Nat
  maxChannelsPerAllocation : Nat
  maxPacketsPerAllocation : UInt64
  maxPayloadBytesPerAllocation : UInt64
deriving DecidableEq

namespace Quota

def Valid (quota : Quota) : Prop :=
  (1 ≤ quota.maxAllocations ∧ quota.maxAllocations ≤ maxGlobalAllocations) ∧
    (1 ≤ quota.maxAllocationsPerUser ∧ quota.maxAllocationsPerUser ≤ maxUserAllocations) ∧
    quota.maxAllocationsPerUser ≤ quota.maxAllocations ∧
    (1 ≤ quota.maxPermissionsPerAllocation ∧ quota.maxPermissionsPerAllocation ≤ maxPermissions) ∧
    (1 ≤ quota.maxChannelsPerAllocation ∧ quota.maxChannelsPerAllocation ≤ maxChannels) ∧
    (1 ≤ quota.maxPacketsPerAllocation ∧ quota.maxPacketsPerAllocation ≤ maxTrafficPackets) ∧
    (1 ≤ quota.maxPayloadBytesPerAllocation ∧ quota.maxPayloadBytesPerAllocation ≤ maxTrafficBytes)

instance (quota : Quota) : Decidable quota.Valid := inferInstanceAs (Decidable (_ ∧ _))

def validate (quota : Quota) : Except StateError { quota : Quota // quota.Valid } :=
  if h : quota.Valid then .ok ⟨quota, h⟩ else .error .invalidQuota

instance : Inhabited Quota where
  default :=
    { maxAllocations := 1024
      maxAllocationsPerUser := 8
      maxPermissionsPerAllocation := 32
      maxChannelsPerAllocation := 32
      maxPacketsPerAllocation := maxTrafficPackets
      maxPayloadBytesPerAllocation := maxTrafficBytes }

end Quota

structure PeerPolicy where
  allowIpv4 : Bool := true
  allowIpv6 : Bool := true
  allowWellKnown : Bool := false
  allowLoopbackLab : Bool := false
deriving DecidableEq

/-! ## The state -/

/-- An authorization for one request whose integrity was verified.  Only
`authenticateRequest` gives one out. -/
structure AuthenticatedRequest where
  stateInstance : UInt64
  tuple : UdpTuple
  allocationIncarnation : UInt64
  credentialGeneration : UInt64
  verified : VerifiedMessage
deriving DecidableEq

namespace AuthenticatedRequest

def message (request : AuthenticatedRequest) : Message := request.verified.message

def method (request : AuthenticatedRequest) : Method := request.message.header.method

end AuthenticatedRequest

inductive DeliveryRoute where
  | channelData (channel : UInt16)
  | dataIndication
deriving DecidableEq

structure TrafficCounters where
  packets : UInt64
  payloadBytes : UInt64
deriving DecidableEq

structure AllocationInfo where
  relayedAddress : SocketAddr
  expiresAt : UInt64
deriving DecidableEq

structure Permission where
  expiresAt : UInt64
deriving DecidableEq

structure ChannelBinding where
  peer : SocketAddr
  expiresAt : UInt64
  quarantineUntil : UInt64
deriving DecidableEq

structure ExpiredBinding where
  channel : UInt16
  peer : SocketAddr
  quarantineUntil : UInt64
deriving DecidableEq

structure Allocation where
  credentials : AllocationCredentials
  incarnation : UInt64
  credentialGeneration : UInt64
  relayedAddress : SocketAddr
  expiresAt : UInt64
  permissions : Table IpAddr Permission
  channels : Table UInt16 ChannelBinding
  expiredBindings : List ExpiredBinding
  counters : TrafficCounters

namespace Allocation

/-- The bindings that are over, as they go into quarantine. -/
def overdue (allocation : Allocation) (now : UInt64) : List ExpiredBinding :=
  allocation.channels.entries.filterMap fun entry =>
    if entry.2.expiresAt ≤ now then
      some { channel := entry.1, peer := entry.2.peer,
             quarantineUntil := entry.2.quarantineUntil }
    else
      none

/-- Drops expired permissions and channels. -/
def pruneChildren (allocation : Allocation) (now : UInt64) : Allocation :=
  let expired := allocation.overdue now
  { allocation with
    permissions := allocation.permissions.retain fun _ permission => now < permission.expiresAt
    channels := allocation.channels.eraseAll (expired.map (·.channel))
    expiredBindings := (allocation.expiredBindings ++ expired).filter fun binding =>
      now < binding.quarantineUntil }

end Allocation

structure RelayState where
  stateInstance : UInt64
  allocations : Table UdpTuple Allocation
  nextIncarnation : UInt64
  quota : Quota
  policy : PeerPolicy
  quota_valid : quota.Valid

/-- A method that takes `&mut RelayState`. -/
abbrev Relay (α : Type) := Fallible RelayState StateError α

/-! ## What a request says -/

/-- The lifetime that is granted, whatever was asked. -/
def desiredLifetime (_requested : Option UInt64) : UInt64 :=
  min defaultAllocationLifetime maxAllocationLifetime

structure RequestCredentials where
  username : List UInt8
  realm : List UInt8
  nonce : List UInt8
deriving DecidableEq

/-- The last attribute that the choice takes. -/
def lastAttribute {α : Type} (message : Message) (pick : Attribute → Option α) : Option α :=
  message.attributes.foldl (fun found attribute' => (pick attribute').or found) none

def requestCredentials (message : Message) : Except StateError RequestCredentials :=
  let username := lastAttribute message fun
    | .username value => some value
    | _ => none
  let realm := lastAttribute message fun
    | .realm value => some value
    | _ => none
  let nonce := lastAttribute message fun
    | .nonce value => some value
    | _ => none
  match username, realm, nonce with
  | some username, some realm, some nonce =>
    .ok { username := username, realm := realm, nonce := nonce }
  | _, _, _ => .error .wrongCredentials

def requestLifetime (message : Message) : Except StateError UInt64 :=
  if message.header.method ≠ .refresh then
    .error .wrongRequestMethod
  else
    .ok ((message.attributes.findSome? fun
      | .lifetime seconds => some seconds.toUInt64
      | _ => none).getD defaultAllocationLifetime)

/-- The addresses of the XOR-PEER-ADDRESS attributes. -/
def Message.peers (message : Message) : List SocketAddr :=
  message.attributes.filterMap fun
    | .xorPeerAddress peer => some peer
    | _ => none

def requestPeers (message : Message) : Except StateError (List SocketAddr) :=
  if message.header.method ≠ .createPermission then
    .error .wrongRequestMethod
  else if message.peers = [] then
    .error .invalidPeer
  else
    .ok message.peers

def requestChannel (message : Message) : Except StateError (UInt16 × SocketAddr) :=
  if message.header.method ≠ .channelBind then
    .error .wrongRequestMethod
  else
    let channel := lastAttribute message fun
      | .channelNumber channel => some channel
      | _ => none
    let peer := lastAttribute message fun
      | .xorPeerAddress peer => some peer
      | _ => none
    match channel, peer with
    | some channel, some peer => .ok (channel, peer)
    | _, _ => .error .invalidChannel

/-! ## Addresses -/

def usableAddress (address : SocketAddr) : Bool :=
  address.port ≠ 0 && !address.ip.isUnspecified && !address.ip.isMulticast &&
    !address.ip.isBroadcast

def validateTuple (key : UdpTuple) : Except StateError Unit :=
  if !usableAddress key.client || !usableAddress key.server ||
      key.client.isIpv4 != key.server.isIpv4 || key.client = key.server then
    .error .invalidTuple
  else
    .ok ()

def validateRelay (policy : PeerPolicy) (key : UdpTuple) (relayedAddress : SocketAddr) :
    Except StateError Unit :=
  if !usableAddress relayedAddress || relayedAddress.isIpv4 != key.server.isIpv4 ||
      (relayedAddress.isIpv4 && !policy.allowIpv4) ||
      (!relayedAddress.isIpv4 && !policy.allowIpv6) ||
      (relayedAddress.ip.isLoopback && !policy.allowLoopbackLab) then
    .error .invalidRelay
  else
    .ok ()

/-- The policy allows to relay to a peer. -/
def validatePeer (policy : PeerPolicy) (relayedAddress peer : SocketAddr) :
    Except StateError Unit :=
  if !usableAddress peer || peer.isIpv4 != relayedAddress.isIpv4 ||
      (peer.isIpv4 && !policy.allowIpv4) || (!peer.isIpv4 && !policy.allowIpv6) ||
      (peer.ip.isLoopback && !policy.allowLoopbackLab) ||
      (peer.port < 1024 && !policy.allowWellKnown) then
    .error .invalidPeer
  else
    .ok ()

/-- The policy allows a permission. -/
def validatePermissionIp (policy : PeerPolicy) (relayedAddress : SocketAddr) (peerIp : IpAddr) :
    Except StateError Unit :=
  if peerIp.isUnspecified || peerIp.isMulticast || peerIp.isBroadcast ||
      peerIp.isIpv4 != relayedAddress.isIpv4 || (peerIp.isIpv4 && !policy.allowIpv4) ||
      (!peerIp.isIpv4 && !policy.allowIpv6) ||
      (peerIp.isLoopback && !policy.allowLoopbackLab) then
    .error .invalidPeer
  else
    .ok ()

/-- `validate_permission_ip` for each peer, up to the first error. -/
def validatePermissionIps (policy : PeerPolicy) (relayedAddress : SocketAddr) :
    List SocketAddr → Except StateError Unit
  | [] => .ok ()
  | peer :: peers =>
    match validatePermissionIp policy relayedAddress peer.ip with
    | .error e => .error e
    | .ok () => validatePermissionIps policy relayedAddress peers

/-! ## Methods -/

namespace RelayState

/-- `RelayState::new`, with the counter of instances as its state. -/
def new (quota : Quota) (policy : PeerPolicy) : Fallible UInt64 StateError RelayState := do
  let current ← Fallible.get
  let following ← .okOr (checkedAdd current 1) .incarnationExhausted
  .modify fun _ => following
  let quota ← .ofExcept quota.validate
  return { stateInstance := current, allocations := ∅, nextIncarnation := 0,
           quota := quota.1, policy := policy, quota_valid := quota.2 }

def allocationCount (state : RelayState) : Nat := state.allocations.length

/-- Write the allocation back. -/
def put (state : RelayState) (key : UdpTuple) (allocation : Allocation) : RelayState :=
  { state with allocations := state.allocations.replace key allocation }

/-- The state after `cleanup`. -/
def cleanedAt (state : RelayState) (now : UInt64) : RelayState :=
  { state with
    allocations := state.allocations.retain fun _ allocation => now < allocation.expiresAt }

def cleanup (now : UInt64) : Relay Unit := .modify (·.cleanedAt now)

/-- An allocation that has not expired, pruned. -/
def liveAllocationMut (key : UdpTuple) (now : UInt64) : Relay Allocation := fun state =>
  match state.allocations.lookup key with
  | none => (.error .missingAllocation, state)
  | some allocation =>
    if allocation.expiresAt ≤ now then
      (.error .expiredAllocation, state)
    else
      (.ok (allocation.pruneChildren now), state.put key (allocation.pruneChildren now))

/-- The allocation that a request was checked for. -/
def authorizedAllocationMut (request : AuthenticatedRequest) (now : UInt64)
    (expectedMethod : Method) : Relay Allocation := do
  .failIf (request.method ≠ expectedMethod) .wrongRequestMethod
  let state ← Fallible.get
  .failIf (request.stateInstance ≠ state.stateInstance) .staleAuthorization
  let allocation ← liveAllocationMut request.tuple now
  .failIf (allocation.incarnation ≠ request.allocationIncarnation) .staleAuthorization
  .failIf (allocation.credentialGeneration ≠ request.credentialGeneration) .staleNonce
  return allocation

/-- The allocation is one of this user. -/
def ofUser (username authIdentity : List UInt8) (allocation : Allocation) : Bool :=
  allocation.credentials.username = username && allocation.credentials.authIdentity = authIdentity

/-- The allocation that `create` inserts. -/
def freshAllocation (credentials : AllocationCredentials) (relayedAddress : SocketAddr)
    (incarnation expiresAt : UInt64) : Allocation :=
  { credentials := credentials
    incarnation := incarnation
    credentialGeneration := 1
    relayedAddress := relayedAddress
    expiresAt := expiresAt
    permissions := ∅
    channels := ∅
    expiredBindings := []
    counters := { packets := 0, payloadBytes := 0 } }

/-- A new allocation within the quota. -/
def create (key : UdpTuple) (credentials : AllocationCredentials) (relayedAddress : SocketAddr)
    (now : UInt64) (requestedLifetime : Option UInt64) : Relay AllocationInfo := do
  .ofExcept (validateTuple key)
  let before ← Fallible.get
  .ofExcept (validateRelay before.policy key relayedAddress)
  cleanup now
  let state ← Fallible.get
  .failIf ((state.allocations.lookup key).isSome) .duplicateAllocation
  .failIf (state.allocations.entries.any fun entry => entry.2.relayedAddress = relayedAddress)
    .relayAddressInUse
  .failIf (state.quota.maxAllocations ≤ state.allocations.length) .globalQuota
  .failIf (state.quota.maxAllocationsPerUser ≤
    state.allocations.count fun _ allocation =>
      ofUser credentials.username credentials.authIdentity allocation) .userQuota
  let expiresAt ← .okOr (checkedAdd now (desiredLifetime requestedLifetime)) .timeOverflow
  let incarnation ← .okOr (checkedAdd state.nextIncarnation 1) .incarnationExhausted
  .modify fun state =>
    { state with
      nextIncarnation := incarnation
      allocations := state.allocations.insert key
        (freshAllocation credentials relayedAddress incarnation expiresAt) }
  return { relayedAddress := relayedAddress, expiresAt := expiresAt }

section authentication

variable (hmac : List UInt8 → List UInt8 → Bytes 32)

/-- Checks the integrity and the credentials. -/
def authenticateRequestInner (key : UdpTuple) (encodedRequest : List UInt8) (now : UInt64)
    (allowStaleNonce : Bool) : Relay AuthenticatedRequest := do
  let keyed ← liveAllocationMut key now
  let verified ← .ofExcept
    ((verifyIntegrity hmac encodedRequest keyed.credentials.integrityKey.toList).mapError
      fun _ => .integrity)
  .failIf (verified.message.header.kind ≠ .request) .wrongRequestMethod
  let credentials ← .ofExcept (requestCredentials verified.message)
  let state ← Fallible.get
  let allocation ← liveAllocationMut key now
  .failIf (allocation.credentials.username ≠ credentials.username ∨
    allocation.credentials.realm ≠ credentials.realm) .wrongCredentials
  .failIf (allowStaleNonce = false ∧ allocation.credentials.nonce ≠ credentials.nonce) .staleNonce
  return { stateInstance := state.stateInstance, tuple := key,
           allocationIncarnation := allocation.incarnation,
           credentialGeneration := allocation.credentialGeneration, verified := verified }

/-- A request under the present nonce. -/
def authenticateRequest (key : UdpTuple) (encodedRequest : List UInt8) (now : UInt64) :
    Relay AuthenticatedRequest :=
  authenticateRequestInner hmac key encodedRequest now false

/-- The material for a signed 438 response. -/
structure StaleNonceChallenge where
  realm : List UInt8
  nonce : List UInt8
  integrityKey : Bytes 32
deriving DecidableEq

/-- The answer to an outdated nonce. -/
def staleNonceChallenge (key : UdpTuple) (encodedRequest : List UInt8) (now : UInt64) :
    Relay StaleNonceChallenge := do
  let request ← authenticateRequestInner hmac key encodedRequest now true
  let supplied ← .ofExcept (requestCredentials request.message)
  let allocation ← liveAllocationMut key now
  .failIf (allocation.credentials.nonce = supplied.nonce) .staleNonce
  return { realm := allocation.credentials.realm, nonce := allocation.credentials.nonce,
           integrityKey := allocation.credentials.integrityKey }

end authentication

def rotateNonce (request : AuthenticatedRequest) (nonce : List UInt8) (now : UInt64) :
    Relay Unit := do
  let nonce ← .ofExcept (validateCredentialPart nonce)
  let allocation ← authorizedAllocationMut request now request.method
  let nextGeneration ← .okOr (checkedAdd allocation.credentialGeneration 1) .timeOverflow
  .modify (·.put request.tuple { allocation with
    credentials := allocation.credentials.withNonce nonce.1 nonce.2
    credentialGeneration := nextGeneration })

/-- Remove the allocation, for a refresh with lifetime zero. -/
def remove (key : UdpTuple) : Relay Unit := do
  let state ← Fallible.get
  let _ ← .okOr (state.allocations.lookup key) .missingAllocation
  .modify fun state => { state with allocations := state.allocations.erase key }

/-- Extends an allocation, or ends it. -/
def refresh (request : AuthenticatedRequest) (now : UInt64) : Relay (Option AllocationInfo) := do
  let _ ← authorizedAllocationMut request now .refresh
  let requestedLifetime ← .ofExcept (requestLifetime request.message)
  if requestedLifetime = 0 then
    remove request.tuple
    return none
  else
    let expiresAt ←
      .okOr (checkedAdd now (desiredLifetime (some requestedLifetime))) .timeOverflow
    let allocation ← authorizedAllocationMut request now .refresh
    .modify (·.put request.tuple { allocation with expiresAt := expiresAt })
    return some { relayedAddress := allocation.relayedAddress, expiresAt := expiresAt }

/-- Lets the peers of a request send. -/
def createPermissions (request : AuthenticatedRequest) (now : UInt64) : Relay Unit := do
  let peers ← .ofExcept (requestPeers request.message)
  let state ← Fallible.get
  .failIf (peers = [] ∨ state.quota.maxPermissionsPerAllocation < peers.length) .permissionQuota
  let checked ← authorizedAllocationMut request now .createPermission
  .ofExcept (validatePermissionIps state.policy checked.relayedAddress peers)
  let uniqueIps := (peers.map (·.ip)).dedup
  let expiresAt ← .okOr (checkedAdd now permissionLifetime) .timeOverflow
  let allocation ← authorizedAllocationMut request now .createPermission
  let newCount := uniqueIps.countP fun ip => (allocation.permissions.lookup ip).isNone
  .failIf (state.quota.maxPermissionsPerAllocation < allocation.permissions.length + newCount)
    .permissionQuota
  .modify (·.put request.tuple { allocation with
    permissions := allocation.permissions.insertAll uniqueIps { expiresAt := expiresAt } })

/-- A binding that shares the channel or the peer with this one, and not both. -/
def halfShared (channel : UInt16) (peer : SocketAddr) (binding : ExpiredBinding) : Bool :=
  (binding.channel = channel && binding.peer ≠ peer) ||
    (binding.peer = peer && binding.channel ≠ channel)

/-- Binds a channel to a peer. -/
def bindChannel (request : AuthenticatedRequest) (now : UInt64) : Relay Unit := do
  let (channel, peer) ← .ofExcept (requestChannel request.message)
  .failIf (¬(channelMin ≤ channel ∧ channel ≤ channelMax)) .invalidChannel
  let checked ← authorizedAllocationMut request now .channelBind
  let state ← Fallible.get
  .ofExcept (validatePeer state.policy checked.relayedAddress peer)
  let permissionExpires ← .okOr (checkedAdd now permissionLifetime) .timeOverflow
  let channelExpires ← .okOr (checkedAdd now channelLifetime) .timeOverflow
  let quarantineUntil ← .okOr (checkedAdd channelExpires quarantineLifetime) .timeOverflow
  let allocation ← authorizedAllocationMut request now .channelBind
  .failIf (allocation.expiredBindings.any fun expired =>
    now < expired.quarantineUntil && halfShared channel peer expired) .channelQuarantined
  .failIf (((allocation.channels.lookup channel).any fun binding => binding.peer ≠ peer) ||
    allocation.channels.entries.any fun entry => entry.1 ≠ channel && entry.2.peer = peer)
    .channelCollision
  .failIf ((allocation.channels.lookup channel).isNone ∧
    state.quota.maxChannelsPerAllocation ≤ allocation.channels.length) .channelQuota
  .failIf ((allocation.permissions.lookup peer.ip).isNone ∧
    state.quota.maxPermissionsPerAllocation ≤ allocation.permissions.length) .permissionQuota
  .modify (·.put request.tuple { allocation with
    permissions := allocation.permissions.insert peer.ip { expiresAt := permissionExpires }
    channels := allocation.channels.insert channel
      { peer := peer, expiresAt := channelExpires, quarantineUntil := quarantineUntil } })

/-- Counts a payload that a permission covers. -/
def requirePermissionAndAccount (key : UdpTuple) (peer : SocketAddr) (payloadBytes : UInt64)
    (now : UInt64) : Relay Unit := do
  let state ← Fallible.get
  let allocation ← liveAllocationMut key now
  .failIf (allocation.permissions.lookup peer.ip).isNone .notPermitted
  let packets ← .okOr (checkedAdd allocation.counters.packets 1) .trafficQuota
  let payloadBytes ← .okOr (checkedAdd allocation.counters.payloadBytes payloadBytes) .trafficQuota
  .failIf (state.quota.maxPacketsPerAllocation < packets ∨
    state.quota.maxPayloadBytesPerAllocation < payloadBytes) .trafficQuota
  .modify (·.put key { allocation with
    counters := { packets := packets, payloadBytes := payloadBytes } })

/-- A client sends to a peer. -/
def authorizeSend (key : UdpTuple) (peer : SocketAddr) (payloadBytes now : UInt64) :
    Relay Unit := do
  let allocation ← liveAllocationMut key now
  let state ← Fallible.get
  .ofExcept (validatePeer state.policy allocation.relayedAddress peer)
  requirePermissionAndAccount key peer payloadBytes now

/-- A client sends on a channel. -/
def authorizeChannelData (key : UdpTuple) (channel : UInt16) (payloadBytes now : UInt64) :
    Relay SocketAddr := do
  let allocation ← liveAllocationMut key now
  let binding ← .okOr (allocation.channels.lookup channel) .channelNotBound
  requirePermissionAndAccount key binding.peer payloadBytes now
  return binding.peer

/-- A peer sends to the client. -/
def routePeerDatagram (key : UdpTuple) (peer : SocketAddr) (payloadBytes now : UInt64) :
    Relay DeliveryRoute := do
  let checked ← liveAllocationMut key now
  let state ← Fallible.get
  .ofExcept (validatePermissionIp state.policy checked.relayedAddress peer.ip)
  requirePermissionAndAccount key peer payloadBytes now
  let allocation ← liveAllocationMut key now
  return (allocation.channels.entries.find? fun entry => entry.2.peer = peer).elim
    .dataIndication fun entry => .channelData entry.1

def allocationInfo (key : UdpTuple) (now : UInt64) : Relay AllocationInfo := do
  let allocation ← liveAllocationMut key now
  return { relayedAddress := allocation.relayedAddress, expiresAt := allocation.expiresAt }

def counters (key : UdpTuple) (now : UInt64) : Relay TrafficCounters := do
  let allocation ← liveAllocationMut key now
  return allocation.counters

end RelayState

end LatencyDesk.TurnRelay
