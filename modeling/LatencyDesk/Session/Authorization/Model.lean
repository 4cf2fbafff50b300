import LatencyDesk.Lib.Machine
import LatencyDesk.Lib.Word

/-!
# The host access policy

The model of `crates/session/src/authorization.rs`.  Fingerprints, session ids
and capability sets carry the check of their constructor as a field.  A method
that takes `&mut self` returns its result and the policy after the call.

`getrandom` is an argument.  The `Entropy` of a call is the byte stream that
`getrandom` hands out during it, and a draw past the end of the stream fails.
Every sequence of draws that ends a call is such a stream, failures included.

`AccessCall` lists the fifteen public methods that take `&mut self`.  The
readers `pinned_devices`, `is_pinned`, `active_connection` and
`pending_request` change nothing, so they are no calls of the machine.
-/

namespace LatencyDesk.Session.Authorization

open Lib

/-- `MAX_PINNED_DEVICES`. -/
def maxPinnedDevices : Nat := 64

/-- `MAX_PAIRING_TTL_NS`, five minutes. -/
def maxPairingTtlNs : UInt64 := 5 * 60 * 1_000_000_000

/-- `MAX_SESSION_TTL_NS`, one day. -/
def maxSessionTtlNs : UInt64 := 24 * 60 * 60 * 1_000_000_000

inductive AccessError where
  | invalidFingerprint
  | invalidSessionId
  | invalidAuthorizationEpoch
  | invalidCapabilities
  | invalidTtl
  | invalidExpiry
  | invalidPairingSecret
  | viewCapabilityRequired
  | deviceAlreadyPinned
  | deviceNotPinned
  | pinnedDeviceLimit
  | pairingInProgress
  | noPendingPairing
  | pairingMismatch
  | pairingExpired
  | pairingAlreadyConfirmed
  | pairingNotConfirmed
  | stalePairingHandle
  | connectionExists
  | noActiveConnection
  | staleConnectionContext
  | sessionInProgress
  | sessionApprovalPending
  | staleSessionHandle
  | activeSessionExists
  | noPendingSession
  | approvalExceedsRequest
  | authorizationExpired
  | rngFailure
deriving DecidableEq

/-! ## Values -/

/-- A device fingerprint.  All-zero bytes are no fingerprint. -/
@[ext] structure DeviceFingerprint where
  bytes : Bytes 32
  nonzero : bytes.isZero = false

instance : DecidableEq DeviceFingerprint := fun x y =>
  decidable_of_iff (x.bytes = y.bytes) DeviceFingerprint.ext_iff.symm

def DeviceFingerprint.new (bytes : Bytes 32) : Except AccessError DeviceFingerprint :=
  if h : bytes.isZero = false then .ok ⟨bytes, h⟩ else .error .invalidFingerprint

structure SessionId where
  value : UInt64
  nonzero : value ≠ 0
deriving DecidableEq

def SessionId.new (value : UInt64) : Except AccessError SessionId :=
  if h : value ≠ 0 then .ok ⟨value, h⟩ else .error .invalidSessionId

structure AuthorizationEpoch where
  value : UInt32
deriving DecidableEq

inductive Capability where
  | view
  | input
deriving DecidableEq

/-- `capability as u8`. -/
def Capability.bits : Capability → UInt8
  | .view => 1
  | .input => 2

/-- `CAPABILITY_MASK`. -/
def capabilityMask : UInt8 := Capability.view.bits ||| Capability.input.bits

/-- A non-empty set of known capabilities. -/
structure CapabilitySet where
  bits : UInt8
  valid : bits ≠ 0 ∧ bits &&& ~~~capabilityMask = 0
deriving DecidableEq

namespace CapabilitySet

def fromBits (bits : UInt8) : Except AccessError CapabilitySet :=
  if h : bits ≠ 0 ∧ bits &&& ~~~capabilityMask = 0 then .ok ⟨bits, h⟩
  else .error .invalidCapabilities

def viewOnly : CapabilitySet := ⟨Capability.view.bits, by decide⟩

def viewAndInput : CapabilitySet := ⟨capabilityMask, by decide⟩

def contains (set : CapabilitySet) (capability : Capability) : Bool :=
  set.bits &&& capability.bits != 0

/-- Nothing beyond what was requested. -/
def isSubsetOf (set requested : CapabilitySet) : Bool :=
  set.bits &&& ~~~requested.bits == 0

end CapabilitySet

/-- A connection of a device, under an epoch. -/
structure ConnectionContext where
  device : DeviceFingerprint
  sessionId : SessionId
  authorizationEpoch : AuthorizationEpoch
deriving DecidableEq

structure PairingCancellationHandle where
  device : DeviceFingerprint
  generation : UInt64
  nonce : Bytes 16
deriving DecidableEq

structure PairingInvitation where
  device : DeviceFingerprint
  secret : Bytes 32
  cancellationHandle : PairingCancellationHandle
  expiresAtNs : UInt64
deriving DecidableEq

/-- A pairing proof.  `PairingProof::new` refuses an all-zero secret, but
`PairingProof::from_invitation` does not, so the secret is arbitrary. -/
structure PairingProof where
  device : DeviceFingerprint
  secret : Bytes 32
deriving DecidableEq

def PairingProof.new (device : DeviceFingerprint) (secret : Bytes 32) :
    Except AccessError PairingProof :=
  if secret.isZero then .error .invalidPairingSecret else .ok ⟨device, secret⟩

def PairingProof.fromInvitation (invitation : PairingInvitation) : PairingProof :=
  ⟨invitation.device, invitation.secret⟩

structure PairingApprovalHandle where
  device : DeviceFingerprint
  generation : UInt64
  nonce : Bytes 16
deriving DecidableEq

structure SessionRequestHandle where
  device : DeviceFingerprint
  sessionId : SessionId
  authorizationEpoch : AuthorizationEpoch
  requestedCapabilities : CapabilitySet
  generation : UInt64
  nonce : Bytes 16
deriving DecidableEq

/-- A grant, which expires. -/
structure SessionAuthorization where
  device : DeviceFingerprint
  sessionId : SessionId
  authorizationEpoch : AuthorizationEpoch
  capabilities : CapabilitySet
  expiresAtNs : UInt64
deriving DecidableEq

structure PendingPairing where
  device : DeviceFingerprint
  secret : Bytes 32
  cancellationHandle : PairingCancellationHandle
  expiresAtNs : UInt64
  generation : UInt64
deriving DecidableEq

structure PendingApproval where
  handle : PairingApprovalHandle
  cancellationHandle : PairingCancellationHandle
  expiresAtNs : UInt64
deriving DecidableEq

inductive PairingState where
  | idle
  | awaitingProof (pending : PendingPairing)
  | awaitingHostApproval (pending : PendingApproval)
deriving DecidableEq

/-- Who may pair, connect and control. -/
structure HostAccessPolicy where
  pinnedDevices : List DeviceFingerprint
  nextEpoch : UInt32
  nextGeneration : UInt64
  pairing : PairingState
  activeConnection : Option ConnectionContext
  pendingSession : Option SessionRequestHandle
  activeSession : Option SessionAuthorization
deriving DecidableEq

/-! ## Randomness -/

/-- The bytes that `getrandom` hands out during one call.  Past their end it
fails. -/
abbrev Entropy := List UInt8

def randomBytes (n : Nat) (entropy : Entropy) : Except AccessError (Bytes n × Entropy) :=
  if h : n ≤ entropy.length then
    .ok (⟨entropy.take n, by simp [h]⟩, entropy.drop n)
  else
    .error .rngFailure

/-- Draw eight bytes until they are not all zero. -/
def generateSessionId : Entropy → Except AccessError SessionId
  | b0 :: b1 :: b2 :: b3 :: b4 :: b5 :: b6 :: b7 :: rest =>
    if h : UInt64.ofNat (leNat [b0, b1, b2, b3, b4, b5, b6, b7]) ≠ 0 then .ok ⟨_, h⟩
    else generateSessionId rest
  | _ => .error .rngFailure

/-! ## The methods of the policy -/

namespace HostAccessPolicy

/-- `HostAccessPolicy::default`. -/
def default : HostAccessPolicy :=
  { pinnedDevices := []
    nextEpoch := 1
    nextGeneration := 1
    pairing := .idle
    activeConnection := none
    pendingSession := none
    activeSession := none }

def isPinned (p : HostAccessPolicy) (device : DeviceFingerprint) : Bool :=
  p.pinnedDevices.contains device

/-- Adds a device to the pinned ones. -/
def pin (p : HostAccessPolicy) (device : DeviceFingerprint) :
    Except AccessError Unit × HostAccessPolicy :=
  if p.isPinned device then
    (.error .deviceAlreadyPinned, p)
  else if maxPinnedDevices ≤ p.pinnedDevices.length then
    (.error .pinnedDeviceLimit, p)
  else
    (.ok (), { p with pinnedDevices := p.pinnedDevices ++ [device] })

/-- The loop of `from_pinned_devices`. -/
def pinAll (p : HostAccessPolicy) : List DeviceFingerprint → Except AccessError HostAccessPolicy
  | [] => .ok p
  | device :: devices =>
    match p.pin device with
    | (.ok (), p) => pinAll p devices
    | (.error e, _) => .error e

def fromPinnedDevices (devices : List DeviceFingerprint) :
    Except AccessError HostAccessPolicy :=
  default.pinAll devices

/-- Drops a pairing past its time. -/
def expirePairing (p : HostAccessPolicy) (nowNs : UInt64) : Bool × HostAccessPolicy :=
  match p.pairing with
  | .awaitingProof pending =>
    if pending.expiresAtNs ≤ nowNs then (true, { p with pairing := .idle }) else (false, p)
  | .awaitingHostApproval pending =>
    if pending.expiresAtNs ≤ nowNs then (true, { p with pairing := .idle }) else (false, p)
  | .idle => (false, p)

/-- Drops a grant past its time, with its connection. -/
def expireActive (p : HostAccessPolicy) (nowNs : UInt64) : HostAccessPolicy :=
  if p.activeSession.any (fun grant => decide (grant.expiresAtNs ≤ nowNs)) then
    { p with activeSession := none, activeConnection := none, pendingSession := none }
  else
    p

/-- The body of `begin_pairing` after its two sweeps. -/
def beginPairingSwept (p : HostAccessPolicy) (device : DeviceFingerprint) (ttlNs nowNs : UInt64)
    (entropy : Entropy) : Except AccessError PairingInvitation × HostAccessPolicy :=
  if p.isPinned device then
    (.error .deviceAlreadyPinned, p)
  else if maxPinnedDevices ≤ p.pinnedDevices.length then
    (.error .pinnedDeviceLimit, p)
  else if p.pairing ≠ .idle then
    (.error .pairingInProgress, p)
  else if p.pendingSession.isSome ∨ p.activeSession.isSome ∨ p.activeConnection.isSome then
    (.error .sessionInProgress, p)
  else if ttlNs = 0 ∨ maxPairingTtlNs < ttlNs then
    (.error .invalidTtl, p)
  else
    match checkedAdd nowNs ttlNs with
    | none => (.error .invalidExpiry, p)
    | some expiresAtNs =>
      match randomBytes 32 entropy with
      | .error e => (.error e, p)
      | .ok (secret, entropy) =>
        match randomBytes 16 entropy with
        | .error e => (.error e, p)
        | .ok (cancellationNonce, _) =>
          match checkedAdd p.nextGeneration 1 with
          | none => (.error .invalidAuthorizationEpoch, p)
          | some nextGeneration =>
            let cancellationHandle : PairingCancellationHandle :=
              { device := device, generation := p.nextGeneration, nonce := cancellationNonce }
            (.ok
              { device := device
                secret := secret
                cancellationHandle := cancellationHandle
                expiresAtNs := expiresAtNs },
              { p with
                nextGeneration := nextGeneration
                pairing := .awaitingProof
                  { device := device
                    secret := secret
                    cancellationHandle := cancellationHandle
                    expiresAtNs := expiresAtNs
                    generation := p.nextGeneration } })

/-- Invites a device to pair. -/
def beginPairing (p : HostAccessPolicy) (device : DeviceFingerprint) (ttlNs nowNs : UInt64)
    (entropy : Entropy) : Except AccessError PairingInvitation × HostAccessPolicy :=
  ((p.expirePairing nowNs).2.expireActive nowNs).beginPairingSwept device ttlNs nowNs entropy

/-- Uses up the invitation, whatever the proof. -/
def confirmPairing (p : HostAccessPolicy) (proof : PairingProof) (nowNs : UInt64)
    (entropy : Entropy) : Except AccessError PairingApprovalHandle × HostAccessPolicy :=
  match p.pairing with
  | .awaitingProof pending =>
    -- The invitation is consumed before the proof is looked at.
    if pending.expiresAtNs ≤ nowNs then
      (.error .pairingExpired, { p with pairing := .idle })
    else if proof.device ≠ pending.device ∨ proof.secret ≠ pending.secret then
      (.error .pairingMismatch, { p with pairing := .idle })
    else
      match randomBytes 16 entropy with
      | .error e => (.error e, { p with pairing := .idle })
      | .ok (nonce, _) =>
        let handle : PairingApprovalHandle :=
          { device := pending.device, generation := pending.generation, nonce := nonce }
        (.ok handle,
          { p with
            pairing := .awaitingHostApproval
              { handle := handle
                cancellationHandle := pending.cancellationHandle
                expiresAtNs := pending.expiresAtNs } })
  | .awaitingHostApproval _ => (.error .pairingAlreadyConfirmed, p)
  | .idle => (.error .noPendingPairing, p)

/-- Pins the device that proved itself. -/
def approvePairing (p : HostAccessPolicy) (handle : PairingApprovalHandle) (nowNs : UInt64) :
    Except AccessError Unit × HostAccessPolicy :=
  match p.pairing with
  | .awaitingHostApproval pending =>
    if pending.handle ≠ handle then
      (.error .stalePairingHandle, p)
    else if pending.expiresAtNs ≤ nowNs then
      (.error .pairingExpired, { p with pairing := .idle })
    else
      ({ p with pairing := .idle } : HostAccessPolicy).pin handle.device
  | .awaitingProof _ => (.error .pairingNotConfirmed, p)
  | .idle => (.error .noPendingPairing, p)

def rejectPairing (p : HostAccessPolicy) (handle : PairingApprovalHandle) :
    Except AccessError Unit × HostAccessPolicy :=
  match p.pairing with
  | .awaitingHostApproval pending =>
    if pending.handle ≠ handle then
      (.error .stalePairingHandle, p)
    else
      (.ok (), { p with pairing := .idle })
  | .awaitingProof _ => (.error .pairingNotConfirmed, p)
  | .idle => (.error .noPendingPairing, p)

/-- Ends a pairing at any stage. -/
def cancelPairing (p : HostAccessPolicy) (handle : PairingCancellationHandle) :
    Except AccessError Unit × HostAccessPolicy :=
  match p.pairing with
  | .awaitingProof pending =>
    if pending.cancellationHandle ≠ handle then
      (.error .stalePairingHandle, p)
    else
      (.ok (), { p with pairing := .idle })
  | .awaitingHostApproval pending =>
    if pending.cancellationHandle ≠ handle then
      (.error .stalePairingHandle, p)
    else
      (.ok (), { p with pairing := .idle })
  | .idle => (.error .noPendingPairing, p)

/-- The body of `register_verified_one_rtt_connection` after its two sweeps. -/
def registerSwept (p : HostAccessPolicy) (device : DeviceFingerprint) (entropy : Entropy) :
    Except AccessError ConnectionContext × HostAccessPolicy :=
  if p.isPinned device = false then
    (.error .deviceNotPinned, p)
  else if p.pairing ≠ .idle then
    (.error .pairingInProgress, p)
  else
    match generateSessionId entropy with
    | .error e => (.error e, p)
    | .ok sessionId =>
      match checkedAdd32 p.nextEpoch 1 with
      | none => (.error .invalidAuthorizationEpoch, p)
      | some nextEpoch =>
        let context : ConnectionContext :=
          { device := device, sessionId := sessionId, authorizationEpoch := ⟨p.nextEpoch⟩ }
        (.ok context,
          { p with
            nextEpoch := nextEpoch
            pendingSession := none
            activeSession := none
            activeConnection := some context })

/-- Opens a connection of a pinned device. -/
def registerVerifiedOneRttConnection (p : HostAccessPolicy) (device : DeviceFingerprint)
    (nowNs : UInt64) (entropy : Entropy) :
    Except AccessError ConnectionContext × HostAccessPolicy :=
  ((p.expirePairing nowNs).2.expireActive nowNs).registerSwept device entropy

/-- Closes a connection with its request and grant. -/
def closeConnection (p : HostAccessPolicy) (context : ConnectionContext) :
    Option SessionAuthorization × HostAccessPolicy :=
  if p.activeConnection = some context then
    (p.activeSession,
      { p with activeConnection := none, pendingSession := none, activeSession := none })
  else
    (none, p)

/-- Asks for capabilities on the open connection. -/
def requestSession (p : HostAccessPolicy) (context : ConnectionContext)
    (requestedCapabilities : CapabilitySet) (entropy : Entropy) :
    Except AccessError SessionRequestHandle × HostAccessPolicy :=
  if p.pairing ≠ .idle then
    (.error .pairingInProgress, p)
  else if p.isPinned context.device = false then
    (.error .deviceNotPinned, p)
  else
    match p.activeConnection with
    | none => (.error .staleConnectionContext, p)
    | some activeConn =>
      if activeConn ≠ context then
        (.error .staleConnectionContext, p)
      else if p.activeSession.isSome then
        (.error .activeSessionExists, p)
      else if p.pendingSession.isSome then
        (.error .sessionApprovalPending, p)
      else if requestedCapabilities.contains .view = false then
        (.error .viewCapabilityRequired, p)
      else
        match checkedAdd p.nextGeneration 1 with
        | none => (.error .invalidAuthorizationEpoch, p)
        | some nextGeneration =>
          -- The generation is used up even when the nonce cannot be drawn.
          match randomBytes 16 entropy with
          | .error e => (.error e, { p with nextGeneration := nextGeneration })
          | .ok (nonce, _) =>
            let handle : SessionRequestHandle :=
              { device := context.device
                sessionId := context.sessionId
                authorizationEpoch := context.authorizationEpoch
                requestedCapabilities := requestedCapabilities
                generation := p.nextGeneration
                nonce := nonce }
            (.ok handle, { p with nextGeneration := nextGeneration, pendingSession := some handle })

/-- The body of `approve_session` after its sweep. -/
def approveSessionSwept (p : HostAccessPolicy) (handle : SessionRequestHandle)
    (capabilities : CapabilitySet) (ttlNs nowNs : UInt64) :
    Except AccessError SessionAuthorization × HostAccessPolicy :=
  if ttlNs = 0 ∨ maxSessionTtlNs < ttlNs then
    (.error .invalidTtl, p)
  else
    match checkedAdd nowNs ttlNs with
    | none => (.error .invalidExpiry, p)
    | some expiresAtNs =>
      match p.pendingSession with
      | none => (.error .noPendingSession, p)
      | some pending =>
        if pending ≠ handle then
          (.error .staleSessionHandle, p)
        else if p.isPinned pending.device = false then
          (.error .deviceNotPinned, { p with pendingSession := none })
        else
          match p.activeConnection with
          | none => (.error .staleConnectionContext, { p with pendingSession := none })
          | some activeConn =>
            if activeConn.device ≠ pending.device ∨ activeConn.sessionId ≠ pending.sessionId ∨
                activeConn.authorizationEpoch ≠ pending.authorizationEpoch then
              (.error .staleConnectionContext, { p with pendingSession := none })
            else if capabilities.contains .view = false ∨
                capabilities.isSubsetOf pending.requestedCapabilities = false then
              (.error .approvalExceedsRequest, p)
            else
              let authorization : SessionAuthorization :=
                { device := pending.device
                  sessionId := pending.sessionId
                  authorizationEpoch := pending.authorizationEpoch
                  capabilities := capabilities
                  expiresAtNs := expiresAtNs }
              (.ok authorization,
                { p with pendingSession := none, activeSession := some authorization })

/-- Grants some of what was asked for. -/
def approveSession (p : HostAccessPolicy) (handle : SessionRequestHandle)
    (capabilities : CapabilitySet) (ttlNs nowNs : UInt64) :
    Except AccessError SessionAuthorization × HostAccessPolicy :=
  (p.expireActive nowNs).approveSessionSwept handle capabilities ttlNs nowNs

def rejectSession (p : HostAccessPolicy) (handle : SessionRequestHandle) :
    Except AccessError Unit × HostAccessPolicy :=
  match p.pendingSession with
  | none => (.error .noPendingSession, p)
  | some pending =>
    if pending ≠ handle then
      (.error .staleSessionHandle, p)
    else
      (.ok (), { p with pendingSession := none })

/-- Ends the connection and its grant. -/
def revokeActive (p : HostAccessPolicy) : Option SessionAuthorization × HostAccessPolicy :=
  (p.activeSession,
    { p with pendingSession := none, activeConnection := none, activeSession := none })

/-- The device that a pairing in progress is about. -/
def pairingDevice (p : HostAccessPolicy) : Option DeviceFingerprint :=
  match p.pairing with
  | .awaitingProof pending => some pending.device
  | .awaitingHostApproval pending => some pending.handle.device
  | .idle => none

/-- Unpins a device and ends what it has. -/
def revokeDevice (p : HostAccessPolicy) (device : DeviceFingerprint) :
    Except AccessError (Option SessionAuthorization) × HostAccessPolicy :=
  if p.isPinned device = false then
    (.error .deviceNotPinned, p)
  else
    (.ok (if p.activeSession.any (·.device == device) then p.activeSession else none),
      { p with
        pinnedDevices := p.pinnedDevices.erase device
        activeConnection :=
          if p.activeConnection.any (·.device == device) then none else p.activeConnection
        pendingSession :=
          if p.pendingSession.any (·.device == device) then none else p.pendingSession
        pairing := if p.pairingDevice = some device then .idle else p.pairing
        activeSession :=
          if p.activeSession.any (·.device == device) then none else p.activeSession })

def activeGrant (p : HostAccessPolicy) (nowNs : UInt64) :
    Option SessionAuthorization × HostAccessPolicy :=
  ((p.expireActive nowNs).activeSession, p.expireActive nowNs)

/-- The grant is the active one and covers a capability. -/
def isAuthorized (p : HostAccessPolicy) (grant : SessionAuthorization) (capability : Capability)
    (nowNs : UInt64) : Bool × HostAccessPolicy :=
  ((p.activeGrant nowNs).1.any (fun active =>
      active == grant && active.capabilities.contains capability &&
        (p.activeGrant nowNs).2.activeConnection.any (fun conn =>
          conn.device == grant.device && conn.sessionId == grant.sessionId &&
            conn.authorizationEpoch == grant.authorizationEpoch)),
    (p.activeGrant nowNs).2)

end HostAccessPolicy

/-! ## The machine -/

/-- A call of a method that takes `&mut self`.  Calls that draw random bytes
come with the stream that `getrandom` serves them from. -/
inductive AccessCall where
  | beginPairing (device : DeviceFingerprint) (ttlNs nowNs : UInt64) (entropy : Entropy)
  | confirmPairing (proof : PairingProof) (nowNs : UInt64) (entropy : Entropy)
  | approvePairing (handle : PairingApprovalHandle) (nowNs : UInt64)
  | rejectPairing (handle : PairingApprovalHandle)
  | cancelPairing (handle : PairingCancellationHandle)
  | expirePairing (nowNs : UInt64)
  | register (device : DeviceFingerprint) (nowNs : UInt64) (entropy : Entropy)
  | closeConnection (context : ConnectionContext)
  | requestSession (context : ConnectionContext) (requestedCapabilities : CapabilitySet)
      (entropy : Entropy)
  | approveSession (handle : SessionRequestHandle) (capabilities : CapabilitySet)
      (ttlNs nowNs : UInt64)
  | rejectSession (handle : SessionRequestHandle)
  | revokeActive
  | revokeDevice (device : DeviceFingerprint)
  | activeGrant (nowNs : UInt64)
  | isAuthorized (grant : SessionAuthorization) (capability : Capability) (nowNs : UInt64)

/-- A call with the result it returned. -/
inductive AccessEvent where
  | beginPairing (device : DeviceFingerprint) (ttlNs nowNs : UInt64)
      (result : Except AccessError PairingInvitation)
  | confirmPairing (proof : PairingProof) (nowNs : UInt64)
      (result : Except AccessError PairingApprovalHandle)
  | approvePairing (handle : PairingApprovalHandle) (nowNs : UInt64)
      (result : Except AccessError Unit)
  | rejectPairing (handle : PairingApprovalHandle) (result : Except AccessError Unit)
  | cancelPairing (handle : PairingCancellationHandle) (result : Except AccessError Unit)
  | expirePairing (nowNs : UInt64) (result : Bool)
  | register (device : DeviceFingerprint) (nowNs : UInt64)
      (result : Except AccessError ConnectionContext)
  | closeConnection (context : ConnectionContext) (result : Option SessionAuthorization)
  | requestSession (context : ConnectionContext) (requestedCapabilities : CapabilitySet)
      (result : Except AccessError SessionRequestHandle)
  | approveSession (handle : SessionRequestHandle) (capabilities : CapabilitySet)
      (ttlNs nowNs : UInt64) (result : Except AccessError SessionAuthorization)
  | rejectSession (handle : SessionRequestHandle) (result : Except AccessError Unit)
  | revokeActive (result : Option SessionAuthorization)
  | revokeDevice (device : DeviceFingerprint)
      (result : Except AccessError (Option SessionAuthorization))
  | activeGrant (nowNs : UInt64) (result : Option SessionAuthorization)
  | isAuthorized (grant : SessionAuthorization) (capability : Capability) (nowNs : UInt64)
      (result : Bool)
deriving DecidableEq

/-- The policy as a machine over its calls. -/
def accessMachine : Machine HostAccessPolicy AccessCall AccessEvent where
  step p
    | .beginPairing device ttlNs nowNs entropy =>
      record (.beginPairing device ttlNs nowNs) (p.beginPairing device ttlNs nowNs entropy)
    | .confirmPairing proof nowNs entropy =>
      record (.confirmPairing proof nowNs) (p.confirmPairing proof nowNs entropy)
    | .approvePairing handle nowNs =>
      record (.approvePairing handle nowNs) (p.approvePairing handle nowNs)
    | .rejectPairing handle => record (.rejectPairing handle) (p.rejectPairing handle)
    | .cancelPairing handle => record (.cancelPairing handle) (p.cancelPairing handle)
    | .expirePairing nowNs => record (.expirePairing nowNs) (p.expirePairing nowNs)
    | .register device nowNs entropy =>
      record (.register device nowNs) (p.registerVerifiedOneRttConnection device nowNs entropy)
    | .closeConnection context =>
      record (.closeConnection context) (p.closeConnection context)
    | .requestSession context requestedCapabilities entropy =>
      record (.requestSession context requestedCapabilities)
        (p.requestSession context requestedCapabilities entropy)
    | .approveSession handle capabilities ttlNs nowNs =>
      record (.approveSession handle capabilities ttlNs nowNs)
        (p.approveSession handle capabilities ttlNs nowNs)
    | .rejectSession handle => record (.rejectSession handle) (p.rejectSession handle)
    | .revokeActive => record .revokeActive p.revokeActive
    | .revokeDevice device => record (.revokeDevice device) (p.revokeDevice device)
    | .activeGrant nowNs => record (.activeGrant nowNs) (p.activeGrant nowNs)
    | .isAuthorized grant capability nowNs =>
      record (.isAuthorized grant capability nowNs) (p.isAuthorized grant capability nowNs)

/-- A policy that `default` or `from_pinned_devices` returned. -/
def Initial (p : HostAccessPolicy) : Prop :=
  p = .default ∨ ∃ devices, HostAccessPolicy.fromPinnedDevices devices = .ok p

/-! ## A sample run -/

def sampleDevice : DeviceFingerprint := ⟨List.Vector.replicate 32 1, by decide⟩

/-- The invitation that `begin_pairing` returns for the sample device at time
10 with a lifetime of 100. -/
def sampleInvitation : PairingInvitation :=
  { device := sampleDevice
    secret := List.Vector.replicate 32 7
    cancellationHandle :=
      { device := sampleDevice, generation := 1, nonce := List.Vector.replicate 16 7 }
    expiresAtNs := 110 }

def sampleApproval : PairingApprovalHandle :=
  { device := sampleDevice, generation := 1, nonce := List.Vector.replicate 16 9 }

def sampleContext : ConnectionContext :=
  { device := sampleDevice
    sessionId := ⟨0x0303030303030303, by decide⟩
    authorizationEpoch := ⟨1⟩ }

def sampleRequest : SessionRequestHandle :=
  { device := sampleDevice
    sessionId := sampleContext.sessionId
    authorizationEpoch := sampleContext.authorizationEpoch
    requestedCapabilities := .viewAndInput
    generation := 2
    nonce := List.Vector.replicate 16 5 }

def sampleGrant : SessionAuthorization :=
  { device := sampleDevice
    sessionId := sampleContext.sessionId
    authorizationEpoch := sampleContext.authorizationEpoch
    capabilities := .viewOnly
    expiresAtNs := 1050 }

/-- The sample device is invited, proves the secret and is approved. -/
def samplePairingCalls : List AccessCall :=
  [.beginPairing sampleDevice 100 10 (List.replicate 48 7),
    .confirmPairing (.fromInvitation sampleInvitation) 20 (List.replicate 16 9),
    .approvePairing sampleApproval 30]

/-- The same with a second proof between the confirmation and the approval. -/
def sampleRepeatedCalls : List AccessCall :=
  [.beginPairing sampleDevice 100 10 (List.replicate 48 7),
    .confirmPairing (.fromInvitation sampleInvitation) 20 (List.replicate 16 9),
    .confirmPairing (.fromInvitation sampleInvitation) 25 (List.replicate 16 9),
    .approvePairing sampleApproval 30]

/-- The sample device pairs, connects, requests a session and gets a grant. -/
def sampleSessionCalls : List AccessCall :=
  samplePairingCalls ++
    [.register sampleDevice 40 (List.replicate 8 3),
      .requestSession sampleContext .viewAndInput (List.replicate 16 5),
      .approveSession sampleRequest .viewOnly 1000 50]

end LatencyDesk.Session.Authorization
