import LatencyDesk.Lib.Word

/-!
# Wire types shared by the session crate

The types of `crates/protocol` that a session state machine reads: addresses,
relay providers, the session stamp and the route transition record.  The
`ConnectionPath` of `crates/session/src/nat.rs` stands here too, because the
route controller and the router both name it.

`ProtocolError` keeps the errors that the modelled functions return.
-/

namespace LatencyDesk.Protocol

open Lib

/-- The hash function of the `sha2` crate.  It is a parameter of every
definition that uses it. -/
abbrev Sha256 := List UInt8 → Bytes 32

/-- `WIRE_VERSION`. -/
def wireVersion : UInt8 := 2

inductive WireIpAddr where
  | v4 (bytes : Bytes 4)
  | v6 (bytes : Bytes 16)
deriving DecidableEq

inductive RelayProvider where
  | none
  | turn
  | derp
deriving DecidableEq

/-- `provider as u8`. -/
def RelayProvider.toByte : RelayProvider → UInt8
  | .none => 0
  | .turn => 1
  | .derp => 2

/-- A network path of a session. -/
inductive ConnectionPath where
  | direct (localIp : WireIpAddr) (localPort : UInt16) (remoteIp : WireIpAddr)
      (remotePort : UInt16) (pairPriority : UInt64)
  | relay (relaySessionId : UInt64) (provider : RelayProvider) (remotePeerId : Bytes 16)
deriving DecidableEq

/-! ## The session stamp -/

inductive ProtocolError where
  | truncated (expected actual : Nat)
  | badMagic
  | unsupportedVersion (version : UInt8)
  | reservedBits
  | unknownMediaKind (kind : UInt8)
  | unknownFlags (flags : UInt16)
  | frameLength (length : UInt32)
  | fragmentLength (length : UInt16)
  | fragmentRange
  | keyframeHasDependency
  | invalidDependency (frameId dependencyFrameId : UInt64)
  | payloadLength (expected actual : Nat)
  | invalidSessionStamp
  | inactiveInputStamp
  | inactiveMediaStamp
  | streamPayloadLength (limit actual : Nat)
  | invalidMediaStreamId
  | mediaEpochMismatch (headerEpoch stampEpoch : UInt32)
  | invalidRouteTransition
  | invalidRouteTransitionStage (stage : UInt8)
  | invalidCandidateComponent
  | invalidCandidatePort
  | invalidCandidateAddress
  | invalidCandidateRelayProvider
  | unsupportedCandidateTransport
  | invalidCandidatePriority
  | invalidTransportProtocol (value : UInt8)
  | invalidCandidateType (value : UInt8)
  | invalidRelayProvider (value : UInt8)
  | candidateExchangeCount (count : Nat)
  | candidateExchangeLength (length : Nat)
  | invalidCandidateExchangeId
  | invalidCandidateGeneration
  | unsupportedCandidateType
  | mixedCandidateAddressFamily
  | relatedCandidateAddressFamily
  | duplicateCandidate
  | controlLength (length : UInt32)
  | invalidIceCredentialRole (value : UInt8)
  | invalidIceCredentialExchangeId
  | invalidIceCredentialGeneration
  | invalidIceCredentialUfrag
  | invalidIceCredentialPassword
  | invalidIceCredentialCharset
  | invalidRendezvousRole (value : UInt8)
  | invalidRendezvousRegistration
  | rendezvousLength (length : Nat)
  | unknownControlKind (kind : UInt8)
  | unknownControlFlags (flags : UInt16)
  | packetLength
  | expiredMediaDatagram
  | replayedPacket (sequence : UInt64)
deriving DecidableEq

/-- Session identity and lifecycle values. -/
structure SessionStamp where
  sessionId : UInt64
  generation : UInt64
  authorizationEpoch : UInt32
  displayEpoch : UInt32
  codecEpoch : UInt32
  routeEpoch : UInt64
deriving DecidableEq

def SessionStamp.validatePending (stamp : SessionStamp) : Except ProtocolError Unit :=
  if stamp.sessionId = 0 ∨ stamp.generation = 0 ∨ stamp.routeEpoch = 0 then
    .error .invalidSessionStamp
  else
    .ok ()

/-! ## The route transition record -/

inductive RouteTransitionStage where
  | prepare
  | prepared
  | commit
  | activated
  | confirmed
deriving DecidableEq

structure RouteTransitionMessage where
  version : UInt8
  stage : RouteTransitionStage
  sequence : UInt64
  baseRouteEpoch : UInt64
  nextRouteEpoch : UInt64
  expiresAtNs : UInt64
  routeDigest : Bytes 32
  transcriptDigest : Bytes 32
deriving DecidableEq

end LatencyDesk.Protocol
