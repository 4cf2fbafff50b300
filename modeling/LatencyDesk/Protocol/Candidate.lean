import LatencyDesk.Protocol.Types

/-!
# Connection candidates

The candidate descriptor of `crates/protocol/src/lib.rs`, its validation and
the priority of a candidate pair.
-/

namespace LatencyDesk.Protocol

open Lib

inductive CandidateType where
  | host
  | serverReflexive
  | peerReflexive
  | relayed
deriving DecidableEq

inductive TransportProtocol where
  | udp
  | tcp
deriving DecidableEq

structure IceCandidate where
  foundation : Bytes 8
  component : UInt8
  transport : TransportProtocol
  priority : UInt32
  candidateType : CandidateType
  relayProvider : RelayProvider
  ip : WireIpAddr
  port : UInt16
  relatedAddress : Option (WireIpAddr × UInt16)
deriving DecidableEq

/-- Neither unspecified, broadcast nor multicast. -/
def isUsableCandidateAddress : WireIpAddr → Bool
  | .v4 octets =>
    octets != List.Vector.replicate 4 0 && octets != List.Vector.replicate 4 255 &&
      octets.head &&& 0xf0 != 0xe0
  | .v6 octets => octets != List.Vector.replicate 16 0 && octets.head != 0xff

/-- The check of a related address. -/
def validateRelatedAddress : Option (WireIpAddr × UInt16) → Except ProtocolError Unit
  | none => .ok ()
  | some (related, relPort) =>
    if relPort = 0 then
      .error .invalidCandidatePort
    else if isUsableCandidateAddress related = false then
      .error .invalidCandidateAddress
    else
      .ok ()

/-- Checks the parts of a candidate in order. -/
def IceCandidate.validate (candidate : IceCandidate) : Except ProtocolError Unit :=
  if candidate.component = 0 then
    .error .invalidCandidateComponent
  else if candidate.port = 0 then
    .error .invalidCandidatePort
  else if isUsableCandidateAddress candidate.ip = false then
    .error .invalidCandidateAddress
  else
    match validateRelatedAddress candidate.relatedAddress with
    | .error e => .error e
    | .ok () =>
      let isRelayed := candidate.candidateType == .relayed
      let hasRelayProvider := candidate.relayProvider != .none
      if isRelayed ≠ hasRelayProvider then
        .error .invalidCandidateRelayProvider
      else if isRelayed ∧ candidate.transport ≠ .udp then
        .error .unsupportedCandidateTransport
      else if isRelayed ∧ (candidate.priority >>> 24 ≠ 0 ∨
          candidate.priority &&& 0xff ≠ (256 - candidate.component.toUInt32) &&& 0xff) then
        .error .invalidCandidatePriority
      else
        .ok ()

/-- The pair priority of RFC 8445.  The sum wraps as in a release build. -/
def computePairPriority (controllingPrio controlledPrio : UInt32) (isControlling : Bool) :
    UInt64 :=
  let g := if isControlling then controllingPrio.toUInt64 else controlledPrio.toUInt64
  let d := if isControlling then controlledPrio.toUInt64 else controllingPrio.toUInt64
  let min := if g < d then g else d
  let max := if d < g then g else d
  let s : UInt64 := if d < g then 1 else 0
  ((1 : UInt64) <<< 32) * min + 2 * max + s

end LatencyDesk.Protocol
