import LatencyDesk.Lib.Word

/-!
# Device identities and the identity store

The part of `crates/platform/src/lib.rs` that a pairing reads.  An identity, a
pin and an alias carry the check of their constructor as a field.

`DeviceIdentityStore` is the trait of the same name.  Its methods take `&self`
and reach the operating system, so here each of them also returns the store
after the call.  Nothing is assumed about an instance: it may answer
differently each time, and it may fail at any call.
-/

namespace LatencyDesk.Platform

open Lib

/-- `MAX_PEER_ALIAS_BYTES`. -/
def maxPeerAliasBytes : Nat := 64

inductive PlatformError where
  | invalidIdentity
  | invalidPeerAlias
  | invalidPeerPin
  | invalidState
  | invalidSurface
  | invalidDeadline
  | queueFull
  | accessLost
  | permissionDenied
  | permissionRevoked
  | unsupported
  | deviceLost
  | cursorBounds
  | coordinateBounds
  | presentationInFlight
  | presentationRecoveryRequired
  | presentationLeaseExhausted
  | cursorModeConflict
  | rendererReturnedMismatchedLease
  | rendererPanicked
deriving DecidableEq

/-- The public view of a persistent TLS identity. -/
structure DeviceIdentity where
  spkiFingerprint : Bytes 32
  nonzero : spkiFingerprint.isZero = false
deriving DecidableEq

def DeviceIdentity.fromTlsSpkiFingerprint (fingerprint : Bytes 32) :
    Except PlatformError DeviceIdentity :=
  if h : fingerprint.isZero = false then .ok ⟨fingerprint, h⟩ else .error .invalidIdentity

/-- The check of `PeerAlias::new`.  No byte of a character outside ASCII is an
ASCII control byte, so the characters are looked at, not their bytes. -/
def validPeerAlias (text : String) : Bool :=
  !text.isEmpty && decide (text.utf8ByteSize ≤ maxPeerAliasBytes) &&
    text.toList.all fun char => decide (0x20 ≤ char.toNat ∧ char.toNat ≠ 0x7F)

/-- A local label of a peer. -/
structure PeerAlias where
  text : String
  valid : validPeerAlias text = true
deriving DecidableEq

def PeerAlias.new (text : String) : Except PlatformError PeerAlias :=
  if h : validPeerAlias text = true then .ok ⟨text, h⟩ else .error .invalidPeerAlias

/-- The pin of a peer. -/
structure PeerPin where
  spkiFingerprint : Bytes 32
  nonzero : spkiFingerprint.isZero = false
deriving DecidableEq

def PeerPin.fromTlsSpkiFingerprint (fingerprint : Bytes 32) : Except PlatformError PeerPin :=
  if h : fingerprint.isZero = false then .ok ⟨fingerprint, h⟩ else .error .invalidPeerPin

/-- The store of the own identity and of the pins of the peers. -/
class DeviceIdentityStore (S : Type) where
  loadOrCreateIdentity : S → Except PlatformError DeviceIdentity × S
  loadPeerPin : S → PeerAlias → Except PlatformError (Option PeerPin) × S
  storePeerPin : S → PeerAlias → PeerPin → Except PlatformError Unit × S

end LatencyDesk.Platform
