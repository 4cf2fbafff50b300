import LatencyDesk.Lib.Fnv
import LatencyDesk.Session.Authorization.Model

/-!
# Unattended access tokens

The model of `UnattendedTokenManager` in `crates/session/src/unattended.rs`.
Tokens are pushed and never removed, so a record is named by its index.  Ids
are chosen by the caller and may repeat.  A lookup takes the first match.

`is_unattended_enabled` and `active_token_count` change nothing, so they are
no calls of the machine.
-/

namespace LatencyDesk.Session.Unattended

open Lib Session.Authorization

/-- `MAX_UNATTENDED_TOKEN_TTL_NS`, thirty days. -/
def maxUnattendedTokenTtlNs : UInt64 := 30 * 24 * 60 * 60 * 1_000_000_000

/-- `MAX_UNATTENDED_TOKENS`. -/
def maxUnattendedTokens : Nat := 128

inductive UnattendedError where
  | tokenNotFound
  | tokenExpired
  | tokenRevoked
  | deviceMismatch
  | capabilityEscalation
  | maxSessionsExceeded
  | invalidSecret
  | unattendedDisabled
  | invalidTtl
  | tokenLimitReached
deriving DecidableEq

/-- One round of the expansion of the secret hash. -/
def expandRound (h : UInt64) : UInt64 := (h ^^^ (h >>> 33)) * 0xff51afd7ed558ccd

/-- The eight bytes of each of `rounds` expansion rounds. -/
def expand : Nat → UInt64 → List UInt8
  | 0, _ => []
  | rounds + 1, h => beBytes 8 (expandRound h).toNat ++ expand rounds (expandRound h)

theorem length_expand {rounds : Nat} (h : UInt64) : (expand rounds h).length = 8 * rounds := by
  induction rounds generalizing h with
  | zero => rfl
  | succ rounds ih =>
    rw [expand, List.length_append, length_beBytes, ih]
    omega

/-- The hash that the host stores. -/
def computeSecretHash (secret : Bytes 32) (tokenId : Bytes 16) : Bytes 32 :=
  ⟨expand 4 (Fnv.absorbAll Fnv.offsetBasis (secret.toList ++ tokenId.toList)), length_expand _⟩

structure UnattendedTokenRecord where
  tokenId : Bytes 16
  device : DeviceFingerprint
  allowedCapabilities : CapabilitySet
  issuedAtNs : UInt64
  expiresAtNs : UInt64
  secretHash : Bytes 32
  maxSessions : Option UInt32
  sessionsUsed : UInt32
  isRevoked : Bool
deriving DecidableEq

/-- `UnattendedTokenWire`, what `issue_token` hands out. -/
structure UnattendedTokenWire where
  tokenId : Bytes 16
  deviceFingerprint : Bytes 32
  allowedCapabilities : UInt8
  issuedAtNs : UInt64
  expiresAtNs : UInt64
  signature : Bytes 32
deriving DecidableEq

structure UnattendedTokenManager where
  maxTokenTtlNs : UInt64
  unattendedEnabled : Bool
  tokens : List UnattendedTokenRecord
deriving DecidableEq

/-- The index of the first token with the id. -/
def findToken (tokens : List UnattendedTokenRecord) (tokenId : Bytes 16) : Option Nat :=
  tokens.findIdx? fun record => decide (record.tokenId = tokenId)

namespace UnattendedTokenRecord

/-- The checks of `validate_token` on the record it found. -/
def check (record : UnattendedTokenRecord) (tokenId : Bytes 16) (secret : Bytes 32)
    (device : DeviceFingerprint) (requestedCapabilities : CapabilitySet) (nowNs : UInt64) :
    Except UnattendedError Unit :=
  if record.isRevoked then
    .error .tokenRevoked
  else if record.expiresAtNs ≤ nowNs then
    .error .tokenExpired
  else if record.device ≠ device then
    .error .deviceMismatch
  else if computeSecretHash secret tokenId ≠ record.secretHash then
    .error .invalidSecret
  else if requestedCapabilities.isSubsetOf record.allowedCapabilities = false then
    .error .capabilityEscalation
  else if record.maxSessions.any fun maxSessions => decide (maxSessions ≤ record.sessionsUsed) then
    .error .maxSessionsExceeded
  else
    .ok ()

/-- One more session. -/
def use (record : UnattendedTokenRecord) : UnattendedTokenRecord :=
  { record with sessionsUsed := saturatingAdd32 record.sessionsUsed 1 }

def revoke (record : UnattendedTokenRecord) : UnattendedTokenRecord :=
  { record with isRevoked := true }

end UnattendedTokenRecord

namespace UnattendedTokenManager

def new (maxTokenTtlNs : UInt64) : UnattendedTokenManager :=
  { maxTokenTtlNs := maxTokenTtlNs, unattendedEnabled := true, tokens := [] }

def setUnattendedEnabled (m : UnattendedTokenManager) (enabled : Bool) : UnattendedTokenManager :=
  { m with unattendedEnabled := enabled }

/-- The record that `issue_token` pushes. -/
def makeRecord (tokenId : Bytes 16) (device : DeviceFingerprint)
    (allowedCapabilities : CapabilitySet) (ttlNs : UInt64) (maxSessions : Option UInt32)
    (secret : Bytes 32) (nowNs : UInt64) : UnattendedTokenRecord :=
  { tokenId := tokenId
    device := device
    allowedCapabilities := allowedCapabilities
    issuedAtNs := nowNs
    expiresAtNs := saturatingAdd nowNs ttlNs
    secretHash := computeSecretHash secret tokenId
    maxSessions := maxSessions
    sessionsUsed := 0
    isRevoked := false }

/-- Issues a token and keeps the hash of its secret. -/
def issueToken (m : UnattendedTokenManager) (tokenId : Bytes 16) (device : DeviceFingerprint)
    (allowedCapabilities : CapabilitySet) (ttlNs : UInt64) (maxSessions : Option UInt32)
    (secret : Bytes 32) (nowNs : UInt64) :
    Except UnattendedError UnattendedTokenWire × UnattendedTokenManager :=
  if m.unattendedEnabled = false then
    (.error .unattendedDisabled, m)
  else if ttlNs = 0 ∨ m.maxTokenTtlNs < ttlNs then
    (.error .invalidTtl, m)
  else if maxUnattendedTokens ≤ m.tokens.length then
    (.error .tokenLimitReached, m)
  else
    let record := makeRecord tokenId device allowedCapabilities ttlNs maxSessions secret nowNs
    (.ok
      { tokenId := tokenId
        deviceFingerprint := device.bytes
        allowedCapabilities := allowedCapabilities.bits
        issuedAtNs := nowNs
        expiresAtNs := record.expiresAtNs
        signature := record.secretHash },
      { m with tokens := m.tokens ++ [record] })

/-- Uses a token for a session. -/
def validateToken (m : UnattendedTokenManager) (tokenId : Bytes 16) (secret : Bytes 32)
    (device : DeviceFingerprint) (requestedCapabilities : CapabilitySet) (nowNs : UInt64) :
    Except UnattendedError CapabilitySet × UnattendedTokenManager :=
  if m.unattendedEnabled = false then
    (.error .unattendedDisabled, m)
  else
    match findToken m.tokens tokenId with
    | none => (.error .tokenNotFound, m)
    | some index =>
      match m.tokens[index]? with
      | none => (.error .tokenNotFound, m)
      | some record =>
        match record.check tokenId secret device requestedCapabilities nowNs with
        | .error e => (.error e, m)
        | .ok () => (.ok requestedCapabilities, { m with tokens := m.tokens.modify index .use })

def revokeToken (m : UnattendedTokenManager) (tokenId : Bytes 16) :
    Except UnattendedError Unit × UnattendedTokenManager :=
  match findToken m.tokens tokenId with
  | none => (.error .tokenNotFound, m)
  | some index => (.ok (), { m with tokens := m.tokens.modify index .revoke })

/-- A token of the device that is not revoked yet. -/
def revocable (device : DeviceFingerprint) (record : UnattendedTokenRecord) : Bool :=
  decide (record.device = device) && !record.isRevoked

/-- Revokes the tokens of a device. -/
def revokeAllForDevice (m : UnattendedTokenManager) (device : DeviceFingerprint) :
    Nat × UnattendedTokenManager :=
  (m.tokens.countP (revocable device),
    { m with
      tokens := m.tokens.map fun record =>
        if revocable device record then record.revoke else record })

end UnattendedTokenManager

/-! ## The machine -/

inductive UnattendedCall where
  | issueToken (tokenId : Bytes 16) (device : DeviceFingerprint)
      (allowedCapabilities : CapabilitySet) (ttlNs : UInt64) (maxSessions : Option UInt32)
      (secret : Bytes 32) (nowNs : UInt64)
  | validateToken (tokenId : Bytes 16) (secret : Bytes 32) (device : DeviceFingerprint)
      (requestedCapabilities : CapabilitySet) (nowNs : UInt64)
  | revokeToken (tokenId : Bytes 16)
  | revokeAllForDevice (device : DeviceFingerprint)
  | setUnattendedEnabled (enabled : Bool)

/-- A call with the result it returned. -/
inductive UnattendedEvent where
  | issueToken (tokenId : Bytes 16) (device : DeviceFingerprint)
      (allowedCapabilities : CapabilitySet) (ttlNs : UInt64) (maxSessions : Option UInt32)
      (secret : Bytes 32) (nowNs : UInt64) (result : Except UnattendedError UnattendedTokenWire)
  | validateToken (tokenId : Bytes 16) (secret : Bytes 32) (device : DeviceFingerprint)
      (requestedCapabilities : CapabilitySet) (nowNs : UInt64)
      (result : Except UnattendedError CapabilitySet)
  | revokeToken (tokenId : Bytes 16) (result : Except UnattendedError Unit)
  | revokeAllForDevice (device : DeviceFingerprint) (result : Nat)
  | setUnattendedEnabled (enabled : Bool)
deriving DecidableEq

/-- The manager as a machine over its calls. -/
def unattendedMachine : Machine UnattendedTokenManager UnattendedCall UnattendedEvent where
  step m
    | .issueToken tokenId device allowed ttlNs maxSessions secret nowNs =>
      record (.issueToken tokenId device allowed ttlNs maxSessions secret nowNs)
        (m.issueToken tokenId device allowed ttlNs maxSessions secret nowNs)
    | .validateToken tokenId secret device requested nowNs =>
      record (.validateToken tokenId secret device requested nowNs)
        (m.validateToken tokenId secret device requested nowNs)
    | .revokeToken tokenId => record (.revokeToken tokenId) (m.revokeToken tokenId)
    | .revokeAllForDevice device =>
      record (.revokeAllForDevice device) (m.revokeAllForDevice device)
    | .setUnattendedEnabled enabled =>
      (.setUnattendedEnabled enabled, m.setUnattendedEnabled enabled)

end LatencyDesk.Session.Unattended
