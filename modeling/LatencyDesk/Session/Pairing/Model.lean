import LatencyDesk.Lib.Sha256
import LatencyDesk.Platform.Identity
import LatencyDesk.Protocol.Types
import LatencyDesk.Session.Authorization.Model

/-!
# The pairing coordinator

The model of `crates/session/src/pairing.rs`: the evidence and its transcript,
the six-digit SAS, and the coordinator of one pairing attempt.  SHA-256 is the
parameter `sha256`, and the identity store is any instance of
`DeviceIdentityStore`.

A method that takes `&mut self` returns its result and the coordinator after
the call.  `pendingMut` hands out the pending attempt as a value, and the
caller writes it back.
-/

namespace LatencyDesk.Session.Pairing

open Lib Platform Protocol DeviceIdentityStore
open Session.Authorization (SessionId CapabilitySet)

/-- `MAX_PAIRING_TTL_NS`, five minutes. -/
def maxPairingTtlNs : UInt64 := 5 * 60 * 1_000_000_000

/-- `DEFAULT_MAX_SAS_ATTEMPTS`. -/
def defaultMaxSasAttempts : Nat := 3

/-- `SAS_MODULUS`. -/
def sasModulus : UInt32 := 1_000_000

/-- `SAS_DOMAIN`. -/
def sasDomain : List UInt8 := asciiBytes "LatencyDesk-v1-SAS-Numeric"

/-- `SAS_CONFIRM_DOMAIN`. -/
def sasConfirmDomain : List UInt8 := asciiBytes "LatencyDesk-v1-SAS-Confirm"

inductive PairingError where
  | invalidEvidence
  | invalidSas
  | pairingInProgress
  | closed
  | expired
  | peerPinMismatch
  | sasMismatch
  | sasAttemptsExceeded
  | storeFailure
deriving DecidableEq

/-! ## Evidence -/

/-- The public evidence of a pairing.  Its fields are public in the source, so
an evidence need not be valid. -/
structure PairingEvidence where
  sessionId : SessionId
  localFingerprint : Bytes 32
  peerFingerprint : Bytes 32
  expiresAtNs : UInt64
  capabilities : CapabilitySet
deriving DecidableEq

namespace PairingEvidence

/-- Two devices, neither zero, and a deadline. -/
def validate (evidence : PairingEvidence) : Except PairingError Unit :=
  if evidence.localFingerprint.isZero ∨ evidence.peerFingerprint.isZero ∨
      evidence.localFingerprint = evidence.peerFingerprint ∨ evidence.expiresAtNs = 0 then
    .error .invalidEvidence
  else
    .ok ()

def new (sessionId : SessionId) (localFingerprint peerFingerprint : Bytes 32)
    (expiresAtNs : UInt64) (capabilities : CapabilitySet) :
    Except PairingError PairingEvidence :=
  let evidence : PairingEvidence :=
    { sessionId, localFingerprint, peerFingerprint, expiresAtNs, capabilities }
  match evidence.validate with
  | .ok () => .ok evidence
  | .error e => .error e

/-- The transcript of the evidence: the session id, the two fingerprints, the
expiry and the capabilities. -/
def canonicalBytes (evidence : PairingEvidence) : List UInt8 :=
  beBytes 8 evidence.sessionId.value.toNat ++ evidence.localFingerprint.toList ++
    evidence.peerFingerprint.toList ++ beBytes 8 evidence.expiresAtNs.toNat ++
    [evidence.capabilities.bits]

end PairingEvidence

/-! ## The short authentication string -/

/-- Six ASCII digits. -/
structure SasCode where
  digits : Bytes 6
  numeric : digits.toList.all (fun digit => decide (0x30 ≤ digit ∧ digit ≤ 0x39)) = true
deriving DecidableEq

/-- The last `n` decimal digits of a number, as ASCII. -/
def decimalDigits : Nat → UInt32 → List UInt8
  | 0, _ => []
  | n + 1, remaining =>
    decimalDigits n (remaining / 10) ++ [0x30 + (remaining % 10).toUInt8]

variable {remaining : UInt32}

theorem length_decimalDigits {n : Nat} :
    (decimalDigits n remaining).length = n := by
  induction n generalizing remaining with
  | zero => rfl
  | succ n ih => simp [decimalDigits, ih]

theorem numeric_decimalDigits {n : Nat} :
    (decimalDigits n remaining).all (fun digit => decide (0x30 ≤ digit ∧ digit ≤ 0x39)) = true := by
  induction n generalizing remaining with
  | zero => rfl
  | succ n ih =>
    have hlt : (remaining % 10).toNat < 10 := by
      exact Nat.mod_lt _ (by decide)
    have hbyte : (remaining % 10).toUInt8.toNat = (remaining % 10).toNat := by
      rw [UInt32.toNat_toUInt8, Nat.mod_eq_of_lt (by omega)]
    have hdigit : 0x30 ≤ 0x30 + (remaining % 10).toUInt8 ∧
        0x30 + (remaining % 10).toUInt8 ≤ 0x39 := by
      rw [UInt8.le_iff_toNat_le, UInt8.le_iff_toNat_le, UInt8.toNat_add,
    show (0x30 : UInt8).toNat = 48 from rfl, show (0x39 : UInt8).toNat = 57 from rfl]
      omega
    rw [decimalDigits, List.all_append, ih, List.all_cons, decide_eq_true hdigit]
    rfl

namespace SasCode

theorem eq_of_digits {sas sas' : SasCode} (h : sas.digits.toList = sas'.digits.toList) :
    sas = sas' := by
  obtain ⟨digits, _⟩ := sas
  obtain ⟨digits', _⟩ := sas'
  have hdigits : digits = digits' := List.Vector.eq _ _ h
  subst hdigits
  rfl

def fromValidValue (value : UInt32) : SasCode :=
  ⟨⟨decimalDigits 6 value, length_decimalDigits⟩, numeric_decimalDigits⟩

def value (sas : SasCode) : UInt32 :=
  sas.digits.toList.foldl (fun value digit => value * 10 + (digit - 0x30).toUInt32) 0

/-- The code that both users compare. -/
def fromEvidence (sha256 : Sha256) (evidence : PairingEvidence) : SasCode :=
  let digest := sha256 (sasDomain ++ evidence.canonicalBytes)
  fromValidValue (UInt32.ofNat (beNat (digest.toList.take 4)) % sasModulus)

end SasCode

/-- The digest that stands for a code. -/
def sasCommitment (sha256 : Sha256) (sas : SasCode) : Bytes 32 :=
  sha256 (sasConfirmDomain ++ sas.digits.toList)

structure PairingPrompt where
  evidence : PairingEvidence
  sas : SasCode
deriving DecidableEq

structure AcceptedSession where
  sessionId : SessionId
  localIdentity : DeviceIdentity
  peerPin : PeerPin
  capabilities : CapabilitySet
deriving DecidableEq

def AcceptedSession.fromEvidence (evidence : PairingEvidence) (localIdentity : DeviceIdentity)
    (peerPin : PeerPin) : AcceptedSession :=
  { sessionId := evidence.sessionId
    localIdentity := localIdentity
    peerPin := peerPin
    capabilities := evidence.capabilities }

inductive PairingStart where
  | awaitingSas (prompt : PairingPrompt)
  | accepted (session : AcceptedSession)
deriving DecidableEq

inductive PairingProgress where
  | awaitingLocalApproval
  | awaitingPeerAcknowledgement
  | accepted (session : AcceptedSession)
deriving DecidableEq

/-! ## The coordinator -/

/-- A pairing attempt that waits for its two confirmations.
`attempts_remaining` is only ever lowered by a saturating subtraction, which
is the subtraction of `Nat`. -/
structure PendingPairing where
  peerAlias : PeerAlias
  evidence : PairingEvidence
  localIdentity : DeviceIdentity
  peerPin : PeerPin
  expectedSasCommitment : Bytes 32
  localApproved : Bool
  peerAcknowledged : Bool
  attemptsRemaining : Nat
deriving DecidableEq

inductive PairingState where
  | idle
  | pending (pending : PendingPairing)
  | accepted (session : AcceptedSession)
  | closed
deriving DecidableEq

structure PairingCoordinator (S : Type) where
  store : S
  state : PairingState

namespace PairingCoordinator

variable {S : Type}

def new (store : S) : PairingCoordinator S := { store := store, state := .idle }

def closeWith {α : Type} (c : PairingCoordinator S) (error : PairingError) :
    Except PairingError α × PairingCoordinator S :=
  (.error error, { c with state := .closed })

def pendingMut (c : PairingCoordinator S) (nowNs : UInt64) :
    Except PairingError PendingPairing × PairingCoordinator S :=
  match c.state with
  | .pending pending =>
    if pending.evidence.expiresAtNs ≤ nowNs then
      (.error .expired, { c with state := .closed })
    else
      (.ok pending, c)
  | .idle => (.error .invalidEvidence, c)
  | .accepted _ => (.error .closed, c)
  | .closed => (.error .closed, c)

variable [DeviceIdentityStore S]

/-- Accepts a pinned peer or starts to pair. -/
def begin (sha256 : Sha256) (c : PairingCoordinator S) (peerAlias : PeerAlias)
    (evidence : PairingEvidence) (tlsPeerSpkiFingerprint : Bytes 32) (nowNs : UInt64) :
    Except PairingError PairingStart × PairingCoordinator S :=
  match c.state with
  | .pending _ => (.error .pairingInProgress, c)
  | .accepted _ => (.error .closed, c)
  | .closed => (.error .closed, c)
  | .idle =>
    match evidence.validate with
    | .error _ => c.closeWith .invalidEvidence
    | .ok () =>
      match loadOrCreateIdentity c.store with
      | (.error _, store) => closeWith { c with store := store } .storeFailure
      | (.ok localIdentity, store) =>
        if evidence.localFingerprint ≠ localIdentity.spkiFingerprint ∨
            tlsPeerSpkiFingerprint ≠ evidence.peerFingerprint ∨
            evidence.expiresAtNs ≤ nowNs ∨
            maxPairingTtlNs < evidence.expiresAtNs - nowNs then
          closeWith { c with store := store } .invalidEvidence
        else
          match loadPeerPin store peerAlias with
          | (.error _, store) => closeWith { c with store := store } .storeFailure
          | (.ok selectedPin, store) =>
            match PeerPin.fromTlsSpkiFingerprint tlsPeerSpkiFingerprint with
            | .error _ => closeWith { c with store := store } .invalidEvidence
            | .ok peerPin =>
              match selectedPin with
              | some selectedPin =>
                if selectedPin ≠ peerPin then
                  closeWith { c with store := store } .peerPinMismatch
                else
                  let accepted := AcceptedSession.fromEvidence evidence localIdentity peerPin
                  (.ok (.accepted accepted), { store := store, state := .accepted accepted })
              | none =>
                let sas := SasCode.fromEvidence sha256 evidence
                (.ok (.awaitingSas { evidence := evidence, sas := sas }),
                  { store := store
                    state := .pending
                      { peerAlias := peerAlias
                        evidence := evidence
                        localIdentity := localIdentity
                        peerPin := peerPin
                        expectedSasCommitment := sasCommitment sha256 sas
                        localApproved := false
                        peerAcknowledged := false
                        attemptsRemaining := defaultMaxSasAttempts } })

/-- Accepts once both sides have confirmed. -/
def progressOrAccept (c : PairingCoordinator S) :
    Except PairingError PairingProgress × PairingCoordinator S :=
  match c.state with
  | .pending pending =>
    if pending.localApproved = false then
      (.ok .awaitingLocalApproval, c)
    else if pending.peerAcknowledged = false then
      (.ok .awaitingPeerAcknowledgement, c)
    else
      match storePeerPin c.store pending.peerAlias pending.peerPin with
      | (.error _, store) => closeWith { c with store := store } .storeFailure
      | (.ok (), store) =>
        let accepted :=
          AcceptedSession.fromEvidence pending.evidence pending.localIdentity pending.peerPin
        (.ok (.accepted accepted), { store := store, state := .accepted accepted })
  | .idle => (.error .closed, c)
  | .accepted _ => (.error .closed, c)
  | .closed => (.error .closed, c)

def confirmLocal (c : PairingCoordinator S) (nowNs : UInt64) :
    Except PairingError PairingProgress × PairingCoordinator S :=
  match c.pendingMut nowNs with
  | (.error e, c) => (.error e, c)
  | (.ok pending, c) =>
    progressOrAccept { c with state := .pending { pending with localApproved := true } }

/-- The peer's code, with few attempts. -/
def confirmPeer (sha256 : Sha256) (c : PairingCoordinator S) (sas : SasCode) (nowNs : UInt64) :
    Except PairingError PairingProgress × PairingCoordinator S :=
  match c.pendingMut nowNs with
  | (.error e, c) => (.error e, c)
  | (.ok pending, c) =>
    if sasCommitment sha256 sas = pending.expectedSasCommitment then
      progressOrAccept { c with state := .pending { pending with peerAcknowledged := true } }
    else if pending.attemptsRemaining - 1 = 0 then
      (.error .sasAttemptsExceeded, { c with state := .closed })
    else
      (.error .sasMismatch,
        { c with
          state := .pending { pending with attemptsRemaining := pending.attemptsRemaining - 1 } })

end PairingCoordinator

/-! ## The machine -/

inductive PairingCall where
  | begin (peerAlias : PeerAlias) (evidence : PairingEvidence) (tlsPeerSpkiFingerprint : Bytes 32)
      (nowNs : UInt64)
  | confirmLocal (nowNs : UInt64)
  | confirmPeer (sas : SasCode) (nowNs : UInt64)

/-- A call with the result it returned. -/
inductive PairingEvent where
  | begin (peerAlias : PeerAlias) (evidence : PairingEvidence) (tlsPeerSpkiFingerprint : Bytes 32)
      (nowNs : UInt64) (result : Except PairingError PairingStart)
  | confirmLocal (nowNs : UInt64) (result : Except PairingError PairingProgress)
  | confirmPeer (sas : SasCode) (nowNs : UInt64) (result : Except PairingError PairingProgress)
deriving DecidableEq

/-- The coordinator as a machine over its calls. -/
def pairingMachine (sha256 : Sha256) (S : Type) [DeviceIdentityStore S] :
    Machine (PairingCoordinator S) PairingCall PairingEvent where
  step c
    | .begin peerAlias evidence tlsPeerSpkiFingerprint nowNs =>
      record (.begin peerAlias evidence tlsPeerSpkiFingerprint nowNs)
        (c.begin sha256 peerAlias evidence tlsPeerSpkiFingerprint nowNs)
    | .confirmLocal nowNs => record (.confirmLocal nowNs) (c.confirmLocal nowNs)
    | .confirmPeer sas nowNs => record (.confirmPeer sas nowNs) (c.confirmPeer sha256 sas nowNs)

/-! ## A sample store -/

/-- A store that keeps one pin and can be told to refuse it. -/
structure RecordingIdentityStore where
  identity : DeviceIdentity
  storedPin : Option PeerPin
  failStore : Bool
deriving DecidableEq

instance : DeviceIdentityStore RecordingIdentityStore where
  loadOrCreateIdentity store := (.ok store.identity, store)
  loadPeerPin store _ := (.ok store.storedPin, store)
  storePeerPin store _ pin :=
    if store.failStore then (.error .deviceLost, store)
    else (.ok (), { store with storedPin := some pin })

/-- The device of the sample run of the policy. -/
def sampleIdentity : DeviceIdentity :=
  ⟨Authorization.sampleDevice.bytes, Authorization.sampleDevice.nonzero⟩

def samplePin : PeerPin := ⟨List.Vector.replicate 32 2, by decide⟩

def sampleStore : RecordingIdentityStore :=
  { identity := sampleIdentity, storedPin := none, failStore := false }

def sampleAlias : PeerAlias := ⟨"host", by decide +kernel⟩

def sampleEvidence : PairingEvidence :=
  { sessionId := ⟨7, by decide⟩
    localFingerprint := sampleIdentity.spkiFingerprint
    peerFingerprint := samplePin.spkiFingerprint
    expiresAtNs := 1000
    capabilities := .viewAndInput }

/-- The code that SHA-256 gives the sample evidence. -/
def sampleSas : SasCode := .fromValidValue 152471

/-- The attempt of the sample evidence, confirmed locally and then with the
code of the peer. -/
def samplePairingCalls : List PairingCall :=
  [.begin sampleAlias sampleEvidence samplePin.spkiFingerprint 10, .confirmLocal 20,
    .confirmPeer sampleSas 20]

end LatencyDesk.Session.Pairing
