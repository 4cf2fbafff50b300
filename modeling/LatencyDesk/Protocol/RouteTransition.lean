import LatencyDesk.Lib.Slice
import LatencyDesk.Protocol.Media

/-!
# The route transition record on the wire

The model of `ControlKind`, `RouteTransitionStage` and `RouteTransitionMessage`
in `crates/protocol/src/lib.rs`.  A message is 100 bytes and has one wire form
(`route_message_canonical`).
-/

namespace LatencyDesk.Protocol

open Lib List

inductive ControlKind where
  | hello
  | helloAck
  | authenticate
  | capabilities
  | configureStream
  | recoveryRequest
  | ping
  | pong
  | close
  | error
  | inputAck
  | permissionRevoked
  | rateUpdate
  | congestionFeedback
  | handshakeCompleted
  | iceCandidate
  | relayEnvelope
  | pairing
  | disconnect
  | unattendedAuth
  | iceCredentials
  | iceProbe
  | routePrepare
  | routePrepared
  | routeCommit
  | routeActivated
  | routeConfirmed
deriving DecidableEq

namespace RouteTransitionStage

def controlKind : RouteTransitionStage → ControlKind
  | .prepare => .routePrepare
  | .prepared => .routePrepared
  | .commit => .routeCommit
  | .activated => .routeActivated
  | .confirmed => .routeConfirmed

/-- `stage as u8`. -/
def toByte : RouteTransitionStage → UInt8
  | .prepare => 1
  | .prepared => 2
  | .commit => 3
  | .activated => 4
  | .confirmed => 5

def tryFrom (value : UInt8) : Except ProtocolError RouteTransitionStage :=
  if value = 1 then .ok .prepare
  else if value = 2 then .ok .prepared
  else if value = 3 then .ok .commit
  else if value = 4 then .ok .activated
  else if value = 5 then .ok .confirmed
  else .error (.invalidRouteTransitionStage value)

@[simp] theorem tryFrom_toByte (stage : RouteTransitionStage) :
    tryFrom stage.toByte = .ok stage := by
  cases stage <;> rfl

end RouteTransitionStage

namespace RouteTransitionMessage

/-- `RouteTransitionMessage::ENCODED_LEN`. -/
def encodedLen : Nat := 100

def validate (message : RouteTransitionMessage) : Except ProtocolError Unit :=
  if message.version ≠ wireVersion ∨ message.sequence = 0 ∨ message.baseRouteEpoch = 0 ∨
      checkedAdd message.baseRouteEpoch 1 ≠ some message.nextRouteEpoch ∨
      message.expiresAtNs = 0 ∨ message.routeDigest.isZero ∨ message.transcriptDigest.isZero then
    .error .invalidRouteTransition
  else
    .ok ()

def toBytes (message : RouteTransitionMessage) : List UInt8 :=
  [message.version, message.stage.toByte, 0, 0] ++ beBytes 8 message.sequence.toNat ++
    beBytes 8 message.baseRouteEpoch.toNat ++ beBytes 8 message.nextRouteEpoch.toNat ++
    beBytes 8 message.expiresAtNs.toNat ++ message.routeDigest.toList ++
    message.transcriptDigest.toList

def encode (message : RouteTransitionMessage) : Except ProtocolError (List UInt8) :=
  match message.validate with
  | .error e => .error e
  | .ok () => .ok message.toBytes

/-- `out.copy_from_slice(&bytes[offset..offset + 32])`, inside the bytes. -/
def readDigest (bytes : List UInt8) (offset : Nat) : Bytes 32 :=
  ⟨(bytes.drop offset).takeD 32 0, List.takeD_length _ _ _⟩

/-- The fields of a message of the given stage, read at their offsets. -/
def ofBytes (stage : RouteTransitionStage) (bytes : List UInt8) : RouteTransitionMessage :=
  { version := bytes.getD 0 0
    stage := stage
    sequence := readU64 bytes 4
    baseRouteEpoch := readU64 bytes 12
    nextRouteEpoch := readU64 bytes 20
    expiresAtNs := readU64 bytes 28
    routeDigest := readDigest bytes 36
    transcriptDigest := readDigest bytes 68 }

def decode (bytes : List UInt8) : Except ProtocolError RouteTransitionMessage :=
  if bytes.length ≠ encodedLen then
    .error (.payloadLength encodedLen bytes.length)
  else if (bytes.drop 2).take 2 ≠ [0, 0] then
    .error .reservedBits
  else
    match RouteTransitionStage.tryFrom (bytes.getD 1 0) with
    | .error e => .error e
    | .ok stage =>
      let message := ofBytes stage bytes
      match message.validate with
      | .error e => .error e
      | .ok () => .ok message

/-! ## The round trip -/

variable (message : RouteTransitionMessage)

theorem length_toBytes :
    message.toBytes.length = encodedLen := by
  simp [toBytes, encodedLen]

theorem readDigest_append (front back : List UInt8) (digest : Bytes 32) :
    readDigest (front ++ digest.toList ++ back) front.length = digest := by
  apply List.Vector.eq
  show takeD 32 ((front ++ digest.toList ++ back).drop front.length) 0 = digest.toList
  rw [append_assoc, drop_left, takeD_eq_take _ (by simp),
    take_left' digest.toList_length]

/-- The fields are read back at their offsets. -/
theorem ofBytes_toBytes :
    ofBytes message.stage message.toBytes = message := by
  obtain ⟨front, hlen, hbytes⟩ : ∃ front : List UInt8, front.length = 36 ∧ message.toBytes =
      front ++ message.routeDigest.toList ++ message.transcriptDigest.toList :=
    ⟨_, by simp, rfl⟩
  have hrt : readDigest message.toBytes 36 = message.routeDigest := by
    rw [hbytes, ← hlen, readDigest_append]
  have htranscript : readDigest message.toBytes 68 = message.transcriptDigest := by
    have h := readDigest_append (front ++ message.routeDigest.toList) [] message.transcriptDigest
    rwa [append_nil, length_append, hlen, List.Vector.toList_length, ← hbytes] at h
  unfold ofBytes
  rw [hrt, htranscript]
  simp [toBytes, readU64, drop_append, drop_beBytes, ofNat_beNat_beBytes64]

variable {message : RouteTransitionMessage}

theorem decode_toBytes (hval : message.validate = .ok ()) :
    decode message.toBytes = .ok message := by
  have hstage : message.toBytes.getD 1 0 = message.stage.toByte := rfl
  have hresv : (message.toBytes.drop 2).take 2 = [0, 0] := rfl
  unfold decode
  rw [if_neg (not_not.2 message.length_toBytes), if_neg (not_not.2 hresv), hstage,
    RouteTransitionStage.tryFrom_toByte]
  simp only [ofBytes_toBytes, hval]

/-- The fields are written where they were read. -/
theorem toBytes_ofBytes {bytes : List UInt8} {stage : RouteTransitionStage}
    (hlen : bytes.length = 100) (hresv : slice bytes 2 2 = [0, 0])
    (hstage : bytes.getD 1 0 = stage.toByte) : (ofBytes stage bytes).toBytes = bytes := by
  have hword k (hk : k + 8 ≤ 100) : beBytes 8 (readU64 bytes k).toNat = slice bytes k 8 :=
    ((word64_eq_iff (by omega)).1 rfl).symm
  have hdigest k (hk : k + 32 ≤ 100) : (readDigest bytes k).toList = slice bytes k 32 :=
    ((readBytes_eq_iff (by omega)).1 rfl).symm
  have hfront : [bytes.getD 0 0, stage.toByte, 0, 0] = slice bytes 0 4 := by
    rw [← hstage, ← @slice_append_slice _ _ 2 2, ← @slice_append_slice _ _ 1 1,
      slice_one (by omega), slice_one (by omega), hresv]
    rfl
  simp (disch := omega) only [toBytes, ofBytes, hword, hdigest, hfront]
  -- the slices join
  iterate 6 rw [slice_append_slice]
  rw [slice_eq_drop (by omega), drop_zero]

/-- A message has one wire form: only what it encodes to decodes to it. -/
theorem route_message_canonical (message : RouteTransitionMessage) (bytes : List UInt8) :
    decode bytes = .ok message ↔ message.encode = .ok bytes := by
  constructor
  · intro h
    unfold decode at h
    split_ifs at h with hlen hresv
    split at h
    · cases h
    next hstage =>
    dsimp only at h
    split at h
    · cases h
    next hval =>
    cases h
    rw [encode, hval, toBytes_ofBytes (not_not.1 hlen) (not_not.1 hresv) ?_]
    unfold RouteTransitionStage.tryFrom at hstage
    split_ifs at hstage <;> cases hstage <;> assumption
  · intro h
    cases hval : message.validate <;> rw [encode, hval] at h <;> cases h
    exact decode_toBytes hval

end RouteTransitionMessage

end LatencyDesk.Protocol
