import LatencyDesk.Protocol.Media

/-!
# Media datagrams

The model of `MediaDatagram` in `crates/protocol/src/quic.rs`: one media packet
behind the session stamp and a deadline of the sender's clock.
-/

namespace LatencyDesk.Protocol

open Lib SessionStamp List

/-- `QUIC_MEDIA_HEADER_LEN`. -/
def quicMediaHeaderLen : Nat := 52

/-- `MEDIA_DATAGRAM_MAGIC`. -/
def mediaDatagramMagic : List UInt8 := [0x4c, 0x44, 0x51, 0x4d]

/-- `MAX_INPUT_BYTES`. -/
def maxInputBytes : Nat := 64 * 1024

namespace SessionStamp

/-- A stamp under which input may be sent. -/
def validateInput (stamp : SessionStamp) : Except ProtocolError Unit :=
  match stamp.validatePending with
  | .error e => .error e
  | .ok () =>
    if stamp.authorizationEpoch = 0 ∨ stamp.displayEpoch = 0 then
      .error .inactiveInputStamp
    else
      .ok ()

/-- A stamp under which media may be sent. -/
def validateMedia (stamp : SessionStamp) : Except ProtocolError Unit :=
  match stamp.validatePending with
  | .error e => .error e
  | .ok () =>
    if stamp.authorizationEpoch = 0 ∨ stamp.displayEpoch = 0 ∨ stamp.codecEpoch = 0 then
      .error .inactiveMediaStamp
    else
      .ok ()

/-- `encode_into`, the bytes that it writes. -/
def toBytes (stamp : SessionStamp) : List UInt8 :=
  beBytes 8 stamp.sessionId.toNat ++ beBytes 8 stamp.generation.toNat ++
    beBytes 4 stamp.authorizationEpoch.toNat ++ beBytes 4 stamp.displayEpoch.toNat ++
    beBytes 4 stamp.codecEpoch.toNat ++ beBytes 8 stamp.routeEpoch.toNat

def decodeFrom (bytes : List UInt8) (offset : Nat) : SessionStamp :=
  { sessionId := readU64 bytes offset
    generation := readU64 bytes (offset + 8)
    authorizationEpoch := readU32 bytes (offset + 16)
    displayEpoch := readU32 bytes (offset + 20)
    codecEpoch := readU32 bytes (offset + 24)
    routeEpoch := readU64 bytes (offset + 28) }

end SessionStamp

/-- A `StreamRecord` of the input lane. -/
structure InputRecord where
  stamp : SessionStamp
  payload : List UInt8
deriving DecidableEq

/-- `StreamRecord::encode` for the input lane, up to the bytes. -/
def InputRecord.encode (stamp : SessionStamp) (payload : List UInt8) :
    Except ProtocolError InputRecord :=
  if maxInputBytes < payload.length then
    .error (.streamPayloadLength maxInputBytes payload.length)
  else
    match stamp.validateInput with
    | .error e => .error e
    | .ok () => .ok { stamp := stamp, payload := payload }

structure MediaDatagram where
  stamp : SessionStamp
  expiresAtNs : UInt64
  packet : MediaPacket
deriving DecidableEq

namespace MediaDatagram

/-- The part of `decode` behind the fixed fields of the header. -/
def decodeStamped (bytes : List UInt8) : Except ProtocolError MediaDatagram :=
  let stamp := SessionStamp.decodeFrom bytes 8
  match stamp.validateMedia with
  | .error e => .error e
  | .ok () =>
    match MediaPacket.decode (bytes.drop quicMediaHeaderLen) with
    | .error e => .error e
    | .ok packet =>
      if packet.header.streamId = 0 then
        .error .invalidMediaStreamId
      else if packet.header.codecEpoch ≠ stamp.codecEpoch then
        .error (.mediaEpochMismatch packet.header.codecEpoch stamp.codecEpoch)
      else
        .ok { stamp := stamp, expiresAtNs := readU64 bytes 44, packet := packet }

/-- Checks the outer header, then decodes the packet. -/
def decode (bytes : List UInt8) : Except ProtocolError MediaDatagram :=
  if bytes.length < quicMediaHeaderLen then
    .error (.truncated quicMediaHeaderLen bytes.length)
  else if bytes.take 4 ≠ mediaDatagramMagic then
    .error .badMagic
  else if bytes.getD 4 0 ≠ wireVersion then
    .error (.unsupportedVersion (bytes.getD 4 0))
  else if bytes.getD 5 0 ≠ 0 ∨ bytes.getD 6 0 ≠ 0 ∨ bytes.getD 7 0 ≠ 0 then
    .error .reservedBits
  else
    decodeStamped bytes

/-- The outer header of a datagram. -/
def headerBytes (stamp : SessionStamp) (expiresAtNs : UInt64) : List UInt8 :=
  mediaDatagramMagic ++ [wireVersion, 0, 0, 0] ++ stamp.toBytes ++ beBytes 8 expiresAtNs.toNat

/-- Wraps a media packet of the stamp's codec epoch. -/
def encode (stamp : SessionStamp) (expiresAtNs : UInt64) (header : MediaHeader)
    (payload : List UInt8) : Except ProtocolError (List UInt8) :=
  match stamp.validateMedia with
  | .error e => .error e
  | .ok () =>
    if header.streamId = 0 then
      .error .invalidMediaStreamId
    else if header.codecEpoch ≠ stamp.codecEpoch then
      .error (.mediaEpochMismatch header.codecEpoch stamp.codecEpoch)
    else if payload.length ≠ header.fragmentLen.toNat then
      .error (.payloadLength header.fragmentLen.toNat payload.length)
    else
      match header.encode with
      | .error e => .error e
      | .ok encodedMediaHeader =>
        .ok (headerBytes stamp expiresAtNs ++ encodedMediaHeader ++ payload)

/-- The packet of a datagram is what its bytes behind the header decode to. -/
theorem decode_packet {bytes : List UInt8} {dgram : MediaDatagram}
    (h : decode bytes = .ok dgram) :
    MediaPacket.decode (bytes.drop quicMediaHeaderLen) = .ok dgram.packet := by
  unfold decode at h
  split_ifs at h
  unfold decodeStamped at h
  dsimp only at h
  split at h
  · cases h
  split at h
  · cases h
  next pkt hpkt =>
  split_ifs at h
  cases h
  exact hpkt

/-! ## The round trip -/

section

variable (stamp : SessionStamp) (expiresAtNs : UInt64)

theorem length_headerBytes :
    (headerBytes stamp expiresAtNs).length = quicMediaHeaderLen := by
  simp [headerBytes, toBytes, mediaDatagramMagic, quicMediaHeaderLen]

variable (body : List UInt8)

/-- The stamp is read back at its offset. -/
theorem decodeFrom_headerBytes :
    decodeFrom (headerBytes stamp expiresAtNs ++ body) 8 = stamp := by
  simp [decodeFrom, headerBytes, toBytes, mediaDatagramMagic, readU32,
    readU64, drop_append, drop_beBytes, ofNat_beNat_beBytes32, ofNat_beNat_beBytes64]

theorem readU64_headerBytes :
    readU64 (headerBytes stamp expiresAtNs ++ body) 44 = expiresAtNs := by
  simp [headerBytes, toBytes, mediaDatagramMagic, readU64, drop_append,
    drop_beBytes, ofNat_beNat_beBytes64]

/-- The fixed fields of the outer header pass. -/
theorem decode_headerBytes :
    decode (headerBytes stamp expiresAtNs ++ body) =
      decodeStamped (headerBytes stamp expiresAtNs ++ body) := by
  have hlen : ¬ (headerBytes stamp expiresAtNs ++ body).length < quicMediaHeaderLen := by
    rw [length_append, length_headerBytes]
    omega
  have hmagic : (headerBytes stamp expiresAtNs ++ body).take 4 = mediaDatagramMagic := rfl
  have hver : (headerBytes stamp expiresAtNs ++ body).getD 4 0 = wireVersion := rfl
  have hfirst : (headerBytes stamp expiresAtNs ++ body).getD 5 0 = 0 := rfl
  have hsnd : (headerBytes stamp expiresAtNs ++ body).getD 6 0 = 0 := rfl
  have hthird : (headerBytes stamp expiresAtNs ++ body).getD 7 0 = 0 := rfl
  unfold decode
  rw [if_neg hlen, if_neg (not_not.2 hmagic), if_neg (not_not.2 hver),
    if_neg (not_or.2 ⟨not_not.2 hfirst, not_or.2 ⟨not_not.2 hsnd, not_not.2 hthird⟩⟩)]

end

/-- Encoding and decoding a datagram. -/
theorem decode_encode {stamp : SessionStamp} {expiresAtNs : UInt64} {header : MediaHeader}
    {payload bytes : List UInt8} (h : encode stamp expiresAtNs header payload = .ok bytes) :
    decode bytes = .ok { stamp := stamp, expiresAtNs := expiresAtNs, packet := ⟨header, payload⟩ } ∧
      bytes.length = quicMediaHeaderLen + (mediaHeaderLen + payload.length) := by
  unfold encode at h
  split at h
  · cases h
  next hstp =>
  split_ifs at h with hstream hep hlen
  split at h
  · cases h
  next encoded hencoded =>
  cases h
  have hpkt : MediaPacket.decode (encoded ++ payload) = .ok ⟨header, payload⟩ := by
    refine MediaPacket.decode_encode ?_
    unfold MediaPacket.encode
    rw [if_neg hlen, hencoded]
  have hhdr : encoded.length = mediaHeaderLen := by
    unfold MediaHeader.encode at hencoded
    split at hencoded
    · cases hencoded
    · cases hencoded
      exact header.length_toBytes
  have hlong := length_headerBytes stamp expiresAtNs
  have hdrop : (headerBytes stamp expiresAtNs ++ (encoded ++ payload)).drop quicMediaHeaderLen =
      encoded ++ payload := by
    rw [← hlong, drop_left]
  refine ⟨?_, by simp only [length_append]; omega⟩
  rw [append_assoc, decode_headerBytes]
  unfold decodeStamped
  dsimp only
  rw [decodeFrom_headerBytes, hstp, hdrop, hpkt, readU64_headerBytes]
  dsimp only
  rw [if_neg hstream, if_neg hep]

end MediaDatagram

end LatencyDesk.Protocol
