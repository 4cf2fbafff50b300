import LatencyDesk.Protocol.Types

/-!
# Media packets

The media fragment header of `crates/protocol/src/lib.rs`, its validation and
the wire format of a packet.  `MediaPacket` holds the payload as a list, where
the source borrows it from the datagram.

A header that decodes is valid and its packet carries exactly the announced
payload (`decode_spec`).  Decoding an encoded packet gives it back
(`decode_encode`).
-/

namespace LatencyDesk.Protocol

open Lib List

/-- `MEDIA_HEADER_LEN`. -/
def mediaHeaderLen : Nat := 44

/-- `MAX_FRAME_BYTES`. -/
def maxFrameBytes : UInt32 := 16 * 1024 * 1024

/-- `MAX_FRAGMENT_BYTES`. -/
def maxFragmentBytes : UInt16 := 16 * 1024

/-- `NO_DEPENDENCY`. -/
def noDependency : UInt64 := 0xFFFFFFFFFFFFFFFF

/-- `MEDIA_MAGIC`. -/
def mediaMagic : List UInt8 := [0x4c, 0x44, 0x53, 0x4b]

inductive MediaKind where
  | video
  | tile
  | cursor
  | audio
deriving DecidableEq

/-- `kind as u8`. -/
def MediaKind.toByte : MediaKind → UInt8
  | .video => 1
  | .tile => 2
  | .cursor => 3
  | .audio => 4

/-- `MediaKind::try_from`. -/
def MediaKind.tryFrom (value : UInt8) : Except ProtocolError MediaKind :=
  if value = 1 then .ok .video
  else if value = 2 then .ok .tile
  else if value = 3 then .ok .cursor
  else if value = 4 then .ok .audio
  else .error (.unknownMediaKind value)

namespace MediaFlags

def keyframe : UInt16 := 1

def discardable : UInt16 := 2

def lossless : UInt16 := 4

def parity : UInt16 := 8

/-- `KNOWN_MASK`. -/
def knownMask : UInt16 := keyframe ||| discardable ||| lossless ||| parity

end MediaFlags

structure MediaHeader where
  kind : MediaKind
  flags : UInt16
  streamId : UInt32
  codecEpoch : UInt32
  frameId : UInt64
  dependencyFrameId : UInt64
  frameLen : UInt32
  fragmentOffset : UInt32
  fragmentLen : UInt16
deriving DecidableEq

namespace MediaHeader

/-- The last part of `validate`: the dependency. -/
def validateDependency (header : MediaHeader) : Except ProtocolError Unit :=
  if header.flags &&& MediaFlags.keyframe ≠ 0 ∧ header.dependencyFrameId ≠ noDependency then
    .error .keyframeHasDependency
  else if header.dependencyFrameId ≠ noDependency ∧
      header.frameId ≤ header.dependencyFrameId then
    .error (.invalidDependency header.frameId header.dependencyFrameId)
  else
    .ok ()

/-- The second part of `validate`: the range of the fragment. -/
def validateRange (header : MediaHeader) : Except ProtocolError Unit :=
  match checkedAdd32 header.fragmentOffset header.fragmentLen.toUInt32 with
  | none => .error .fragmentRange
  | some stop =>
    if header.frameLen ≤ header.fragmentOffset ∨ header.frameLen < stop then
      .error .fragmentRange
    else
      header.validateDependency

def validate (header : MediaHeader) : Except ProtocolError Unit :=
  if header.flags &&& ~~~MediaFlags.knownMask ≠ 0 then
    .error (.unknownFlags header.flags)
  else if header.frameLen = 0 ∨ maxFrameBytes < header.frameLen then
    .error (.frameLength header.frameLen)
  else if header.fragmentLen = 0 ∨ maxFragmentBytes < header.fragmentLen then
    .error (.fragmentLength header.fragmentLen)
  else
    header.validateRange

/-- The bytes of a header.  The last two are reserved. -/
def toBytes (header : MediaHeader) : List UInt8 :=
  mediaMagic ++ [wireVersion, header.kind.toByte] ++ beBytes 2 header.flags.toNat ++
    beBytes 4 header.streamId.toNat ++ beBytes 4 header.codecEpoch.toNat ++
    beBytes 8 header.frameId.toNat ++ beBytes 8 header.dependencyFrameId.toNat ++
    beBytes 4 header.frameLen.toNat ++ beBytes 4 header.fragmentOffset.toNat ++
    beBytes 2 header.fragmentLen.toNat ++ [0, 0]

def encode (header : MediaHeader) : Except ProtocolError (List UInt8) :=
  match header.validate with
  | .error e => .error e
  | .ok () => .ok header.toBytes

end MediaHeader

def readU16 (bytes : List UInt8) (offset : Nat) : UInt16 :=
  .ofNat (beNat ((bytes.drop offset).take 2))

def readU32 (bytes : List UInt8) (offset : Nat) : UInt32 :=
  .ofNat (beNat ((bytes.drop offset).take 4))

def readU64 (bytes : List UInt8) (offset : Nat) : UInt64 :=
  .ofNat (beNat ((bytes.drop offset).take 8))

/-- The fields of a header of the given kind, read at their offsets. -/
def MediaHeader.ofBytes (kind : MediaKind) (bytes : List UInt8) : MediaHeader :=
  { kind := kind
    flags := readU16 bytes 6
    streamId := readU32 bytes 8
    codecEpoch := readU32 bytes 12
    frameId := readU64 bytes 16
    dependencyFrameId := readU64 bytes 24
    frameLen := readU32 bytes 32
    fragmentOffset := readU32 bytes 36
    fragmentLen := readU16 bytes 40 }

def MediaHeader.decode (bytes : List UInt8) : Except ProtocolError MediaHeader :=
  if bytes.length < mediaHeaderLen then
    .error (.truncated mediaHeaderLen bytes.length)
  else if bytes.take 4 ≠ mediaMagic then
    .error .badMagic
  else if bytes.getD 4 0 ≠ wireVersion then
    .error (.unsupportedVersion (bytes.getD 4 0))
  else if bytes.getD 42 0 ≠ 0 ∨ bytes.getD 43 0 ≠ 0 then
    .error .reservedBits
  else
    match MediaKind.tryFrom (bytes.getD 5 0) with
    | .error e => .error e
    | .ok kind =>
      let header := MediaHeader.ofBytes kind bytes
      match header.validate with
      | .error e => .error e
      | .ok () => .ok header

structure MediaPacket where
  header : MediaHeader
  payload : List UInt8
deriving DecidableEq

namespace MediaPacket

/-- `MediaPacket::decode`.  The expected length does not overflow. -/
def decode (datagram : List UInt8) : Except ProtocolError MediaPacket :=
  match MediaHeader.decode datagram with
  | .error e => .error e
  | .ok header =>
    let expected := mediaHeaderLen + header.fragmentLen.toNat
    if datagram.length ≠ expected then
      .error (.payloadLength expected datagram.length)
    else
      .ok { header := header, payload := datagram.drop mediaHeaderLen }

def encode (packet : MediaPacket) : Except ProtocolError (List UInt8) :=
  if packet.payload.length ≠ packet.header.fragmentLen.toNat then
    .error (.payloadLength packet.header.fragmentLen.toNat packet.payload.length)
  else
    match packet.header.encode with
    | .error e => .error e
    | .ok encodedHeader => .ok (encodedHeader ++ packet.payload)

end MediaPacket

/-! ## What a valid header says -/

/-- The conditions that `validate` checks. -/
structure MediaHeader.Valid (header : MediaHeader) : Prop where
  flags : header.flags &&& ~~~MediaFlags.knownMask = 0
  frame : 0 < header.frameLen.toNat ∧ header.frameLen.toNat ≤ 16 * 1024 * 1024
  fragment : 0 < header.fragmentLen.toNat ∧ header.fragmentLen.toNat ≤ 16 * 1024
  inside : header.fragmentOffset.toNat + header.fragmentLen.toNat ≤ header.frameLen.toNat
  keyframe : header.flags &&& MediaFlags.keyframe ≠ 0 → header.dependencyFrameId = noDependency
  dependency : header.dependencyFrameId ≠ noDependency → header.dependencyFrameId < header.frameId

namespace MediaHeader

variable {header : MediaHeader}

theorem validateDependency_eq_ok :
    header.validateDependency = .ok () ↔
      (header.flags &&& MediaFlags.keyframe ≠ 0 → header.dependencyFrameId = noDependency) ∧
        (header.dependencyFrameId ≠ noDependency → header.dependencyFrameId < header.frameId) := by
  unfold validateDependency
  split_ifs with hkeyframe hdep
  · exact iff_of_false (by simp) fun h => hkeyframe.2 (h.1 hkeyframe.1)
  · exact iff_of_false (by simp) fun h =>
      UInt64.not_le.2 (h.2 hdep.1) hdep.2
  · refine iff_of_true rfl ⟨fun h => ?_, fun h => ?_⟩
    · exact Decidable.not_not.1 fun hne => hkeyframe ⟨h, hne⟩
    · exact UInt64.not_le.1 fun hle => hdep ⟨h, hle⟩

theorem validateRange_eq_ok (hfrag : 0 < header.fragmentLen.toNat) :
    header.validateRange = .ok () ↔
      header.fragmentOffset.toNat + header.fragmentLen.toNat ≤ header.frameLen.toNat ∧
        header.validateDependency = .ok () := by
  unfold validateRange
  have hfr : header.frameLen.toNat < 2 ^ 32 := UInt32.toNat_lt _
  cases hstop : checkedAdd32 header.fragmentOffset header.fragmentLen.toUInt32 with
  | none =>
    rw [checkedAdd32_eq_none, UInt16.toNat_toUInt32] at hstop
    exact iff_of_false (by simp) fun h => by omega
  | some stop =>
    rw [checkedAdd32_eq_some, UInt16.toNat_toUInt32] at hstop
    dsimp only
    split_ifs with hrange
    · rw [UInt32.le_iff_toNat_le, UInt32.lt_iff_toNat_lt] at hrange
      exact iff_of_false (by simp) fun h => by omega
    · rw [UInt32.lt_iff_toNat_lt] at hrange
      exact (and_iff_right (by omega)).symm

theorem validate_eq_ok : header.validate = .ok () ↔ header.Valid := by
  have hfr : ¬ (header.frameLen = 0 ∨ maxFrameBytes < header.frameLen) ↔
      0 < header.frameLen.toNat ∧ header.frameLen.toNat ≤ 16 * 1024 * 1024 := by
    rw [not_or, UInt32.not_lt, ← UInt32.toNat_inj]
    exact and_congr_left' Nat.pos_iff_ne_zero.symm
  have hfrag : ¬ (header.fragmentLen = 0 ∨ maxFragmentBytes < header.fragmentLen) ↔
      0 < header.fragmentLen.toNat ∧ header.fragmentLen.toNat ≤ 16 * 1024 := by
    rw [not_or, UInt16.not_lt, ← UInt16.toNat_inj]
    exact and_congr_left' Nat.pos_iff_ne_zero.symm
  unfold validate
  split_ifs with h1 h2 h3
  · exact iff_of_false (by simp) fun h => h1 h.flags
  · exact iff_of_false (by simp) fun h => hfr.2 h.frame h2
  · exact iff_of_false (by simp) fun h => hfrag.2 h.fragment h3
  · rw [validateRange_eq_ok (hfrag.1 h3).1, validateDependency_eq_ok]
    constructor
    · intro ⟨hins, hkeyframe, hdep⟩
      exact ⟨Decidable.not_not.1 h1, hfr.1 h2, hfrag.1 h3, hins, hkeyframe, hdep⟩
    · intro h
      exact ⟨h.inside, h.keyframe, h.dependency⟩

theorem valid_of_decode {bytes : List UInt8} (h : MediaHeader.decode bytes = .ok header) :
    header.Valid := by
  unfold decode at h
  split_ifs at h
  split at h
  · cases h
  dsimp only at h
  split at h
  · cases h
  next hval =>
  cases h
  exact validate_eq_ok.1 hval

end MediaHeader

variable {datagram : List UInt8} {packet : MediaPacket}

open MediaHeader

open MediaPacket

/-- A packet that decodes is valid and carries the announced payload. -/
theorem MediaPacket.decode_spec (h : MediaPacket.decode datagram = .ok packet) :
    packet.header.Valid ∧ packet.payload.length = packet.header.fragmentLen.toNat := by
  unfold decode at h
  split at h
  · cases h
  next header hhdr =>
  dsimp only at h
  split_ifs at h with hlen
  cases h
  refine ⟨valid_of_decode hhdr, ?_⟩
  show (datagram.drop mediaHeaderLen).length = header.fragmentLen.toNat
  rw [length_drop]
  omega

/-! ## The round trip -/

@[simp] theorem MediaKind.tryFrom_toByte (kind : MediaKind) :
    MediaKind.tryFrom kind.toByte = .ok kind := by
  cases kind <;> rfl

theorem MediaHeader.length_toBytes (header : MediaHeader) :
    header.toBytes.length = mediaHeaderLen := by
  simp [toBytes, mediaMagic, mediaHeaderLen]

/-- The fields are read back at their offsets. -/
theorem MediaHeader.ofBytes_toBytes (header : MediaHeader) (payload : List UInt8) :
    MediaHeader.ofBytes header.kind (header.toBytes ++ payload) = header := by
  simp [ofBytes, toBytes, mediaMagic, readU16, readU32, readU64,
    drop_append, drop_beBytes, ofNat_beNat_beBytes16, ofNat_beNat_beBytes32,
    ofNat_beNat_beBytes64]

theorem MediaHeader.decode_toBytes {header : MediaHeader} (hval : header.Valid)
    (payload : List UInt8) : MediaHeader.decode (header.toBytes ++ payload) = .ok header := by
  have hlen : ¬ (header.toBytes ++ payload).length < mediaHeaderLen := by
    rw [length_append, header.length_toBytes]
    omega
  have hmagic : (header.toBytes ++ payload).take 4 = mediaMagic := rfl
  have hver : (header.toBytes ++ payload).getD 4 0 = wireVersion := rfl
  have hkind : (header.toBytes ++ payload).getD 5 0 = header.kind.toByte := rfl
  have hresv : ∀ k, k < 2 → (header.toBytes ++ payload).getD (42 + k) 0 = 0 := by
    intro k hk
    match k, hk with
    | 0, _ | 1, _ => rfl
  unfold decode
  rw [if_neg hlen, if_neg (not_not.2 hmagic), if_neg (not_not.2 hver),
    if_neg (not_or.2 ⟨not_not.2 (hresv 0 (by decide)), not_not.2 (hresv 1 (by decide))⟩),
    hkind, MediaKind.tryFrom_toByte]
  simp only [ofBytes_toBytes, validate_eq_ok.2 hval]

/-- Encoding and decoding a packet. -/
theorem MediaPacket.decode_encode (h : packet.encode = .ok datagram) :
    MediaPacket.decode datagram = .ok packet := by
  unfold encode at h
  split_ifs at h with hlen
  rw [not_not] at hlen
  unfold MediaHeader.encode at h
  split at h
  · cases h
  next header hhdr =>
  split at hhdr
  · cases hhdr
  next hval =>
  cases hhdr
  cases h
  unfold decode
  rw [decode_toBytes (validate_eq_ok.1 hval)]
  have htotal : (packet.header.toBytes ++ packet.payload).length =
      mediaHeaderLen + packet.header.fragmentLen.toNat := by
    rw [length_append, packet.header.length_toBytes, hlen]
  have hpay : (packet.header.toBytes ++ packet.payload).drop mediaHeaderLen =
      packet.payload := drop_left' packet.header.length_toBytes
  simp only [htotal, ne_eq, not_true_eq_false, if_false, hpay]

end LatencyDesk.Protocol
