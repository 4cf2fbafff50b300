import LatencyDesk.TurnRelay.Integrity

/-!
# The codec round trip

A message that was encoded decodes to itself if and only if every address in it
can be carried: the decoder refuses port 0, which the encoder writes, and an
address on the wire has no scope or flow label.  Channel data decodes to itself as it was
encoded, and with zeros up to a multiple of four.
-/

namespace LatencyDesk.TurnRelay

open Lib Protocol List Except

def encodeChannelData (channel : UInt16) (data : List UInt8) : Except WireError (List UInt8) :=
  if ¬(channelMin ≤ channel ∧ channel ≤ channelMax) then
    .error .invalidChannel
  else if 65535 < data.length ∨ maxDatagramBytes < data.length + 4 then
    .error .tooLarge
  else
    .ok (beBytes 2 channel.toNat ++ (beBytes 2 data.length ++ data))

def decodeChannelData (input : List UInt8) : Except WireError (UInt16 × List UInt8) :=
  if maxDatagramBytes < input.length then
    .error .tooLarge
  else if input.length < 4 then
    .error .truncated
  else
    let channel := readU16 input 0
    if ¬(channelMin ≤ channel ∧ channel ≤ channelMax) then
      .error .invalidChannel
    else
      let dataLen := (readU16 input 2).toNat
      -- `(exact + 3) & !3` is the next multiple of four.
      if input.length ≠ 4 + dataLen ∧ input.length ≠ (4 + dataLen + 3) / 4 * 4 then
        .error .invalidLength
      else
        .ok (channel, slice input 4 dataLen)

variable {message : Message} {bytes data : List UInt8} {channel : UInt16} {pad : Nat}

theorem decode_encode (hitems : ∀ item ∈ message.attributes, item.Carried)
    (h : encode message = .ok bytes) : decode bytes = .ok message := by
  obtain ⟨hval, body, kinds, rfl, hmod, hlong, -, hloops⟩ := encode_eq_ok hitems h
  have hhdr := length_headerBytesWith message.header body.length
  have htotal : (headerBytesWith message.header body.length ++ body).length =
      headerLen + body.length := by
    rw [length_append, hhdr]
  have hslice : slice (headerBytesWith message.header body.length ++ body) headerLen body.length =
      body := by
    rw [slice, drop_left' hhdr, take_length]
  unfold decode
  rw [decodeHeader_of_bytes hval hmod (htotal.trans_le hlong)]
  dsimp only
  rw [(hloops _ _ (by omega) hslice le_rfl).1, decodeAttributes_stop le_rfl]

theorem decodeChannelData_encodeChannelData (h : encodeChannelData channel data = .ok bytes)
    (hpad : pad = 0 ∨ pad = paddingLen bytes.length)
    (hlong : bytes.length + pad ≤ maxDatagramBytes) :
    decodeChannelData (bytes ++ replicate pad 0) = .ok (channel, data) := by
  unfold encodeChannelData at h
  split_ifs at h with hchannel hfits
  have hlen : bytes.length = 4 + data.length := by
    cases h
    simp
    omega
  have htotal : (bytes ++ replicate pad 0).length = 4 + data.length + pad := by
    rw [length_append, hlen, length_replicate]
  have hparts : slice (bytes ++ replicate pad 0) 0 (2 + (2 + data.length)) =
      beBytes 2 channel.toNat ++ (beBytes 2 data.length ++ data) := by
    rw [ok.inj h]
    exact take_left' (by omega)
  rw [slice_eq_field (2 + data.length) (word16_eq_iff (by omega)) length_beBytes,
    slice_eq_field data.length (length16_eq_iff (by omega) (by omega)) length_beBytes] at hparts
  obtain ⟨hword, hsize, hdata⟩ : readU16 _ 0 = _ ∧ (readU16 _ 2).toNat = _ ∧ _ := hparts
  unfold paddingLen at hpad
  unfold decodeChannelData
  dsimp only
  rw [htotal, hword, hsize, if_neg (by omega), if_neg (by omega), if_neg (not_not.2 hchannel),
    if_neg (by omega), hdata]

/-- The decoder returns only addresses that the wire can carry. -/
theorem decodeXorAddress_carried {value : List UInt8} {transactionId : Bytes 12}
    {address : SocketAddr} (h : decodeXorAddress value transactionId = .ok address) :
    address.Carried := by
  unfold decodeXorAddress at h
  dsimp only at h
  split_ifs at h with hshort hport hfour hsix
  all_goals
    cases h
    exact ⟨hport, rfl⟩

theorem decodeAttribute_carried {kind : UInt16} {value : List UInt8} {transactionId : Bytes 12}
    {item : Attribute} (h : decodeAttribute kind value transactionId = .ok (some item)) :
    item.Carried := by
  have htext {max : Nat} {make : List UInt8 → Attribute}
      (h : decodeText value max make = .ok (some item)) (hmake : ∀ text, (make text).Carried) :
      item.Carried := by
    unfold decodeText at h
    split at h <;> cases h
    exact hmake _
  have haddress {make : SocketAddr → Attribute}
      (h : decodeAddress value transactionId make = .ok (some item))
      (hmake : ∀ address, address.Carried → (make address).Carried) : item.Carried := by
    unfold decodeAddress at h
    split at h <;> cases h
    exact hmake _ (decodeXorAddress_carried ‹_›)
  unfold decodeAttribute at h
  iterate 3
    rcases ite_eq_iff.1 h with ⟨-, h⟩ | ⟨-, h⟩
    · exact htext h fun _ => trivial
  iterate 3
    rcases ite_eq_iff.1 h with ⟨-, h⟩ | ⟨-, h⟩
    · cases h
      trivial
  iterate 3
    rcases ite_eq_iff.1 h with ⟨-, h⟩ | ⟨-, h⟩
    · exact haddress h fun _ hcarried => hcarried
  iterate 2
    rcases ite_eq_iff.1 h with ⟨-, h⟩ | ⟨-, h⟩
    · cases h
      trivial
  rcases ite_eq_iff.1 h with ⟨-, h⟩ | ⟨-, h⟩
  · unfold decodeErrorCode at h
    dsimp only at h
    repeat' split at h
    all_goals cases h
    trivial
  · unfold decodeOther at h
    split_ifs at h
    cases h

/-- What the loop decodes is carried, if what it has decoded before is. -/
theorem decodeAttributes_carried {input : List UInt8} {header : Header} {stop cursor : Nat}
    {seen : List UInt16} {integritySeen : Bool} {items out : List Attribute}
    (hitems : ∀ item ∈ items, item.Carried)
    (h : decodeAttributes input header stop cursor seen integritySeen items = .ok out) :
    ∀ item ∈ out, item.Carried := by
  fun_induction decodeAttributes with
  | case1 | case2 | case3 | case4 => cases h
  | case5 cursor seen integritySeen items _ kind value next _ _ _ item hdec ih =>
    refine ih ?_ h
    intro other hmem
    rcases mem_append.1 hmem with hold | hnew
    · exact hitems other hold
    · rw [Option.mem_toList] at hnew
      exact decodeAttribute_carried (hdec.trans (congrArg _ hnew))
  | case6 =>
    cases h
    exact hitems

theorem carried_of_decode (h : decode bytes = .ok message) :
    ∀ item ∈ message.attributes, item.Carried := by
  unfold decode at h
  split at h
  · cases h
  split at h <;> cases h
  exact decodeAttributes_carried (forall_mem_nil _) ‹_›

/-- What is encoded is decoded if and only if every address in it can be carried.  Channel data is
always decoded. -/
theorem codec_round_trips_iff (bytes : List UInt8) :
    (∀ message, encode message = .ok bytes →
      (decode bytes = .ok message ↔ ∀ item ∈ message.attributes, item.Carried)) ∧
    ∀ channel data pad, encodeChannelData channel data = .ok bytes →
      pad = 0 ∨ pad = paddingLen bytes.length → bytes.length + pad ≤ maxDatagramBytes →
      decodeChannelData (bytes ++ replicate pad 0) = .ok (channel, data) :=
  ⟨fun _ henc => ⟨carried_of_decode, fun hitems => decode_encode hitems henc⟩,
    fun _ _ _ => decodeChannelData_encodeChannelData⟩

theorem sample_round_trips : ∃ bytes, encode sampleMessage = .ok bytes ∧
    decode bytes = .ok sampleMessage ∧
    decodeChannelData [0x40, 0, 0, 2, 5, 6, 0, 0] = .ok (0x4000, [5, 6]) :=
  ⟨_, rfl, ((codec_round_trips_iff _).1 _ rfl).2 sampleMessage_carried,
    (codec_round_trips_iff [0x40, 0, 0, 2, 5, 6]).2 0x4000 [5, 6] 2 rfl (.inr rfl) (by decide)⟩

/-- A peer without a port is encoded, and the bytes are refused. -/
theorem portless_peer_is_refused : ∃ bytes,
    encode { sampleMessage with
      attributes := [.xorPeerAddress (.v4 (List.Vector.replicate 4 9) 0)] } = .ok bytes ∧
    decode bytes = .error .invalidAttribute := by
  refine ⟨_, rfl, ?_⟩
  unfold decode
  rw [show decodeHeader _ = .ok (sampleMessage.header, 12) from rfl]
  dsimp only
  rw [decodeAttributes_step (by decide)
    (show readRawAttribute _ _ _ = .ok (AttributeKind.xorPeerAddress, _, 32) from rfl)]
  rfl

end LatencyDesk.TurnRelay
