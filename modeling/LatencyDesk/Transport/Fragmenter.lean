import LatencyDesk.Transport.Frame

/-!
# The fragmenter

The model of `fragment_frame_with_packet_budget` in
`crates/transport/src/lib.rs`: the checks of `frame_fragments_impl`, the
iterator `FrameFragments` and the loop that encodes what it yields.  The iterator
builds its headers with `expect`; a panic there is an `.error` of `next`.

`fragmentFrame_split` says what the packets are.  They decode to pieces that lie
one behind the other, carry the frame's metadata, and make up the frame.
-/

namespace LatencyDesk.Transport

open Lib Protocol List MediaPacket Nat

/-- `MAX_DATAGRAM_MTU`. -/
def maxDatagramMtu : Nat := 1_450

structure FragmentSpec where
  kind : MediaKind
  flags : UInt16
  streamId : UInt32
  codecEpoch : UInt32
  frameId : UInt64
  dependencyFrameId : Option UInt64
deriving DecidableEq

def FragmentSpec.dependencyWire (spec : FragmentSpec) : UInt64 :=
  spec.dependencyFrameId.getD noDependency

/-- The header of one fragment. -/
def fragmentHeader (spec : FragmentSpec) (frameLen : UInt32) (offset payloadLen : Nat) :
    Except TransportError MediaHeader :=
  if 2 ^ 32 ≤ offset then
    .error .arithmetic
  else if 2 ^ 16 ≤ payloadLen then
    .error .arithmetic
  else
    .ok
      { kind := spec.kind
        flags := spec.flags
        streamId := spec.streamId
        codecEpoch := spec.codecEpoch
        frameId := spec.frameId
        dependencyFrameId := spec.dependencyWire
        frameLen := frameLen
        fragmentOffset := .ofNat offset
        fragmentLen := .ofNat payloadLen }

/-- `fragment_header(..).and_then(validate_fragment_header)`. -/
def validateFragmentHeader (spec : FragmentSpec) (frameLen : UInt32) (offset payloadLen : Nat) :
    Except TransportError Unit :=
  match fragmentHeader spec frameLen offset payloadLen with
  | .error e => .error e
  | .ok header =>
    match header.validate with
    | .error e => .error (.protocol e)
    | .ok () => .ok ()

/-- A frame with what is left to send. -/
structure FrameFragments where
  spec : FragmentSpec
  frame : List UInt8
  frameLen : UInt32
  payloadCap : Nat
  nextOffset : Nat
  remaining : Nat

/-- `FrameFragments::next`.  A `FrameFragment` has the fields of a packet. -/
def FrameFragments.next (fragments : FrameFragments) :
    Option (Except TransportError MediaPacket × FrameFragments) :=
  if fragments.remaining = 0 then
    none
  else
    let start := fragments.nextOffset
    let stop := min (usizeAdd start fragments.payloadCap) fragments.frame.length
    let payload := (fragments.frame.drop start).take (stop - start)
    let fragment :=
      match fragmentHeader fragments.spec fragments.frameLen start payload.length with
      | .error e => .error e
      | .ok header => .ok { header := header, payload := payload }
    some (fragment, { fragments with nextOffset := stop, remaining := fragments.remaining - 1 })

/-- Checks the frame and the packet size. -/
def frameFragmentsImpl (spec : FragmentSpec) (frame : List UInt8) (maxMediaPacketBytes : Nat) :
    Except TransportError FrameFragments :=
  if frame = [] ∨ maxFrameBytes.toNat < frame.length then
    .error (.frameLength frame.length)
  else if maxMediaPacketBytes ≤ mediaHeaderLen then
    .error (.datagramMtu maxMediaPacketBytes)
  else
    let payloadCap := maxMediaPacketBytes - mediaHeaderLen
    if maxFragmentBytes.toNat < payloadCap then
      .error (.datagramMtu maxMediaPacketBytes)
    else if 2 ^ 32 ≤ frame.length then
      .error (.frameLength frame.length)
    else
      let frameLen := UInt32.ofNat frame.length
      let count := (frame.length + payloadCap - 1) / payloadCap
      let lastOffset := (count - 1) * payloadCap
      if usizeMax < lastOffset then
        .error .arithmetic
      else
        match validateFragmentHeader spec frameLen 0 (min payloadCap frame.length) with
        | .error e => .error e
        | .ok () =>
          match validateFragmentHeader spec frameLen lastOffset (frame.length - lastOffset) with
          | .error e => .error e
          | .ok () =>
            .ok
              { spec := spec
                frame := frame
                frameLen := frameLen
                payloadCap := payloadCap
                nextOffset := 0
                remaining := count }

/-- The loop of `fragment_frame_impl`, over what the iterator still yields. -/
def encodeFragments : Nat → FrameFragments → Except TransportError (List (List UInt8))
  | 0, _ => .ok []
  | fuel + 1, fragments =>
    match fragments.next with
    | none => .ok []
    | some (.error e, _) => .error e
    | some (.ok fragment, fragments) =>
      match fragment.encode with
      | .error e => .error (.protocol e)
      | .ok datagram =>
        match encodeFragments fuel fragments with
        | .error e => .error e
        | .ok datagrams => .ok (datagram :: datagrams)

def fragmentFrameImpl (spec : FragmentSpec) (frame : List UInt8) (maxMediaPacketBytes : Nat) :
    Except TransportError (List (List UInt8)) :=
  match frameFragmentsImpl spec frame maxMediaPacketBytes with
  | .error e => .error e
  | .ok fragments => encodeFragments fragments.remaining fragments

def frameFragmentsWithPacketBudget (spec : FragmentSpec) (frame : List UInt8)
    (maxMediaPacketBytes : Nat) : Except TransportError FrameFragments :=
  if maxMediaPacketBytes < mediaHeaderLen + 1 ∨ maxDatagramMtu < maxMediaPacketBytes then
    .error (.datagramMtu maxMediaPacketBytes)
  else
    frameFragmentsImpl spec frame maxMediaPacketBytes

/-- All that the iterator still yields. -/
def FrameFragments.collect : Nat → FrameFragments → Except TransportError (List MediaPacket)
  | 0, _ => .ok []
  | fuel + 1, fragments =>
    match fragments.next with
    | none => .ok []
    | some (.error e, _) => .error e
    | some (.ok fragment, fragments) =>
      match fragments.collect fuel with
      | .error e => .error e
      | .ok packets => .ok (fragment :: packets)

def fragmentFrameWithPacketBudget (spec : FragmentSpec) (frame : List UInt8)
    (maxMediaPacketBytes : Nat) : Except TransportError (List (List UInt8)) :=
  if maxMediaPacketBytes < mediaHeaderLen + 1 ∨ maxDatagramMtu < maxMediaPacketBytes then
    .error (.datagramMtu maxMediaPacketBytes)
  else
    fragmentFrameImpl spec frame maxMediaPacketBytes

/-! ## The packets of a frame -/

/-- The bytes of a packet on the wire. -/
def packetBytes (packet : MediaPacket) : List UInt8 :=
  packet.header.toBytes ++ packet.payload

theorem encode_eq_ok {pkt : MediaPacket} {dgram : List UInt8}
    (h : pkt.encode = .ok dgram) : dgram = packetBytes pkt := by
  unfold encode MediaHeader.encode at h
  split_ifs at h
  split at h
  · cases h
  next header hhdr =>
  split at hhdr
  · cases hhdr
  cases hhdr
  exact (Except.ok.inj h).symm

/-- The header describes a fragment of the frame. -/
structure Describes (spec : FragmentSpec) (frame : List UInt8) (header : MediaHeader) : Prop where
  kind : header.kind = spec.kind
  flags : header.flags = spec.flags
  streamId : header.streamId = spec.streamId
  codecEpoch : header.codecEpoch = spec.codecEpoch
  frameId : header.frameId = spec.frameId
  dependency : header.dependencyFrameId = spec.dependencyWire
  frameLen : header.frameLen.toNat = frame.length

/-- The offset and the payload of a packet, as the reassembler stores them. -/
def piece (packet : MediaPacket) : Nat × List UInt8 :=
  (packet.header.fragmentOffset.toNat, packet.payload)

/-- The packets carry the bytes of the frame from an offset on. -/
structure SplitFrom (spec : FragmentSpec) (frame : List UInt8) (payloadCap start : Nat)
    (packets : List MediaPacket) : Prop where
  decode : ∀ packet ∈ packets, MediaPacket.decode (packetBytes packet) = .ok packet
  header : ∀ packet ∈ packets, Describes spec frame packet.header
  size : ∀ packet ∈ packets, packet.payload.length ≤ payloadCap
  after : ∀ packet ∈ packets, start ≤ (piece packet).1
  ordered : (packets.map piece).Pairwise Before
  bytes : packets.flatMap MediaPacket.payload = frame.drop start

variable {spec : FragmentSpec} {fragments : FrameFragments} {frame : List UInt8}

theorem fragmentHeader_eq_ok {frameLen : UInt32} {offset payloadLen : Nat} {hdr : MediaHeader}
    (h : fragmentHeader spec frameLen offset payloadLen = .ok hdr)
    (hlen : frameLen.toNat = frame.length) :
    Describes spec frame hdr ∧ hdr.fragmentOffset.toNat = offset := by
  unfold fragmentHeader at h
  split_ifs at h with hoffset
  cases h
  refine ⟨⟨rfl, rfl, rfl, rfl, rfl, rfl, hlen⟩, ?_⟩
  exact UInt32.toNat_ofNat_of_lt' (Nat.lt_of_not_le hoffset)

variable {fuel : Nat} {datagrams : List (List UInt8)}

open FrameFragments

/-- The induction is on what the iterator still yields.  It yields enough to
reach the end of the frame. -/
theorem encodeFragments_eq_ok (h : encodeFragments fuel fragments = .ok datagrams)
    (hremaining : fragments.remaining = fuel)
    (hlen : fragments.frameLen.toNat = fragments.frame.length)
    (hcap : fragments.payloadCap < 2 ^ 32) (hoffset : fragments.nextOffset ≤ fragments.frame.length)
    (hreach : fragments.frame.length ≤ fragments.nextOffset + fuel * fragments.payloadCap) :
    ∃ packets, datagrams = packets.map packetBytes ∧
      SplitFrom fragments.spec fragments.frame fragments.payloadCap fragments.nextOffset
        packets := by
  induction fuel generalizing fragments datagrams with
  | zero =>
    cases h
    refine ⟨[], rfl, ⟨?_, ?_, ?_, ?_, .nil, ?_⟩⟩
    iterate 4 exact nofun
    · rw [drop_eq_nil_of_le (by omega)]
      rfl
  | succ fuel ih =>
    obtain ⟨spec, frame, frameLen, cap, start, remaining⟩ := fragments
    dsimp only at hremaining hcap hoffset hreach ⊢
    have hfr : frame.length < 2 ^ 32 := hlen ▸ frameLen.toNat_lt
    have hadd : usizeAdd start cap = start + cap := usizeAdd_eq (by omega)
    have hmul : (fuel + 1) * cap = fuel * cap + cap := succ_mul fuel cap
    rw [encodeFragments, FrameFragments.next] at h
    dsimp only at h
    rw [if_neg (by omega), hadd] at h
    generalize hstop : min (start + cap) frame.length = stop at h
    generalize hpay : (frame.drop start).take (stop - start) = payload at h
    have hpayloadLength : start + payload.length = stop := by
      rw [← hpay, length_take, length_drop]
      omega
    rcases hhdr : fragmentHeader spec frameLen start payload.length with _ | header
    · rw [hhdr] at h
      cases h
    rw [hhdr] at h
    dsimp only at h
    obtain ⟨hdescribes, hheaderOffset⟩ := fragmentHeader_eq_ok hhdr hlen
    split at h
    · cases h
    next datagram henc =>
    split at h
    · cases h
    next rest hrest =>
    cases h
    obtain ⟨packets, rfl, hsplit⟩ := ih hrest (by dsimp only; omega) hlen hcap
      (by dsimp only; omega) (by dsimp only; omega)
    have hafter : ∀ packet ∈ packets, stop ≤ (piece packet).1 := hsplit.after
    refine ⟨{ header := header, payload := payload } :: packets, ?_, ?_⟩
    · rw [map_cons, encode_eq_ok henc]
    refine ⟨?_, ?_, ?_, ?_, ?_, ?_⟩
    · refine forall_mem_cons.2 ⟨?_, hsplit.decode⟩
      rw [← encode_eq_ok henc]
      exact decode_encode henc
    · exact forall_mem_cons.2 ⟨hdescribes, hsplit.header⟩
    · refine forall_mem_cons.2 ⟨?_, hsplit.size⟩
      dsimp only
      omega
    · refine forall_mem_cons.2 ⟨le_of_eq hheaderOffset.symm, ?_⟩
      intro packet hpkt
      have := hafter packet hpkt
      omega
    · refine pairwise_cons.2 ⟨?_, hsplit.ordered⟩
      intro next hnext
      obtain ⟨packet, hpkt, rfl⟩ := mem_map.1 hnext
      have := hafter packet hpkt
      show header.fragmentOffset.toNat + payload.length ≤ _
      omega
    · rw [flatMap_cons, hsplit.bytes, ← hpay]
      conv_rhs => rw [← take_append_drop (stop - start) (frame.drop start)]
      rw [drop_drop, show start + (stop - start) = stop by omega]

variable {budget : Nat}

theorem frameFragmentsImpl_eq_ok (h : frameFragmentsImpl spec frame budget = .ok fragments) :
    fragments.spec = spec ∧ fragments.frame = frame ∧ fragments.nextOffset = 0 ∧
      fragments.frameLen.toNat = frame.length ∧ fragments.payloadCap = budget - mediaHeaderLen ∧
      fragments.payloadCap < 2 ^ 32 ∧
      frame.length ≤ fragments.remaining * fragments.payloadCap ∧
      0 < frame.length ∧ mediaHeaderLen < budget := by
  unfold frameFragmentsImpl at h
  dsimp only at h
  split_ifs at h with hfr hbudget hcap hword
  rw [not_or] at hfr
  split at h
  · cases h
  split at h
  · cases h
  cases h
  have hcap' : budget - mediaHeaderLen < 2 ^ 32 :=
    Nat.lt_of_le_of_lt (Nat.le_of_not_lt hcap) (Nat.lt_trans (UInt16.toNat_lt _) (by decide))
  refine ⟨rfl, rfl, rfl, ?_, rfl, hcap', ?_, ?_, ?_⟩
  · exact UInt32.toNat_ofNat_of_lt' (Nat.lt_of_not_le hword)
  · -- Rounding up reaches the end of the frame.
    dsimp only
    generalize hsum : frame.length + (budget - mediaHeaderLen) - 1 = sum
    have hdiv := div_add_mod sum (budget - mediaHeaderLen)
    have hmod := mod_lt sum (show 0 < budget - mediaHeaderLen by omega)
    rw [mul_comm] at hdiv
    omega
  · exact length_pos_iff.2 hfr.1
  · omega

/-- The packets of a frame decode to its pieces. -/
theorem fragmentFrame_split (h : fragmentFrameWithPacketBudget spec frame budget = .ok datagrams) :
    0 < frame.length ∧ ∃ packets, datagrams = packets.map packetBytes ∧
      SplitFrom spec frame (budget - mediaHeaderLen) 0 packets ∧ mediaHeaderLen < budget := by
  unfold fragmentFrameWithPacketBudget fragmentFrameImpl at h
  split_ifs at h with hbudget
  split at h
  · cases h
  next fragments himpl =>
  obtain ⟨rfl, rfl, hstart, hlen, hcapEq, hcap, hreach, hpos, hhdr⟩ :=
    frameFragmentsImpl_eq_ok himpl
  obtain ⟨packets, hdatagrams, hsplit⟩ := encodeFragments_eq_ok h rfl hlen hcap
    (by omega) (by omega)
  rw [hstart, hcapEq] at hsplit
  exact ⟨hpos, packets, hdatagrams, hsplit, hhdr⟩

theorem frameFragmentsWithPacketBudget_eq_ok
    (h : frameFragmentsWithPacketBudget spec frame budget = .ok fragments) :
    fragments.spec = spec ∧ mediaHeaderLen + fragments.payloadCap ≤ maxDatagramMtu := by
  unfold frameFragmentsWithPacketBudget at h
  split_ifs at h with hbudget
  obtain ⟨hspec, -, -, -, hcap, -⟩ := frameFragmentsImpl_eq_ok h
  refine ⟨hspec, ?_⟩
  omega

/-- The fragments have the flags of the frame and fit the cap. -/
theorem FrameFragments.collect_eq_ok {packets : List MediaPacket}
    (h : fragments.collect fuel = .ok packets) :
    ∀ pkt ∈ packets, pkt.header.flags = fragments.spec.flags ∧
      pkt.payload.length ≤ fragments.payloadCap := by
  induction fuel generalizing fragments packets with
  | zero =>
    cases h
    exact nofun
  | succ fuel ih =>
    unfold collect next at h
    dsimp only at h
    split_ifs at h
    · cases h
      exact nofun
    generalize hstop : min (usizeAdd fragments.nextOffset fragments.payloadCap)
      fragments.frame.length = stop at h
    have hcap : stop - fragments.nextOffset ≤ fragments.payloadCap := by
      unfold usizeAdd at hstop
      omega
    rcases hhdr : fragmentHeader fragments.spec fragments.frameLen fragments.nextOffset
      ((fragments.frame.drop fragments.nextOffset).take (stop - fragments.nextOffset)).length
      with _ | hdr
    · rw [hhdr] at h
      cases h
    rw [hhdr] at h
    dsimp only at h
    split at h
    · cases h
    next rest hrest =>
    cases h
    intro pkt hpkt
    rcases mem_cons.1 hpkt with rfl | hpkt
    · refine ⟨?_, le_trans (length_take_le _ _) hcap⟩
      unfold fragmentHeader at hhdr
      split_ifs at hhdr
      cases hhdr
      rfl
    · exact ih hrest pkt hpkt

end LatencyDesk.Transport
