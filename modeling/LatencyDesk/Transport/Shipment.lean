import LatencyDesk.Transport.Bounds
import LatencyDesk.Transport.Fragmenter

/-!
# Frames on their way

A `Shipment` is a frame with the packets that the fragmenter made of it.  While
some of the packets have been delivered, the reassembler holds a partial frame
for it: `Holds` says which.  Its fragments are exactly the delivered pieces, so
its bytes are all there when and only when every packet has been delivered
(`Holds.full_iff`).

`store_again` and `store_missing` say what the reassembler does with a packet when it
has the partial frame: the frame comes out with its last packet (`Yields`), and the
other frames are as they were (`Stowed`).
-/

namespace LatencyDesk.Transport

open Lib Protocol List OrderedMap MediaPacket Reassembler Nat Transport

/-- A frame and its packets. -/
structure Shipment where
  spec : FragmentSpec
  frame : List UInt8
  budget : Nat
  packets : List (List UInt8)
  fragmented : fragmentFrameWithPacketBudget spec frame budget = .ok packets

variable {header : MediaHeader}

theorem Describes.metadataMatches {spec : FragmentSpec} {frame : List UInt8} {part : PartialFrame}
    (hpart : Describes spec frame part.canonical) (hhdr : Describes spec frame header) :
    part.metadataMatches header = true := by
  have hlen : part.canonical.frameLen = header.frameLen :=
    UInt32.toNat_inj.1 (hpart.frameLen.trans hhdr.frameLen.symm)
  simp [PartialFrame.metadataMatches, hlen, hpart.kind, hhdr.kind, hpart.flags,
    hhdr.flags, hpart.streamId, hhdr.streamId, hpart.codecEpoch, hhdr.codecEpoch,
    hpart.frameId, hhdr.frameId, hpart.dependency, hhdr.dependency]

namespace Shipment

def key (s : Shipment) : FrameKey :=
  { streamId := s.spec.streamId
    codecEpoch := s.spec.codecEpoch
    frameId := s.spec.frameId
    kind := s.spec.kind.toByte }

/-- The packets as they are decoded. -/
def mediaPackets (s : Shipment) : List MediaPacket :=
  s.packets.filterMap fun datagram => (MediaPacket.decode datagram).toOption

variable {s : Shipment}

theorem packets_eq (s : Shipment) : s.packets = s.mediaPackets.map packetBytes ∧
    SplitFrom s.spec s.frame (s.budget - mediaHeaderLen) 0 s.mediaPackets := by
  obtain ⟨_, packets, hpackets, hsplit, _⟩ := fragmentFrame_split s.fragmented
  have hdecd : s.mediaPackets = packets := by
    rw [mediaPackets, hpackets, filterMap_map]
    have hsome : ∀ packet ∈ packets,
        ((fun datagram => (decode datagram).toOption) ∘ packetBytes) packet = some packet := by
      intro packet hpkt
      rw [Function.comp_apply, hsplit.decode packet hpkt, Except.toOption]
    rw [filterMap_congr hsome, filterMap_some]
  rw [hdecd]
  exact ⟨hpackets, hsplit⟩

variable {datagram : List UInt8} {packet : MediaPacket} {delivered : List (List UInt8)}

/-- A datagram of the shipment is one of its packets. -/
theorem mem_packets (h : datagram ∈ s.packets) :
    ∃ packet ∈ s.mediaPackets, packetBytes packet = datagram ∧
      decode datagram = .ok packet ∧ Describes s.spec s.frame packet.header := by
  obtain ⟨hpackets, hsplit⟩ := s.packets_eq
  rw [hpackets] at h
  obtain ⟨packet, hpkt, rfl⟩ := mem_map.1 h
  exact ⟨packet, hpkt, rfl, hsplit.decode packet hpkt, hsplit.header packet hpkt⟩

theorem packetBytes_mem (h : packet ∈ s.mediaPackets) : packetBytes packet ∈ s.packets := by
  rw [s.packets_eq.1]
  exact mem_map.2 ⟨packet, h, rfl⟩

theorem length_le (h : datagram ∈ s.packets) : datagram.length ≤ s.budget := by
  obtain ⟨packet, hpkt, rfl, _⟩ := mem_packets h
  obtain ⟨_, _, _, _, hbudget⟩ := fragmentFrame_split s.fragmented
  have hsize := s.packets_eq.2.size packet hpkt
  rw [packetBytes, length_append, packet.header.length_toBytes]
  omega

theorem frame_pos (s : Shipment) : 0 < s.frame.length := (fragmentFrame_split s.fragmented).1

/-- The header of every packet has the key of the shipment. -/
theorem fromHeader_eq_key (h : Describes s.spec s.frame header) :
    FrameKey.fromHeader header = s.key := by
  unfold FrameKey.fromHeader key
  rw [h.kind, h.streamId, h.codecEpoch, h.frameId]

/-! ## The pieces of a frame -/

theorem payload_ne_nil (h : packet ∈ s.mediaPackets) : packet.payload ≠ [] := by
  obtain ⟨hval, hlen⟩ := decode_spec (s.packets_eq.2.decode packet h)
  rw [← length_pos_iff, hlen]
  exact hval.fragment.1

theorem valid_header (h : packet ∈ s.mediaPackets) : packet.header.Valid :=
  (decode_spec (s.packets_eq.2.decode packet h)).1

/-- A later piece begins behind an earlier one, which is not empty. -/
theorem offsets_increase (s : Shipment) :
    s.mediaPackets.Pairwise fun a b => (piece a).1 < (piece b).1 := by
  refine (pairwise_map.1 s.packets_eq.2.ordered).imp_of_mem ?_
  intro a b ha _ hbef
  have hpos : 0 < (piece a).2.length := length_pos_iff.2 (payload_ne_nil ha)
  unfold Before at hbef
  omega

theorem packet_unique {packet pkt' : MediaPacket} (h : packet ∈ s.mediaPackets)
    (h' : pkt' ∈ s.mediaPackets) (hoffset : (piece packet).1 = (piece pkt').1) :
    packet = pkt' := by
  have hne : s.mediaPackets.Pairwise fun a b => (piece a).1 ≠ (piece b).1 :=
    s.offsets_increase.imp fun hlt => ne_of_lt hlt
  have : Std.Symm fun a b : MediaPacket => (piece a).1 ≠ (piece b).1 := ⟨fun _ _ h => h.symm⟩
  by_contra hpkt
  exact hne.forall h h' hpkt hoffset

/-- Two pieces of a frame do not overlap. -/
theorem before_of_lt {packet pkt' : MediaPacket} (h : packet ∈ s.mediaPackets)
    (h' : pkt' ∈ s.mediaPackets) (hlt : (piece packet).1 < (piece pkt').1) :
    Before (piece packet) (piece pkt') := by
  obtain ⟨_, _, hsplit⟩ := append_of_mem h
  have hordered := pairwise_map.1 s.packets_eq.2.ordered
  have hincrease := s.offsets_increase
  rw [hsplit] at h' hordered hincrease
  rw [pairwise_append, pairwise_cons] at hordered hincrease
  rcases mem_append.1 h' with hfront | hcons
  · have := hincrease.2.2 pkt' hfront packet (mem_cons_self ..)
    omega
  rcases mem_cons.1 hcons with rfl | hrest
  · exact absurd hlt (lt_irrefl _)
  · exact hordered.2.1.1 pkt' hrest

/-- The pieces that have been delivered. -/
def pieces (s : Shipment) (delivered : List (List UInt8)) : List (Nat × List UInt8) :=
  (s.mediaPackets.filter fun packet => decide (packetBytes packet ∈ delivered)).map piece

/-- The time at which the first packet of a frame was delivered. -/
def firstSeen (s : Shipment) (deliveries : List (List UInt8 × UInt64)) : Option UInt64 :=
  (deliveries.find? fun delivery => decide (delivery.1 ∈ s.packets)).map Prod.snd

/-- Every packet has been delivered. -/
def IsComplete (s : Shipment) (delivered : List (List UInt8)) : Prop :=
  ∀ datagram ∈ s.packets, datagram ∈ delivered

instance (s : Shipment) (delivered : List (List UInt8)) : Decidable (s.IsComplete delivered) :=
  List.decidableBAll _ _

theorem mem_pieces {entry : Nat × List UInt8} :
    entry ∈ s.pieces delivered ↔
      ∃ packet ∈ s.mediaPackets, packetBytes packet ∈ delivered ∧ piece packet = entry := by
  unfold pieces
  rw [mem_map]
  constructor
  · intro ⟨packet, hpkt, hent⟩
    rw [mem_filter, decide_eq_true_iff] at hpkt
    exact ⟨packet, hpkt.1, hpkt.2, hent⟩
  · intro ⟨packet, hpkt, hdeliv, hent⟩
    exact ⟨packet, mem_filter.2 ⟨hpkt, decide_eq_true hdeliv⟩, hent⟩

theorem pieces_sorted (s : Shipment) (delivered : List (List UInt8)) :
    (s.pieces delivered).Pairwise fun a b => a.1 < b.1 :=
  pairwise_map.2 (s.offsets_increase.filter _)

theorem length_pieces_le (s : Shipment) (delivered : List (List UInt8)) :
    (s.pieces delivered).length ≤ s.packets.length := by
  rw [pieces, length_map, s.packets_eq.1, length_map]
  exact length_filter_le _ _

theorem length_pieces_lt (s : Shipment) (hmem : datagram ∈ s.packets)
    (hmiss : datagram ∉ delivered) :
    (s.pieces delivered).length < s.packets.length := by
  obtain ⟨packet, hpkt, rfl, _⟩ := mem_packets hmem
  rw [pieces, length_map, s.packets_eq.1, length_map]
  exact length_filter_lt_length_iff_exists.2 ⟨packet, hpkt, by simp [hmiss]⟩

theorem isComplete_iff :
    s.IsComplete delivered ↔ ∀ packet ∈ s.mediaPackets, packetBytes packet ∈ delivered := by
  unfold IsComplete
  rw [s.packets_eq.1, forall_mem_map]

/-- When every packet is there, the pieces make up the frame. -/
theorem IsComplete.bytes (h : s.IsComplete delivered) :
    (s.pieces delivered).flatMap Prod.snd = s.frame := by
  have hall : s.mediaPackets.filter (fun packet => decide (packetBytes packet ∈ delivered)) =
      s.mediaPackets :=
    filter_eq_self.2 fun packet hpkt =>
      decide_eq_true (isComplete_iff.1 h packet hpkt)
  rw [pieces, hall, flatMap_map]
  exact s.packets_eq.2.bytes

theorem payloadBytes_map_piece (packets : List MediaPacket) :
    payloadBytes (packets.map piece) = (packets.map fun packet => packet.payload.length).sum := by
  rw [payloadBytes, map_map]
  rfl

/-- The bytes of the frame are there when every packet is. -/
theorem payloadBytes_pieces (s : Shipment) (delivered : List (List UInt8)) :
    payloadBytes (s.pieces delivered) = s.frame.length ↔ s.IsComplete delivered := by
  have hfr : (s.mediaPackets.map fun packet => packet.payload.length).sum = s.frame.length := by
    rw [← length_flatMap, s.packets_eq.2.bytes]
    rfl
  -- The frame is made of the pieces that are there and of the missing ones.
  have hsplit := sum_filter_add_sum_filter_not
    (fun packet => decide (packetBytes packet ∈ delivered))
    (fun packet : MediaPacket => packet.payload.length) s.mediaPackets
  rw [← payloadBytes_map_piece] at hsplit
  have hmiss : ((s.mediaPackets.filter fun packet =>
      !decide (packetBytes packet ∈ delivered)).map fun packet => packet.payload.length).sum = 0 ↔
        s.IsComplete delivered := by
    rw [sum_eq_zero_iff, forall_mem_map, isComplete_iff]
    constructor
    · intro h packet hpkt
      by_contra hnot
      have hzero := h packet (mem_filter.2 ⟨hpkt, by simp [hnot]⟩)
      exact payload_ne_nil hpkt (length_eq_zero_iff.1 hzero)
    · intro h packet hpkt
      rw [mem_filter] at hpkt
      simp [h packet hpkt.1] at hpkt
  rw [← hmiss]
  show payloadBytes ((s.mediaPackets.filter _).map piece) = _ ↔ _
  omega

/-- The partial frame that holds the delivered pieces. -/
structure Holds (s : Shipment) (delivered : List (List UInt8)) (part : PartialFrame) : Prop where
  header : Describes s.spec s.frame part.canonical
  stored : part.fragments.entries = s.pieces delivered

section

variable {part : PartialFrame} {nowNs : UInt64}

theorem Holds.declared (h : s.Holds delivered part) : part.declared = s.frame.length :=
  h.header.frameLen

/-- A partial frame has all its bytes when every packet has been delivered. -/
theorem Holds.full_iff (h : s.Holds delivered part) (hcons : part.Consistent) :
    part.receivedBytes = part.declared ↔ s.IsComplete delivered := by
  rw [hcons.received, h.stored, h.declared]
  exact s.payloadBytes_pieces delivered

/-- Nothing has been delivered of a frame that is new. -/
theorem holds_new (hhdr : Describes s.spec s.frame packet.header)
    (hnone : ∀ datagram ∈ s.packets, datagram ∉ delivered) :
    s.Holds delivered (.new packet.header nowNs) := by
  refine ⟨hhdr, ?_⟩
  have hempty : s.pieces delivered = [] := by
    refine eq_nil_iff_forall_not_mem.2 fun entry hent => ?_
    obtain ⟨_, hoth, hdeliv, _⟩ := mem_pieces.1 hent
    exact hnone _ (packetBytes_mem hoth) hdeliv
  rw [hempty]
  rfl

section

variable (h : s.Holds delivered part) (hpkt : packet ∈ s.mediaPackets)

include h hpkt

/-- A delivered piece is found at its offset. -/
theorem Holds.get?_of_mem (hdeliv : packetBytes packet ∈ delivered) :
    part.fragments.get? packet.header.fragmentOffset.toNat = some packet.payload := by
  rw [get?_eq_some, h.stored]
  exact mem_pieces.2 ⟨packet, hpkt, hdeliv, rfl⟩

variable (hmiss : packetBytes packet ∉ delivered)

include hmiss in
/-- There is nothing at the offset of a piece that is missing. -/
theorem Holds.get?_of_not_mem :
    part.fragments.get? packet.header.fragmentOffset.toNat = none := by
  rw [get?_eq_none, h.stored]
  intro payload hmem
  obtain ⟨other, hoth, hdeliv, hpiece⟩ := mem_pieces.1 hmem
  have hoffset : (piece other).1 = (piece packet).1 := by
    rw [hpiece]
    rfl
  have heq : other = packet := packet_unique hoth hpkt hoffset
  exact hmiss (heq ▸ hdeliv)

theorem Holds.checkPrevious :
    checkPrevious part.fragments packet.header.fragmentOffset.toNat = .ok () := by
  unfold Transport.checkPrevious
  cases hlast : (part.fragments.below packet.header.fragmentOffset.toNat).getLast? with
  | none => rfl
  | some prev =>
    obtain ⟨hmem, hlt⟩ := mem_below.1 (mem_of_getLast? hlast)
    rw [h.stored] at hmem
    obtain ⟨other, hoth, _, rfl⟩ := mem_pieces.1 hmem
    have hbef : Before (piece other) (piece packet) := before_of_lt hoth hpkt hlt
    have hword : packet.header.fragmentOffset.toNat < 2 ^ 32 := UInt32.toNat_lt _
    have hstop : (piece other).1 + (piece other).2.length ≤ packet.header.fragmentOffset.toNat :=
      hbef
    dsimp only
    rw [if_neg (by omega), if_neg (by omega)]

include hmiss in
theorem Holds.checkNext :
    checkNext part.fragments packet.header.fragmentOffset.toNat
      (packet.header.fragmentOffset.toNat + packet.payload.length) = .ok () := by
  unfold Transport.checkNext
  cases hhead : (part.fragments.atLeast packet.header.fragmentOffset.toNat).head? with
  | none => rfl
  | some next =>
    have hat := mem_of_head? hhead
    rw [atLeast, mem_filter, h.stored, decide_eq_true_iff] at hat
    obtain ⟨other, hoth, hdeliv, rfl⟩ := mem_pieces.1 hat.1
    have hne : (piece packet).1 ≠ (piece other).1 := by
      intro heq
      rw [packet_unique hpkt hoth heq] at hmiss
      exact hmiss hdeliv
    have hbef : Before (piece packet) (piece other) :=
      before_of_lt hpkt hoth (lt_of_le_of_ne hat.2 hne)
    exact if_neg (not_lt.2 hbef)

include hmiss in
/-- A missing piece fits between its neighbours. -/
theorem Holds.checkInsertion {maxFragments : Nat} (hlimit : s.packets.length ≤ maxFragments) :
    checkInsertion part packet.header.fragmentOffset.toNat packet.payload
      maxFragments = .ok () := by
  have hcount : part.fragments.length < s.packets.length := by
    rw [OrderedMap.length, h.stored]
    exact s.length_pieces_lt (packetBytes_mem hpkt) hmiss
  unfold Transport.checkInsertion
  rw [if_neg (by omega), h.checkPrevious hpkt, h.checkNext hpkt hmiss]

/-- The partial frame after a piece has been added. -/
theorem Holds.add (nowNs : UInt64) :
    s.Holds (delivered ++ [packetBytes packet])
      (addFragment part packet.header.fragmentOffset.toNat packet.payload nowNs) := by
  refine ⟨h.header, ?_⟩
  refine eq_of_mem_iff (sorted _) (s.pieces_sorted _) fun entry => ?_
  have hinsert : entry ∈ (addFragment part packet.header.fragmentOffset.toNat packet.payload
      nowNs).fragments.entries ↔
        entry = piece packet ∨ entry ∈ s.pieces delivered ∧ entry.1 ≠ (piece packet).1 := by
    rw [← h.stored]
    exact mem_insert
  rw [hinsert]
  constructor
  · rintro (rfl | ⟨hent, _⟩)
    · have hnew : packetBytes packet ∈ delivered ++ [packetBytes packet] :=
        mem_append_right _ (mem_singleton.2 rfl)
      exact mem_pieces.2 ⟨packet, hpkt, hnew, rfl⟩
    · obtain ⟨other, hoth, hdeliv, hpiece⟩ := mem_pieces.1 hent
      exact mem_pieces.2 ⟨other, hoth, mem_append_left _ hdeliv, hpiece⟩
  · intro hent
    obtain ⟨other, hoth, hdeliv, rfl⟩ := mem_pieces.1 hent
    by_cases hoffset : (piece other).1 = (piece packet).1
    · rw [packet_unique hoth hpkt hoffset]
      exact .inl rfl
    refine .inr ⟨mem_pieces.2 ⟨other, hoth, ?_, rfl⟩, hoffset⟩
    rcases mem_append.1 hdeliv with hold | hnew
    · exact hold
    -- The bytes of a packet decode to the packet.
    have hbytes : packetBytes other = packetBytes packet := mem_singleton.1 hnew
    have hoth' := s.packets_eq.2.decode other hoth
    rw [hbytes, s.packets_eq.2.decode packet hpkt] at hoth'
    exact absurd (congrArg (fun p => (piece p).1) (Except.ok.inj hoth')).symm hoffset

end

/-- What is delivered of other frames does not matter. -/
theorem pieces_congr {delivered' : List (List UInt8)}
    (h : ∀ datagram ∈ s.packets, datagram ∈ delivered ↔ datagram ∈ delivered') :
    s.pieces delivered = s.pieces delivered' := by
  unfold pieces
  congr 1
  refine filter_congr fun packet hpkt => ?_
  exact decide_eq_decide.2 (h _ (packetBytes_mem hpkt))

/-- A packet of another frame is none of this frame. -/
theorem mem_append_of_not_mem {other : List UInt8} (h : datagram ∉ s.packets)
    (hoth : other ∈ s.packets) : other ∈ delivered ++ [datagram] ↔ other ∈ delivered := by
  have hne : other ≠ datagram := fun heq => h (heq ▸ hoth)
  rw [mem_append, mem_singleton]
  exact or_iff_left hne

theorem isComplete_append (h : datagram ∉ s.packets) :
    s.IsComplete (delivered ++ [datagram]) ↔ s.IsComplete delivered :=
  forall₂_congr fun _ hoth => mem_append_of_not_mem h hoth

theorem Holds.append (hholds : s.Holds delivered part) (h : datagram ∉ s.packets) :
    s.Holds (delivered ++ [datagram]) part :=
  ⟨hholds.header, hholds.stored.trans
    (pieces_congr fun _ hoth => (mem_append_of_not_mem h hoth).symm)⟩

theorem not_isComplete_nil (s : Shipment) : ¬ s.IsComplete [] := by
  intro hdone
  have hbytes := (s.payloadBytes_pieces []).2 hdone
  have hnone : s.pieces [] = [] := by
    refine eq_nil_iff_forall_not_mem.2 fun entry hent => ?_
    obtain ⟨_, _, hdeliv, _⟩ := mem_pieces.1 hent
    cases hdeliv
  rw [hnone] at hbytes
  exact Nat.ne_of_lt s.frame_pos hbytes

/-! ## Storing a packet -/

/-- The outcome of a delivery: the frame comes out when it is complete. -/
def Yields (s : Shipment) (delivered : List (List UInt8)) (outcome : IngestOutcome) : Prop :=
  if s.IsComplete delivered then
    ∃ frame, outcome = .complete frame ∧ Describes s.spec s.frame frame.header ∧
      frame.bytes = s.frame
  else
    ∀ frame, outcome ≠ .complete frame

/-- The reassembler after a packet of the frame has been stored: it holds the frame unless that
is complete, and the other frames are as they were. -/
structure Stowed (s : Shipment) (delivered : List (List UInt8)) (first : UInt64)
    (r r' : Reassembler) : Prop where
  sound : r'.Sound
  config : r'.config = r.config
  epoch : r'.activeCodecEpoch = r.activeCodecEpoch
  others : ∀ entry : FrameKey × PartialFrame, entry.1 ≠ s.key →
    (entry ∈ r'.frames.entries ↔ entry ∈ r.frames.entries)
  held : ∀ part, r'.frames.get? s.key = some part →
    s.Holds delivered part ∧ part.firstSeenNs = first ∧ ¬ s.IsComplete delivered
  present : ¬ s.IsComplete delivered → ∃ part, r'.frames.get? s.key = some part

theorem Holds.inside (h : s.Holds delivered part) (hpkt : packet ∈ s.mediaPackets) :
    packet.header.fragmentOffset.toNat + packet.payload.length ≤ part.declared := by
  rw [(decode_spec (s.packets_eq.2.decode packet hpkt)).2, h.declared,
    ← (s.packets_eq.2.header packet hpkt).frameLen]
  exact (valid_header hpkt).inside

theorem Holds.word (h : s.Holds delivered part) (hcons : part.Consistent)
    (hpkt : packet ∈ s.mediaPackets) :
    ¬ (2 ^ 32 ≤ packet.payload.length ∨
      2 ^ 32 ≤ packet.header.fragmentOffset.toNat + packet.payload.length) := by
  have hdeclared := hcons.declared
  have hins := h.inside hpkt
  omega

variable {r : Reassembler} (hsnd : r.Sound) (hget : r.frames.get? s.key = some part)
  (hholds : s.Holds delivered part) (hpkt : packet ∈ s.mediaPackets)

include hsnd hget hholds hpkt

/-- A packet that has been delivered before. -/
theorem store_again (hmiss : ¬ s.IsComplete delivered)
    (hdeliv : packetBytes packet ∈ delivered) (nowNs : UInt64) :
    ∃ outcome r', r.storeFragment s.key part packet nowNs = (.ok outcome, r') ∧
      s.Stowed (delivered ++ [packetBytes packet]) part.firstSeenNs r r' ∧
      s.Yields (delivered ++ [packetBytes packet]) outcome := by
  have hfnd := hholds.get?_of_mem hpkt hdeliv
  have hopen := hsnd.frame _ (get?_eq_some.1 hget)
  have hsame (other : List UInt8) :
      other ∈ delivered ++ [packetBytes packet] ↔ other ∈ delivered := by
    rw [mem_append, mem_singleton]
    refine ⟨fun hmem => hmem.elim id ?_, .inl⟩
    rintro rfl
    exact hdeliv
  have hstill : ¬ s.IsComplete (delivered ++ [packetBytes packet]) :=
    fun hdone => hmiss fun other hoth => (hsame other).1 (hdone other hoth)
  unfold storeFragment
  rw [if_neg (by simp [hfnd]), insertFragment,
    if_neg (hholds.word hopen.toConsistent hpkt), hfnd]
  dsimp only
  rw [if_pos rfl]
  refine ⟨_, _, rfl, ⟨(shrinks_stats _ _).sound hsnd, rfl, rfl,
    fun _ _ => Iff.rfl, ?_, fun _ => ⟨part, hget⟩⟩, ?_⟩
  · intro part' hpart'
    have heq : part' = part := Option.some.inj (hpart'.symm.trans hget)
    subst heq
    refine ⟨⟨hholds.header, hholds.stored.trans ?_⟩, rfl, hstill⟩
    exact pieces_congr fun other _ => (hsame other).symm
  · unfold Yields
    rw [if_neg hstill]
    exact nofun

/-- A packet that has not been delivered before. -/
theorem store_missing (hnew : packetBytes packet ∉ delivered)
    (hlimit : s.packets.length ≤ r.config.maxFragmentsPerFrame.toNat)
    (hroom : r.fragmentEntries < r.config.maxFragmentEntries.toNat) (nowNs : UInt64) :
    ∃ outcome r', r.storeFragment s.key part packet nowNs = (.ok outcome, r') ∧
      s.Stowed (delivered ++ [packetBytes packet]) part.firstSeenNs r r' ∧
      s.Yields (delivered ++ [packetBytes packet]) outcome := by
  have hopen := hsnd.frame _ (get?_eq_some.1 hget)
  have hfresh := hholds.get?_of_not_mem hpkt hnew
  have hcheck := hholds.checkInsertion hpkt hnew hlimit
  have hadded := hsnd.storeAdded nowNs hget (payload_ne_nil hpkt) (hholds.inside hpkt)
    hfresh hcheck hroom rfl
  have hcons := (hadded r.stats).1
  have hstore := fun stats => (hadded stats).2
  have hholds' := hholds.add hpkt nowNs
  have hfull := hholds'.full_iff hcons
  have hres : r.storeFragment s.key part packet nowNs =
      r.finishFragment s.key
        (addFragment part packet.header.fragmentOffset.toNat packet.payload nowNs)
        packet.payload.length nowNs := by
    unfold storeFragment
    rw [if_neg (fun hentries => not_le.2 hroom hentries.2), insertFragment,
      if_neg (hholds.word hopen.toConsistent hpkt), hfresh]
    rw [hcheck]
  rw [hres]
  by_cases hdone : s.IsComplete (delivered ++ [packetBytes packet])
  · obtain ⟨r', heq, hshr, hfrs, hep⟩ :=
      finishFragment_of_full nowNs hcons hstore (hfull.2 hdone)
    have hgone : r'.frames.get? s.key = none := by
      rw [hfrs, get?_eq_none]
      exact fun part hent => (mem_erase.1 hent).2 rfl
    refine ⟨_, r', heq, ⟨hshr.sound hsnd, hshr.config, hep, ?_, ?_, ?_⟩, ?_⟩
    · intro entry hne
      rw [hfrs, mem_erase, mem_insert]
      refine ⟨fun hent => ?_, fun hent => ⟨.inr ⟨hent, hne⟩, hne⟩⟩
      exact (hent.1.resolve_left fun heq => hne (congrArg Prod.fst heq)).1
    · intro part' hpart'
      rw [hgone] at hpart'
      cases hpart'
    · exact fun hnot => absurd hdone hnot
    · unfold Yields
      rw [if_pos hdone]
      refine ⟨_, rfl, hholds'.header, ?_⟩
      rw [hholds'.stored]
      exact hdone.bytes
  · obtain ⟨r', heq, hsnd', hcfg, hfrs, hep⟩ :=
      finishFragment_of_short nowNs hstore fun heq => hdone (hfull.1 heq)
    refine ⟨_, r', heq, ⟨hsnd', hcfg, hep, ?_, ?_, ?_⟩, ?_⟩
    · intro entry hne
      rw [hfrs, mem_insert]
      refine ⟨fun hent => ?_, fun hent => .inr ⟨hent, hne⟩⟩
      exact (hent.resolve_left fun heq => hne (congrArg Prod.fst heq)).1
    · intro part' hpart'
      rw [hfrs, get?_insert_self] at hpart'
      cases hpart'
      exact ⟨hholds', rfl, hdone⟩
    · intro _
      rw [hfrs]
      exact ⟨_, get?_insert_self⟩
    · unfold Yields
      rw [if_neg hdone]
      exact nofun

end

end Shipment

end LatencyDesk.Transport
