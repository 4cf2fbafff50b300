import LatencyDesk.Transport.Bounds
import LatencyDesk.Transport.Fragmenter

/-!
# Where the bytes of a frame come from

`MadeOf P` says that everything in a reassembler comes from packets with the
property `P`.  A call of `ingest` with such a packet keeps it, and a frame that
the call hands out is made of such packets only (`Ingested.madeOf`).  A fresh
reassembler is made of nothing.
-/

namespace LatencyDesk.Transport

open Lib Protocol List

variable {P P' : MediaPacket → Prop}

/-- The frame under the key holds data of packets with the property. -/
structure PartialFrame.MadeOf (P : MediaPacket → Prop) (key : FrameKey) (part : PartialFrame) :
    Prop where
  sameKey : FrameKey.fromHeader part.canonical = key
  canonical : ∃ packet, P packet ∧ packet.header = part.canonical
  fragments : ∀ fragment ∈ part.fragments.entries, ∃ packet,
    (P packet ∧ FrameKey.fromHeader packet.header = key) ∧ piece packet = fragment

/-- The frame is put together from packets with the property. -/
structure ReassembledFrame.MadeOf (P : MediaPacket → Prop) (frame : ReassembledFrame) : Prop where
  header : ∃ packet, P packet ∧ packet.header = frame.header
  bytes : ∃ packets : List MediaPacket,
    (∀ packet ∈ packets,
      P packet ∧ FrameKey.fromHeader packet.header = FrameKey.fromHeader frame.header) ∧
      frame.bytes = packets.flatMap MediaPacket.payload

/-- Fragments that come from packets are the pieces of a list of packets. -/
theorem exists_map_piece {frags : List (Nat × List UInt8)}
    (h : ∀ frag ∈ frags, ∃ packet, P packet ∧ piece packet = frag) :
    ∃ packets : List MediaPacket, (∀ packet ∈ packets, P packet) ∧ packets.map piece = frags := by
  induction frags with
  | nil => exact ⟨[], forall_mem_nil _, rfl⟩
  | cons frag rest ih =>
    rw [forall_mem_cons] at h
    obtain ⟨⟨packet, hpkt, rfl⟩, hrest⟩ := h
    obtain ⟨packets, hpackets, rfl⟩ := ih hrest
    exact ⟨packet :: packets, forall_mem_cons.2 ⟨hpkt, hpackets⟩, rfl⟩

namespace PartialFrame

variable {part : PartialFrame} {key : FrameKey} {packet : MediaPacket}

theorem MadeOf.mono (h : part.MadeOf P key) (hsub : ∀ packet, P packet → P' packet) :
    part.MadeOf P' key := by
  refine ⟨h.sameKey, ?_, fun frag hmem => ?_⟩
  · obtain ⟨packet, hpkt, hhdr⟩ := h.canonical
    exact ⟨packet, hsub packet hpkt, hhdr⟩
  · obtain ⟨packet, ⟨hpkt, hkey⟩, hpiece⟩ := h.fragments frag hmem
    exact ⟨packet, ⟨hsub packet hpkt, hkey⟩, hpiece⟩

theorem madeOf_new (hpkt : P packet) {nowNs : UInt64} :
    (PartialFrame.new packet.header nowNs).MadeOf P (.fromHeader packet.header) :=
  ⟨rfl, ⟨packet, hpkt, rfl⟩, nofun⟩

/-- A frame with the fragment of one more packet. -/
theorem MadeOf.add (h : part.MadeOf P (.fromHeader packet.header)) (hpkt : P packet)
    (nowNs : UInt64) :
    (addFragment part packet.header.fragmentOffset.toNat packet.payload nowNs).MadeOf P
      (.fromHeader packet.header) := by
  refine ⟨h.sameKey, h.canonical, ?_⟩
  exact OrderedMap.forall_mem_insert ⟨packet, ⟨hpkt, rfl⟩, rfl⟩ h.fragments

end PartialFrame

namespace Reassembler

/-- Everything in the reassembler comes from packets with the property. -/
def MadeOf (P : MediaPacket → Prop) (r : Reassembler) : Prop :=
  ∀ entry ∈ r.frames.entries, entry.2.MadeOf P entry.1

variable {r r' : Reassembler}

theorem MadeOf.mono (h : r.MadeOf P) (hsub : ∀ packet, P packet → P' packet) : r.MadeOf P' :=
  fun entry hent => (h entry hent).mono hsub

theorem MadeOf.shrinks (h : r.MadeOf P) (hshr : r.Shrinks r') : r'.MadeOf P :=
  fun entry hent => h entry (hshr.frames entry hent)

theorem madeOf_ofValid {config : ReassemblyConfig} (valid : config.validate = .ok ()) :
    (ofValid config valid).MadeOf P :=
  nofun

variable {nowNs : UInt64}

/-- The frame of a packet with the packet's fragment. -/
theorem MadeOf.added (h : r.MadeOf P) {packet : MediaPacket} (hpkt : P packet)
    {part : PartialFrame} (hpart : r.frames.get? (.fromHeader packet.header) = some part ∨
      part = .new packet.header nowNs) :
    (addFragment part packet.header.fragmentOffset.toNat packet.payload nowNs).MadeOf P
      (.fromHeader packet.header) := by
  refine PartialFrame.MadeOf.add ?_ hpkt nowNs
  rcases hpart with hget | rfl
  · exact h _ (OrderedMap.get?_eq_some.1 hget)
  · exact PartialFrame.madeOf_new hpkt

theorem Ingested.madeOf {datagram : List UInt8}
    {result : Except TransportError IngestOutcome × Reassembler}
    (hres : Ingested r datagram nowNs result) (h : r.MadeOf P)
    (hpkt : ∀ packet, MediaPacket.decode datagram = .ok packet → P packet) :
    result.2.MadeOf P ∧ ∀ frame, result.1 = .ok (.complete frame) → frame.MadeOf P := by
  cases hres with
  | refused e r' herror hshr =>
    exact ⟨h.shrinks hshr, nofun⟩
  | duplicate key r' hshr => exact ⟨h.shrinks hshr, nofun⟩
  | pending packet part part' r' hdec hpart hpart' hcfg hfrs hsnd hshort =>
    refine ⟨fun entry hent => ?_, nofun⟩
    rcases hfrs entry hent with rfl | hold
    · rw [hpart']
      exact h.added (hpkt packet hdec) hpart
    · exact h entry hold
  | complete packet part part' frame r' hdec hpart hpart' hhdr hbytes hshr =>
    refine ⟨h.shrinks hshr, fun frame' hfr' => ?_⟩
    cases hfr'
    have hadded := h.added (hpkt packet hdec) hpart
    rw [← hpart'] at hadded
    have hcanonical : part'.canonical = frame.header := by
      rw [hpart', hhdr]
      rfl
    obtain ⟨packets, hpackets, hpieces⟩ := exists_map_piece hadded.fragments
    refine ⟨hcanonical ▸ hadded.canonical, packets, fun other hoth => ?_, ?_⟩
    · rw [← hcanonical, hadded.sameKey]
      exact hpackets other hoth
    · rw [hbytes, ← hpieces, flatMap_map]
      rfl

end Reassembler

end LatencyDesk.Transport
