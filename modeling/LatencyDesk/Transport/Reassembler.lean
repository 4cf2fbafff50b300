import LatencyDesk.Lib.Machine
import LatencyDesk.Lib.OrderedMap
import LatencyDesk.Protocol.Media
import Mathlib.Data.Prod.Lex

/-!
# The fragment reassembler

The model of `Reassembler` in `crates/transport/src/lib.rs`, with every error
path of `ingest`.  A method that takes `&mut self` returns its result and the
reassembler after the call.  A configuration is checked when a reassembler is
made, so a `Reassembler` carries the proof that its configuration is valid.

`usize` is 64 bits wide.  The counters are numbers and `usizeAdd` is
`usize::saturating_add`.  The loop of `make_room_for_new_frame` runs on fuel,
one unit for each frame that it can still remove.
-/

namespace LatencyDesk.Transport

open Lib Protocol

/-- `usize::MAX`. -/
def usizeMax : Nat := 2 ^ 64 - 1

/-- `usize::saturating_add`. -/
def usizeAdd (a b : Nat) : Nat := min (a + b) usizeMax

/-- `FrameKey`, ordered field by field. -/
@[ext] structure FrameKey where
  streamId : UInt32
  codecEpoch : UInt32
  frameId : UInt64
  kind : UInt8

namespace FrameKey

/-- The fields as numbers, in the order in which the key compares them. -/
def rank (key : FrameKey) : Nat ×ₗ Nat ×ₗ Nat ×ₗ Nat :=
  toLex (key.streamId.toNat,
    toLex (key.codecEpoch.toNat, toLex (key.frameId.toNat, key.kind.toNat)))

theorem rank_injective : Function.Injective rank := by
  intro x y h
  simp only [rank, EmbeddingLike.apply_eq_iff_eq, Prod.mk.injEq, UInt32.toNat_inj,
    UInt64.toNat_inj, UInt8.toNat_inj] at h
  exact FrameKey.ext h.1 h.2.1 h.2.2.1 h.2.2.2

instance : LinearOrder FrameKey := LinearOrder.lift' rank rank_injective

def fromHeader (header : MediaHeader) : FrameKey :=
  { streamId := header.streamId
    codecEpoch := header.codecEpoch
    frameId := header.frameId
    kind := header.kind.toByte }

end FrameKey

inductive TransportError where
  | protocol (error : ProtocolError)
  | datagramMtu (bytes : Nat)
  | frameLength (bytes : Nat)
  | arithmetic
  | unsupportedParity
  | staleCodecEpoch (packetEpoch currentEpoch : UInt32)
  | frameExceedsReassemblyBudget (frameBytes budgetBytes : Nat)
  | metadataConflict (key : FrameKey)
  | fragmentEntryLimit
  | fragmentConflict
  | fragmentOverlap
  | incompleteAssembly
  | reassemblyCapacity
  | invalidReassemblyConfig
deriving DecidableEq

structure ReassembledFrame where
  header : MediaHeader
  bytes : List UInt8
  firstFragmentNs : UInt64
  completedNs : UInt64
deriving DecidableEq

/-! ## Configuration -/

/-- The limits of a reassembler. -/
structure ReassemblyConfig where
  maxInflightFrames : UInt64
  maxBufferedBytes : UInt64
  maxFragmentsPerFrame : UInt64
  maxFragmentEntries : UInt64
  maxFrameAgeNs : UInt64
  minDatagramBytes : UInt64
  maxDatagramBytes : UInt64
deriving DecidableEq

namespace ReassemblyConfig

/-- `ReassemblyConfig::default`. -/
def default : ReassemblyConfig :=
  { maxInflightFrames := 2
    maxBufferedBytes := 64 * 1024 * 1024
    maxFragmentsPerFrame := 16_384
    maxFragmentEntries := 65_536
    maxFrameAgeNs := 17_000_000
    minDatagramBytes := 1_200
    maxDatagramBytes := 1_450 }

/-- Limits that can be kept. -/
def validate (config : ReassemblyConfig) : Except TransportError Unit :=
  if config.maxInflightFrames = 0 ∨ config.maxBufferedBytes = 0 ∨
      config.maxFragmentsPerFrame = 0 ∨ config.maxFragmentEntries = 0 ∨
      config.maxFragmentEntries < config.maxFragmentsPerFrame ∨ config.maxFrameAgeNs = 0 ∨
      512 * 1024 * 1024 < config.maxBufferedBytes ∨
      config.minDatagramBytes.toNat < mediaHeaderLen ∨
      config.maxDatagramBytes < config.minDatagramBytes then
    .error .invalidReassemblyConfig
  else
    .ok ()

theorem validate_default : default.validate = .ok () := by decide

end ReassemblyConfig

/-! ## One frame -/

/-- `PartialFrame`.  The fragments are keyed by their offset. -/
structure PartialFrame where
  canonical : MediaHeader
  fragments : OrderedMap Nat (List UInt8)
  receivedBytes : Nat
  firstSeenNs : UInt64
  lastUpdateNs : UInt64
deriving DecidableEq

namespace PartialFrame

def new (header : MediaHeader) (nowNs : UInt64) : PartialFrame :=
  { canonical := header
    fragments := .empty
    receivedBytes := 0
    firstSeenNs := nowNs
    lastUpdateNs := nowNs }

/-- `canonical.frame_len as usize`. -/
def declared (part : PartialFrame) : Nat := part.canonical.frameLen.toNat

/-- Two headers of one frame. -/
def metadataMatches (part : PartialFrame) (header : MediaHeader) : Bool :=
  part.canonical.kind == header.kind && part.canonical.flags == header.flags &&
    part.canonical.streamId == header.streamId &&
    part.canonical.codecEpoch == header.codecEpoch &&
    part.canonical.frameId == header.frameId &&
    part.canonical.dependencyFrameId == header.dependencyFrameId &&
    part.canonical.frameLen == header.frameLen

end PartialFrame

inductive FragmentInsertion where
  | duplicate
  | added (bytes : Nat)
deriving DecidableEq

/-- The check against the fragment before the offset. -/
def checkPrevious (fragments : OrderedMap Nat (List UInt8)) (offset : Nat) :
    Except TransportError Unit :=
  match (fragments.below offset).getLast? with
  | none => .ok ()
  | some (previousOffset, previous) =>
    if 2 ^ 32 ≤ previous.length ∨ 2 ^ 32 ≤ previousOffset + previous.length then
      .error .arithmetic
    else if offset < previousOffset + previous.length then
      .error .fragmentOverlap
    else
      .ok ()

/-- The check against the fragment from the offset on. -/
def checkNext (fragments : OrderedMap Nat (List UInt8)) (offset stop : Nat) :
    Except TransportError Unit :=
  match (fragments.atLeast offset).head? with
  | none => .ok ()
  | some (nextOffset, _) => if nextOffset < stop then .error .fragmentOverlap else .ok ()

/-- The checks of `insert_fragment` for an offset that is not there yet. -/
def checkInsertion (part : PartialFrame) (offset : Nat) (payload : List UInt8)
    (maxFragmentsPerFrame : Nat) : Except TransportError Unit :=
  if maxFragmentsPerFrame ≤ part.fragments.length then
    .error .fragmentEntryLimit
  else
    match checkPrevious part.fragments offset with
    | .error e => .error e
    | .ok () => checkNext part.fragments offset (offset + payload.length)

/-- `insert_fragment` after the checks. -/
def addFragment (part : PartialFrame) (offset : Nat) (payload : List UInt8) (nowNs : UInt64) :
    PartialFrame :=
  { part with
    fragments := part.fragments.insert offset payload
    receivedBytes := usizeAdd part.receivedBytes payload.length
    lastUpdateNs := nowNs }

/-- Adds a fragment that overlaps no other. -/
def insertFragment (part : PartialFrame) (offset : Nat) (payload : List UInt8) (nowNs : UInt64)
    (maxFragmentsPerFrame : Nat) : Except TransportError FragmentInsertion × PartialFrame :=
  if 2 ^ 32 ≤ payload.length ∨ 2 ^ 32 ≤ offset + payload.length then
    (.error .arithmetic, part)
  else
    match part.fragments.get? offset with
    | some existing =>
      (if existing = payload then .ok .duplicate else .error .fragmentConflict, part)
    | none =>
      match checkInsertion part offset payload maxFragmentsPerFrame with
      | .error e => (.error e, part)
      | .ok () => (.ok (.added payload.length), addFragment part offset payload nowNs)

/-- The loop of `assemble`: copy the fragments and track the expected offset. -/
def copyFragments : List (Nat × List UInt8) → List UInt8 → Nat →
    Except TransportError (List UInt8 × Nat)
  | [], bytes, expectedOffset => .ok (bytes, expectedOffset)
  | (offset, fragment) :: rest, bytes, expectedOffset =>
    let stop := offset + fragment.length
    if offset ≠ expectedOffset then
      .error .incompleteAssembly
    else if usizeMax < stop then
      .error .arithmetic
    else if bytes.length < stop then
      .error .incompleteAssembly
    else if 2 ^ 32 ≤ stop then
      .error .arithmetic
    else
      copyFragments rest (bytes.take offset ++ fragment ++ bytes.drop stop) stop

/-- The bytes, once all have come. -/
def assemble (part : PartialFrame) (completedNs : UInt64) :
    Except TransportError ReassembledFrame :=
  if part.receivedBytes ≠ part.declared then
    .error .incompleteAssembly
  else
    match copyFragments part.fragments.entries (List.replicate part.declared 0) 0 with
    | .error e => .error e
    | .ok (bytes, expectedOffset) =>
      if expectedOffset ≠ part.declared then
        .error .incompleteAssembly
      else
        .ok
          { header := part.canonical
            bytes := bytes
            firstFragmentNs := part.firstSeenNs
            completedNs := completedNs }

/-! ## The reassembler -/

inductive IngestOutcome where
  | pending (key : FrameKey) (receivedBytes : Nat)
  | duplicate (key : FrameKey)
  | complete (frame : ReassembledFrame)
deriving DecidableEq

structure ReassemblyStats where
  datagramsAccepted : UInt64
  duplicateFragments : UInt64
  framesCompleted : UInt64
  framesExpired : UInt64
  framesEvicted : UInt64
  malformedDatagrams : UInt64
  conflictingFragments : UInt64
  staleEpochDatagrams : UInt64
  epochBumps : UInt64
deriving DecidableEq

/-- `ReassemblyStats::default`. -/
def ReassemblyStats.default : ReassemblyStats :=
  { datagramsAccepted := 0, duplicateFragments := 0, framesCompleted := 0, framesExpired := 0
    framesEvicted := 0, malformedDatagrams := 0, conflictingFragments := 0
    staleEpochDatagrams := 0, epochBumps := 0 }

structure Reassembler where
  config : ReassemblyConfig
  valid : config.validate = .ok ()
  frames : OrderedMap FrameKey PartialFrame
  bufferedBytes : Nat
  reservedBytes : Nat
  fragmentEntries : Nat
  stats : ReassemblyStats
  activeCodecEpoch : UInt32

namespace Reassembler

/-- `Reassembler::new` for a configuration that has been validated. -/
def ofValid (config : ReassemblyConfig) (valid : config.validate = .ok ()) : Reassembler :=
  { config := config
    valid := valid
    frames := .empty
    bufferedBytes := 0
    reservedBytes := 0
    fragmentEntries := 0
    stats := .default
    activeCodecEpoch := 1 }

def new (config : ReassemblyConfig) : Except TransportError Reassembler :=
  if valid : config.validate = .ok () then .ok (ofValid config valid)
  else .error .invalidReassemblyConfig

def inflightFrames (r : Reassembler) : Nat := r.frames.length

/-- Removes a frame and its share of the counters. -/
def removeFrame (r : Reassembler) (key : FrameKey) : Reassembler :=
  match r.frames.get? key with
  | none => r
  | some removed =>
    { r with
      frames := r.frames.erase key
      bufferedBytes := r.bufferedBytes - removed.receivedBytes
      reservedBytes := r.reservedBytes - removed.declared
      fragmentEntries := r.fragmentEntries - removed.fragments.length }

/-- Remove frames one after the other. -/
def removeFrames (r : Reassembler) (keys : List FrameKey) : Reassembler :=
  keys.foldl removeFrame r

/-- The frames that a call at the given time expires. -/
def expiredKeys (r : Reassembler) (nowNs : UInt64) : List FrameKey :=
  (r.frames.entries.filter fun entry =>
    decide (r.config.maxFrameAgeNs ≤ saturatingSub nowNs entry.2.firstSeenNs)).map Prod.fst

/-- `expire`, and its alias `expire_due`. -/
def expire (r : Reassembler) (nowNs : UInt64) : Nat × Reassembler :=
  let expired := r.expiredKeys nowNs
  let removed := r.removeFrames expired
  (expired.length,
    { removed with
      stats :=
        { removed.stats with
          framesExpired := saturatingAdd removed.stats.framesExpired (.ofNat expired.length) } })

/-- The frame that `make_room_for_new_frame` evicts: the one updated longest
ago, then the one first seen first, then the smallest key. -/
def victim (r : Reassembler) : Option FrameKey :=
  ((r.frames.entries.map fun entry =>
      toLex (entry.2.lastUpdateNs.toNat, toLex (entry.2.firstSeenNs.toNat, entry.1))).min?).map
    fun least => (ofLex (ofLex least).2).2

/-- The loop condition of `make_room_for_new_frame`. -/
def isFull (r : Reassembler) (declaredFrameBytes : Nat) : Bool :=
  decide (r.config.maxInflightFrames.toNat ≤ r.frames.length ∨
    r.config.maxBufferedBytes.toNat < usizeAdd r.reservedBytes declaredFrameBytes)

/-- Drops a frame and counts it. -/
def evict (r : Reassembler) (key : FrameKey) : Reassembler :=
  let removed := r.removeFrame key
  { removed with
    stats := { removed.stats with framesEvicted := saturatingAdd removed.stats.framesEvicted 1 } }

/-- `make_room_for_new_frame` with fuel for its loop. -/
def makeRoom : Nat → Reassembler → Nat → Except TransportError Unit × Reassembler
  | 0, r, _ => (.error .reassemblyCapacity, r)
  | fuel + 1, r, declaredFrameBytes =>
    if r.isFull declaredFrameBytes then
      match r.victim with
      | none => (.error .reassemblyCapacity, r)
      | some key => makeRoom fuel (r.evict key) declaredFrameBytes
    else
      (.ok (), r)

/-- Evicts frames until a new one fits. -/
def makeRoomForNewFrame (r : Reassembler) (declaredFrameBytes : Nat) :
    Except TransportError Unit × Reassembler :=
  makeRoom (r.frames.length + 1) r declaredFrameBytes

/-- The part of `ingest` that moves to a newer codec epoch. -/
def enterEpoch (r : Reassembler) (packetEpoch : UInt32) : Reassembler :=
  if r.activeCodecEpoch < packetEpoch then
    let staleKeys := (r.frames.entries.map Prod.fst).filter fun key =>
      decide (key.codecEpoch < packetEpoch)
    let removed := r.removeFrames staleKeys
    { removed with
      activeCodecEpoch := packetEpoch
      stats := { removed.stats with epochBumps := saturatingAdd removed.stats.epochBumps 1 } }
  else
    r

def countConflict (r : Reassembler) : Reassembler :=
  { r with
    stats :=
      { r.stats with
        conflictingFragments := saturatingAdd r.stats.conflictingFragments 1 } }

/-- The part of `ingest` that finds or makes the frame of a packet. -/
def admitFrame (r : Reassembler) (header : MediaHeader) (nowNs : UInt64) :
    Except TransportError Unit × Reassembler :=
  let key := FrameKey.fromHeader header
  match r.frames.get? key with
  | some existing =>
    if existing.metadataMatches header then (.ok (), r)
    else (.error (.metadataConflict key), (r.removeFrame key).countConflict)
  | none =>
    match r.makeRoomForNewFrame header.frameLen.toNat with
    | (.error e, r) => (.error e, r)
    | (.ok (), r) =>
      (.ok (),
        { r with
          reservedBytes := usizeAdd r.reservedBytes header.frameLen.toNat
          frames := r.frames.insert key (.new header nowNs) })

/-- The part of `ingest` after a fragment has been added to the frame. -/
def finishFragment (r : Reassembler) (key : FrameKey) (part : PartialFrame) (bytes : Nat)
    (nowNs : UInt64) : Except TransportError IngestOutcome × Reassembler :=
  let r : Reassembler :=
    { r with
      frames := r.frames.insert key part
      bufferedBytes := usizeAdd r.bufferedBytes bytes
      fragmentEntries := usizeAdd r.fragmentEntries 1
      stats :=
        { r.stats with datagramsAccepted := saturatingAdd r.stats.datagramsAccepted 1 } }
  if part.receivedBytes = part.declared then
    let r := r.removeFrame key
    match assemble part nowNs with
    | .error e => (.error e, r)
    | .ok frame =>
      (.ok (.complete frame),
        { r with
          stats := { r.stats with framesCompleted := saturatingAdd r.stats.framesCompleted 1 } })
  else
    (.ok (.pending key part.receivedBytes), r)

/-- The part of `ingest` that stores a fragment in the frame of its packet. -/
def storeFragment (r : Reassembler) (key : FrameKey) (part : PartialFrame) (packet : MediaPacket)
    (nowNs : UInt64) : Except TransportError IngestOutcome × Reassembler :=
  let offset := packet.header.fragmentOffset.toNat
  let isExactDuplicate := decide (part.fragments.get? offset = some packet.payload)
  if isExactDuplicate = false ∧ r.config.maxFragmentEntries.toNat ≤ r.fragmentEntries then
    (.error .fragmentEntryLimit, r.removeFrame key)
  else
    match insertFragment part offset packet.payload nowNs
        r.config.maxFragmentsPerFrame.toNat with
    | (.ok .duplicate, _) =>
      (.ok (.duplicate key),
        { r with
          stats :=
            { r.stats with duplicateFragments := saturatingAdd r.stats.duplicateFragments 1 } })
    | (.ok (.added bytes), part) => r.finishFragment key part bytes nowNs
    | (.error e, _) => (.error e, (r.removeFrame key).countConflict)

/-- The part of `ingest` after the packet has been decoded. -/
def ingestPacket (r : Reassembler) (packet : MediaPacket) (nowNs : UInt64) :
    Except TransportError IngestOutcome × Reassembler :=
  let packetEpoch := packet.header.codecEpoch
  let declared := packet.header.frameLen.toNat
  if packet.header.flags &&& MediaFlags.parity ≠ 0 then
    (.error .unsupportedParity, r)
  else if packetEpoch < r.activeCodecEpoch then
    (.error (.staleCodecEpoch packetEpoch r.activeCodecEpoch),
      { r with
        stats :=
          { r.stats with staleEpochDatagrams := saturatingAdd r.stats.staleEpochDatagrams 1 } })
  else
    let r := r.enterEpoch packetEpoch
    let key := FrameKey.fromHeader packet.header
    if r.config.maxBufferedBytes.toNat < declared then
      (.error (.frameExceedsReassemblyBudget declared r.config.maxBufferedBytes.toNat), r)
    else
      match r.admitFrame packet.header nowNs with
      | (.error e, r) => (.error e, r)
      | (.ok (), r) =>
        match r.frames.get? key with
        -- The frame has just been found or inserted.
        | none => (.error .reassemblyCapacity, r)
        | some part => r.storeFragment key part packet nowNs

/-- Takes a datagram and may complete a frame. -/
def ingest (r : Reassembler) (datagram : List UInt8) (nowNs : UInt64) :
    Except TransportError IngestOutcome × Reassembler :=
  let r := (r.expire nowNs).2
  if r.config.maxDatagramBytes.toNat < datagram.length then
    (.error (.datagramMtu datagram.length), r)
  else
    match MediaPacket.decode datagram with
    | .error e =>
      (.error (.protocol e),
        { r with
          stats :=
            { r.stats with malformedDatagrams := saturatingAdd r.stats.malformedDatagrams 1 } })
    | .ok packet => r.ingestPacket packet nowNs

end Reassembler

/-! ## The machine -/

inductive ReassemblerCall where
  | ingest (datagram : List UInt8) (nowNs : UInt64)
  | expire (nowNs : UInt64)

inductive ReassemblerEvent where
  | ingest (datagram : List UInt8) (nowNs : UInt64) (result : Except TransportError IngestOutcome)
  | expire (nowNs : UInt64) (result : Nat)

/-- The reassembler as a machine over its calls. -/
def reassemblerMachine : Machine Reassembler ReassemblerCall ReassemblerEvent where
  step r
    | .ingest datagram nowNs => record (.ingest datagram nowNs) (r.ingest datagram nowNs)
    | .expire nowNs => record (.expire nowNs) (r.expire nowNs)

end LatencyDesk.Transport
