import LatencyDesk.Lib.Slice
import Mathlib.Data.Finset.Card

/-!
# Idle refinement

When the picture stands still the host sends its tiles again without loss, a
burst at a time.  A tile is marked as refined when its packet is built, but the
packets of a burst are returned together: when a later tile of the burst fails,
the packets before it are lost and their tiles stay marked
(`lost_packet_stays_refined`).
-/

namespace LatencyDesk.Frame

open Lib List

inductive PixelFormat where
  | bgra8
  | nv12

structure TileCoord where
  x : UInt32
  y : UInt32
deriving DecidableEq

inductive FrameError where
  | invalidTileCoord (x y : UInt32)
  | overflow

/-- A frame in memory.  With a longer stride the offsets of its rows wrap. -/
structure RawFrame where
  height : UInt32
  format : PixelFormat
  stride : UInt32
  data : List UInt8
  stride_lt : stride < 0x40000000 := by decide

/-- How a display is cut into square tiles. -/
structure TileGrid where
  width : UInt32
  height : UInt32
  tileSize : UInt32
  tilesX : UInt32
  tilesY : UInt32

def TileGrid.totalTiles (grid : TileGrid) : Nat := grid.tilesX.toNat * grid.tilesY.toNat

/-- The corner and the size of a tile, which the edges cut. -/
def TileGrid.tileBounds (grid : TileGrid) (coord : TileCoord) :
    Except FrameError (UInt32 × UInt32 × UInt32 × UInt32) :=
  if grid.tilesX ≤ coord.x ∨ grid.tilesY ≤ coord.y then
    .error (.invalidTileCoord coord.x coord.y)
  else
    let x := coord.x * grid.tileSize
    let y := coord.y * grid.tileSize
    .ok (x, y, min (grid.width - x) grid.tileSize, min (grid.height - y) grid.tileSize)

/-- The loop over the rows of a plane, at their offsets. -/
def extractRows (data : List UInt8) (rowBytes : Nat) : List Nat → Except FrameError (List UInt8)
  | [] => .ok []
  | offset :: rest =>
    if data.length < offset + rowBytes then
      .error .overflow
    else
      (extractRows data rowBytes rest).map (slice data offset rowBytes ++ ·)

/-- The rows of a tile, of both planes for NV12. -/
def extractTilePixels (frame : RawFrame) (grid : TileGrid) (coord : TileCoord) :
    Except FrameError (List UInt8) := do
  let (x, y, w, h) ← grid.tileBounds coord
  let stride := frame.stride.toNat
  let rows (first count : UInt32) (start : Nat) : List Nat :=
    (range count.toNat).map fun row => start + (first + UInt32.ofNat row).toNat * stride
  match frame.format with
  | .bgra8 => extractRows frame.data (w.toNat * 4) (rows y h (x.toNat * 4))
  | .nv12 =>
    let luma ← extractRows frame.data w.toNat (rows y h x.toNat)
    let uvW := (w / 2 + w % 2) * 2
    let uvStart := stride * frame.height.toNat
    let chroma ← extractRows frame.data uvW.toNat
      (rows (y / 2) (h / 2 + h % 2) (uvStart + (x / 2 * 2).toNat))
    return luma ++ chroma

structure TileRefinementMeta where
  displayEpoch : UInt32
  generation : UInt64
  coord : TileCoord
  width : UInt32
  height : UInt32
  hash : UInt64

structure TileRefinementPacket where
  metaData : TileRefinementMeta
  format : PixelFormat
  rawLen : UInt32
  compressed : Bool
  payload : List UInt8

inductive IdleRefinementStatus where
  | activeMotion
  | staticPending (idleDurationNs : UInt64)
  | refining (idleDurationNs : UInt64) (remainingTiles : Nat)
  | fullyRefined (idleDurationNs : UInt64)

/-- Which tiles of an idle display are still lossy. -/
structure IdleRefinementPolicy where
  displayEpoch : UInt32
  grid : TileGrid
  idleThresholdNs : UInt64
  maxTilesPerBurst : Nat
  lastMotionTimestampNs : UInt64
  compressTiles : Bool
  generation : UInt64
  refinedTiles : Finset TileCoord
  lossyCandidates : List TileCoord
  status : IdleRefinementStatus

section

variable (xxhash64 : List UInt8 → UInt64)
  (compressPackbits : List UInt8 → Except FrameError (List UInt8)) (frame : RawFrame)

/-- The lossless packet of a tile. -/
def TileRefinementPacket.fromFrame (grid : TileGrid) (coord : TileCoord)
    (displayEpoch : UInt32) (generation : UInt64) (compress : Bool) :
    Except FrameError TileRefinementPacket := do
  let (_, _, w, h) ← grid.tileBounds coord
  let rawPixels ← extractTilePixels frame grid coord
  let (compressed, payload) ←
    if compress then do
      let data ← compressPackbits rawPixels
      pure (if data.length < rawPixels.length then (true, data) else (false, rawPixels))
    else
      pure (false, rawPixels)
  return ⟨⟨displayEpoch, generation, coord, w, h, xxhash64 rawPixels⟩, frame.format,
    .ofNat rawPixels.length, compressed, payload⟩

namespace IdleRefinementPolicy

def packetOf (p : IdleRefinementPolicy) (coord : TileCoord) :
    Except FrameError TileRefinementPacket :=
  TileRefinementPacket.fromFrame xxhash64 compressPackbits frame p.grid coord p.displayEpoch
    p.generation p.compressTiles

/-- A tile that changed is lossy again. -/
def dirty (p : IdleRefinementPolicy) (coord : TileCoord) : IdleRefinementPolicy :=
  { p with
    refinedTiles := p.refinedTiles.erase coord
    lossyCandidates :=
      if coord ∈ p.lossyCandidates then p.lossyCandidates else p.lossyCandidates ++ [coord] }

/-- All tiles that are not refined, when there are no candidates. -/
def refill (p : IdleRefinementPolicy) : IdleRefinementPolicy :=
  if p.lossyCandidates = [] ∧ p.refinedTiles.card < p.grid.totalTiles then
    { p with
      lossyCandidates := ((range p.grid.tilesY.toNat).flatMap fun ty =>
        (range p.grid.tilesX.toNat).map fun tx => ⟨.ofNat tx, .ofNat ty⟩).filter
          (· ∉ p.refinedTiles) }
  else
    p

/-- The loop over the burst. -/
def emit (p : IdleRefinementPolicy) :
    List TileCoord → Except FrameError (List TileRefinementPacket) × IdleRefinementPolicy
  | [] => (.ok [], p)
  | coord :: rest =>
    match p.packetOf xxhash64 compressPackbits frame coord with
    | .error e => (.error e, p)
    | .ok packet =>
      let (packets, p) := emit { p with refinedTiles := insert coord p.refinedTiles } rest
      (packets.map (packet :: ·), p)

/-- Motion marks tiles; an idle display refines a burst of them. -/
def onFrame (p : IdleRefinementPolicy) (dirtyTiles : List TileCoord) (timestampNs : UInt64) :
    Except FrameError (List TileRefinementPacket) × IdleRefinementPolicy :=
  if dirtyTiles ≠ [] then
    (.ok [], dirtyTiles.foldl dirty
      { p with lastMotionTimestampNs := timestampNs, status := .activeMotion })
  else
    let idle := saturatingSub timestampNs p.lastMotionTimestampNs
    if idle < p.idleThresholdNs then
      (.ok [], { p with status := .staticPending idle })
    else
      let p := p.refill
      if p.lossyCandidates = [] ∧ p.refinedTiles.card = p.grid.totalTiles then
        (.ok [], { p with status := .fullyRefined idle })
      else
        let batchSize := min p.maxTilesPerBurst p.lossyCandidates.length
        match emit xxhash64 compressPackbits frame
            { p with lossyCandidates := p.lossyCandidates.drop batchSize }
            (p.lossyCandidates.take batchSize) with
        | (.error e, p) => (.error e, p)
        | (.ok packets, p) =>
          (.ok packets,
            { p with
              generation := p.generation + 1
              status := .refining idle p.lossyCandidates.length })

variable {xxhash64 compressPackbits frame}

/-- A burst that fails has marked the tiles before the one that failed. -/
theorem emit_error {p q : IdleRefinementPolicy} {burst : List TileCoord} {e : FrameError}
    (h : p.emit xxhash64 compressPackbits frame burst = (.error e, q)) :
    q.refinedTiles = p.refinedTiles ∪ (burst.takeWhile fun coord =>
      (p.packetOf xxhash64 compressPackbits frame coord).isOk).toFinset := by
  induction burst generalizing p with
  | nil => cases h
  | cons coord rest ih =>
    rw [emit] at h
    split at h
    · next hpkt =>
      cases h
      simp [hpkt, Except.toBool]
    next packet hpkt =>
    rcases hrest : emit xxhash64 compressPackbits frame
      { p with refinedTiles := insert coord p.refinedTiles } rest with ⟨_ | _, _⟩
    · rw [hrest] at h
      cases h
      rw [ih hrest, takeWhile_cons_of_pos (by rw [hpkt]; rfl), toFinset_cons,
        Finset.insert_union, Finset.union_insert]
      rfl
    · rw [hrest] at h
      cases h

theorem refill_eq {p : IdleRefinementPolicy} :
    ∃ candidates, p.refill = { p with lossyCandidates := candidates } := by
  rw [refill]
  split_ifs
  · exact ⟨_, rfl⟩
  · exact ⟨p.lossyCandidates, rfl⟩

/-- A call that fails refines nothing as long as the tiles of its burst before the one that failed
were refined before. -/
theorem failed_call_refines_nothing_iff (p : IdleRefinementPolicy)
    (dirtyTiles : List TileCoord) (timestampNs : UInt64) (error : FrameError)
    (h : (p.onFrame xxhash64 compressPackbits frame dirtyTiles timestampNs).1 = .error error) :
    (p.onFrame xxhash64 compressPackbits frame dirtyTiles timestampNs).2.refinedTiles ⊆
        p.refinedTiles ↔
      ∀ coord ∈ (p.refill.lossyCandidates.take p.maxTilesPerBurst).takeWhile fun coord =>
        (p.packetOf xxhash64 compressPackbits frame coord).isOk, coord ∈ p.refinedTiles := by
  obtain ⟨candidates, hrefill⟩ := refill_eq
  unfold onFrame at h ⊢
  rw [hrefill] at h ⊢
  dsimp only at h ⊢
  split_ifs at h ⊢
  split at h
  · next q hemit =>
    rw [emit_error hemit, Finset.union_subset_iff, ← take_eq_take_min]
    simp [Finset.subset_iff, packetOf]
  · cases h

end IdleRefinementPolicy

end

/-- One frame of one pixel under a grid of two tiles. -/
def sampleFrame : RawFrame :=
  { height := 1, format := .bgra8, stride := 4, data := [1, 2, 3, 4] }

def samplePolicy (candidates : List TileCoord) : IdleRefinementPolicy :=
  ⟨1, ⟨2, 1, 1, 2, 1⟩, 0, 32, 0, false, 0, ∅, candidates, .activeMotion⟩

/-- The second tile fails alone. -/
theorem sample_failed_call :
    ((samplePolicy [⟨1, 0⟩]).onFrame (fun _ => 0) .ok sampleFrame [] 0).2.refinedTiles ⊆ ∅ :=
  (IdleRefinementPolicy.failed_call_refines_nothing_iff (samplePolicy [⟨1, 0⟩]) [] 0
    .overflow rfl).2 (by decide)

/-- The first tile is refined, and its packet is lost with the second one. -/
theorem lost_packet_stays_refined :
    let answer := (samplePolicy []).onFrame (fun _ => 0) .ok sampleFrame [] 0
    answer.1.isOk = false ∧ ⟨0, 0⟩ ∉ (samplePolicy []).refinedTiles ∧
      ⟨0, 0⟩ ∈ answer.2.refinedTiles := by
  decide

end LatencyDesk.Frame
