import LatencyDesk.Media.CopyLedger
import LatencyDesk.Platform.Identity

/-!
# The presentation queue

The model of `EpochBoundSurface`, `PresentableFrame` and `PresentationQueue` in
`crates/platform/src/lib.rs`.

An `OwnedSurface` reads its descriptor and its ledger from its pool slot.  The slot
is its own while it lives (`Surface.Ownership`), so both are fields here.  The
authorization of a surface is a flag that its provider may clear at any time, so
every validation is given the two loads it makes of it.
-/

namespace LatencyDesk.Platform

open Media

/-- A live surface.  `allocation` tells it from every other one. -/
structure OwnedSurface where
  allocation : Nat
  descriptor : FrameDescriptor
  copyLedger : CopyLedger
deriving DecidableEq

structure EpochBoundSurface where
  surface : OwnedSurface
  displayEpoch : UInt32
deriving DecidableEq

/-- The two loads of `presentation_authorization` in one validation. -/
structure Loads where
  first : Bool
  last : Bool
deriving DecidableEq

/-- Checks the permission, then the surface. -/
def EpochBoundSurface.validate (bound : EpochBoundSurface) (loads : Loads) :
    Except PlatformError Unit :=
  if loads.first = false then
    .error .permissionRevoked
  else if bound.displayEpoch = 0 ∨
      bound.surface.copyLedger.sourceLease.providerEpoch ≠ bound.displayEpoch then
    .error .invalidSurface
  else
    match bound.surface.descriptor.validate with
    | .error _ => .error .invalidSurface
    | .ok () => if loads.last = false then .error .permissionRevoked else .ok ()

/-- One decoded surface eligible for presentation. -/
structure PresentableFrame where
  surface : EpochBoundSurface
  codecEpoch : UInt32
  frameId : UInt64
  readyNs : UInt64
  deadlineNs : UInt64
  recoveryPoint : Bool
deriving DecidableEq

/-- `(display_epoch, codec_epoch)`. -/
abbrev Epochs := UInt32 × UInt32

/-- The order of pairs. -/
def Epochs.Lt (a b : Epochs) : Prop := a.1 < b.1 ∨ a.1 = b.1 ∧ a.2 < b.2

instance (a b : Epochs) : Decidable (a.Lt b) := inferInstanceAs (Decidable (_ ∨ _))

namespace PresentableFrame

def displayEpoch (frame : PresentableFrame) : UInt32 := frame.surface.displayEpoch

def epochs (frame : PresentableFrame) : Epochs := (frame.displayEpoch, frame.codecEpoch)

/-- A frame has a deadline after it is ready. -/
def validate (frame : PresentableFrame) (loads : Loads) : Except PlatformError Unit :=
  if frame.deadlineNs ≤ frame.readyNs then
    .error .invalidDeadline
  else
    frame.surface.validate loads

end PresentableFrame

inductive QueuePushOutcome where
  | queued
  | rejectedExpired
  | rejectedStale
  | queuedAfterDroppingOldest
deriving DecidableEq

/-- A bounded newest-frame queue, oldest first. -/
structure PresentationQueue where
  capacity : Nat
  items : List PresentableFrame
  latestEpoch : Option Epochs
  latestFrameId : Option UInt64

namespace PresentationQueue

/-- `PresentationQueue::new`, which panics when the capacity is zero or above 16. -/
def new (capacity : Nat) : Option PresentationQueue :=
  if 0 < capacity ∧ capacity ≤ 16 then some ⟨capacity, [], none, none⟩ else none

/-- The staleness of `push`. -/
def stale (queue : PresentationQueue) (frame : PresentableFrame) : Bool :=
  match queue.latestEpoch with
  | none => false
  | some latest =>
    if frame.epochs.Lt latest then
      true
    else if frame.epochs = latest then
      match queue.latestFrameId with
      | none => false
      | some latestId => frame.frameId ≤ latestId
    else
      false

/-- What is left of the queue before a frame joins it: a newer epoch drops the old frames. -/
def continued (queue : PresentationQueue) (frame : PresentableFrame) : List PresentableFrame :=
  match queue.latestEpoch with
  | some latest => if latest.Lt frame.epochs then [] else queue.items
  | none => queue.items

/-- The part of `push` behind the staleness check. -/
def enqueue (queue : PresentationQueue) (frame : PresentableFrame) :
    QueuePushOutcome × PresentationQueue :=
  let items := queue.continued frame
  if items.length = queue.capacity then
    (.queuedAfterDroppingOldest,
      ⟨queue.capacity, items.tail ++ [frame], some frame.epochs, some frame.frameId⟩)
  else
    (.queued, ⟨queue.capacity, items ++ [frame], some frame.epochs, some frame.frameId⟩)

/-- Refuses stale frames; a full queue loses its oldest. -/
def push (queue : PresentationQueue) (frame : PresentableFrame) (nowNs : UInt64) (loads : Loads) :
    Except PlatformError QueuePushOutcome × PresentationQueue :=
  match frame.validate loads with
  | .error e => (.error e, queue)
  | .ok () =>
    if frame.deadlineNs ≤ nowNs then
      (.ok .rejectedExpired, queue)
    else if queue.stale frame then
      (.ok .rejectedStale, queue)
    else
      (.ok (queue.enqueue frame).1, (queue.enqueue frame).2)

/-- The frames that `pop_newest` retains. -/
def retained (queue : PresentationQueue) (nowNs : UInt64) : List PresentableFrame :=
  queue.items.filter fun frame => nowNs < frame.deadlineNs

/-- Removes expired frames and returns the newest remaining one.  The older ones are dropped. -/
def popNewest (queue : PresentationQueue) (nowNs : UInt64) (loads : Loads) :
    Except PlatformError (Option PresentableFrame) × PresentationQueue :=
  match (queue.retained nowNs).getLast? with
  | none => (.ok none, { queue with items := [] })
  | some newest =>
    match newest.validate loads with
    | .error e => (.error e, { queue with items := [] })
    | .ok () => (.ok (some newest), { queue with items := [] })

def resetContinuity (queue : PresentationQueue) (epoch : Option Epochs) : PresentationQueue :=
  { queue with items := [], latestEpoch := epoch, latestFrameId := none }

end PresentationQueue

/-! ## The order of frames

The order of `(display_epoch, codec_epoch, frame_id)` is the order of one number, and so is the
watermark of the queue. -/

def Epochs.rank (epochs : Epochs) : Nat := epochs.1.toNat * 2 ^ 32 + epochs.2.toNat

namespace PresentableFrame

/-- The place of a frame in the order of `(display_epoch, codec_epoch, frame_id)`. -/
def rank (frame : PresentableFrame) : Nat := frame.epochs.rank * 2 ^ 64 + frame.frameId.toNat

/-- A frame is newer than another in the lexicographic order. -/
def Newer (frame other : PresentableFrame) : Prop :=
  other.epochs.Lt frame.epochs ∨ other.epochs = frame.epochs ∧ other.frameId < frame.frameId

end PresentableFrame

variable {a b : Epochs}

theorem Epochs.lt_iff_rank : a.Lt b ↔ a.rank < b.rank := by
  have ha : a.2.toNat < 2 ^ 32 := a.2.toNat_lt
  have hb : b.2.toNat < 2 ^ 32 := b.2.toNat_lt
  unfold Epochs.Lt Epochs.rank
  rw [UInt32.lt_iff_toNat_lt, UInt32.lt_iff_toNat_lt, ← UInt32.toNat_inj]
  omega

theorem Epochs.rank_inj : a.rank = b.rank ↔ a = b := by
  have ha : a.2.toNat < 2 ^ 32 := a.2.toNat_lt
  have hb : b.2.toNat < 2 ^ 32 := b.2.toNat_lt
  rw [Prod.ext_iff, ← UInt32.toNat_inj, ← UInt32.toNat_inj]
  unfold Epochs.rank
  omega

open Epochs

theorem PresentableFrame.newer_iff_rank {frame other : PresentableFrame} :
    frame.Newer other ↔ other.rank < frame.rank := by
  have hid : frame.frameId.toNat < 2 ^ 64 := frame.frameId.toNat_lt
  have hoth : other.frameId.toNat < 2 ^ 64 := other.frameId.toNat_lt
  unfold PresentableFrame.Newer PresentableFrame.rank
  rw [lt_iff_rank, ← rank_inj, UInt64.lt_iff_toNat_lt]
  omega

namespace PresentationQueue

/-- A frame is accepted from this place on. -/
def watermark (queue : PresentationQueue) : Nat :=
  match queue.latestEpoch, queue.latestFrameId with
  | none, _ => 0
  | some latest, none => latest.rank * 2 ^ 64
  | some latest, some latestId => latest.rank * 2 ^ 64 + latestId.toNat + 1

theorem stale_iff {queue : PresentationQueue} {frame : PresentableFrame} :
    queue.stale frame = true ↔ frame.rank < queue.watermark := by
  have hid : frame.frameId.toNat < 2 ^ 64 := frame.frameId.toNat_lt
  unfold stale watermark PresentableFrame.rank
  cases queue.latestEpoch with
  | none => simp
  | some latest =>
    simp only [lt_iff_rank, ← rank_inj]
    cases queue.latestFrameId with
    | none =>
      split_ifs <;> simp <;> omega
    | some latestId =>
      have hlatest : latestId.toNat < 2 ^ 64 := latestId.toNat_lt
      split_ifs <;> simp [UInt64.le_iff_toNat_le] <;> omega

section

variable (queue : PresentationQueue) (frame : PresentableFrame)

theorem watermark_enqueue :
    (queue.enqueue frame).2.watermark = frame.rank + 1 := by
  unfold enqueue
  dsimp only
  split_ifs <;> rfl

theorem continued_sublist :
    (queue.continued frame).Sublist queue.items := by
  unfold continued
  split
  · split_ifs
    · exact List.nil_sublist _
    · exact List.Sublist.refl _
  · exact List.Sublist.refl _

/-- The frames of a queue that has taken one more: the new one last, behind some of those that
were there. -/
theorem enqueue_items :
    ∃ kept, kept.Sublist queue.items ∧ (queue.enqueue frame).2.items = kept ++ [frame] := by
  have hcontinued := queue.continued_sublist frame
  unfold enqueue
  dsimp only
  split_ifs
  · exact ⟨_, (List.tail_sublist _).trans hcontinued, rfl⟩
  · exact ⟨_, hcontinued, rfl⟩

end

end PresentationQueue

end LatencyDesk.Platform
