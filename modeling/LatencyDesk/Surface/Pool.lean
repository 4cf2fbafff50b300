import LatencyDesk.Lib.Machine
import LatencyDesk.Lib.Word
import LatencyDesk.Media.CopyLedger

/-!
# The surface pool

The model of `crates/surface/src/lib.rs`.  The first part is what stands under the
lock of the pool: `acquire`, `descriptor`, `destination`, `finishImport` and
`releaseSlot` are one acquisition of the lock each.

The second part are the handles.  A handle is a `CaptureLease` or an
`OwnedSurface`, and its holder may be anywhere between two acquisitions of the lock:
in one of the import functions, or in the `Drop` of the handle.  A step of the world
is one acquisition, with what its thread does up to the next one, so a run is an
interleaving of any number of threads.

No code under the lock panics, so the lock is never poisoned.  The payload of an
owned surface is dropped before the slot is released, and nothing reads it before.
-/

namespace LatencyDesk.Surface

open Lib Media

inductive SurfaceError where
  | invalidDescriptor
  | invalidDestination
  | destinationMismatch
  | poolExhausted
  | unknownSurface
  | staleGeneration
  | invalidState
  | copyLedger (error : CopyLedgerError)
deriving DecidableEq

inductive SlotState where
  | available
  | captureLeased
  | owned
deriving DecidableEq

/-- An engine-owned destination.  `valid` is what its constructor checks. -/
structure DestinationSurfaceSpec where
  descriptor : FrameDescriptor
  device : DeviceIdentity
  layout : SurfaceLayout
  valid : descriptor.validate = .ok () ∧ layout.memoryDomain = descriptor.memoryDomain ∧
    layout.formatFourcc = descriptor.formatFourcc ∧ layout.valid = true
deriving DecidableEq

def DestinationSurfaceSpec.new (descriptor : FrameDescriptor) (device : DeviceIdentity)
    (layout : SurfaceLayout) : Except SurfaceError DestinationSurfaceSpec :=
  if hdescriptor : descriptor.validate = .ok () then
    if hlayout : layout.memoryDomain = descriptor.memoryDomain ∧
        layout.formatFourcc = descriptor.formatFourcc ∧ layout.valid = true then
      .ok ⟨descriptor, device, layout, hdescriptor, hlayout⟩
    else
      .error .invalidDestination
  else
    .error .invalidDescriptor

structure Slot where
  generation : UInt64
  state : SlotState
  descriptor : Option FrameDescriptor
  destination : Option DestinationSurfaceSpec
  copyLedger : Option CopyLedger

structure SurfacePoolStats where
  acquisitionAttempts : UInt64
  acquisitions : UInt64
  poolExhaustions : UInt64
  importsDirectAlias : UInt64
  importsGpuConvert : UInt64
  importsGpuCopy : UInt64
  importsCpuCopy : UInt64
  importsInternalCopyUnknown : UInt64
  releases : UInt64
  invalidTransitions : UInt64
  highWatermark : UInt64
deriving DecidableEq

def SurfacePoolStats.default : SurfacePoolStats := ⟨0, 0, 0, 0, 0, 0, 0, 0, 0, 0, 0⟩

/-- What the lock of the pool guards. -/
structure PoolInner where
  slots : List Slot
  inUse : UInt64
  stats : SurfacePoolStats

/-- `index as u32` is exact: a pool has at most 4096 slots. -/
abbrev SurfaceId := Nat

namespace PoolInner

/-- `SurfacePool::new`, which panics when the capacity is zero or above 4096. -/
def new (capacity : Nat) : Option PoolInner :=
  if 0 < capacity ∧ capacity ≤ 4_096 then
    some
      { slots := List.replicate capacity ⟨0, .available, none, none, none⟩
        inUse := 0
        stats := .default }
  else
    none

def countInvalidTransition (inner : PoolInner) : PoolInner :=
  { inner with
    stats :=
      { inner.stats with
        invalidTransitions := saturatingAdd inner.stats.invalidTransitions 1 } }

/-- `acquire`, behind the check of the descriptor.  It returns the index and the generation of
the slot. -/
def acquire (inner : PoolInner) (descriptor : FrameDescriptor)
    (destination : Option DestinationSurfaceSpec) :
    Except SurfaceError (SurfaceId × UInt64) × PoolInner :=
  let attempted :=
    { inner.stats with acquisitionAttempts := saturatingAdd inner.stats.acquisitionAttempts 1 }
  match inner.slots.findIdx? fun slot => slot.state = .available with
  | none =>
    (.error .poolExhausted,
      { inner with
        stats := { attempted with poolExhaustions := saturatingAdd attempted.poolExhaustions 1 } })
  | some index =>
    let generation := max ((inner.slots[index]?.map Slot.generation).getD 0 + 1) 1
    let inUse := saturatingAdd inner.inUse 1
    (.ok (index, generation),
      { slots := inner.slots.set index
          ⟨generation, .captureLeased, some descriptor, destination, none⟩
        inUse := inUse
        stats :=
          { attempted with
            acquisitions := saturatingAdd attempted.acquisitions 1
            highWatermark := max attempted.highWatermark inUse } })

/-- `checked_slot`. -/
def checkedSlot (inner : PoolInner) (id : SurfaceId) (generation : UInt64) :
    Except SurfaceError Slot :=
  match inner.slots[id]? with
  | none => .error .unknownSurface
  | some slot => if slot.generation ≠ generation then .error .staleGeneration else .ok slot

/-- `checked_slot`, and that the slot is leased. -/
def leasedSlot (inner : PoolInner) (id : SurfaceId) (generation : UInt64) :
    Except SurfaceError Slot :=
  match inner.checkedSlot id generation with
  | .error e => .error e
  | .ok slot => if slot.state ≠ .captureLeased then .error .invalidState else .ok slot

/-- `CaptureLease::descriptor`. -/
def descriptor (inner : PoolInner) (id : SurfaceId) (generation : UInt64) :
    Except SurfaceError FrameDescriptor :=
  match inner.leasedSlot id generation with
  | .error e => .error e
  | .ok slot =>
    match slot.descriptor with
    | none => .error .invalidState
    | some descriptor => .ok descriptor

/-- `CaptureLease::destination`. -/
def destination (inner : PoolInner) (id : SurfaceId) (generation : UInt64) :
    Except SurfaceError (Option DestinationSurfaceSpec) :=
  match inner.leasedSlot id generation with
  | .error e => .error e
  | .ok slot => .ok slot.destination

def countImport (stats : SurfacePoolStats) : ImportPath → SurfacePoolStats
  | .directAlias =>
    { stats with importsDirectAlias := saturatingAdd stats.importsDirectAlias 1 }
  | .gpuConvert => { stats with importsGpuConvert := saturatingAdd stats.importsGpuConvert 1 }
  | .gpuCopy => { stats with importsGpuCopy := saturatingAdd stats.importsGpuCopy 1 }
  | .cpuCopy => { stats with importsCpuCopy := saturatingAdd stats.importsCpuCopy 1 }
  | .internalCopyUnknown =>
    { stats with
      importsInternalCopyUnknown := saturatingAdd stats.importsInternalCopyUnknown 1 }

/-- `finish_import`. -/
def finishImport (inner : PoolInner) (id : SurfaceId) (generation : UInt64) (ledger : CopyLedger) :
    Except SurfaceError Unit × PoolInner :=
  match inner.checkedSlot id generation with
  | .error e => (.error e, inner)
  | .ok slot =>
    if slot.state ≠ .captureLeased then
      (.error .invalidState, inner.countInvalidTransition)
    else
      (.ok (),
        { inner with
          slots := inner.slots.set id { slot with state := .owned, copyLedger := some ledger }
          stats := countImport inner.stats ledger.path })

/-- Frees a slot of the handle's generation. -/
def releaseSlot (inner : PoolInner) (id : SurfaceId) (generation : UInt64)
    (expectedState : SlotState) : PoolInner :=
  match inner.slots[id]? with
  | none => inner.countInvalidTransition
  | some slot =>
    if slot.generation = generation ∧ slot.state = expectedState then
      { slots := inner.slots.set id ⟨slot.generation, .available, none, none, none⟩
        inUse := saturatingSub inner.inUse 1
        stats := { inner.stats with releases := saturatingAdd inner.stats.releases 1 } }
    else
      inner.countInvalidTransition

end PoolInner

/-! ## Handles -/

/-- How far a call of an import function has come. -/
inductive ImportPoint where
  /-- `import`: before `self.descriptor()`. -/
  | describe (ledger : CopyLedger)
  /-- `import`: before `self.destination()`. -/
  | noDestination (ledger : CopyLedger) (descriptor : FrameDescriptor)
  /-- `import_from_capture`: before `self.destination()`. -/
  | findDestination (source : FrameDescriptor) (ledger : CopyLedger)
  /-- `import_from_capture`: before `self.descriptor()`. -/
  | compare (source : FrameDescriptor) (ledger : CopyLedger) (destination : DestinationSurfaceSpec)
  /-- Before `self.finish_import()`. -/
  | finish (ledger : CopyLedger)

/-- What has become of a handle. -/
inductive Stage where
  /-- A `CaptureLease`. -/
  | lease
  /-- A `CaptureLease` that an import function owns. -/
  | importing (point : ImportPoint)
  /-- A `CaptureLease` in its `Drop`, also behind a failed import. -/
  | leaseDropping
  /-- An `OwnedSurface`. -/
  | owned
  /-- An `OwnedSurface` in its `Drop`, with the payload gone. -/
  | ownedDropping

/-- The state of its slot that the handle stands for. -/
def Stage.slotState : Stage → SlotState
  | .lease | .importing _ | .leaseDropping => .captureLeased
  | .owned | .ownedDropping => .owned

/-- The handle is on its way out: what is left of it is the release of its slot. -/
def Stage.isDropping : Stage → Bool
  | .leaseDropping | .ownedDropping => true
  | _ => false

structure Handle where
  id : SurfaceId
  generation : UInt64
  stage : Stage

/-- What an acquisition of the lock leads to: the next stage, or the error of the import. -/
abbrev Progress := Except SurfaceError Stage

/-- The comparisons of `import_from_capture` before it reads the descriptor. -/
def importFromCapture (source : FrameDescriptor) (ledger : CopyLedger)
    (destination? : Option DestinationSurfaceSpec) : Progress :=
  match destination? with
  | none => .error .invalidState
  | some destination =>
    match ledger.validateCaptureSource source with
    | .error e => .error (.copyLedger e)
    | .ok () =>
      if ledger.destinationDevice ≠ destination.device ∨
          ledger.destinationLayout ≠ destination.layout then
        .error .destinationMismatch
      else
        .ok (.importing (.compare source ledger destination))

/-- The comparisons of `import_from_capture` behind the descriptor. -/
def compareCapture (source : FrameDescriptor) (ledger : CopyLedger)
    (destination : DestinationSurfaceSpec) (descriptor : FrameDescriptor) : Progress :=
  if descriptor ≠ destination.descriptor ∨ source.width ≠ destination.descriptor.width ∨
      source.height ≠ destination.descriptor.height ∨
      source.captureSequence ≠ destination.descriptor.captureSequence ∨
      source.captureTimestampNs ≠ destination.descriptor.captureTimestampNs then
    .error .destinationMismatch
  else
    .ok (.importing (.finish ledger))

/-- The check of `import` behind the destination. -/
def importPlain (ledger : CopyLedger) (descriptor : FrameDescriptor)
    (destination? : Option DestinationSurfaceSpec) : Progress :=
  if destination?.isSome then
    .error .invalidState
  else
    match ledger.validateCaptureSource descriptor with
    | .error e => .error (.copyLedger e)
    | .ok () => .ok (.importing (.finish ledger))

/-- The next acquisition of the lock in an import. -/
def ImportPoint.next (inner : PoolInner) (id : SurfaceId) (generation : UInt64) :
    ImportPoint → Progress × PoolInner
  | .describe ledger =>
    match inner.descriptor id generation with
    | .error e => (.error e, inner)
    | .ok descriptor => (.ok (.importing (.noDestination ledger descriptor)), inner)
  | .noDestination ledger descriptor =>
    match inner.destination id generation with
    | .error e => (.error e, inner)
    | .ok destination? => (importPlain ledger descriptor destination?, inner)
  | .findDestination source ledger =>
    match inner.destination id generation with
    | .error e => (.error e, inner)
    | .ok destination? => (importFromCapture source ledger destination?, inner)
  | .compare source ledger destination =>
    match inner.descriptor id generation with
    | .error e => (.error e, inner)
    | .ok descriptor => (compareCapture source ledger destination descriptor, inner)
  | .finish ledger =>
    match inner.finishImport id generation ledger with
    | (.error e, inner) => (.error e, inner)
    | (.ok (), inner) => (.ok .owned, inner)

/-! ## The world -/

structure PoolWorld where
  inner : PoolInner
  handles : List Handle

inductive PoolCall where
  /-- `acquire_capture`, or `reserve_destination`. -/
  | acquire (descriptor : FrameDescriptor) (destination : Option DestinationSurfaceSpec)
  /-- `import` or `import_with_payload` of a handle begins. -/
  | beginImport (handle : Nat) (ledger : CopyLedger)
  /-- `import_from_capture` or `import_from_capture_with_payload` of a handle begins. -/
  | beginImportFromCapture (handle : Nat) (source : FrameDescriptor) (ledger : CopyLedger)
  /-- The next acquisition of the lock in the import of a handle. -/
  | proceed (handle : Nat)
  /-- The `Drop` of a handle begins. -/
  | drop (handle : Nat)
  /-- The acquisition of the lock in the `Drop` of a handle. -/
  | release (handle : Nat)

inductive PoolEvent where
  | quiet
  | acquired (result : Except SurfaceError (SurfaceId × UInt64))
  /-- An import has failed. -/
  | failed (handle : Handle) (error : SurfaceError)
  | released (handle : Handle)

namespace PoolWorld

def setStage (world : PoolWorld) (index : Nat) (handle : Handle) (stage : Stage) : PoolWorld :=
  { world with handles := world.handles.set index { handle with stage := stage } }

/-- One acquisition of the lock. -/
def step (world : PoolWorld) : PoolCall → PoolEvent × PoolWorld
  | .acquire descriptor destination =>
    if descriptor.validate = .ok () then
      match world.inner.acquire descriptor destination with
      | (.error e, inner) => (.acquired (.error e), { world with inner := inner })
      | (.ok (id, generation), inner) =>
        (.acquired (.ok (id, generation)),
          { inner := inner, handles := world.handles ++ [⟨id, generation, .lease⟩] })
    else
      (.acquired (.error .invalidDescriptor), world)
  | .beginImport index ledger =>
    match world.handles[index]? with
    | some ⟨id, generation, .lease⟩ =>
      (.quiet, world.setStage index ⟨id, generation, .lease⟩ (.importing (.describe ledger)))
    | _ => (.quiet, world)
  | .beginImportFromCapture index source ledger =>
    match world.handles[index]? with
    | some ⟨id, generation, .lease⟩ =>
      if source.validate = .ok () then
        (.quiet,
          world.setStage index ⟨id, generation, .lease⟩
            (.importing (.findDestination source ledger)))
      else
        (.failed ⟨id, generation, .lease⟩ .invalidDescriptor,
          world.setStage index ⟨id, generation, .lease⟩ .leaseDropping)
    | _ => (.quiet, world)
  | .proceed index =>
    match world.handles[index]? with
    | some ⟨id, generation, .importing point⟩ =>
      match point.next world.inner id generation with
      | (.error e, inner) =>
        (.failed ⟨id, generation, .importing point⟩ e,
          { world with inner := inner }.setStage index ⟨id, generation, .importing point⟩
            .leaseDropping)
      | (.ok stage, inner) =>
        (.quiet,
          { world with inner := inner }.setStage index ⟨id, generation, .importing point⟩ stage)
    | _ => (.quiet, world)
  | .drop index =>
    match world.handles[index]? with
    | some ⟨id, generation, .lease⟩ =>
      (.quiet, world.setStage index ⟨id, generation, .lease⟩ .leaseDropping)
    | some ⟨id, generation, .owned⟩ =>
      (.quiet, world.setStage index ⟨id, generation, .owned⟩ .ownedDropping)
    | _ => (.quiet, world)
  | .release index =>
    match world.handles[index]? with
    | some handle =>
      if handle.stage.isDropping then
        (.released handle,
          { inner := world.inner.releaseSlot handle.id handle.generation handle.stage.slotState
            handles := world.handles.eraseIdx index })
      else
        (.quiet, world)
    | none => (.quiet, world)

end PoolWorld

def poolMachine : Machine PoolWorld PoolCall PoolEvent where
  step := PoolWorld.step

end LatencyDesk.Surface
