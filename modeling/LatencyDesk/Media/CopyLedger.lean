/-!
# Frame descriptors and copy ledgers

The model of `FrameDescriptor` and `CopyLedger` in `crates/media/src/lib.rs`.  A
ledger is the record of one transfer between two surfaces, and `validate` says which
records prove that the source may be released.
-/

namespace LatencyDesk.Media

inductive MemoryDomain where
  | cpu
  | d3d11
  | dmaBuf
  | vendorOpaque
deriving DecidableEq

structure FrameDescriptor where
  width : UInt32
  height : UInt32
  formatFourcc : UInt32
  memoryDomain : MemoryDomain
  captureSequence : UInt64
  captureTimestampNs : UInt64
deriving DecidableEq

inductive FrameDescriptorError where
  | dimension
  | pixelCount
deriving DecidableEq

/-- `MAX_DIMENSION`. -/
def maxDimension : UInt32 := 16_384

/-- `MAX_PIXELS`. -/
def maxPixels : Nat := 134_217_728

/-- Checks the dimensions and the pixel count. -/
def FrameDescriptor.validate (descriptor : FrameDescriptor) : Except FrameDescriptorError Unit :=
  if descriptor.width = 0 ∨ descriptor.height = 0 ∨ maxDimension < descriptor.width ∨
      maxDimension < descriptor.height then
    .error .dimension
  else if maxPixels < descriptor.width.toNat * descriptor.height.toNat then
    .error .pixelCount
  else
    .ok ()

inductive ImportPath where
  | directAlias
  | gpuConvert
  | gpuCopy
  | cpuCopy
  | internalCopyUnknown
deriving DecidableEq

/-- A device by its opaque identifier, if the provider knows one. -/
inductive DeviceIdentity where
  | unknown
  | named (id : UInt64)
deriving DecidableEq

structure SourceLeaseIdentity where
  providerEpoch : UInt32
  captureSequence : UInt64
deriving DecidableEq

structure SurfaceLayout where
  memoryDomain : MemoryDomain
  formatFourcc : UInt32
  planeCount : UInt8
  modifier : Option UInt64
deriving DecidableEq

def SurfaceLayout.valid (layout : SurfaceLayout) : Bool :=
  1 ≤ layout.planeCount && layout.planeCount ≤ 4

inductive TransferEdge where
  | captureToEncoder
  | decodeToPresenter
deriving DecidableEq

inductive SynchronizationProof where
  | cpuSynchronous
  | d3d11EventQuery
  | d3d11Fence
  | vulkanFence
  | explicitFence
  | implicitFence
  | providerSafeDetach
  | unknown
deriving DecidableEq

inductive LeaseCompletion where
  | pending
  | proven
  | failed
deriving DecidableEq

inductive CopyEvidenceGrade where
  | unverified
  | providerReported
  | completionProven
  | profilerVerifiedNoApplicationCopy
deriving DecidableEq

/-- The derived order of the grades. -/
def CopyEvidenceGrade.rank : CopyEvidenceGrade → Nat
  | .unverified => 0
  | .providerReported => 1
  | .completionProven => 2
  | .profilerVerifiedNoApplicationCopy => 3

inductive CopyFallbackReason where
  | formatConversion
  | crossAdapter
  | unsupportedDevice
  | unsupportedModifier
  | unsupportedSynchronization
  | providerRejected
  | resourcePressure
deriving DecidableEq

structure CopyLedger where
  sourceLease : SourceLeaseIdentity
  sourceDevice : DeviceIdentity
  destinationDevice : DeviceIdentity
  sourceLayout : SurfaceLayout
  destinationLayout : SurfaceLayout
  transferEdge : TransferEdge
  path : ImportPath
  synchronization : SynchronizationProof
  completion : LeaseCompletion
  fallbackReason : Option CopyFallbackReason
  evidence : CopyEvidenceGrade
deriving DecidableEq

inductive CopyLedgerError where
  | providerEpoch
  | invalidSourceLayout
  | invalidDestinationLayout
  | completionNotProven
  | synchronizationNotProven
  | evidenceInsufficient
  | directAliasRequiresMatchingDevices
  | directAliasRequiresMatchingLayout
  | directAliasRequiresProfilerEvidence
  | directAliasCannotHaveFallback
  | gpuPathRequiresDeviceIdentity
  | captureSequenceMismatch
  | sourceMemoryDomainMismatch
  | sourceFormatMismatch
deriving DecidableEq

def knownDevice : DeviceIdentity → Bool
  | .named _ => true
  | .unknown => false

def sameKnownDevice : DeviceIdentity → DeviceIdentity → Bool
  | .named source, .named destination => source == destination
  | _, _ => false

namespace CopyLedger

/-- The checks of the path in `validate`. -/
def validatePath (ledger : CopyLedger) : Except CopyLedgerError Unit :=
  match ledger.path with
  | .directAlias =>
    if sameKnownDevice ledger.sourceDevice ledger.destinationDevice = false then
      .error .directAliasRequiresMatchingDevices
    else if ledger.sourceLayout ≠ ledger.destinationLayout then
      .error .directAliasRequiresMatchingLayout
    else if ledger.evidence ≠ .profilerVerifiedNoApplicationCopy then
      .error .directAliasRequiresProfilerEvidence
    else if ledger.fallbackReason.isSome then
      .error .directAliasCannotHaveFallback
    else
      .ok ()
  | .gpuConvert | .gpuCopy =>
    if knownDevice ledger.sourceDevice = false ∨ knownDevice ledger.destinationDevice = false then
      .error .gpuPathRequiresDeviceIdentity
    else
      .ok ()
  | .cpuCopy | .internalCopyUnknown => .ok ()

/-- A ledger agrees with itself. -/
def validate (ledger : CopyLedger) : Except CopyLedgerError Unit :=
  if ledger.sourceLease.providerEpoch = 0 then
    .error .providerEpoch
  else if ledger.sourceLayout.valid = false then
    .error .invalidSourceLayout
  else if ledger.destinationLayout.valid = false then
    .error .invalidDestinationLayout
  else if ledger.completion ≠ .proven then
    .error .completionNotProven
  else if ledger.synchronization = .unknown then
    .error .synchronizationNotProven
  else if ledger.evidence.rank < CopyEvidenceGrade.completionProven.rank then
    .error .evidenceInsufficient
  else
    ledger.validatePath

/-- A ledger belongs to the captured frame. -/
def validateCaptureSource (ledger : CopyLedger) (descriptor : FrameDescriptor) :
    Except CopyLedgerError Unit :=
  match ledger.validate with
  | .error e => .error e
  | .ok () =>
    if ledger.sourceLease.captureSequence ≠ descriptor.captureSequence then
      .error .captureSequenceMismatch
    else if ledger.sourceLayout.memoryDomain ≠ descriptor.memoryDomain then
      .error .sourceMemoryDomainMismatch
    else if ledger.sourceLayout.formatFourcc ≠ descriptor.formatFourcc then
      .error .sourceFormatMismatch
    else
      .ok ()

end CopyLedger

end LatencyDesk.Media
