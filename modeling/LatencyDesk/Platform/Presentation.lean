import LatencyDesk.Lib.Machine
import LatencyDesk.Platform.PresentationQueue

/-!
# The presentation coordinator and its renderer

The model of `PresentationCoordinator` in `crates/platform/src/lib.rs`, together with
everything that a renderer written in safe Rust can do to it.

A frame leaves the queue inside a lease, and the lease is inside a guard, a submission
or a failure.  These are the tokens: a renderer can turn a guard into one of the
others, keep any token, give it away, drop it, and return a submission or a failure
from `present`, whichever guard it came from.  Tokens of other coordinators reach it
the same way.  So the world is the coordinator and the tokens at large, and a
renderer is a list of moves, in `present` or at any other time.

What happens to the surfaces is written to a log.
-/

namespace LatencyDesk.Platform

open Lib Media PresentationQueue

structure PresentationLeaseIdentity where
  coordinatorId : UInt64
  leaseId : UInt64
deriving DecidableEq

/-- `next_presentation_coordinator_id`, with the counter it leaves.  The counter stays at zero
when it has run out. -/
def nextPresentationCoordinatorId (counter : UInt64) : Option UInt64 × UInt64 :=
  if counter = 0 then (none, counter) else (some counter, (checkedAdd counter 1).getD 0)

/-- The counter of the process, one call for each coordinator. -/
def coordinatorIds : Machine UInt64 Unit (Option UInt64) where
  step counter _ := nextPresentationCoordinatorId counter

/-- No two coordinators of a process have the same id. -/
theorem coordinatorIds_increase (calls : List Unit) :
    ((coordinatorIds.trace 1 calls).filterMap Step.event).Pairwise (· < ·) := by
  have hstep : ∀ counter next, (checkedAdd counter 1).getD 0 = next →
      next = 0 ∨ counter < next := by
    intro counter next hnext
    cases hsum : checkedAdd counter 1 with
    | none => exact .inl (by rw [hsum] at hnext; exact hnext.symm)
    | some sum =>
      rw [hsum, Option.getD_some] at hnext
      subst hnext
      rw [checkedAdd_eq_some, UInt64.toNat_one] at hsum
      exact .inr (UInt64.lt_iff_toNat_lt.2 (by omega))
  -- An id that was handed out is below the counter, until the counter has run out.
  refine coordinatorIds.pairwise_filterMap_trace
    (Q := fun id counter => counter = 0 ∨ id < counter) ?_ ?_ ?_ 1 calls
  · intro id counter _ hbehind
    simp only [coordinatorIds, nextPresentationCoordinatorId]
    split_ifs with hzero
    · exact .inl hzero
    rcases hstep counter _ rfl with hout | hlt
    · exact .inl hout
    · exact .inr (UInt64.lt_trans (hbehind.resolve_left hzero) hlt)
  · intro id counter _ hid
    simp only [Machine.stepAt_event, coordinatorIds, nextPresentationCoordinatorId] at hid ⊢
    split_ifs at hid ⊢ with hzero
    rw [Option.some.injEq] at hid
    subst hid
    exact hstep counter _ rfl
  · intro id later counter _ hbehind hlater
    simp only [Machine.stepAt_event, coordinatorIds, nextPresentationCoordinatorId] at hlater
    split_ifs at hlater with hzero
    rw [Option.some.injEq] at hlater
    subst hlater
    exact hbehind.resolve_left hzero

structure PresentationPreflight where
  descriptor : FrameDescriptor
  displayEpoch : UInt32
  codecEpoch : UInt32
  frameId : UInt64
  readyNs : UInt64
  deadlineNs : UInt64
  recoveryPoint : Bool
deriving DecidableEq

/-- What the renderer may see of a frame. -/
def PresentableFrame.preflight (frame : PresentableFrame) : PresentationPreflight where
  descriptor := frame.surface.surface.descriptor
  displayEpoch := frame.displayEpoch
  codecEpoch := frame.codecEpoch
  frameId := frame.frameId
  readyNs := frame.readyNs
  deadlineNs := frame.deadlineNs
  recoveryPoint := frame.recoveryPoint

/-- A frame that the renderer holds. -/
structure PresentationLease where
  identity : PresentationLeaseIdentity
  frame : PresentableFrame
  preflight : PresentationPreflight
deriving DecidableEq

/-- A lease of a frame that is still valid. -/
def PresentationLease.new (identity : PresentationLeaseIdentity) (frame : PresentableFrame)
    (loads : Loads) : Except PlatformError PresentationLease :=
  match frame.validate loads with
  | .error e => .error e
  | .ok () => .ok ⟨identity, frame, frame.preflight⟩

structure PresentSubmission where
  lease : PresentationLease
  submitNs : UInt64
  queueDepthAfterSubmit : UInt64
deriving DecidableEq

structure RenderFailure where
  error : PlatformError
  lease : PresentationLease
deriving DecidableEq

/-- A lease outside of the coordinator. -/
inductive Token where
  | guard (lease : PresentationLease)
  | submission (submission : PresentSubmission)
  | failure (failure : RenderFailure)
deriving DecidableEq

def Token.lease : Token → PresentationLease
  | .guard held => held
  | .submission held => held.lease
  | .failure held => held.lease

structure PresentReceipt where
  displayEpoch : UInt32
  codecEpoch : UInt32
  frameId : UInt64
  submitNs : UInt64
  queueDepthAfterSubmit : UInt64
deriving DecidableEq

inductive PresentationAction where
  | queued (outcome : QueuePushOutcome)
  | presented (receipt : PresentReceipt)
  | awaitingCompletion
  | idle
deriving DecidableEq

inductive NativePresentationCompletion where
  | pending
  | complete
deriving DecidableEq

inductive PresentationCompletion where
  | idle
  | pending
  | released
deriving DecidableEq

/-- What the renderer still has. -/
inductive InFlightPresentation where
  | submitted (submission : PresentSubmission)
  | requiresQuiescence (submission : PresentSubmission)
  | unproven (lease : PresentationLease)
  | handoffInProgress
deriving DecidableEq

namespace InFlightPresentation

def epochs : InFlightPresentation → Option Epochs
  | .submitted submission | .requiresQuiescence submission => some submission.lease.frame.epochs
  | .unproven lease => some lease.frame.epochs
  | .handoffInProgress => none

/-- The renderer has to stop first. -/
def requiresQuiesce : InFlightPresentation → Bool
  | .submitted _ => false
  | _ => true

/-- The lease that `finalize_after_quiesce` releases.  Any other one it retains for ever. -/
def releasedByQuiesce : InFlightPresentation → Option PresentationLease
  | .submitted submission | .requiresQuiescence submission => some submission.lease
  | .unproven _ | .handoffInProgress => none

end InFlightPresentation

/-- The queue and the one frame in flight. -/
structure PresentationCoordinator where
  queue : PresentationQueue
  inFlight : Option InFlightPresentation
  coordinatorId : Option UInt64
  nextLeaseId : Option UInt64

/-- What a renderer does to the tokens at large. -/
inductive RendererMove where
  /-- `PresentationSubmissionGuard::submit`. -/
  | submitGuard (token : Nat) (submitNs queueDepthAfterSubmit : UInt64) (loads : Loads)
  /-- `PresentationSubmissionGuard::reject`. -/
  | rejectGuard (token : Nat) (error : PlatformError)
  | dropToken (token : Nat)
  /-- A token of another coordinator arrives. -/
  | receive (token : Token)

/-- How `present` ends. -/
inductive PresentOutcome where
  /-- It returns the token at the place. -/
  | returned (token : Nat)
  | panicked

/-- What is written to the log. -/
inductive Note where
  | accepted (frame : PresentableFrame)
  /-- `present` is called at `nowNs` with a guard of the lease.  The call found `queued` in the
  queue and has left `remaining`. -/
  | presented (nowNs : UInt64) (lease : PresentationLease)
      (queued remaining : List PresentableFrame)
  /-- A guard has become a submission: from here on native work may access the surface. -/
  | submitted (identity : PresentationLeaseIdentity)
  /-- The renderer has reported `Complete` for the submission. -/
  | completed (identity : PresentationLeaseIdentity)
  /-- `quiesce_presentation` has succeeded while the presentation was in flight. -/
  | quiesced (inFlight : InFlightPresentation)
  /-- `present` has returned a failure with the lease it was called with. -/
  | refused (identity : PresentationLeaseIdentity)
  /-- `present` has returned another lease. -/
  | mismatched
  | panicked
  /-- The coordinator has released the surface of a lease. -/
  | released (lease : PresentationLease)
  /-- A failure was dropped outside of the coordinator, and the surface of its lease with it. -/
  | discarded (lease : PresentationLease)
  /-- The continuity of the queue was reset. -/
  | reset
deriving DecidableEq

namespace PresentationCoordinator

/-- `with_cursor_mode`, without the cursor. -/
def new (coordinatorId : Option UInt64) : PresentationCoordinator where
  queue := ⟨1, [], none, none⟩
  inFlight := none
  coordinatorId := coordinatorId
  nextLeaseId := some 1

/-- `submit`. -/
def submit (coordinator : PresentationCoordinator) (frame : PresentableFrame) (nowNs : UInt64)
    (loads : Loads) : Except PlatformError PresentationAction × PresentationCoordinator :=
  if frame.displayEpoch = 0 ∨ frame.codecEpoch = 0 then
    (.error .invalidState, coordinator)
  else if coordinator.inFlight.any InFlightPresentation.requiresQuiesce then
    (.error .presentationRecoveryRequired, coordinator)
  else if (coordinator.inFlight.bind InFlightPresentation.epochs).any
      fun epochs => epochs.Lt frame.epochs then
    (.error .presentationInFlight, coordinator)
  else
    match coordinator.queue.push frame nowNs loads with
    | (.error e, queue) => (.error e, { coordinator with queue := queue })
    | (.ok outcome, queue) => (.ok (.queued outcome), { coordinator with queue := queue })

/-- What `present_next` comes to before it calls the renderer. -/
inductive Handoff where
  | stopped (result : Except PlatformError PresentationAction)
  | guarded (lease : PresentationLease)

/-- The loads of the three validations in `present_next`. -/
structure HandoffLoads where
  pop : Loads
  next : Loads
  lease : Loads

/-- The part of `present_next` between `pop_newest` and the call of the renderer. -/
def issueLease (coordinator : PresentationCoordinator) (frame : PresentableFrame)
    (loads : HandoffLoads) : Handoff × PresentationCoordinator :=
  match frame.validate loads.next with
  | .error e => (.stopped (.error e), coordinator)
  | .ok () =>
    match coordinator.coordinatorId, coordinator.nextLeaseId with
    | some coordinatorId, some leaseId =>
      let coordinator := { coordinator with nextLeaseId := checkedAdd leaseId 1 }
      match PresentationLease.new ⟨coordinatorId, leaseId⟩ frame loads.lease with
      | .error e => (.stopped (.error e), coordinator)
      | .ok lease => (.guarded lease, { coordinator with inFlight := some .handoffInProgress })
    | _, _ => (.stopped (.error .presentationLeaseExhausted), coordinator)

/-- `present_next` before it calls the renderer. -/
def handOff (coordinator : PresentationCoordinator) (nowNs : UInt64) (loads : HandoffLoads) :
    Handoff × PresentationCoordinator :=
  match coordinator.inFlight with
  | some inFlight =>
    if inFlight.requiresQuiesce then
      (.stopped (.error .presentationRecoveryRequired), coordinator)
    else
      (.stopped (.ok .awaitingCompletion), coordinator)
  | none =>
    match coordinator.queue.popNewest nowNs loads.pop with
    | (.error e, queue) => (.stopped (.error e), { coordinator with queue := queue })
    | (.ok none, queue) => (.stopped (.ok .idle), { coordinator with queue := queue })
    | (.ok (some frame), queue) => { coordinator with queue := queue }.issueLease frame loads

/-- `present_next` behind the call of the renderer with a guard of `lease`. -/
def settle (coordinator : PresentationCoordinator) (lease : PresentationLease) :
    Option Token → (Except PlatformError PresentationAction × List Note) × PresentationCoordinator
  | some (.submission submission) =>
    if submission.lease.identity ≠ lease.identity then
      ((.error .rendererReturnedMismatchedLease, [.mismatched]),
        { coordinator with inFlight := some (.unproven submission.lease) })
    else
      let receipt : PresentReceipt :=
        ⟨lease.frame.displayEpoch, lease.frame.codecEpoch, lease.frame.frameId,
          submission.submitNs, submission.queueDepthAfterSubmit⟩
      ((.ok (.presented receipt), []),
        { coordinator with inFlight := some (.submitted submission) })
  | some (.failure failure) =>
    if failure.lease.identity ≠ lease.identity then
      ((.error .rendererReturnedMismatchedLease, [.mismatched]),
        { coordinator with inFlight := some (.unproven failure.lease) })
    else
      ((.error failure.error, [.refused lease.identity, .released failure.lease]),
        { coordinator with inFlight := none })
  -- A renderer without a token to return cannot return.
  | some (.guard _) | none => ((.error .rendererPanicked, [.panicked]), coordinator)

/-- `poll_present_completion`.  The renderer's answer is `none` when it panics, which unwinds
through the coordinator. -/
def pollPresentCompletion (coordinator : PresentationCoordinator)
    (answer : Option (Except PlatformError NativePresentationCompletion)) :
    (Option (Except PlatformError PresentationCompletion) × List Note) ×
      PresentationCoordinator :=
  match coordinator.inFlight with
  | none => ((some (.ok .idle), []), coordinator)
  | some (.requiresQuiescence _) | some (.unproven _) | some .handoffInProgress =>
    ((some (.error .presentationRecoveryRequired), []), coordinator)
  | some (.submitted submission) =>
    match answer with
    | none => ((none, []), coordinator)
    | some (.error e) => ((some (.error e), []), coordinator)
    | some (.ok .pending) => ((some (.ok .pending), []), coordinator)
    | some (.ok .complete) =>
      ((some (.ok .released),
        [.completed submission.lease.identity, .released submission.lease]),
        { coordinator with inFlight := none })

/-- `cancel_in_flight`.  The renderer's answer is `none` when it panics. -/
def cancelInFlight (coordinator : PresentationCoordinator)
    (answer : Option (Except PlatformError Unit)) :
    (Option (Except PlatformError Bool) × List Note) × PresentationCoordinator :=
  match coordinator.inFlight with
  | none => ((some (.ok false), []), coordinator)
  | some inFlight =>
    match answer with
    | none => ((none, []), coordinator)
    | some (.error e) => ((some (.error e), []), coordinator)
    | some (.ok ()) =>
      ((some (.ok true), .quiesced inFlight :: inFlight.releasedByQuiesce.toList.map .released),
        { coordinator with inFlight := none })

/-- Cancels what is in flight and empties the queue. -/
def shutdown (coordinator : PresentationCoordinator) (answer : Option (Except PlatformError Unit)) :
    (Option (Except PlatformError Unit) × List Note) × PresentationCoordinator :=
  match coordinator.cancelInFlight answer with
  | ((none, notes), coordinator) => ((none, notes), coordinator)
  | ((some (.error e), notes), coordinator) => ((some (.error e), notes), coordinator)
  | ((some (.ok _), notes), coordinator) =>
    ((some (.ok ()), notes ++ [.reset]),
      { coordinator with queue := coordinator.queue.resetContinuity none })

/-- Starts other epochs while nothing is in flight. -/
def resetEpochs (coordinator : PresentationCoordinator) (displayEpoch codecEpoch : UInt32) :
    (Except PlatformError Unit × List Note) × PresentationCoordinator :=
  match coordinator.inFlight with
  | some inFlight =>
    if inFlight.requiresQuiesce then
      ((.error .presentationRecoveryRequired, []), coordinator)
    else
      ((.error .presentationInFlight, []), coordinator)
  | none =>
    if displayEpoch = 0 ∨ codecEpoch = 0 then
      ((.error .invalidState, []), coordinator)
    else
      ((.ok (), [.reset]),
        { coordinator with
          queue := coordinator.queue.resetContinuity (some (displayEpoch, codecEpoch)) })

end PresentationCoordinator

/-! ## The world -/

structure PresentationWorld where
  coordinator : PresentationCoordinator
  /-- The coordinator has not been dropped. -/
  alive : Bool
  /-- The tokens at large. -/
  tokens : List Token
  log : List Note

inductive CoordinatorCall where
  | submit (frame : PresentableFrame) (nowNs : UInt64) (loads : Loads)
  | presentNext (nowNs : UInt64) (loads : PresentationCoordinator.HandoffLoads)
      (moves : List RendererMove) (outcome : PresentOutcome)
  | pollPresentCompletion (answer : Option (Except PlatformError NativePresentationCompletion))
  | cancelInFlight (answer : Option (Except PlatformError Unit))
  | shutdown (answer : Option (Except PlatformError Unit))
  | resetEpochs (displayEpoch codecEpoch : UInt32)
  | drop

inductive PresentationCall where
  | call (call : CoordinatorCall)
  /-- The renderer moves outside of `present`. -/
  | move (move : RendererMove)

inductive PresentationResult where
  | action (result : Except PlatformError PresentationAction)
  | completion (result : Option (Except PlatformError PresentationCompletion))
  | cancelled (result : Option (Except PlatformError Bool))
  | done (result : Option (Except PlatformError Unit))
  | none

namespace PresentationWorld

/-- A fresh coordinator. -/
def start (coordinatorId : Option UInt64) : PresentationWorld :=
  ⟨.new coordinatorId, true, [], []⟩

/-- The lease was issued by this coordinator. -/
def Own (world : PresentationWorld) (lease : PresentationLease) : Prop :=
  world.coordinator.coordinatorId = some lease.identity.coordinatorId

instance (world : PresentationWorld) (lease : PresentationLease) : Decidable (world.Own lease) :=
  inferInstanceAs (Decidable (_ = _))

/-- What the renderer does with its tokens. -/
def move (world : PresentationWorld) : RendererMove → PresentationWorld
  | .submitGuard index submitNs queueDepthAfterSubmit loads =>
    match world.tokens[index]? with
    | some (.guard lease) =>
      match lease.frame.validate loads with
      | .error e => { world with tokens := world.tokens.set index (.failure ⟨e, lease⟩) }
      | .ok () =>
        { world with
          tokens := world.tokens.set index (.submission ⟨lease, submitNs, queueDepthAfterSubmit⟩)
          log := world.log ++ [.submitted lease.identity] }
    | _ => world
  | .rejectGuard index e =>
    match world.tokens[index]? with
    | some (.guard lease) =>
      { world with tokens := world.tokens.set index (.failure ⟨e, lease⟩) }
    | _ => world
  | .dropToken index =>
    match world.tokens[index]? with
    | some (.failure failure) =>
      { world with
        tokens := world.tokens.eraseIdx index
        log := world.log ++ [.discarded failure.lease] }
    -- A guard and a submission retain their lease when they are dropped.
    | some _ => { world with tokens := world.tokens.eraseIdx index }
    | none => world
  | .receive token =>
    -- No other coordinator has the same id: `coordinatorIds_increase`.
    if world.Own token.lease then world else { world with tokens := world.tokens ++ [token] }

/-- The token that `present` returns. -/
def returned (world : PresentationWorld) : PresentOutcome → Option Token × PresentationWorld
  | .panicked => (none, world)
  | .returned index =>
    match world.tokens[index]? with
    | some (.submission submission) =>
      (some (.submission submission), { world with tokens := world.tokens.eraseIdx index })
    | some (.failure failure) =>
      (some (.failure failure), { world with tokens := world.tokens.eraseIdx index })
    | _ => (none, world)

/-- `present` is called with a guard, moves, and ends. -/
def present (world : PresentationWorld) (lease : PresentationLease) (moves : List RendererMove)
    (outcome : PresentOutcome) : Option Token × PresentationWorld :=
  (moves.foldl move { world with tokens := world.tokens ++ [.guard lease] }).returned outcome

/-- A method of the coordinator returns. -/
def finish (world : PresentationWorld) (coordinator : PresentationCoordinator)
    (notes : List Note) : PresentationWorld :=
  { world with coordinator := coordinator, log := world.log ++ notes }

def submit (world : PresentationWorld) (frame : PresentableFrame) (nowNs : UInt64)
    (loads : Loads) : Except PlatformError PresentationAction × PresentationWorld :=
  match world.coordinator.submit frame nowNs loads with
  | (.ok (.queued .queued), coordinator) =>
    (.ok (.queued .queued), world.finish coordinator [.accepted frame])
  | (.ok (.queued .queuedAfterDroppingOldest), coordinator) =>
    (.ok (.queued .queuedAfterDroppingOldest), world.finish coordinator [.accepted frame])
  | (result, coordinator) => (result, world.finish coordinator [])

def presentNext (world : PresentationWorld) (nowNs : UInt64)
    (loads : PresentationCoordinator.HandoffLoads) (moves : List RendererMove)
    (outcome : PresentOutcome) : Except PlatformError PresentationAction × PresentationWorld :=
  match world.coordinator.handOff nowNs loads with
  | (.stopped result, coordinator) => (result, world.finish coordinator [])
  | (.guarded lease, coordinator) =>
    let called := world.finish coordinator
      [.presented nowNs lease world.coordinator.queue.items coordinator.queue.items]
    let (token?, after) := called.present lease moves outcome
    let ((result, notes), coordinator) := after.coordinator.settle lease token?
    (result, after.finish coordinator notes)

/-- A call of a method of the coordinator. -/
def act (world : PresentationWorld) : CoordinatorCall → PresentationResult × PresentationWorld
  | .submit frame nowNs loads => record .action (world.submit frame nowNs loads)
  | .presentNext nowNs loads moves outcome =>
    record .action (world.presentNext nowNs loads moves outcome)
  | .pollPresentCompletion answer =>
    let ((result, notes), coordinator) := world.coordinator.pollPresentCompletion answer
    (.completion result, world.finish coordinator notes)
  | .cancelInFlight answer =>
    let ((result, notes), coordinator) := world.coordinator.cancelInFlight answer
    (.cancelled result, world.finish coordinator notes)
  | .shutdown answer =>
    let ((result, notes), coordinator) := world.coordinator.shutdown answer
    (.done result, world.finish coordinator notes)
  | .resetEpochs displayEpoch codecEpoch =>
    let ((result, notes), coordinator) := world.coordinator.resetEpochs displayEpoch codecEpoch
    (.done (some result), world.finish coordinator notes)
  -- The presentation in flight is retained for ever.
  | .drop => (.none, { world with alive := false })

def step (world : PresentationWorld) : PresentationCall → PresentationResult × PresentationWorld
  | .call call => if world.alive then world.act call else (.none, world)
  | .move move => (.none, world.move move)

end PresentationWorld

def presentationMachine : Machine PresentationWorld PresentationCall PresentationResult where
  step := PresentationWorld.step

/-! ## What the methods of the coordinator do -/

namespace PresentationCoordinator

/-- A call that hands nothing over: it may empty the queue, and may use up a lease id. -/
structure Idles (coordinator after : PresentationCoordinator) : Prop where
  inFlight : after.inFlight = coordinator.inFlight
  coordinatorId : after.coordinatorId = coordinator.coordinatorId
  latestEpoch : after.queue.latestEpoch = coordinator.queue.latestEpoch
  latestFrameId : after.queue.latestFrameId = coordinator.queue.latestFrameId
  items : after.queue.items.Sublist coordinator.queue.items
  nextLeaseId : after.nextLeaseId = coordinator.nextLeaseId ∨
    ∃ leaseId, coordinator.nextLeaseId = some leaseId ∧ after.nextLeaseId = checkedAdd leaseId 1

/-- A call that hands a lease over. -/
structure HandsOver (coordinator : PresentationCoordinator) (nowNs : UInt64)
    (lease : PresentationLease) (after : PresentationCoordinator) : Prop where
  idle : coordinator.inFlight = none
  newest : (coordinator.queue.retained nowNs).getLast? = some lease.frame
  coordinatorId : coordinator.coordinatorId = some lease.identity.coordinatorId
  leaseId : coordinator.nextLeaseId = some lease.identity.leaseId
  after_eq : after =
    { coordinator with
      queue := { coordinator.queue with items := [] }
      inFlight := some .handoffInProgress
      nextLeaseId := checkedAdd lease.identity.leaseId 1 }

section

variable (coordinator : PresentationCoordinator)

theorem Idles.refl : coordinator.Idles coordinator :=
  ⟨rfl, rfl, rfl, rfl, List.Sublist.refl _, .inl rfl⟩

theorem idles_of_empty {nextLeaseId : Option UInt64}
    (hnext : nextLeaseId = coordinator.nextLeaseId ∨
      ∃ leaseId, coordinator.nextLeaseId = some leaseId ∧ nextLeaseId = checkedAdd leaseId 1) :
    coordinator.Idles
      { coordinator with
        queue := { coordinator.queue with items := [] }, nextLeaseId := nextLeaseId } :=
  ⟨rfl, rfl, rfl, rfl, List.nil_sublist _, hnext⟩

variable (frame : PresentableFrame)

theorem issueLease_cases (loads : HandoffLoads) :
    (∃ res nextLeaseId,
      (nextLeaseId = coordinator.nextLeaseId ∨
        ∃ leaseId, coordinator.nextLeaseId = some leaseId ∧ nextLeaseId = checkedAdd leaseId 1) ∧
      coordinator.issueLease frame loads =
        (.stopped res, { coordinator with nextLeaseId := nextLeaseId })) ∨
    ∃ lease, lease.frame = frame ∧
      coordinator.coordinatorId = some lease.identity.coordinatorId ∧
      coordinator.nextLeaseId = some lease.identity.leaseId ∧
      coordinator.issueLease frame loads =
        (.guarded lease,
          { coordinator with
            inFlight := some .handoffInProgress
            nextLeaseId := checkedAdd lease.identity.leaseId 1 }) := by
  obtain ⟨_, _, coordinatorId, nextLeaseId⟩ := coordinator
  unfold issueLease
  split
  · exact .inl ⟨_, _, .inl rfl, rfl⟩
  cases coordinatorId with
  | none => exact .inl ⟨_, _, .inl rfl, rfl⟩
  | some coordinatorId =>
    cases nextLeaseId with
    | none => exact .inl ⟨_, _, .inl rfl, rfl⟩
    | some leaseId =>
      simp only [PresentationLease.new]
      cases frame.validate loads.lease with
      | error e => exact .inl ⟨_, _, .inr ⟨leaseId, rfl, rfl⟩, rfl⟩
      | ok => exact .inr ⟨⟨⟨coordinatorId, leaseId⟩, frame, frame.preflight⟩, rfl, rfl, rfl, rfl⟩

/-- What `present_next` does before it calls the renderer. -/
theorem handOff_cases (nowNs : UInt64) (loads : HandoffLoads) :
    (∃ res after, coordinator.handOff nowNs loads = (.stopped res, after) ∧
      coordinator.Idles after) ∨
    ∃ lease after, coordinator.handOff nowNs loads = (.guarded lease, after) ∧
      coordinator.HandsOver nowNs lease after := by
  obtain ⟨queue, inFlight, coordinatorId, nextLeaseId⟩ := coordinator
  unfold handOff
  cases inFlight with
  | some inFlight =>
    simp only
    split_ifs
    all_goals exact .inl ⟨_, _, rfl, .refl _⟩
  | none =>
    simp only [popNewest]
    cases hnewest : (queue.retained nowNs).getLast? with
    | none => exact .inl ⟨_, _, rfl, idles_of_empty _ (.inl rfl)⟩
    | some newest =>
      simp only
      cases newest.validate loads.pop with
      | error e => exact .inl ⟨_, _, rfl, idles_of_empty _ (.inl rfl)⟩
      | ok =>
        rcases issueLease_cases ⟨{ queue with items := [] }, none, coordinatorId, nextLeaseId⟩
            newest loads with
          ⟨res, nextLeaseId', hnext, heq⟩ | ⟨lease, hfr, hid, hnext, heq⟩
        · exact .inl ⟨res, _, heq, idles_of_empty ⟨queue, none, coordinatorId, nextLeaseId⟩ hnext⟩
        · refine .inr ⟨lease, _, heq, rfl, ?_, hid, hnext, rfl⟩
          rw [hnewest, hfr]

/-- What `submit` does. -/
theorem submit_cases (nowNs : UInt64) (loads : Loads) :
    (∃ outcome, (outcome = .queued ∨ outcome = .queuedAfterDroppingOldest) ∧
      coordinator.queue.stale frame = false ∧
      coordinator.submit frame nowNs loads =
        (.ok (.queued outcome),
          { coordinator with queue := (coordinator.queue.enqueue frame).2 })) ∨
    ∃ res, res ≠ .ok (.queued .queued) ∧
      res ≠ .ok (.queued .queuedAfterDroppingOldest) ∧
      coordinator.submit frame nowNs loads = (res, coordinator) := by
  unfold submit
  split_ifs
  iterate 3 exact .inr ⟨.error _, nofun, nofun, rfl⟩
  · unfold push
    cases frame.validate loads with
    | error e => exact .inr ⟨.error e, nofun, nofun, rfl⟩
    | ok =>
      split_ifs with hexp hstale
      · exact .inr ⟨.ok (.queued .rejectedExpired), nofun, nofun, rfl⟩
      · exact .inr ⟨.ok (.queued .rejectedStale), nofun, nofun, rfl⟩
      refine .inl ⟨_, ?_, eq_false_of_ne_true hstale, rfl⟩
      unfold enqueue
      dsimp only
      split_ifs
      · exact .inr rfl
      · exact .inl rfl

end

end PresentationCoordinator

/-- What `submit` does to the world. -/
theorem PresentationWorld.submit_cases (world : PresentationWorld) (frame : PresentableFrame)
    (nowNs : UInt64) (loads : Loads) :
    (world.coordinator.queue.stale frame = false ∧
      (world.submit frame nowNs loads).2 =
        world.finish { world.coordinator with
          queue := (world.coordinator.queue.enqueue frame).2 } [.accepted frame]) ∨
    (world.submit frame nowNs loads).2 = world.finish world.coordinator [] := by
  unfold PresentationWorld.submit
  rcases world.coordinator.submit_cases frame nowNs loads with
    ⟨outcome, houtcome, hstale, heq⟩ | ⟨res, hqueued, hdropped, heq⟩
  · rw [heq]
    rcases houtcome with rfl | rfl
    all_goals exact .inl ⟨hstale, rfl⟩
  rw [heq]
  split
  · rename_i heq'
    rw [Prod.mk.injEq] at heq'
    exact absurd heq'.1 hqueued
  · rename_i heq'
    rw [Prod.mk.injEq] at heq'
    exact absurd heq'.1 hdropped
  · rename_i heq'
    cases heq'
    exact .inr rfl

end LatencyDesk.Platform
