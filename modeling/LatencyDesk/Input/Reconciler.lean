import LatencyDesk.Input.Wire
import LatencyDesk.Lib.Machine

/-!
# The input reconciler

The model of `InputReconciler` in `crates/input/src/lib.rs`.  `apply` is cut
along the two places where the source falls through: `applyActive` is the part
after the check for a retired epoch, and `applySequenced` the part after the
match on the epoch.

A call that fails returns its error and the reconciler as the failing code
left it, which is not always the reconciler from before the call.
-/

namespace LatencyDesk.Input

open Lib

/-- An action for the platform. -/
inductive AppliedInput where
  | key (code : UInt16) (pressed : Bool)
  | pointerButton (button : UInt8) (pressed : Bool)
  | pointerMotionRelative (dx dy : Int32)
  | pointerMotionAbsolute (x y width height : UInt32)
  | wheel (horizontal vertical : Int16)
deriving DecidableEq

inductive ReconcileOutcome where
  | applied (actions : List AppliedInput)
  | ignoredStaleSequence
  | ignoredStaleEpoch
deriving DecidableEq

/-- What the host holds pressed, and for which epoch. -/
structure InputReconciler where
  epoch : Option UInt32
  epochRetired : Bool
  lastSequence : Option UInt64
  state : InputState
deriving DecidableEq

/-- The range `0..=MAX_KEY_CODE`. -/
def keyCodes : List UInt16 := (List.range 512).map UInt16.ofNat

/-- The range `0..16`. -/
def buttonNumbers : List UInt8 := (List.range 16).map UInt8.ofNat

namespace InputReconciler

/-- `InputReconciler::default`. -/
def default : InputReconciler :=
  { epoch := none, epochRetired := false, lastSequence := none, state := .default }

/-- The actions that lead to a snapshot. -/
def reconcileSnapshot (r : InputReconciler) (snapshot : InputState) :
    List AppliedInput × InputReconciler :=
  ((keyCodes.filter fun code => r.state.keyPressed code != snapshot.keyPressed code).map
      (fun code => .key code (snapshot.keyPressed code)) ++
    (buttonNumbers.filter fun button =>
        r.state.buttonPressed button != snapshot.buttonPressed button).map
      (fun button => .pointerButton button (snapshot.buttonPressed button)),
    { r with state := snapshot })

def releaseAll (r : InputReconciler) : List AppliedInput × InputReconciler :=
  r.reconcileSnapshot .default

/-- The actions of an event that is not stale. -/
def applyFresh (r : InputReconciler) :
    InputEvent → Except InputError (List AppliedInput) × InputReconciler
  | .key code pressed =>
    if r.state.keyPressed code = pressed then
      (.ok [], r)
    else
      match r.state.setKey code pressed with
      | .error e => (.error e, r)
      | .ok state => (.ok [.key code pressed], { r with state := state })
  | .pointerButton button pressed =>
    if r.state.buttonPressed button = pressed then
      (.ok [], r)
    else
      match r.state.setButton button pressed with
      | .error e => (.error e, r)
      | .ok state => (.ok [.pointerButton button pressed], { r with state := state })
  | .pointerMotionRelative dx dy => (.ok [.pointerMotionRelative dx dy], r)
  | .pointerMotionAbsolute x y width height =>
    (.ok [.pointerMotionAbsolute x y width height], r)
  | .wheel horizontal vertical => (.ok [.wheel horizontal vertical], r)
  | .snapshot snapshot => (.ok (r.reconcileSnapshot snapshot).1, (r.reconcileSnapshot snapshot).2)
  | .releaseAll => (.ok r.releaseAll.1, r.releaseAll.2)

/-- The part of `apply` after the match on the epoch. -/
def applySequenced (r : InputReconciler) (message : InputMessage) :
    Except InputError ReconcileOutcome × InputReconciler :=
  if r.lastSequence.any (fun sequence => decide (message.sequence ≤ sequence)) then
    (.ok .ignoredStaleSequence, r)
  else
    match r.applyFresh message.event with
    | (.error e, r) => (.error e, r)
    | (.ok actions, r) => (.ok (.applied actions), { r with lastSequence := some message.sequence })

/-- The part of `apply` for a message of a newer epoch. -/
def applyNewer (r : InputReconciler) (message : InputMessage) :
    Except InputError ReconcileOutcome × InputReconciler :=
  match ({ r.releaseAll.2 with
      epoch := some message.sessionEpoch
      epochRetired := false
      lastSequence := none } : InputReconciler).applyFresh message.event with
  | (.error e, r) => (.error e, r)
  | (.ok actions, r') =>
    (.ok (.applied (r.releaseAll.1 ++ actions)), { r' with lastSequence := some message.sequence })

/-- The part of `apply` after the check for a retired epoch. -/
def applyActive (r : InputReconciler) (message : InputMessage) :
    Except InputError ReconcileOutcome × InputReconciler :=
  match r.epoch with
  | some epoch =>
    if message.sessionEpoch < epoch then
      (.ok .ignoredStaleEpoch, r)
    else if epoch < message.sessionEpoch then
      r.applyNewer message
    else
      r.applySequenced message
  | none =>
    ({ r with epoch := some message.sessionEpoch, epochRetired := false } :
      InputReconciler).applySequenced message

/-- Stale messages and retired epochs are ignored. -/
def apply (r : InputReconciler) (message : InputMessage) :
    Except InputError ReconcileOutcome × InputReconciler :=
  if r.epochRetired then
    if r.epoch.any (fun retired => decide (message.sessionEpoch ≤ retired)) then
      (.ok .ignoredStaleEpoch, r)
    else
      ({ r with epochRetired := false } : InputReconciler).applyActive message
  else
    r.applyActive message

/-- Releases everything and retires the epoch. -/
def disconnectReleasePlan (r : InputReconciler) : List AppliedInput × InputReconciler :=
  (r.releaseAll.1,
    { r.releaseAll.2 with epochRetired := r.releaseAll.2.epoch.isSome, lastSequence := none })

def releaseAllPlan (r : InputReconciler) : List AppliedInput × InputReconciler := r.releaseAll

end InputReconciler

/-! ## The machine -/

/-- A call of a method that takes `&mut self`.  `disconnect` is another name
of `disconnect_release_plan`. -/
inductive InputCall where
  | apply (message : InputMessage)
  | disconnectReleasePlan
  | releaseAllPlan

/-- A call with the result it returned. -/
inductive ReconcilerEvent where
  | apply (message : InputMessage) (result : Except InputError ReconcileOutcome)
  | disconnectReleasePlan (actions : List AppliedInput)
  | releaseAllPlan (actions : List AppliedInput)
deriving DecidableEq

/-- The reconciler as a machine over its calls. -/
def inputMachine : Machine InputReconciler InputCall ReconcilerEvent where
  step r
    | .apply message => record (.apply message) (r.apply message)
    | .disconnectReleasePlan => record .disconnectReleasePlan r.disconnectReleasePlan
    | .releaseAllPlan => record .releaseAllPlan r.releaseAllPlan

/-- A trace of the reconciler, oldest step first. -/
abbrev InputTrace := List (Step InputReconciler ReconcilerEvent)

/-! ## Sample messages -/

/-- Key 30 goes down, in epoch 1. -/
def samplePress : InputMessage := { sessionEpoch := 1, sequence := 5, event := .key 30 true }

/-- The wheel turns, in epoch 2. -/
def sampleWheel : InputMessage := { sessionEpoch := 2, sequence := 0, event := .wheel 1 (-1) }

/-- `samplePress` on the wire. -/
def samplePressBytes : List UInt8 :=
  [76, 68, 73, 78, 1, 1, 0, 3, 0, 0, 0, 1, 0, 0, 0, 0, 0, 0, 0, 5, 0, 0, 0, 0, 0, 30, 1]

/-- `sampleWheel` on the wire, with an acknowledgement requested. -/
def sampleWheelBytes : List UInt8 :=
  [76, 68, 73, 78, 1, 5, 0, 4, 0, 0, 0, 2, 0, 0, 0, 0, 0, 0, 0, 0, 0, 0, 0, 1, 0, 1, 255, 255]

end LatencyDesk.Input
