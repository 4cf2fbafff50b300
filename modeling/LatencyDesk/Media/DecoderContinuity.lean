import LatencyDesk.Lib.Machine

/-!
# Decoder continuity

The model of `EncodedFrameMeta` and `DecoderContinuity` in
`crates/media/src/lib.rs`, and of its user: each frame that arrives is
classified, a frame to drop is noted as a loss, and every other frame is
committed.
-/

namespace LatencyDesk.Media

open Lib

/-- A frame and the one that it depends on. -/
structure EncodedFrameMeta where
  codecEpoch : UInt32
  frameId : UInt64
  dependencyFrameId : Option UInt64
  recoveryPoint : Bool
deriving DecidableEq

inductive ContinuityAction where
  | decode
  | resetAndDecode
  | dropAndRequestRecovery
deriving DecidableEq

inductive ContinuityCommitError where
  | invalidDecodedDependency
deriving DecidableEq

/-- The client's side of the frame chain. -/
structure DecoderContinuity where
  epoch : Option UInt32
  lastDecodedFrame : Option UInt64
  recoveryOutstanding : Bool
deriving DecidableEq

namespace DecoderContinuity

/-- `DecoderContinuity::default`. -/
def default : DecoderContinuity :=
  { epoch := none, lastDecodedFrame := none, recoveryOutstanding := false }

/-- Decodes a frame whose reference was the last one. -/
def classify (decoder : DecoderContinuity) (frame : EncodedFrameMeta) : ContinuityAction :=
  if frame.recoveryPoint then
    .resetAndDecode
  else
    let sameEpoch := decide (decoder.epoch = some frame.codecEpoch)
    let dependencyPresent := decide (frame.dependencyFrameId = decoder.lastDecodedFrame)
    if sameEpoch && dependencyPresent && !decoder.recoveryOutstanding then .decode
    else .dropAndRequestRecovery

def commitDecoded (decoder : DecoderContinuity) (frame : EncodedFrameMeta) :
    Except ContinuityCommitError Unit × DecoderContinuity :=
  if frame.recoveryPoint then
    (.ok (),
      { epoch := some frame.codecEpoch
        lastDecodedFrame := some frame.frameId
        recoveryOutstanding := false })
  else
    let isNewer :=
      match decoder.lastDecodedFrame with
      | none => true
      | some decoded => decide (decoded < frame.frameId)
    let valid := decide (decoder.epoch = some frame.codecEpoch) &&
      decide (frame.dependencyFrameId = decoder.lastDecodedFrame) && isNewer
    if valid then (.ok (), { decoder with lastDecodedFrame := some frame.frameId })
    else (.error .invalidDecodedDependency, decoder)

/-- Only a recovery point is decoded next. -/
def noteLoss (decoder : DecoderContinuity) : DecoderContinuity :=
  { decoder with recoveryOutstanding := true }

end DecoderContinuity

inductive DecoderEvent where
  | dropped (frame : EncodedFrameMeta)
  | committed (frame : EncodedFrameMeta) (result : Except ContinuityCommitError Unit)
deriving DecidableEq

/-- What the user of the tracker does with a frame that arrives. -/
def handleFrame (decoder : DecoderContinuity) (frame : EncodedFrameMeta) :
    DecoderEvent × DecoderContinuity :=
  match decoder.classify frame with
  | .dropAndRequestRecovery => (.dropped frame, decoder.noteLoss)
  | _ => record (.committed frame) (decoder.commitDecoded frame)

def decoderMachine : Machine DecoderContinuity EncodedFrameMeta DecoderEvent where
  step := handleFrame

open DecoderContinuity

/-- A frame that is handled is dropped, or it resets the tracker, or it follows
the frame that was committed last. -/
theorem handleFrame_cases {decoder : DecoderContinuity} {frame : EncodedFrameMeta} :
    handleFrame decoder frame = (.dropped frame, decoder.noteLoss) ∨
      frame.recoveryPoint = true ∧
        handleFrame decoder frame =
          (.committed frame (.ok ()),
            { epoch := some frame.codecEpoch
              lastDecodedFrame := some frame.frameId
              recoveryOutstanding := false }) ∨
      frame.recoveryPoint = false ∧ decoder.epoch = some frame.codecEpoch ∧
        frame.dependencyFrameId = decoder.lastDecodedFrame ∧
        handleFrame decoder frame = record (.committed frame) (decoder.commitDecoded frame) := by
  unfold handleFrame
  cases hrecov : frame.recoveryPoint with
  | true =>
    simp [classify, commitDecoded, hrecov]
  | false =>
    by_cases hdec : decoder.classify frame = .decode
    · have hclassify := hdec
      unfold classify at hclassify
      simp only [hrecov, if_false, ite_eq_left_iff, reduceCtorEq, imp_false, Decidable.not_not,
        Bool.and_eq_true, decide_eq_true_eq] at hclassify
      rw [hdec]
      exact .inr (.inr ⟨rfl, hclassify.1.1, hclassify.1.2, rfl⟩)
    · have hdrop : decoder.classify frame = .dropAndRequestRecovery := by
        unfold classify at hdec ⊢
        simp only [hrecov, Bool.false_eq_true, if_false] at hdec ⊢
        exact if_neg fun htrue => hdec (if_pos htrue)
      rw [hdrop]
      exact .inl rfl

end LatencyDesk.Media
