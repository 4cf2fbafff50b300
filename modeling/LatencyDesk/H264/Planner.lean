import LatencyDesk.H264.AnnexB
import LatencyDesk.Media.DecoderContinuity

/-!
# The continuity planner

The model of `ContinuityPlanner` in `crates/h264/src/lib.rs`.  `accept_effect`
says all that a call of `accept` can do.

The planner is to block dependent output after a known loss until an IDR
picture arrives.  A unit that the inspection rejects is such a loss, but it
leaves the planner as it is: `refused_output_blocks_iff` says which refused
units block their dependents.
-/

namespace LatencyDesk.H264

open Lib Media AnnexBSummary UInt64 Bool

/-- What an access unit depends on. -/
def AnnexBSummary.continuityMeta (summary : AnnexBSummary) (codecEpoch : UInt32)
    (frameId : UInt64) (previousFrameId : Option UInt64) : Except H264Error EncodedFrameMeta :=
  match summary.validateLowDelay with
  | .error e => .error e
  | .ok _ =>
    if summary.hasIdrSlice then
      .ok
        { codecEpoch := codecEpoch
          frameId := frameId
          dependencyFrameId := none
          recoveryPoint := true }
    else
      match previousFrameId with
      | none => .error .recoveryPointRequired
      | some dependency =>
        if frameId ≤ dependency then
          .error .invalidDependency
        else
          .ok
            { codecEpoch := codecEpoch
              frameId := frameId
              dependencyFrameId := some dependency
              recoveryPoint := false }

/-- The host's side of the frame chain. -/
structure ContinuityPlanner where
  codecEpoch : UInt32
  nextFrameId : UInt64
  lastTransmitted : Option UInt64
  recoveryRequested : Bool
deriving DecidableEq

namespace ContinuityPlanner

/-- `ContinuityPlanner::new`, which panics on codec epoch 0. -/
def new (codecEpoch : UInt32) (firstFrameId : UInt64) : ContinuityPlanner :=
  { codecEpoch := codecEpoch
    nextFrameId := firstFrameId
    lastTransmitted := none
    recoveryRequested := true }

/-- A dropped output asks for an IDR picture. -/
def noteOutputDrop (planner : ContinuityPlanner) : ContinuityPlanner :=
  { planner with recoveryRequested := true }

/-- The part of `accept` for a unit that is not an IDR picture. -/
def acceptDependent (planner : ContinuityPlanner) (summary : AnnexBSummary) (frameId : UInt64) :
    Except H264Error EncodedFrameMeta × ContinuityPlanner :=
  if planner.recoveryRequested then
    (.error .recoveryPointRequired, planner)
  else
    match planner.lastTransmitted with
    | none => (.error .recoveryPointRequired, planner)
    | some dependency =>
      match summary.continuityMeta planner.codecEpoch frameId (some dependency) with
      | .error e => (.error e, planner)
      | .ok metadata => (.ok metadata, { planner with lastTransmitted := some frameId })

/-- Numbers an access unit and checks that it continues the chain. -/
def accept (planner : ContinuityPlanner) (bytes : List UInt8) :
    Except H264Error EncodedFrameMeta × ContinuityPlanner :=
  match inspectAnnexB bytes with
  | .error e => (.error e, planner)
  | .ok summary =>
    let frameId := planner.nextFrameId
    match checkedAdd planner.nextFrameId 1 with
    | none => (.error .frameIdExhausted, planner)
    | some next =>
      let planner := { planner with nextFrameId := next }
      if summary.hasIdrSlice then
        (summary.continuityMeta planner.codecEpoch frameId none,
          { planner with lastTransmitted := some frameId, recoveryRequested := false })
      else
        planner.acceptDependent summary frameId

/-- A newer codec epoch starts a new chain. -/
def reconfigure (planner : ContinuityPlanner) (codecEpoch : UInt32) :
    Except H264Error Unit × ContinuityPlanner :=
  if codecEpoch ≤ planner.codecEpoch then
    (.error .nonMonotonicEpoch, planner)
  else
    (.ok (),
      { planner with
        codecEpoch := codecEpoch
        lastTransmitted := none
        recoveryRequested := true })

end ContinuityPlanner

/-! ## The machine -/

inductive PlannerCall where
  | accept (bytes : List UInt8)
  | noteOutputDrop
  | reconfigure (codecEpoch : UInt32)

inductive PlannerEvent where
  | accept (bytes : List UInt8) (result : Except H264Error EncodedFrameMeta)
  | noteOutputDrop
  | reconfigure (codecEpoch : UInt32) (result : Except H264Error Unit)

def plannerMachine : Machine ContinuityPlanner PlannerCall PlannerEvent where
  step planner
    | .accept bytes => record (.accept bytes) (planner.accept bytes)
    | .noteOutputDrop => (.noteOutputDrop, planner.noteOutputDrop)
    | .reconfigure codecEpoch =>
      record (.reconfigure codecEpoch) (planner.reconfigure codecEpoch)

/-- What a call of `accept` can do. -/
inductive Accepted (planner : ContinuityPlanner) (bytes : List UInt8) :
    Except H264Error EncodedFrameMeta × ContinuityPlanner → Prop
  | rejected (error : H264Error) (hinspect : inspectAnnexB bytes = .error error) :
      Accepted planner bytes (.error error, planner)
  | exhausted (summary : AnnexBSummary) (hinspect : inspectAnnexB bytes = .ok summary)
      (hlast : planner.nextFrameId.toNat + 1 = 2 ^ 64) :
      Accepted planner bytes (.error .frameIdExhausted, planner)
  | recovery (summary : AnnexBSummary) (next : UInt64)
      (hinspect : inspectAnnexB bytes = .ok summary) (hidr : summary.hasIdrSlice = true)
      (hnext : next.toNat = planner.nextFrameId.toNat + 1) :
      Accepted planner bytes
        (.ok
          { codecEpoch := planner.codecEpoch
            frameId := planner.nextFrameId
            dependencyFrameId := none
            recoveryPoint := true },
          { planner with
            nextFrameId := next
            lastTransmitted := some planner.nextFrameId
            recoveryRequested := false })
  | blocked (summary : AnnexBSummary) (next : UInt64)
      (hinspect : inspectAnnexB bytes = .ok summary)
      (hnext : next.toNat = planner.nextFrameId.toNat + 1)
      (hblocked : planner.recoveryRequested = true ∨ planner.lastTransmitted = none) :
      Accepted planner bytes (.error .recoveryPointRequired, { planner with nextFrameId := next })
  | forward (summary : AnnexBSummary) (next dependency : UInt64)
      (hinspect : inspectAnnexB bytes = .ok summary)
      (hnext : next.toNat = planner.nextFrameId.toNat + 1)
      (hlast : planner.lastTransmitted = some dependency)
      (hforward : planner.nextFrameId ≤ dependency) :
      Accepted planner bytes (.error .invalidDependency, { planner with nextFrameId := next })
  | dependent (summary : AnnexBSummary) (next dependency : UInt64)
      (hinspect : inspectAnnexB bytes = .ok summary)
      (hnext : next.toNat = planner.nextFrameId.toNat + 1)
      (hrequested : planner.recoveryRequested = false)
      (hlast : planner.lastTransmitted = some dependency)
      (hbefore : dependency < planner.nextFrameId) :
      Accepted planner bytes
        (.ok
          { codecEpoch := planner.codecEpoch
            frameId := planner.nextFrameId
            dependencyFrameId := some dependency
            recoveryPoint := false },
          { planner with
            nextFrameId := next
            lastTransmitted := some planner.nextFrameId })

open ContinuityPlanner

theorem accept_effect (planner : ContinuityPlanner) (bytes : List UInt8) :
    Accepted planner bytes (planner.accept bytes) := by
  unfold accept
  split
  · next e hinsp => exact .rejected e hinsp
  next summary hinsp =>
  have hlowDelay : summary.validateLowDelay = .ok summary :=
    if_neg (eq_false_iff.1 (inspectAnnexB_eq_ok hinsp).1)
  split
  · next hnext =>
    have hword : planner.nextFrameId.toNat < 2 ^ 64 := toNat_lt _
    have hover : 2 ^ 64 ≤ planner.nextFrameId.toNat + 1 := checkedAdd_eq_none.1 hnext
    exact .exhausted summary hinsp (by omega)
  next next hnext =>
  have hsucc : next.toNat = planner.nextFrameId.toNat + 1 := checkedAdd_eq_some.1 hnext
  dsimp only
  split_ifs with hidr
  · rw [continuityMeta, hlowDelay]
    rw [if_pos hidr]
    exact .recovery summary next hinsp hidr hsucc
  rw [acceptDependent]
  split_ifs with hreqd
  · exact .blocked summary next hinsp hsucc (.inl hreqd)
  split
  · next hlast => exact .blocked summary next hinsp hsucc (.inr hlast)
  next dependency hlast =>
  rw [continuityMeta, hlowDelay]
  split_ifs with hforward
  · exact .forward summary next dependency hinsp hsucc hlast hforward
  · exact .dependent summary next dependency hinsp hsucc
      (eq_false_iff.2 hreqd) hlast (UInt64.not_le.1 hforward)

/-! ## The planner between calls -/

/-- A planner that does not wait for a recovery point has transmitted a frame,
and the frame it transmitted last is older than the next one. -/
structure ContinuityPlanner.Settled (planner : ContinuityPlanner) : Prop where
  transmitted : planner.recoveryRequested = false → planner.lastTransmitted.isSome = true
  older : ∀ last, planner.lastTransmitted = some last → last < planner.nextFrameId

variable {planner : ContinuityPlanner}

theorem ContinuityPlanner.Settled.requested_of_blocked (h : planner.Settled)
    (hblocked : planner.recoveryRequested = true ∨ planner.lastTransmitted = none) :
    planner.recoveryRequested = true := by
  rcases hblocked with hreqd | hlast
  · exact hreqd
  by_contra hreqd
  have htransm := h.transmitted (eq_false_iff.2 hreqd)
  rw [hlast] at htransm
  cases htransm

variable (codecEpoch : UInt32) (firstFrameId : UInt64)

theorem settled_new :
    (ContinuityPlanner.new codecEpoch firstFrameId).Settled :=
  ⟨fun h => by simp [new] at h, fun _ h => by simp [new] at h⟩

theorem lt_of_toNat_eq_succ {a b : UInt64} (h : b.toNat = a.toNat + 1) : a < b := by
  rw [lt_iff_toNat_lt]
  omega

variable {bytes : List UInt8} {answer : Except H264Error EncodedFrameMeta × ContinuityPlanner}

theorem Accepted.settled (h : Accepted planner bytes answer) (hplanner : planner.Settled) :
    answer.2.Settled := by
  cases h with
  | rejected | exhausted => exact hplanner
  | recovery _ _ _ _ hnext | dependent _ _ _ _ hnext =>
    refine ⟨fun _ => rfl, fun last hlast => ?_⟩
    rw [← Option.some.inj hlast]
    exact lt_of_toNat_eq_succ hnext
  | blocked _ _ _ hnext | forward _ _ _ _ hnext =>
    refine ⟨hplanner.transmitted, fun last hlast => ?_⟩
    exact UInt64.lt_trans (hplanner.older last hlast) (lt_of_toNat_eq_succ hnext)

theorem settled_reconfigure (h : planner.Settled) {codecEpoch : UInt32} :
    (planner.reconfigure codecEpoch).2.Settled := by
  unfold reconfigure
  split
  · exact h
  · exact ⟨fun h => absurd h (by simp), fun _ h => absurd h (by simp)⟩

theorem settled_step (planner : ContinuityPlanner) (call : PlannerCall) (h : planner.Settled) :
    (plannerMachine.step planner call).2.Settled := by
  cases call with
  | accept bytes => exact (accept_effect planner bytes).settled h
  | noteOutputDrop => exact ⟨fun h => absurd h (by simp [plannerMachine,
      noteOutputDrop]), h.older⟩
  | reconfigure codecEpoch => exact settled_reconfigure h

theorem settled_run (calls : List PlannerCall) :
    (plannerMachine.run (.new codecEpoch firstFrameId) calls).Settled :=
  plannerMachine.run_induction (settled_new codecEpoch firstFrameId) settled_step calls

/-! ## Dependents of a lost output -/

/-- The frame that a call transmitted. -/
def PlannerEvent.emitted : PlannerEvent → Option EncodedFrameMeta
  | .accept _ (.ok metadata) => some metadata
  | _ => none

def EmitsRecovery (step : Step ContinuityPlanner PlannerEvent) : Prop :=
  ∃ metadata, step.event.emitted = some metadata ∧ metadata.recoveryPoint = true

/-- Whatever is called from here on, no call transmits a frame that depends on
an earlier one before a call has transmitted a recovery point. -/
def BlocksDependents (planner : ContinuityPlanner) : Prop :=
  ∀ (calls : List PlannerCall) (bytes : List UInt8) (metadata : EncodedFrameMeta),
    ((plannerMachine.run planner calls).accept bytes).1 = .ok metadata →
    metadata.recoveryPoint = false → ∃ step ∈ plannerMachine.trace planner calls, EmitsRecovery step

/-- The planner waits for a recovery point, or it has no frame id left. -/
def ContinuityPlanner.Waiting (planner : ContinuityPlanner) : Prop :=
  planner.recoveryRequested = true ∨ planner.nextFrameId.toNat + 1 = 2 ^ 64

/-- A waiting planner goes on waiting or transmits a recovery point. -/
theorem Accepted.waiting (h : Accepted planner bytes answer) (hwait : planner.Waiting) :
    (∃ metadata, answer.1 = .ok metadata ∧ metadata.recoveryPoint = true) ∨
      (∃ e, answer.1 = .error e) ∧ answer.2.Waiting := by
  have hword : ∀ next : UInt64, next.toNat = planner.nextFrameId.toNat + 1 →
      planner.recoveryRequested = true := by
    intro next hnext
    have hlt : next.toNat < 2 ^ 64 := toNat_lt next
    rcases hwait with hreqd | hlast
    · exact hreqd
    · omega
  cases h with
  | rejected e => exact .inr ⟨⟨e, rfl⟩, hwait⟩
  | exhausted => exact .inr ⟨⟨_, rfl⟩, hwait⟩
  | recovery => exact .inl ⟨_, rfl, rfl⟩
  | blocked _ next _ hnext | forward _ next _ _ hnext =>
    exact .inr ⟨⟨_, rfl⟩, .inl (hword next hnext)⟩
  | dependent _ next _ _ hnext hreqd =>
    rw [hword next hnext] at hreqd
    cases hreqd

theorem waiting_step (hwait : planner.Waiting) {call : PlannerCall} :
    EmitsRecovery (plannerMachine.stepAt planner call) ∨
      (plannerMachine.step planner call).2.Waiting := by
  cases call with
  | accept bytes =>
    rcases (accept_effect planner bytes).waiting hwait with ⟨metadata, hok, hrecov⟩ | ⟨_, h⟩
    · refine .inl ⟨metadata, ?_, hrecov⟩
      simp [plannerMachine, record, PlannerEvent.emitted, hok]
    · exact .inr h
  | noteOutputDrop => exact .inr (.inl rfl)
  | reconfigure codecEpoch =>
    refine .inr ?_
    simp only [plannerMachine, reconfigure]
    split
    · exact hwait
    · exact .inl rfl

theorem blocksDependents_of_waiting (h : planner.Waiting) :
    BlocksDependents planner := by
  intro calls bytes metadata hok hdepd
  have hrun := plannerMachine.trace_induction
    (P := fun steps after => (∃ step ∈ steps, EmitsRecovery step) ∨ after.Waiting) (.inr h) (by
      rintro steps after call (⟨step, hstep, hrecov⟩ | hwait)
      · exact .inl ⟨step, List.mem_append_left _ hstep, hrecov⟩
      · rcases waiting_step hwait with hrecov | hafter
        · exact .inl ⟨_, List.mem_append_right _ (List.mem_singleton_self _), hrecov⟩
        · exact .inr hafter) calls
  rcases hrun with hrecov | hwait
  · exact hrecov
  rcases (accept_effect _ bytes).waiting hwait with ⟨_, hoth, hrecov⟩ | ⟨⟨_, herror⟩, _⟩
  · rw [hok] at hoth
    cases hoth
    rw [hdepd] at hrecov
    cases hrecov
  · rw [hok] at herror
    cases herror

/-- An access unit of one P slice. -/
def sampleDependentUnit : List UInt8 := [0, 0, 1, 0x41, 0xe0]

/-- An access unit of one B slice. -/
def sampleBidirectionalUnit : List UInt8 := [0, 0, 1, 0x01, 0xa8]

/-- An access unit of parameter sets and one IDR slice. -/
def sampleRecoveryUnit : List UInt8 :=
  [0, 0, 0, 1, 0x67, 1, 0, 0, 1, 0x68, 2, 0, 0, 1, 0x65, 0xb8]

theorem inspect_sampleDependentUnit :
    inspectAnnexB sampleDependentUnit =
      .ok { default with nalUnits := 1, hasNonIdrSlice := true } := by
  decide

/-- A planner that waits for nothing forwards a dependent frame at once. -/
theorem waiting_of_blocksDependents (hsett : planner.Settled) (h : BlocksDependents planner) :
    planner.Waiting := by
  by_contra hwait
  have hnone : ∀ metadata, (planner.accept sampleDependentUnit).1 = .ok metadata →
      metadata.recoveryPoint = true := by
    intro metadata hok
    by_contra hdepd
    obtain ⟨_, hstep, _⟩ := h [] _ metadata hok (eq_false_iff.2 hdepd)
    cases hstep
  have heff := accept_effect planner sampleDependentUnit
  generalize planner.accept sampleDependentUnit = answer at heff hnone
  cases heff with
  | rejected e hinsp =>
    cases hinsp
  | exhausted _ _ hlast => exact hwait (.inr hlast)
  | recovery _ _ hinsp hidr =>
    cases hinsp
    cases hidr
  | blocked _ _ _ _ hblocked =>
    exact hwait (.inl (hsett.requested_of_blocked hblocked))
  | forward _ _ dependency _ _ hlast hforward =>
    exact absurd (hsett.older dependency hlast) (UInt64.not_lt.2 hforward)
  | dependent => exact absurd (hnone _ rfl) (by simp)

/-- A unit that passes the inspection is refused by a waiting planner only. -/
theorem waiting_of_refused (hsett : planner.Settled) {summary : AnnexBSummary}
    {e : H264Error} (hinsp : inspectAnnexB bytes = .ok summary)
    (herror : (planner.accept bytes).1 = .error e) : (planner.accept bytes).2.Waiting := by
  have heff := accept_effect planner bytes
  generalize planner.accept bytes = answer at heff herror
  cases heff with
  | rejected other hoth =>
    rw [hinsp] at hoth
    cases hoth
  | exhausted _ _ hlast => exact .inr hlast
  | recovery | dependent => cases herror
  | blocked _ _ _ _ hblocked => exact .inl (hsett.requested_of_blocked hblocked)
  | forward _ _ dependency _ _ hlast hforward =>
    exact absurd (hsett.older dependency hlast) (UInt64.not_lt.2 hforward)

/-- A refused access unit blocks its dependents exactly when it passes the
inspection or the planner was waiting before.  A unit that the inspection
rejects leaves a planner that was not waiting free to go on. -/
theorem refused_output_blocks_iff (codecEpoch : UInt32) (firstFrameId : UInt64)
    (calls : List PlannerCall) (bytes : List UInt8) (error : H264Error)
    (herror : ((plannerMachine.run (.new codecEpoch firstFrameId) calls).accept bytes).1 =
      .error error) :
    BlocksDependents ((plannerMachine.run (.new codecEpoch firstFrameId) calls).accept bytes).2 ↔
      (∃ summary, inspectAnnexB bytes = .ok summary) ∨
        (plannerMachine.run (.new codecEpoch firstFrameId) calls).recoveryRequested = true ∨
        (plannerMachine.run (.new codecEpoch firstFrameId) calls).nextFrameId.toNat + 1 =
          2 ^ 64 := by
  have hsett := settled_run codecEpoch firstFrameId calls
  generalize plannerMachine.run (.new codecEpoch firstFrameId) calls = planner at hsett herror
  cases hinsp : inspectAnnexB bytes with
  | ok summary =>
    have hwait := waiting_of_refused hsett hinsp herror
    exact ⟨fun _ => .inl ⟨summary, rfl⟩, fun _ => blocksDependents_of_waiting hwait⟩
  | error reason =>
    have hsame : (planner.accept bytes).2 = planner := by
      rw [accept, hinsp]
    rw [hsame]
    constructor
    · exact fun h => .inr (waiting_of_blocksDependents hsett h)
    · rintro (⟨_, hok⟩ | hwait)
      · cases hok
      · exact blocksDependents_of_waiting hwait

/-- A planner has transmitted an IDR picture with the last id but one.  It refuses the P slice that
follows, and its dependents with it. -/
theorem exhausted_planner_blocks :
    let planner := plannerMachine.run (.new 1 0xfffffffffffffffe) [.accept sampleRecoveryUnit]
    planner.recoveryRequested = false ∧
      (planner.accept sampleDependentUnit).1 = .error .frameIdExhausted ∧
      BlocksDependents (planner.accept sampleDependentUnit).2 :=
  ⟨by decide, by decide,
    (refused_output_blocks_iff 1 0xfffffffffffffffe [.accept sampleRecoveryUnit]
      sampleDependentUnit .frameIdExhausted (by decide)).2 (.inl ⟨_, inspect_sampleDependentUnit⟩)⟩

/-- After an IDR picture a B slice is rejected, and the P slice that follows is
transmitted as a dependent of the IDR picture. -/
theorem bidirectional_unit_blocks_nothing :
    let planner := ((new 1 1).accept sampleRecoveryUnit).2
    (planner.accept sampleBidirectionalUnit).1 = .error .bFrameDetected ∧
      ((planner.accept sampleBidirectionalUnit).2.accept sampleDependentUnit).1 =
        .ok
          { codecEpoch := 1
            frameId := 2
            dependencyFrameId := some 1
            recoveryPoint := false } ∧
      ¬ BlocksDependents (planner.accept sampleBidirectionalUnit).2 := by
  intro planner
  refine ⟨by decide, by decide, fun h => ?_⟩
  obtain ⟨_, hstep, _⟩ := h [] sampleDependentUnit ⟨1, 2, some 1, false⟩ (by decide) rfl
  cases hstep

end LatencyDesk.H264
