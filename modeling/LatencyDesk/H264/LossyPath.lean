import LatencyDesk.Lib.Since
import LatencyDesk.H264.Planner

/-!
# Continuity across the lossy path

The planner's frames travel over a path that loses, duplicates and reorders
them, so what arrives is any list of frames that the planner emitted.

Both ends keep the same link.  In the list of emitted frames, a frame that is
not a recovery point names the frame right before it, of its own codec epoch.
In the list of committed frames the decoder checks the same of the frame that
it committed last.  Frame ids are never used twice, so the frame before in one
list is the frame before in the other.
-/

namespace LatencyDesk.H264

open Lib Media List ContinuityPlanner Option

/-- A dependent frame names the last of the frames before it, which is of the
same codec epoch. -/
def FollowsPrevious (before : List EncodedFrameMeta) (frame : EncodedFrameMeta) : Prop :=
  frame.recoveryPoint = false →
    ∃ previous, before.getLast? = some previous ∧
      frame.dependencyFrameId = some previous.frameId ∧
      previous.codecEpoch = frame.codecEpoch

/-! ## What the planner emits -/

abbrev PlannerStep := Step ContinuityPlanner PlannerEvent

def emittedFrames (steps : List PlannerStep) : List EncodedFrameMeta :=
  steps.filterMap fun step => step.event.emitted

/-- The frame was emitted for an access unit with an IDR slice. -/
def FromIdr (steps : List PlannerStep) (frame : EncodedFrameMeta) : Prop :=
  ∃ step ∈ steps, ∃ bytes summary, step.event = .accept bytes (.ok frame) ∧
    inspectAnnexB bytes = .ok summary ∧ summary.hasIdrSlice = true

variable {frame : EncodedFrameMeta} {steps : List PlannerStep} {step : PlannerStep}
  {planner : ContinuityPlanner}

theorem FromIdr.append (h : FromIdr steps frame) (more : List PlannerStep) :
    FromIdr (steps ++ more) frame := by
  obtain ⟨step, hstep, hidr⟩ := h
  exact ⟨step, mem_append_left _ hstep, hidr⟩

/-- What holds of the planner and of the steps that led to it. -/
structure Emission (steps : List PlannerStep) (planner : ContinuityPlanner) : Prop where
  below : ∀ frame ∈ emittedFrames steps, frame.frameId < planner.nextFrameId
  ordered : (emittedFrames steps).Pairwise fun a b => a.frameId < b.frameId
  linked : Throughout FollowsPrevious (emittedFrames steps)
  last : ∀ id, planner.lastTransmitted = some id →
    ∃ frame, (emittedFrames steps).getLast? = some frame ∧ frame.frameId = id ∧
      frame.codecEpoch = planner.codecEpoch
  recovery : ∀ frame ∈ emittedFrames steps, frame.recoveryPoint = true → FromIdr steps frame

variable (codecEpoch : UInt32) (firstFrameId : UInt64)

theorem emission_new :
    Emission [] (.new codecEpoch firstFrameId) where
  below _ hfr := by cases hfr
  ordered := List.Pairwise.nil
  linked := throughout_nil
  last _ hlast := by cases hlast
  recovery _ hfr := by cases hfr

variable {after : ContinuityPlanner} (h : Emission steps planner)

include h in
/-- A step that emits nothing keeps the planner's frames, when the next frame id
does not fall and the frame transmitted last is still that frame or none. -/
theorem Emission.quiet (hquiet : step.event.emitted = none)
    (hnext : planner.nextFrameId ≤ after.nextFrameId) (hlast : after.lastTransmitted = none ∨
      after.lastTransmitted = planner.lastTransmitted ∧ after.codecEpoch = planner.codecEpoch) :
    Emission (steps ++ [step]) after := by
  have hfrs : emittedFrames (steps ++ [step]) = emittedFrames steps := by
    simp [emittedFrames, hquiet]
  constructor
  · rw [hfrs]
    exact fun frame hfr => UInt64.lt_of_lt_of_le (h.below frame hfr) hnext
  · rw [hfrs]
    exact h.ordered
  · rw [hfrs]
    exact h.linked
  · rw [hfrs]
    intro id hid
    rcases hlast with hnone | ⟨hsame, hep⟩
    · rw [hnone] at hid
      cases hid
    · rw [hep]
      exact h.last id (hsame ▸ hid)
  · rw [hfrs]
    exact fun frame hfr hrecov => (h.recovery frame hfr hrecov).append _

include h in
/-- A step that emits the frame with the next id, linked to the frames before. -/
theorem Emission.emit (hemit : step.event.emitted = some frame)
    (hid : frame.frameId = planner.nextFrameId) (hnext : planner.nextFrameId < after.nextFrameId)
    (hlast : after.lastTransmitted = some frame.frameId)
    (hep : frame.codecEpoch = after.codecEpoch)
    (hlink : FollowsPrevious (emittedFrames steps) frame)
    (hrecov : frame.recoveryPoint = true → FromIdr (steps ++ [step]) frame) :
    Emission (steps ++ [step]) after := by
  have hfrs : emittedFrames (steps ++ [step]) = emittedFrames steps ++ [frame] := by
    simp [emittedFrames, hemit]
  constructor
  · rw [hfrs]
    intro other hoth
    rcases mem_append.1 hoth with hold | hnew
    · exact UInt64.lt_trans (h.below other hold) hnext
    · rw [mem_singleton.1 hnew, hid]
      exact hnext
  · rw [hfrs, pairwise_append]
    refine ⟨h.ordered, pairwise_singleton _ _, fun other hoth new hnew => ?_⟩
    rw [mem_singleton.1 hnew, hid]
    exact h.below other hoth
  · rw [hfrs]
    exact throughout_snoc.2 ⟨h.linked, hlink⟩
  · rw [hfrs]
    intro id hsome
    refine ⟨frame, getLast?_concat, ?_, hep⟩
    exact some.inj (hlast.symm.trans hsome)
  · rw [hfrs]
    intro other hoth hpoint
    rcases mem_append.1 hoth with hold | hnew
    · exact (h.recovery other hold hpoint).append _
    · rw [mem_singleton.1 hnew] at hpoint ⊢
      exact hrecov hpoint

include h in
theorem Accepted.emission {bytes : List UInt8}
    {answer : Except H264Error EncodedFrameMeta × ContinuityPlanner}
    (haccept : Accepted planner bytes answer) (hev : step.event = .accept bytes answer.1) :
    Emission (steps ++ [step]) answer.2 := by
  have hemitted : step.event.emitted = (PlannerEvent.accept bytes answer.1).emitted := by
    rw [hev]
  cases haccept with
  | rejected | exhausted => exact h.quiet hemitted (UInt64.le_refl _) (.inr ⟨rfl, rfl⟩)
  | recovery summary next hinsp hidr hnext =>
    refine h.emit hemitted rfl (lt_of_toNat_eq_succ hnext) rfl rfl (fun hfalse => ?_) fun _ => ?_
    · cases hfalse
    · exact ⟨step, mem_append_right _ (mem_singleton_self _), bytes, summary, hev, hinsp, hidr⟩
  | blocked _ _ _ hnext | forward _ _ _ _ hnext =>
    exact h.quiet hemitted (UInt64.le_of_lt (lt_of_toNat_eq_succ hnext)) (.inr ⟨rfl, rfl⟩)
  | dependent _ _ dependency _ hnext _ hlast =>
    obtain ⟨prev, hprev, hid, hep⟩ := h.last dependency hlast
    refine h.emit hemitted rfl (lt_of_toNat_eq_succ hnext) rfl rfl (fun _ => ?_) fun hfalse => ?_
    · exact ⟨prev, hprev, congrArg some hid.symm, hep⟩
    · cases hfalse

theorem emission_step (steps : List PlannerStep) (planner : ContinuityPlanner)
    (call : PlannerCall) (h : Emission steps planner) :
    Emission (steps ++ [plannerMachine.stepAt planner call])
      (plannerMachine.step planner call).2 := by
  cases call with
  | accept bytes => exact (accept_effect planner bytes).emission h rfl
  | noteOutputDrop => exact h.quiet rfl (UInt64.le_refl _) (.inr ⟨rfl, rfl⟩)
  | reconfigure codecEpoch =>
    refine h.quiet rfl ?_ ?_
    · simp only [plannerMachine, reconfigure]
      split <;> exact UInt64.le_refl _
    · simp only [plannerMachine, reconfigure]
      split
      · exact .inr ⟨rfl, rfl⟩
      · exact .inl rfl

theorem emission_run (calls : List PlannerCall) :
    Emission (plannerMachine.trace (.new codecEpoch firstFrameId) calls)
      (plannerMachine.run (.new codecEpoch firstFrameId) calls) :=
  plannerMachine.trace_induction (emission_new codecEpoch firstFrameId) emission_step calls

include h in
/-- A dependent frame comes right after the frame it names, which is older. -/
theorem Emission.previous (hfr : frame ∈ emittedFrames steps)
    (hdepd : frame.recoveryPoint = false) :
    ∃ before prev after, emittedFrames steps = before ++ prev :: frame :: after ∧
      frame.dependencyFrameId = some prev.frameId ∧ prev.frameId < frame.frameId := by
  obtain ⟨earlier, after, heq⟩ := append_of_mem hfr
  obtain ⟨prev, hlast, hdep, _⟩ := h.linked earlier frame after heq hdepd
  obtain ⟨before, rfl⟩ := getLast?_eq_some_iff.1 hlast
  have hordered := h.ordered
  rw [heq, pairwise_append] at hordered
  refine ⟨before, prev, after, ?_, hdep, ?_⟩
  · rw [heq, append_assoc, singleton_append]
  · exact hordered.2.2 prev (by simp) frame (mem_cons_self ..)

include h in
/-- No frame id is used twice. -/
theorem Emission.eq_of_frameId_eq {a b : EncodedFrameMeta} (ha : a ∈ emittedFrames steps)
    (hb : b ∈ emittedFrames steps) (hid : a.frameId = b.frameId) :
    a = b := by
  have hnodup : ((emittedFrames steps).map (·.frameId)).Nodup :=
    pairwise_map.2 (h.ordered.imp UInt64.ne_of_lt)
  exact inj_on_of_nodup_map hnodup ha hb hid

/-! ## What the decoder commits -/

abbrev DecoderStep := Step DecoderContinuity DecoderEvent

def committedFrame : DecoderEvent → Option EncodedFrameMeta
  | .committed frame _ => some frame
  | .dropped _ => none

def committedFrames (steps : List DecoderStep) : List EncodedFrameMeta :=
  steps.filterMap fun step => committedFrame step.event

/-- What holds of the decoder and of the steps that led to it, when every frame
that arrived is one of `emitted`. -/
structure Decoding (emitted : List EncodedFrameMeta) (steps : List DecoderStep)
    (decoder : DecoderContinuity) : Prop where
  known : ∀ frame ∈ committedFrames steps, frame ∈ emitted
  last : decoder.lastDecodedFrame = (committedFrames steps).getLast?.map (·.frameId)
  epoch : decoder.epoch = (committedFrames steps).getLast?.map (·.codecEpoch)
  linked : Throughout FollowsPrevious (committedFrames steps)
  succeeded : ∀ step ∈ steps, ∀ frame result, step.event = .committed frame result → result = .ok ()

theorem decoding_default {emitted : List EncodedFrameMeta} : Decoding emitted [] .default where
  known _ hfr := by cases hfr
  last := rfl
  epoch := rfl
  linked := throughout_nil
  succeeded _ hstep := by cases hstep

variable {emitted : List EncodedFrameMeta} {decoder : DecoderContinuity}

/-- A frame was committed without an error, and it became the last one. -/
theorem Decoding.commit {steps : List DecoderStep} (h : Decoding emitted steps decoder)
    {step : DecoderStep} {after : DecoderContinuity}
    (hev : step.event = .committed frame (.ok ())) (hfr : frame ∈ emitted)
    (hlast : after.lastDecodedFrame = some frame.frameId)
    (hep : after.epoch = some frame.codecEpoch)
    (hlink : FollowsPrevious (committedFrames steps) frame) :
    Decoding emitted (steps ++ [step]) after := by
  have hfrs : committedFrames (steps ++ [step]) = committedFrames steps ++ [frame] := by
    simp [committedFrames, committedFrame, hev]
  constructor
  · rw [hfrs]
    intro other hoth
    rcases mem_append.1 hoth with hold | hnew
    · exact h.known other hold
    · exact mem_singleton.1 hnew ▸ hfr
  · rw [hfrs, getLast?_concat]
    exact hlast
  · rw [hfrs, getLast?_concat]
    exact hep
  · rw [hfrs]
    exact throughout_snoc.2 ⟨h.linked, hlink⟩
  · intro other hoth committed res hcomm
    rcases mem_append.1 hoth with hold | hnew
    · exact h.succeeded other hold committed res hcomm
    rw [mem_singleton.1 hnew, hev] at hcomm
    cases hcomm
    rfl

theorem Decoding.drop {steps : List DecoderStep} (h : Decoding emitted steps decoder)
    {step : DecoderStep} (hev : step.event = .dropped frame) :
    Decoding emitted (steps ++ [step]) decoder.noteLoss := by
  have hfrs : committedFrames (steps ++ [step]) = committedFrames steps := by
    simp [committedFrames, committedFrame, hev]
  refine ⟨hfrs ▸ h.known, hfrs ▸ h.last, hfrs ▸ h.epoch, hfrs ▸ h.linked, ?_⟩
  intro other hoth committed res hcomm
  rcases mem_append.1 hoth with hold | hnew
  · exact h.succeeded other hold committed res hcomm
  · rw [mem_singleton.1 hnew, hev] at hcomm
    cases hcomm

/-- A dependent frame that passes the decoder's check is newer than the frame it
names, so its commit succeeds. -/
theorem commitDecoded_of_follows {dependency : UInt64} (hdepd : frame.recoveryPoint = false)
    (hep : decoder.epoch = some frame.codecEpoch)
    (hlast : decoder.lastDecodedFrame = some dependency)
    (hdep : frame.dependencyFrameId = some dependency)
    (hnewer : dependency < frame.frameId) :
    decoder.commitDecoded frame =
      (.ok (), { decoder with lastDecodedFrame := some frame.frameId }) := by
  simp [DecoderContinuity.commitDecoded, hdepd, hep, hlast, hdep, hnewer]

variable {plannerSteps : List PlannerStep}

theorem decoding_step (hemission : Emission plannerSteps planner) (steps : List DecoderStep)
    (decoder : DecoderContinuity) (frame : EncodedFrameMeta)
    (hfr : frame ∈ emittedFrames plannerSteps)
    (h : Decoding (emittedFrames plannerSteps) steps decoder) :
    Decoding (emittedFrames plannerSteps) (steps ++ [decoderMachine.stepAt decoder frame])
      (decoderMachine.step decoder frame).2 := by
  have hev : (decoderMachine.stepAt decoder frame).event = (handleFrame decoder frame).1 := rfl
  change Decoding _ _ (handleFrame decoder frame).2
  rcases handleFrame_cases with hdrop | ⟨hrecov, hcom⟩ |
    ⟨hdepd, hep, hlast, hcom⟩
  · rw [hdrop] at hev ⊢
    exact h.drop hev
  · rw [hcom] at hev ⊢
    refine h.commit hev hfr rfl rfl fun hdepd => ?_
    rw [hrecov] at hdepd
    cases hdepd
  · -- the frame names the frame committed last, so it is newer and its commit succeeds
    obtain ⟨_, prev, _, _, hdep, hnewer⟩ := hemission.previous hfr hdepd
    have hdecd : decoder.lastDecodedFrame = some prev.frameId := hlast.symm.trans hdep
    rw [commitDecoded_of_follows hdepd hep hdecd hdep hnewer] at hcom
    rw [hcom] at hev ⊢
    refine h.commit hev hfr rfl hep fun _ => ?_
    obtain ⟨committed, hcomm, hid⟩ := map_eq_some_iff.1 (h.last.symm.trans hdecd)
    obtain ⟨_, hoth, hsame⟩ := map_eq_some_iff.1 (h.epoch.symm.trans hep)
    rw [hcomm] at hoth
    cases hoth
    exact ⟨committed, hcomm, by rw [hdep, hid], hsame⟩

theorem decoding_run (hemission : Emission plannerSteps planner)
    {dels : List EncodedFrameMeta}
    (hpath : ∀ frame ∈ dels, frame ∈ emittedFrames plannerSteps) :
    Decoding (emittedFrames plannerSteps) (decoderMachine.trace .default dels)
      (decoderMachine.run .default dels) :=
  decoderMachine.trace_induction_of decoding_default (decoding_step hemission) hpath

/-- Whatever the planner's user calls and whatever part of the emitted frames
arrives, in any order and any number of times: no commit fails, a committed
dependent frame names the frame committed right before it, which the planner
emitted right before it in the same epoch, and each run of commits starts with
an IDR picture. -/
theorem commits_follow_emission (codecEpoch : UInt32) (firstFrameId : UInt64)
    (calls : List PlannerCall) (deliveries : List EncodedFrameMeta)
    (hpath : ∀ frame ∈ deliveries,
      frame ∈ emittedFrames (plannerMachine.trace (.new codecEpoch firstFrameId) calls)) :
    let planned := plannerMachine.trace (.new codecEpoch firstFrameId) calls
    let decoded := decoderMachine.trace .default deliveries
    (∀ step ∈ decoded, ∀ frame result, step.event = .committed frame result → result = .ok ()) ∧
    ∀ earlier frame later, committedFrames decoded = earlier ++ frame :: later →
      (frame.recoveryPoint = false →
        ∃ earliest previous before after,
          earlier = earliest ++ [previous] ∧
          frame.dependencyFrameId = some previous.frameId ∧
          emittedFrames planned = before ++ previous :: frame :: after ∧
          previous.codecEpoch = frame.codecEpoch) ∧
      Since (fun other => other.recoveryPoint = false)
        (fun _ first => first.recoveryPoint = true ∧ FromIdr planned first)
        (earlier ++ [frame]) := by
  intro planned decoded
  have hemission := emission_run codecEpoch firstFrameId calls
  have hdecoding := decoding_run hemission hpath
  have hknown : ∀ frame ∈ committedFrames decoded, frame ∈ emittedFrames planned :=
    hdecoding.known
  refine ⟨hdecoding.succeeded, fun earlier frame later heq => ⟨fun hdepd => ?_, ?_⟩⟩
  · obtain ⟨previous, hlast, hdep, hep⟩ :=
      hdecoding.linked earlier frame later heq hdepd
    obtain ⟨earliest, rfl⟩ := getLast?_eq_some_iff.1 hlast
    have hfr : frame ∈ emittedFrames planned := hknown frame (by simp [heq])
    have hprev : previous ∈ emittedFrames planned := hknown previous (by simp [heq])
    obtain ⟨before, named, after, hemitted, hnamed, _⟩ := hemission.previous hfr hdepd
    have hsame : named = previous := by
      refine hemission.eq_of_frameId_eq ?_ hprev ?_
      · rw [hemitted]
        simp
      · exact some.inj (hnamed.symm.trans hdep)
    exact ⟨earliest, previous, before, after, rfl, hdep, hsame ▸ hemitted, hep⟩
  · have hruns : Throughout
        (fun before other => FollowsPrevious before other ∧
          (other.recoveryPoint = true → FromIdr planned other)) (committedFrames decoded) := by
      intro before other after hsplit
      have hoth : other ∈ emittedFrames planned := hknown other (by simp [hsplit])
      exact ⟨hdecoding.linked before other after hsplit, hemission.recovery other hoth⟩
    rw [heq, append_cons] at hruns
    refine since_of_throughout hruns.of_append ?_ (append_ne_nil_of_right_ne_nil _ (by simp))
    rintro before other ⟨hfollows, hidr⟩
    cases hrecov : other.recoveryPoint with
    | true => exact .inl ⟨rfl, hidr hrecov⟩
    | false =>
      obtain ⟨_, hlast, _⟩ := hfollows hrecov
      refine .inr ⟨rfl, fun hnil => ?_⟩
      rw [hnil] at hlast
      cases hlast

/-- An IDR picture and two dependents, of which the first arrives twice and the
IDR picture once more in between. -/
theorem sample_commits_follow_emission :
    let planned := plannerMachine.trace (.new 1 7)
      [.accept sampleRecoveryUnit, .accept sampleDependentUnit, .accept sampleDependentUnit]
    let first : EncodedFrameMeta := ⟨1, 7, none, true⟩
    let second : EncodedFrameMeta := ⟨1, 8, some 7, false⟩
    let decoded := decoderMachine.trace .default [first, second, second, first, second]
    committedFrames decoded = [first, second, first, second] ∧
      ∃ before after, emittedFrames planned = before ++ first :: second :: after := by
  intro planned first second decoded
  have hcomm : committedFrames decoded = [first, second, first, second] := by decide
  refine ⟨hcomm, ?_⟩
  have hfollow := (commits_follow_emission 1 7
    [.accept sampleRecoveryUnit, .accept sampleDependentUnit, .accept sampleDependentUnit]
    [first, second, second, first, second] (by decide)).2
  obtain ⟨earliest, prev, before, after, hearlier, _, hemitted, _⟩ :=
    (hfollow [first] second [first, second] hcomm).1 rfl
  obtain ⟨_, hsame⟩ := append_inj' (show [] ++ [first] = earliest ++ [prev] from hearlier) rfl
  cases hsame
  exact ⟨before, after, hemitted⟩

end LatencyDesk.H264
