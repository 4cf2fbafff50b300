import LatencyDesk.Platform.Presentation
import LatencyDesk.Session.Authority
import LatencyDesk.Transport.Reassembler

/-!
# The host runtime

The model of `HostRuntime` in `crates/runtime/src/lib.rs` over a `SessionAuthority`.

The capture, encoder and input backends are arbitrary.  A call of the runtime is given
their answers, one for each time it may ask them, and every one of them may be an
error.  What the runtime does to its backends, to its authority and to its progress is
written to a log, with the time of the call.
-/

namespace LatencyDesk.Runtime

open Input Lib Platform Session
open Protocol (SessionStamp ProtocolError)
open Transport (TransportError)

inductive RuntimeProgress where
  | pairingPending
  | awaitingLocalApproval
  | streaming
  | recovering
  | closing
  | closed
deriving DecidableEq

inductive RuntimeError where
  | authority (error : AuthorityError)
  | sessionInput (error : SessionInputError)
  | platform (error : PlatformError)
  | transport (error : TransportError)
  | protocol (error : ProtocolError)
  | invalidProgress (progress : RuntimeProgress)
  | captureEpochMismatch (expected actual : UInt32)
  | decodedFrameMismatch
  | releaseDeadlineElapsed
deriving DecidableEq

inductive MediaSendOutcome where
  | sent
  | droppedExpired
  | droppedTooLarge
  | unsupported
deriving DecidableEq

inductive CaptureEvent where
  | frame (frame : EpochBoundSurface)
  | reconfigure (displayEpoch : UInt32) (descriptor : Media.FrameDescriptor)
  | accessLost
  | protectedContent (displayEpoch : UInt32)
  | permissionRevoked
  | endOfStream
deriving DecidableEq

inductive HostAction where
  | ignoredNotStreaming
  | droppedStaleStamp
  | idle
  | awaitingEncodeCompletion
  | encodeSubmitted (stamp : DispatchStamp)
  | encodePending
  | mediaSent (outcome : MediaSendOutcome)
  | inputApplied (count : Nat)
  | recovering
  | closed
deriving DecidableEq

/-- The five fields in which a record has to agree with the authority. -/
def matchesTransportStamp (dispatch : DispatchStamp) (transport : SessionStamp) : Bool :=
  dispatch.sessionId.value = transport.sessionId ∧ dispatch.generation = transport.generation ∧
    dispatch.authorizationEpoch = transport.authorizationEpoch ∧
    dispatch.displayEpoch = transport.displayEpoch ∧ dispatch.codecEpoch = transport.codecEpoch

/-- The answer of a backend that has nothing to return. -/
abbrev Answer := Except PlatformError Unit

/-- The answers to `close_inner`. -/
structure CloseAnswers where
  releaseAll : Answer
  quiesceEncoding : Answer
  releaseEncoded : Answer
  stop : Answer
deriving DecidableEq

/-- Nothing fails during the close. -/
def CloseAnswers.allOk : CloseAnswers := ⟨.ok (), .ok (), .ok (), .ok ()⟩

/-- What is written to the log. -/
inductive HostNote where
  | progress (progress : RuntimeProgress)
  | start (nowNs : UInt64)
  | poll
  | prepare (nowNs : UInt64)
  | encode (nowNs : UInt64)
  | pollEncodeCompletion
  | releaseEncoded
  | send (nowNs : UInt64)
  /-- An action of a record with this stamp is injected. -/
  | inject (nowNs : UInt64) (stamp : SessionStamp) (action : AppliedInput) (answer : Answer)
  | authorityClosed
  | releaseAll (actions : List AppliedInput) (answer : Answer)
  | quiesceEncoding
  | stop
deriving DecidableEq

structure HostRuntime where
  session : SessionAuthority
  /-- The permit of the encode in flight. -/
  inFlightEncode : Option DispatchPermit
  progress : RuntimeProgress
  log : List HostNote

namespace HostRuntime

def new (session : SessionAuthority) : HostRuntime := ⟨session, none, .pairingPending, []⟩

def note (runtime : HostRuntime) (entry : HostNote) : HostRuntime :=
  { runtime with log := runtime.log ++ [entry] }

def setProgress (runtime : HostRuntime) (progress : RuntimeProgress) : HostRuntime :=
  { runtime with progress := progress }.note (.progress progress)

/-- `map_err(RuntimeError::from)`. -/
def fromPlatform : Answer → Except RuntimeError Unit
  | .error e => .error (.platform e)
  | .ok () => .ok ()

/-- Quiesces the encoder and releases the frame in flight. -/
def drainEncoder (runtime : HostRuntime) (answers : CloseAnswers) :
    Except RuntimeError Unit × HostRuntime :=
  let runtime := runtime.note .quiesceEncoding
  match answers.quiesceEncoding with
  | .error e => (.error (.platform e), runtime)
  | .ok () =>
    match runtime.inFlightEncode with
    | none => (.ok (), runtime)
    | some _ =>
      (fromPlatform answers.releaseEncoded,
        { runtime with inFlightEncode := none }.note .releaseEncoded)

/-- The part of `close_inner` behind the close of the authority. -/
def tearDown (runtime : HostRuntime) (closed : ClosedAuthority) (nowNs : UInt64)
    (nextProgress : RuntimeProgress) (answers : CloseAnswers) :
    Except RuntimeError Unit × HostRuntime :=
  let runtime := runtime.note (.releaseAll closed.inputLedger.releasePlan.1 answers.releaseAll)
  let (encoderResult, runtime) := runtime.drainEncoder answers
  let runtime := (runtime.note .stop).setProgress nextProgress
  if closed.releaseDeadlineNs ≤ nowNs then
    (.error .releaseDeadlineElapsed, runtime)
  else
    match fromPlatform answers.releaseAll, encoderResult, fromPlatform answers.stop with
    | .error e, _, _ => (.error e, runtime)
    | .ok (), .error e, _ => (.error e, runtime)
    | .ok (), .ok (), .error e => (.error e, runtime)
    | .ok (), .ok (), .ok () => (.ok (), runtime)

/-- Closes the authority, then tears everything down. -/
def closeInner (runtime : HostRuntime) (nowNs : UInt64) (nextProgress : RuntimeProgress)
    (answers : CloseAnswers) : Except RuntimeError Unit × HostRuntime :=
  let runtime := runtime.setProgress .closing
  match runtime.session.close with
  | (.error e, session) => (.error (.authority e), { runtime with session := session })
  | (.ok closed, session) =>
    ({ runtime with session := session }.note .authorityClosed).tearDown closed nowNs nextProgress
      answers

/-- Ends in recovery after a failure. -/
def enterRecovery (runtime : HostRuntime) (nowNs : UInt64) (answers : CloseAnswers) :
    Except RuntimeError Unit × HostRuntime :=
  runtime.closeInner nowNs .recovering answers

/-- `recover_after`, which always fails. -/
def recoverAfter {α : Type} (runtime : HostRuntime) (nowNs : UInt64) (error : RuntimeError)
    (answers : CloseAnswers) : Except RuntimeError α × HostRuntime :=
  match runtime.enterRecovery nowNs answers with
  | (.ok (), runtime) => (.error error, runtime)
  | (.error closeError, runtime) => (.error closeError, runtime)

def awaitLocalApproval (runtime : HostRuntime) : Except RuntimeError Unit × HostRuntime :=
  if runtime.progress ≠ .pairingPending then
    (.error (.invalidProgress runtime.progress), runtime)
  else
    (.ok (), runtime.setProgress .awaitingLocalApproval)

/-- `activate` behind the two checks of the authority. -/
def startCapture (runtime : HostRuntime) (permit : DispatchPermit) (stamp : DispatchStamp)
    (nowNs : UInt64) (start : Answer) (answers : CloseAnswers) :
    Except RuntimeError DispatchStamp × HostRuntime :=
  let runtime := runtime.note (.start nowNs)
  match start with
  | .error e => runtime.recoverAfter nowNs (.platform e) answers
  | .ok () =>
    match runtime.session.recheck permit nowNs with
    | .error e => runtime.recoverAfter nowNs (.authority e) answers
    | .ok _ => (.ok stamp, runtime.setProgress .streaming)

/-- Starts the capture under a permit. -/
def activate (runtime : HostRuntime) (nowNs : UInt64) (start : Answer) (answers : CloseAnswers) :
    Except RuntimeError DispatchStamp × HostRuntime :=
  if runtime.progress ≠ .pairingPending ∧ runtime.progress ≠ .awaitingLocalApproval then
    (.error (.invalidProgress runtime.progress), runtime)
  else
    match runtime.session.acquireDispatch nowNs with
    | .error e => (.error (.authority e), runtime)
    | .ok permit =>
      match runtime.session.recheck permit nowNs with
      | .error e => (.error (.authority e), runtime)
      | .ok stamp => runtime.startCapture permit stamp nowNs start answers

def activePermit (runtime : HostRuntime) (nowNs : UInt64) : Except RuntimeError DispatchPermit :=
  match runtime.session.acquireDispatch nowNs with
  | .error e => .error (.authority e)
  | .ok permit =>
    match runtime.session.recheck permit nowNs with
    | .error e => .error (.authority e)
    | .ok _ => .ok permit

/-- The answers to a frame in `poll_capture`. -/
structure FrameAnswers where
  prepare : Answer
  encode : Answer
deriving DecidableEq

/-- The frame of `poll_capture` behind `prepare`. -/
def encodeFrame (runtime : HostRuntime) (permit : DispatchPermit) (nowNs : UInt64)
    (encode : Answer) (answers : CloseAnswers) : Except RuntimeError HostAction × HostRuntime :=
  match runtime.session.recheck permit nowNs with
  | .error e => runtime.recoverAfter nowNs (.authority e) answers
  | .ok _ =>
    let runtime := runtime.note (.encode nowNs)
    match encode with
    | .error e => runtime.recoverAfter nowNs (.platform e) answers
    | .ok () =>
      (.ok (.encodeSubmitted permit.stamp), { runtime with inFlightEncode := some permit })

/-- The frame of `poll_capture`. -/
def captureFrame (runtime : HostRuntime) (permit : DispatchPermit) (frame : EpochBoundSurface)
    (nowNs : UInt64) (frameAnswers : FrameAnswers) (answers : CloseAnswers) :
    Except RuntimeError HostAction × HostRuntime :=
  if frame.displayEpoch ≠ permit.stamp.displayEpoch then
    runtime.recoverAfter nowNs
      (.captureEpochMismatch permit.stamp.displayEpoch frame.displayEpoch) answers
  else
    match runtime.session.recheck permit nowNs with
    | .error e => runtime.recoverAfter nowNs (.authority e) answers
    | .ok _ =>
      let runtime := runtime.note (.prepare nowNs)
      match frameAnswers.prepare with
      | .error e => runtime.recoverAfter nowNs (.platform e) answers
      | .ok () => runtime.encodeFrame permit nowNs frameAnswers.encode answers

/-- Captures a frame and encodes it. -/
def pollCapture (runtime : HostRuntime) (nowNs : UInt64)
    (event : Except PlatformError (Option CaptureEvent)) (frameAnswers : FrameAnswers)
    (answers : CloseAnswers) : Except RuntimeError HostAction × HostRuntime :=
  if runtime.progress ≠ .streaming then
    (.ok .ignoredNotStreaming, runtime)
  else if runtime.inFlightEncode.isSome then
    (.ok .awaitingEncodeCompletion, runtime)
  else
    match runtime.activePermit nowNs with
    | .error e => runtime.recoverAfter nowNs e answers
    | .ok permit =>
      let runtime := runtime.note .poll
      match event with
      | .error e => runtime.recoverAfter nowNs (.platform e) answers
      | .ok none => (.ok .idle, runtime)
      | .ok (some (.frame frame)) =>
        runtime.captureFrame permit frame nowNs frameAnswers answers
      | .ok (some .endOfStream) =>
        match runtime.closeInner nowNs .closed answers with
        | (.error e, runtime) => (.error e, runtime)
        | (.ok (), runtime) => (.ok .closed, runtime)
      | .ok (some _) =>
        match runtime.enterRecovery nowNs answers with
        | (.error e, runtime) => (.error e, runtime)
        | (.ok (), runtime) => (.ok .recovering, runtime)

/-- The answers to `poll_encode_completion`. -/
structure EncodeAnswers where
  completion : Except PlatformError NativePresentationCompletion
  releaseEncoded : Answer
  send : Except RuntimeError MediaSendOutcome
deriving DecidableEq

/-- `poll_encode_completion` behind the release of the surface. -/
def sendCompleted (runtime : HostRuntime) (permit : DispatchPermit) (nowNs : UInt64)
    (send : Except RuntimeError MediaSendOutcome) (answers : CloseAnswers) :
    Except RuntimeError HostAction × HostRuntime :=
  match runtime.session.recheck permit nowNs with
  | .error e => runtime.recoverAfter nowNs (.authority e) answers
  | .ok _ =>
    let runtime := runtime.note (.send nowNs)
    match send with
    | .error e => runtime.recoverAfter nowNs e answers
    | .ok outcome => (.ok (.mediaSent outcome), runtime)

/-- `poll_encode_completion` behind the completion. -/
def releaseCompleted (runtime : HostRuntime) (permit : DispatchPermit) (nowNs : UInt64)
    (encodeAnswers : EncodeAnswers) (answers : CloseAnswers) :
    Except RuntimeError HostAction × HostRuntime :=
  match runtime.session.recheck permit nowNs with
  | .error e => runtime.recoverAfter nowNs (.authority e) answers
  | .ok _ =>
    let runtime := { runtime with inFlightEncode := none }.note .releaseEncoded
    match encodeAnswers.releaseEncoded with
    | .error e => runtime.recoverAfter nowNs (.platform e) answers
    | .ok () => runtime.sendCompleted permit nowNs encodeAnswers.send answers

/-- Sends what the encoder completed. -/
def pollEncodeCompletion (runtime : HostRuntime) (nowNs : UInt64) (encodeAnswers : EncodeAnswers)
    (answers : CloseAnswers) : Except RuntimeError HostAction × HostRuntime :=
  if runtime.progress ≠ .streaming then
    (.ok .ignoredNotStreaming, runtime)
  else
    match runtime.inFlightEncode with
    | none => (.ok .idle, runtime)
    | some permit =>
      match runtime.session.recheck permit nowNs with
      | .error e => runtime.recoverAfter nowNs (.authority e) answers
      | .ok _ =>
        let runtime := runtime.note .pollEncodeCompletion
        match encodeAnswers.completion with
        | .error e => runtime.recoverAfter nowNs (.platform e) answers
        | .ok .pending => (.ok .encodePending, runtime)
        | .ok .complete => runtime.releaseCompleted permit nowNs encodeAnswers answers

/-- The loop of `ingest_input`.  `injects` are the answers to its first injections, and the
others succeed. -/
def injectAll (runtime : HostRuntime) (permit : DispatchPermit) (stamp : SessionStamp)
    (nowNs : UInt64) (answers : CloseAnswers) :
    List AppliedInput → List Answer → Except RuntimeError Unit × HostRuntime
  | [], _ => (.ok (), runtime)
  | action :: actions, injects =>
    match runtime.session.recheck permit nowNs with
    | .error e => runtime.recoverAfter nowNs (.authority e) answers
    | .ok _ =>
      let answer := injects.headD (.ok ())
      let runtime := runtime.note (.inject nowNs stamp action answer)
      match answer with
      | .error e => runtime.recoverAfter nowNs (.platform e) answers
      | .ok () => runtime.injectAll permit stamp nowNs answers actions injects.tail

/-- Applies an input message and injects its actions. -/
def ingestInput (runtime : HostRuntime) (stamp : SessionStamp) (message : InputMessage)
    (nowNs : UInt64) (injects : List Answer) (answers : CloseAnswers) :
    Except RuntimeError HostAction × HostRuntime :=
  if runtime.progress ≠ .streaming then
    (.ok .ignoredNotStreaming, runtime)
  else
    match runtime.activePermit nowNs with
    | .error e => runtime.recoverAfter nowNs e answers
    | .ok permit =>
      if matchesTransportStamp permit.stamp stamp = false then
        (.ok .droppedStaleStamp, runtime)
      else
        match runtime.session.applyInput message nowNs with
        | (.error e, session) =>
          (.error (.sessionInput e), { runtime with session := session })
        | (.ok (.applied actions), session) =>
          match { runtime with session := session }.injectAll permit stamp nowNs answers actions
              injects with
          | (.error e, runtime) => (.error e, runtime)
          | (.ok (), runtime) => (.ok (.inputApplied actions.length), runtime)
        | (.ok _, session) => (.ok (.inputApplied 0), { runtime with session := session })

def close (runtime : HostRuntime) (nowNs : UInt64) (answers : CloseAnswers) :
    Except RuntimeError HostAction × HostRuntime :=
  if runtime.progress = .closed then
    (.ok .closed, runtime)
  else if runtime.progress = .recovering then
    (.ok .closed, runtime.setProgress .closed)
  else
    match runtime.closeInner nowNs .closed answers with
    | (.error e, runtime) => (.error e, runtime)
    | (.ok (), runtime) => (.ok .closed, runtime)

end HostRuntime

/-! ## What a close does -/

variable {α : Type}

namespace HostRuntime

section

variable (runtime : HostRuntime) (entry : HostNote)

@[simp] theorem note_session : (runtime.note entry).session = runtime.session := rfl

@[simp] theorem note_progress : (runtime.note entry).progress = runtime.progress := rfl

@[simp] theorem note_log : (runtime.note entry).log = runtime.log ++ [entry] := rfl

variable (progress : RuntimeProgress)

@[simp] theorem setProgress_session :
    (runtime.setProgress progress).session = runtime.session := rfl

@[simp] theorem setProgress_progress : (runtime.setProgress progress).progress = progress := rfl

@[simp] theorem setProgress_log :
    (runtime.setProgress progress).log = runtime.log ++ [.progress progress] := rfl

theorem drainEncoder_cases (answers : CloseAnswers) :
    ∃ drained, (drained = [] ∨ drained = [HostNote.releaseEncoded]) ∧
      (runtime.drainEncoder answers).2.session = runtime.session ∧
      (runtime.drainEncoder answers).2.log = runtime.log ++ [.quiesceEncoding] ++ drained := by
  unfold drainEncoder
  dsimp only
  split
  · exact ⟨[], .inl rfl, rfl, (List.append_nil _).symm⟩
  split
  · exact ⟨[], .inl rfl, rfl, (List.append_nil _).symm⟩
  · exact ⟨[.releaseEncoded], .inr rfl, rfl, rfl⟩

end

/-- The entries of a close, with those of the encoder. -/
def closeNotes (plan : List AppliedInput) (answers : CloseAnswers) (drained : List HostNote)
    (nextProgress : RuntimeProgress) : List HostNote :=
  [.progress .closing, .authorityClosed, .releaseAll plan answers.releaseAll, .quiesceEncoding] ++
    drained ++ [.stop, .progress nextProgress]

variable (runtime : HostRuntime)

theorem tearDown_cases (closed : ClosedAuthority) (nowNs : UInt64)
    (nextProg : RuntimeProgress) (answers : CloseAnswers) :
    ∃ drained, (drained = [] ∨ drained = [HostNote.releaseEncoded]) ∧
      (runtime.tearDown closed nowNs nextProg answers).2.session = runtime.session ∧
      (runtime.tearDown closed nowNs nextProg answers).2.progress = nextProg ∧
      (runtime.tearDown closed nowNs nextProg answers).2.log = runtime.log ++
        ([.releaseAll closed.inputLedger.releasePlan.1 answers.releaseAll, .quiesceEncoding] ++
          drained ++ [.stop, .progress nextProg]) := by
  obtain ⟨drained, hdrained, hsess, hlog⟩ := drainEncoder_cases
    (runtime.note (.releaseAll closed.inputLedger.releasePlan.1 answers.releaseAll)) answers
  refine ⟨drained, hdrained, ?_⟩
  unfold tearDown
  dsimp only
  split_ifs
  · simp [hsess, hlog]
  · split <;> simp [hsess, hlog]

variable (nowNs : UInt64)

/-- A close of an open authority, and one of a closed authority. -/
theorem closeInner_cases (nextProgress : RuntimeProgress)
    (answers : CloseAnswers) :
    (runtime.session.inputLedger = none ∧
      runtime.closeInner nowNs nextProgress answers =
        (.error (.authority .closed), runtime.setProgress .closing)) ∨
    ∃ ledger drained, runtime.session.inputLedger = some ledger ∧
      (drained = [] ∨ drained = [HostNote.releaseEncoded]) ∧
      (runtime.closeInner nowNs nextProgress answers).2.session =
        { runtime.session with inputLedger := none } ∧
      (runtime.closeInner nowNs nextProgress answers).2.progress = nextProgress ∧
      (runtime.closeInner nowNs nextProgress answers).2.log =
        runtime.log ++ closeNotes ledger.releasePlan.1 answers drained nextProgress := by
  unfold closeInner SessionAuthority.close
  dsimp only
  rw [setProgress_session]
  cases hled : runtime.session.inputLedger with
  | none => exact .inl ⟨rfl, rfl⟩
  | some ledger =>
    obtain ⟨drained, hdrained, hsess, hprog, hlog⟩ := tearDown_cases
      (HostRuntime.note
        { runtime.setProgress .closing with
          session := { runtime.session with inputLedger := none } } .authorityClosed)
      ⟨ledger, runtime.session.releaseDeadlineNs⟩ nowNs nextProgress answers
    refine .inr ⟨ledger, drained, rfl, hdrained, hsess, hprog, ?_⟩
    refine hlog.trans ?_
    simp [closeNotes]

theorem recoverAfter_snd (e : RuntimeError)
    (answers : CloseAnswers) :
    (runtime.recoverAfter (α := α) nowNs e answers).2 =
      (runtime.closeInner nowNs .recovering answers).2 := by
  unfold recoverAfter enterRecovery
  split
  all_goals
    rename_i heq
    rw [heq]

end HostRuntime

open HostRuntime

/-- A permit that the runtime acts under lets a dispatch through. -/
theorem HostRuntime.activePermit_eq_ok {runtime : HostRuntime} {permit : DispatchPermit}
    {nowNs : UInt64} (hpermit : runtime.activePermit nowNs = .ok permit) :
    (∃ stamp, runtime.session.recheck permit nowNs = .ok stamp) ∧
      permit.stamp = runtime.session.stamp := by
  unfold activePermit at hpermit
  split at hpermit
  · cases hpermit
  split at hpermit
  · cases hpermit
  rename_i hchk
  cases hpermit
  exact ⟨⟨_, hchk⟩, (SessionAuthority.recheck_eq_ok hchk).2⟩

/-! ## What the methods other than `ingest_input` do

Each of them is a few calls of the backends, with a close wherever something fails.  So an
invariant that is kept by these few deeds is kept by the methods. -/

/-- A call of a backend outside of a close, with what was checked before it. -/
inductive Deed (runtime : HostRuntime) : HostNote → Prop
  | start {permit : DispatchPermit} {stamp : DispatchStamp} {nowNs : UInt64}
      (hrecheck : runtime.session.recheck permit nowNs = .ok stamp) : Deed runtime (.start nowNs)
  | poll : Deed runtime .poll
  | prepare {permit : DispatchPermit} {stamp : DispatchStamp} {nowNs : UInt64}
      (hrecheck : runtime.session.recheck permit nowNs = .ok stamp)
      (hprogress : runtime.progress = .streaming) : Deed runtime (.prepare nowNs)
  | encode {permit : DispatchPermit} {stamp : DispatchStamp} {nowNs : UInt64}
      (hrecheck : runtime.session.recheck permit nowNs = .ok stamp)
      (hprogress : runtime.progress = .streaming) : Deed runtime (.encode nowNs)
  | pollEncodeCompletion : Deed runtime .pollEncodeCompletion
  | releaseEncoded : Deed runtime .releaseEncoded
  | send {permit : DispatchPermit} {stamp : DispatchStamp} {nowNs : UInt64}
      (hrecheck : runtime.session.recheck permit nowNs = .ok stamp)
      (hprogress : runtime.progress = .streaming) : Deed runtime (.send nowNs)

/-- The deeds keep a property of the runtime, for the answers to a close. -/
structure Kept (P : HostRuntime → Prop) (answers : CloseAnswers) : Prop where
  deed : ∀ runtime entry, Deed runtime entry → P runtime → P (runtime.note entry)
  inFlight : ∀ runtime permit?, P runtime → P { runtime with inFlightEncode := permit? }
  approve : ∀ runtime, runtime.progress = .pairingPending → P runtime →
    P (runtime.setProgress .awaitingLocalApproval)
  stream : ∀ runtime,
    runtime.progress = .pairingPending ∨ runtime.progress = .awaitingLocalApproval →
    P runtime → P (runtime.setProgress .streaming)
  finish : ∀ runtime, runtime.progress = .recovering → P runtime → P (runtime.setProgress .closed)
  close : ∀ runtime nowNs nextProgress, nextProgress = .recovering ∨ nextProgress = .closed →
    P runtime → P (runtime.closeInner nowNs nextProgress answers).2

namespace Kept

variable {P : HostRuntime → Prop} {answers : CloseAnswers} {runtime : HostRuntime}

section

variable (hkept : Kept P answers) (hrun : P runtime)

include hkept hrun

variable (nowNs : UInt64)

theorem recoverAfter (e : RuntimeError) :
    P (runtime.recoverAfter (α := α) nowNs e answers).2 := by
  rw [recoverAfter_snd]
  exact hkept.close runtime nowNs .recovering (.inl rfl) hrun

theorem awaitLocalApproval :
    P runtime.awaitLocalApproval.2 := by
  unfold HostRuntime.awaitLocalApproval
  split_ifs with hprog
  · exact hrun
  · exact hkept.approve runtime (not_not.1 hprog) hrun

theorem activate (start : Answer) :
    P (runtime.activate nowNs start answers).2 := by
  unfold HostRuntime.activate
  split_ifs with hprog
  · exact hrun
  split
  · exact hrun
  split
  · exact hrun
  rename_i hchk
  have hstd : P (runtime.note (.start nowNs)) :=
    hkept.deed runtime _ (.start hchk) hrun
  unfold startCapture
  dsimp only
  split
  · exact hkept.recoverAfter hstd nowNs _
  split
  · exact hkept.recoverAfter hstd nowNs _
  refine hkept.stream _ ?_ hstd
  by_contra hoth
  exact hprog (not_or.1 hoth)

theorem captureFrame (hprog : runtime.progress = .streaming) (permit : DispatchPermit)
    (frame : EpochBoundSurface) (nowNs : UInt64) (frameAnswers : HostRuntime.FrameAnswers) :
    P (runtime.captureFrame permit frame nowNs frameAnswers answers).2 := by
  unfold HostRuntime.captureFrame
  split_ifs
  · exact hkept.recoverAfter hrun nowNs _
  split
  · exact hkept.recoverAfter hrun nowNs _
  rename_i hchk
  have hprep : P (runtime.note (.prepare nowNs)) :=
    hkept.deed runtime _ (.prepare hchk hprog) hrun
  dsimp only
  split
  · exact hkept.recoverAfter hprep nowNs _
  unfold encodeFrame
  split
  · exact hkept.recoverAfter hprep nowNs _
  rename_i hchk'
  have hencoded : P ((runtime.note (.prepare nowNs)).note (.encode nowNs)) :=
    hkept.deed _ _ (.encode hchk' hprog) hprep
  split
  · exact hkept.recoverAfter hencoded nowNs _
  · exact hkept.inFlight _ _ hencoded

/-- The result of a close does not matter to the runtime that it leaves. -/
theorem closeInner {nextProg : RuntimeProgress}
    (hnext : nextProg = .recovering ∨ nextProg = .closed) (action : HostAction) :
    P (match runtime.closeInner nowNs nextProg answers with
      | (.error e, runtime) => ((.error e : Except RuntimeError HostAction), runtime)
      | (.ok (), runtime) => (.ok action, runtime)).2 := by
  have hclosed := hkept.close runtime nowNs nextProg hnext hrun
  split
  all_goals
    rename_i heq
    rwa [heq] at hclosed

theorem pollCapture (event : Except PlatformError (Option CaptureEvent))
    (frameAnswers : HostRuntime.FrameAnswers) :
    P (runtime.pollCapture nowNs event frameAnswers answers).2 := by
  unfold HostRuntime.pollCapture
  split_ifs with hprog hinFlight
  · exact hrun
  · exact hrun
  split
  · exact hkept.recoverAfter hrun nowNs _
  have hpolled : P (runtime.note .poll) := hkept.deed runtime _ .poll hrun
  split
  · exact hkept.recoverAfter hpolled nowNs _
  · exact hpolled
  · exact hkept.captureFrame hpolled (not_not.1 hprog) _ _ nowNs frameAnswers
  · exact hkept.closeInner hpolled nowNs (.inr rfl) .closed
  · exact hkept.closeInner hpolled nowNs (.inl rfl) .recovering

theorem pollEncodeCompletion (encodeAnswers : HostRuntime.EncodeAnswers) :
    P (runtime.pollEncodeCompletion nowNs encodeAnswers answers).2 := by
  unfold HostRuntime.pollEncodeCompletion
  split_ifs with hprog
  · exact hrun
  split
  · exact hrun
  split
  · exact hkept.recoverAfter hrun nowNs _
  have hpolled : P (runtime.note .pollEncodeCompletion) :=
    hkept.deed runtime _ .pollEncodeCompletion hrun
  dsimp only
  split
  · exact hkept.recoverAfter hpolled nowNs _
  · exact hpolled
  unfold releaseCompleted
  split
  · exact hkept.recoverAfter hpolled nowNs _
  have hrel := hkept.deed _ _ .releaseEncoded (hkept.inFlight _ none hpolled)
  dsimp only
  split
  · exact hkept.recoverAfter hrel nowNs _
  unfold sendCompleted
  split
  · exact hkept.recoverAfter hrel nowNs _
  rename_i hchk
  have hsent := hkept.deed _ _ (.send hchk (not_not.1 hprog)) hrel
  split
  · exact hkept.recoverAfter hsent nowNs _
  · exact hsent

theorem closeMethod :
    P (runtime.close nowNs answers).2 := by
  unfold HostRuntime.close
  split_ifs with hclosed hrecovering
  · exact hrun
  · exact hkept.finish runtime hrecovering hrun
  · exact hkept.closeInner hrun nowNs (.inr rfl) .closed

end

end Kept

/-! ## The machine -/

inductive HostCall where
  | awaitLocalApproval
  | activate (nowNs : UInt64) (start : Answer) (answers : CloseAnswers)
  | pollCapture (nowNs : UInt64) (event : Except PlatformError (Option CaptureEvent))
      (frameAnswers : HostRuntime.FrameAnswers) (answers : CloseAnswers)
  | pollEncodeCompletion (nowNs : UInt64) (encodeAnswers : HostRuntime.EncodeAnswers)
      (answers : CloseAnswers)
  | ingestInput (stamp : SessionStamp) (message : InputMessage) (nowNs : UInt64)
      (injects : List Answer) (answers : CloseAnswers)
  | close (nowNs : UInt64) (answers : CloseAnswers)

inductive HostEvent where
  | awaitLocalApproval (result : Except RuntimeError Unit)
  | activate (result : Except RuntimeError DispatchStamp)
  | pollCapture (result : Except RuntimeError HostAction)
  | pollEncodeCompletion (result : Except RuntimeError HostAction)
  | ingestInput (result : Except RuntimeError HostAction)
  | close (result : Except RuntimeError HostAction)
deriving DecidableEq

def hostMachine : Machine HostRuntime HostCall HostEvent where
  step runtime
    | .awaitLocalApproval => record .awaitLocalApproval runtime.awaitLocalApproval
    | .activate nowNs start answers => record .activate (runtime.activate nowNs start answers)
    | .pollCapture nowNs event frameAnswers answers =>
      record .pollCapture (runtime.pollCapture nowNs event frameAnswers answers)
    | .pollEncodeCompletion nowNs encodeAnswers answers =>
      record .pollEncodeCompletion (runtime.pollEncodeCompletion nowNs encodeAnswers answers)
    | .ingestInput stamp message nowNs injects answers =>
      record .ingestInput (runtime.ingestInput stamp message nowNs injects answers)
    | .close nowNs answers => record .close (runtime.close nowNs answers)

end LatencyDesk.Runtime
