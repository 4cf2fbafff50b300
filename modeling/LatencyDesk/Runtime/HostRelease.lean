import LatencyDesk.Input.Mirror
import LatencyDesk.Lib.Since
import LatencyDesk.Runtime.Host

/-!
# What stays pressed behind a close

A control is held when an injection of its press has succeeded and none of its release
since.  The ledger of the authority follows the messages, not the injections: it has
forgotten a control when the batch that releases it is handed to the loop of
`ingest_input`.  So an injection that fails at or before that release leaves the
control pressed and out of every later release plan: `failed_release_stays_pressed`.
A release plan that fails is not tried again either.

`Sparing` is the condition under which neither happens.  Then the held controls are
among those that the ledger has pressed, and the plan of the close has them all.
-/

namespace LatencyDesk.Runtime

open Input Lib Platform Session List HostRuntime HostNote
open Protocol (SessionStamp)

/-! ## Held controls -/

/-- The entry is a successful injection that sets the control this way. -/
def HostNote.sets (control : Control) (pressed : Bool) : HostNote → Prop
  | .inject _ _ action (.ok ()) => action.switch = some (control, pressed)
  | _ => False

/-- A press of the control has succeeded, and no release since. -/
def Held (log : List HostNote) (control : Control) : Prop :=
  Since (fun entry => ¬ entry.sets control false) (fun _ entry => entry.sets control true) log

/-- The action that releases a control. -/
def releaseOf : Control → AppliedInput
  | .key code => .key code false
  | .button button => .pointerButton button false

/-- A release of the control was in a plan that was carried out. -/
def ReleaseDone (log : List HostNote) (control : Control) : Prop :=
  ∃ actions, HostNote.releaseAll actions (.ok ()) ∈ log ∧ releaseOf control ∈ actions

def HostNote.isInject : HostNote → Bool
  | .inject _ _ _ _ => true
  | _ => false

variable {log : List HostNote} {entry : HostNote} {control : Control}

theorem held_snoc :
    Held (log ++ [entry]) control ↔
      entry.sets control true ∨ ¬ entry.sets control false ∧ Held log control :=
  since_snoc

theorem not_sets_of_not_isInject (hent : entry.isInject = false) (pressed : Bool) :
    ¬ entry.sets control pressed := by
  cases entry with
  | inject nowNs stamp action answer => cases hent
  | _ => exact id

variable {entries : List HostNote} {action : AppliedInput}

/-- Entries that inject nothing. -/
theorem held_append (hentries : entries.any isInject = false) :
    Held (log ++ entries) control ↔ Held log control := by
  induction entries generalizing log with
  | nil => rw [append_nil]
  | cons entry entries ih =>
    rw [any_cons, Bool.or_eq_false_iff] at hentries
    rw [← singleton_append, ← append_assoc, ih hentries.2, held_snoc]
    have hsets : ∀ pressed, ¬ entry.sets control pressed := not_sets_of_not_isInject hentries.1
    constructor
    · rintro (hpress | ⟨-, hheld⟩)
      · exact absurd hpress (hsets true)
      · exact hheld
    · exact fun hheld => .inr ⟨hsets false, hheld⟩

theorem ReleaseDone.append (hdone : ReleaseDone log control) :
    ReleaseDone (log ++ entries) control := by
  obtain ⟨actions, hmem, hrel⟩ := hdone
  exact ⟨actions, mem_append_left _ hmem, hrel⟩

theorem eq_releaseOf (h : action.switch = some (control, false)) :
    action = releaseOf control := by
  cases action <;> simp only [AppliedInput.switch, reduceCtorEq] at h
  all_goals
    obtain ⟨rfl, rfl⟩ := h
    rfl

variable {ledger : InputLedger}

/-- The plan of a ledger has every control that is pressed in it. -/
theorem mem_releasePlan (hpressed : ledger.reconciler.state.pressed control = true) :
    releaseOf control ∈ ledger.releasePlan.1 := by
  have hvisited : control ∈ controls := by
    by_contra hout
    rw [pressed_of_not_mem hout] at hpressed
    cases hpressed
  have hflips : (control, false) ∈ switches ledger.releasePlan.1 := by
    have heq : switches ledger.releasePlan.1 =
        flips ledger.reconciler.state.pressed InputState.default.pressed controls :=
      switches_reconcileSnapshot ledger.reconciler .default
    rw [heq, pressed_default, flips, mem_map]
    refine ⟨control, mem_filter.2 ⟨hvisited, ?_⟩, rfl⟩
    rw [hpressed]
    rfl
  obtain ⟨_, hmem, hswitch⟩ := mem_filterMap.1 hflips
  rwa [← eq_releaseOf hswitch]

/-! ## The condition -/

def AppliedInput.isRelease (action : AppliedInput) : Bool :=
  action.switch.any fun switch => !switch.2

/-- No injection of the batch fails at or before a release of the batch. -/
def Spared : List AppliedInput → List Answer → Prop
  | [], _ => True
  | action :: actions, injects =>
    match injects.headD (.ok ()) with
    | .ok () => Spared actions injects.tail
    | .error _ => ∀ action' ∈ action :: actions, AppliedInput.isRelease action' = false

/-- The batch that the ledger makes of a message. -/
def batch (runtime : HostRuntime) (message : InputMessage) : List AppliedInput :=
  match runtime.session.inputLedger with
  | none => []
  | some ledger =>
    match (ledger.apply message).1 with
    | .ok outcome => outcome.actions
    | .error _ => []

/-- The input backend carries out every release plan, no injection fails at or before a release
of its batch, and a message names a key or a button that exists, as a decoded one does. -/
def Sparing (runtime : HostRuntime) : HostCall → Prop
  | .awaitLocalApproval => True
  | .activate _ _ answers | .pollCapture _ _ _ answers | .pollEncodeCompletion _ _ answers
  | .close _ answers => answers.releaseAll = .ok ()
  | .ingestInput _ message _ injects answers =>
    answers.releaseAll = .ok () ∧ message.event.InRange ∧ Spared (batch runtime message) injects

/-! ## The invariant -/

structure Covers (runtime : HostRuntime) : Prop where
  ledger : ∀ ledger, runtime.session.inputLedger = some ledger → ∀ control,
    Held runtime.log control → ledger.reconciler.state.pressed control = true
  plan : runtime.session.inputLedger = none → ∀ control, Held runtime.log control →
    ReleaseDone runtime.log control
  shut : runtime.progress = .recovering ∨ runtime.progress = .closing ∨
    runtime.progress = .closed → runtime.session.inputLedger = none

variable {runtime : HostRuntime}

theorem covers_new {authority : SessionAuthority} : Covers (.new authority) where
  ledger _ _ _ hheld := absurd hheld not_since_nil
  plan _ _ hheld := absurd hheld not_since_nil
  shut hprog := by rcases hprog with h | h | h <;> cases h

section

variable (hcov : Covers runtime)

include hcov

theorem Covers.note (entry : HostNote)
    (hent : entry.isInject = false) : Covers (runtime.note entry) := by
  have hheld : ∀ control, Held (runtime.log ++ [entry]) control ↔ Held runtime.log control :=
    fun control => held_append (by simpa using hent)
  exact
    { ledger := fun ledger hled control h =>
        hcov.ledger ledger hled control ((hheld control).1 h)
      plan := fun hnone control h => (hcov.plan hnone control ((hheld control).1 h)).append
      shut := hcov.shut }

theorem Covers.inFlight (permit? : Option DispatchPermit) :
    Covers { runtime with inFlightEncode := permit? } :=
  { hcov with }

theorem Covers.setProgress {prog : RuntimeProgress}
    (hshut : prog = .recovering ∨ prog = .closing ∨ prog = .closed →
      runtime.session.inputLedger = none) : Covers (runtime.setProgress prog) :=
  { hcov.note (.progress prog) rfl with shut := hshut }

end

variable {answers : CloseAnswers} {nowNs : UInt64}

/-- A close whose plan is carried out. -/
theorem Covers.closeInner (hcov : Covers runtime) (nowNs : UInt64)
    (nextProg : RuntimeProgress) (hanswer : answers.releaseAll = .ok ()) :
    Covers (runtime.closeInner nowNs nextProg answers).2 ∧
      (runtime.closeInner nowNs nextProg answers).2.session.inputLedger = none := by
  rcases runtime.closeInner_cases nowNs nextProg answers with
    ⟨hnone, heq⟩ | ⟨ledger, drained, hled, hdrained, hsess, hprog, hlog⟩
  · rw [heq]
    exact ⟨hcov.setProgress fun _ => hnone, hnone⟩
  have hnone : (runtime.closeInner nowNs nextProg answers).2.session.inputLedger = none := by
    rw [hsess]
  have hquiet : (closeNotes ledger.releasePlan.1 answers drained nextProg).any
      isInject = false := by
    rcases hdrained with rfl | rfl <;> rfl
  refine ⟨⟨?_, ?_, fun _ => hnone⟩, hnone⟩
  · intro other hoth
    rw [hnone] at hoth
    cases hoth
  · intro _ control hheld
    rw [hlog] at hheld ⊢
    have hpressed := hcov.ledger ledger hled control ((held_append hquiet).1 hheld)
    refine ⟨ledger.releasePlan.1, ?_, mem_releasePlan hpressed⟩
    simp [closeNotes, hanswer]

theorem kept_covers (hanswer : answers.releaseAll = .ok ()) :
    Kept Covers answers where
  deed _ entry hdeed hcov := hcov.note entry (by cases hdeed <;> rfl)
  inFlight _ permit? hcov := hcov.inFlight permit?
  approve _ _ hcov := hcov.setProgress (by rintro (h | h | h) <;> cases h)
  stream _ _ hcov := hcov.setProgress (by rintro (h | h | h) <;> cases h)
  finish _ hrecovering hcov := hcov.setProgress fun _ => hcov.shut (.inl hrecovering)
  close _ nowNs nextProg _ hcov := (hcov.closeInner nowNs nextProg hanswer).1

/-! ## A batch -/

variable {board : Board Control} {stamp : SessionStamp}

/-- A board that follows the successful injections. -/
theorem held_inject (hboard : ∀ control, Held log control → board control = true) :
    ∀ control, Held (log ++ [.inject nowNs stamp action (.ok ())]) control →
      setAll board (switches [action]) control = true := by
  intro control hheld
  rcases held_snoc.1 hheld with hpress | ⟨hkept, hheld⟩
  · have hswitch : action.switch = some (control, true) := hpress
    simp [switches, hswitch, setOne]
  cases hswitch : action.switch with
  | none => simpa [switches, hswitch] using hboard control hheld
  | some switch =>
    obtain ⟨other, pressed⟩ := switch
    by_cases hoth : control = other
    · subst hoth
      cases pressed with
      | true => simp [switches, hswitch, setOne]
      | false => exact absurd hswitch hkept
    · simpa [switches, hswitch, setOne, Function.update_of_ne hoth] using hboard control hheld

variable {actions : List AppliedInput}

theorem switches_on (hactions : ∀ action ∈ actions, AppliedInput.isRelease action = false) :
    ∀ switch ∈ switches actions, switch.2 = true := by
  intro switch hmem
  obtain ⟨action, haction, hswitch⟩ := mem_filterMap.1 hmem
  have hpress := hactions action haction
  simpa [AppliedInput.isRelease, hswitch] using hpress

variable {injects : List Answer}

/-- The loop of `ingest_input`.  The board follows the injections that have succeeded, and the
rest of the batch takes it to the state of the ledger. -/
theorem covers_injectAll {permit : DispatchPermit}
    (hanswer : answers.releaseAll = .ok ()) {dispatch : DispatchStamp}
    (hspared : Spared actions injects)
    (hchk : runtime.session.recheck permit nowNs = .ok dispatch)
    (hled : runtime.session.inputLedger = some ledger)
    (hprog : runtime.progress = .streaming)
    (hboard : ∀ control, Held runtime.log control → board control = true)
    (hreaches : setAll board (switches actions) = ledger.reconciler.state.pressed) :
    Covers (runtime.injectAll permit stamp nowNs answers actions injects).2 := by
  induction actions generalizing runtime injects board with
  | nil =>
    have hsame : board = ledger.reconciler.state.pressed := hreaches
    refine ⟨?_, ?_, ?_⟩
    · intro other hoth control hheld
      rw [injectAll, hled, Option.some.injEq] at hoth
      subst hoth
      rw [← hsame]
      exact hboard control hheld
    · intro hnone
      rw [injectAll, hled] at hnone
      cases hnone
    · intro hshut
      rw [injectAll, hprog] at hshut
      rcases hshut with h | h | h <;> cases h
  | cons action actions ih =>
    rw [injectAll, hchk]
    unfold Spared at hspared
    cases hinject : injects.headD (.ok ()) with
    | error e =>
      rw [hinject] at hspared
      -- What is left of the batch presses only, so the ledger has what the board has.
      have hcov : Covers (runtime.note (.inject nowNs stamp action (.error e))) := by
        have hheld : ∀ control,
            Held (runtime.log ++ [.inject nowNs stamp action (.error e)]) control →
              Held runtime.log control := by
          intro control hheld
          rcases held_snoc.1 hheld with hpress | ⟨-, hheld⟩
          · exact hpress.elim
          · exact hheld
        refine ⟨?_, ?_, ?_⟩
        · intro other hoth control hctl
          rw [note_session, hled, Option.some.injEq] at hoth
          subst hoth
          rw [← hreaches]
          exact setAll_on (switches_on hspared) (hboard control (hheld control hctl))
        · intro hnone
          rw [note_session, hled] at hnone
          cases hnone
        · intro hshut
          rw [note_progress, hprog] at hshut
          rcases hshut with h | h | h <;> cases h
      exact (kept_covers hanswer).recoverAfter hcov nowNs _
    | ok =>
      rw [hinject] at hspared
      refine ih hspared hchk hled hprog (held_inject hboard) ?_
      rw [← setAll_append, ← switches_append]
      exact hreaches

variable {authority : SessionAuthority} {message : InputMessage} {permit : DispatchPermit}
  {stamp : DispatchStamp} {nowNs : UInt64} (hrange : message.event.InRange)

/-- The authority still lets the permit through when it has applied a message. -/
theorem recheck_applyInput (hchk : authority.recheck permit nowNs = .ok stamp)
    (message : InputMessage) :
    (authority.applyInput message nowNs).2.recheck permit nowNs = .ok stamp := by
  rcases authority.applyInput_cases message nowNs with heq | ⟨_, hled, heq⟩
  · rw [heq]
    exact hchk
  · rw [heq]
    simpa [SessionAuthority.recheck, SessionAuthority.ensureDispatchable, hled] using hchk

include hrange in
/-- A message changes the state of the ledger by its batch. -/
theorem applyInput_drives {outcome : ReconcileOutcome}
    (hres : (authority.applyInput message nowNs).1 = .ok outcome) :
    ∃ before after, authority.inputLedger = some before ∧ (before.apply message).1 = .ok outcome ∧
      (authority.applyInput message nowNs).2.inputLedger = some after ∧
      Drives outcome.actions before.reconciler.state.pressed after.reconciler.state.pressed := by
  obtain ⟨-, ledger, hled, happly, hafter⟩ := SessionAuthority.applyInput_eq_ok hres
  obtain ⟨outcome', houtcome', hdrives⟩ := apply_drives hrange
  have hsame : outcome' = outcome := by
    have heq : (ledger.apply message).1 = .ok outcome' := houtcome'
    rw [happly] at heq
    exact (Except.ok.inj heq).symm
  subst hsame
  exact ⟨ledger, (ledger.apply message).2, hled, happly, by rw [hafter], hdrives⟩

include hrange in
/-- A message whose reconciliation fails is out of range, or the authority has refused it. -/
theorem applyInput_refused {e : SessionInputError}
    (hres : (authority.applyInput message nowNs).1 = .error e) :
    (authority.applyInput message nowNs).2 = authority := by
  rcases authority.applyInput_cases message nowNs with heq | ⟨ledger, hled, heq⟩
  · exact heq
  unfold SessionAuthority.applyInput at hres ⊢
  obtain ⟨outcome, houtcome, -⟩ := apply_drives hrange
  have hok : ledger.apply message = (.ok outcome, (ledger.apply message).2) :=
    Prod.ext houtcome rfl
  cases hensure : authority.ensureDispatchable nowNs with
  | error e => rfl
  | ok =>
    by_cases hinput : authority.accepted.capabilities.contains .input = false
    · rw [if_pos hinput]
    rw [hensure, if_neg hinput, hled] at hres
    dsimp only at hres
    rw [hok] at hres
    cases hres

/-- The state of the ledger changes, and the log does not. -/
theorem Covers.session (hcov : Covers runtime) {session : SessionAuthority}
    {before after : InputLedger} (hbef : runtime.session.inputLedger = some before)
    (hafter : session.inputLedger = some after)
    (hsame : after.reconciler.state.pressed = before.reconciler.state.pressed) :
    Covers { runtime with session := session } where
  ledger ledger hled control hheld := by
    rw [hafter, Option.some.injEq] at hled
    rw [← hled, hsame]
    exact hcov.ledger before hbef control hheld
  plan hnone := by
    rw [hafter] at hnone
    cases hnone
  shut hshut := by
    have hnone := hcov.shut hshut
    rw [hbef] at hnone
    cases hnone

include hrange in
theorem covers_ingestInput (hcov : Covers runtime) (hanswer : answers.releaseAll = .ok ())
    (stamp : SessionStamp) (nowNs : UInt64) (hspared : Spared (batch runtime message) injects) :
    Covers (runtime.ingestInput stamp message nowNs injects answers).2 := by
  unfold ingestInput
  split_ifs with hprog
  · exact hcov
  split
  · exact (kept_covers hanswer).recoverAfter hcov nowNs _
  rename_i permit hpermit
  split_ifs
  · exact hcov
  rcases happly : runtime.session.applyInput message nowNs with ⟨_ | outcome, session⟩
  · have hsame : session = runtime.session := by
      simpa [happly] using applyInput_refused hrange (congrArg Prod.fst happly)
    subst hsame
    exact hcov
  · obtain ⟨before, _, hbef, houtcome, hafter, hdrives⟩ :=
      applyInput_drives hrange (congrArg Prod.fst happly)
    obtain ⟨⟨_, hchk⟩, -⟩ := activePermit_eq_ok hpermit
    have hchk' := recheck_applyInput hchk message
    have hbatch : batch runtime message = outcome.actions := by
      simp only [batch, hbef, houtcome]
    rw [happly] at hafter hchk'
    rw [hbatch] at hspared
    cases outcome with
    | applied actions =>
      have hinjected : Covers ({ runtime with session := session }.injectAll permit stamp
          nowNs answers actions injects).2 :=
        covers_injectAll hanswer hspared hchk' hafter (not_not.1 hprog)
          (hcov.ledger before hbef) hdrives.reaches
      dsimp only
      split
      all_goals
        rename_i heq
        rwa [heq] at hinjected
    | _ => exact hcov.session hbef hafter hdrives.reaches.symm

theorem covers_step (hcov : Covers runtime) {call : HostCall} (hsparing : Sparing runtime call) :
    Covers (hostMachine.step runtime call).2 := by
  cases call with
  | awaitLocalApproval =>
    have hkept : Kept Covers .allOk := kept_covers rfl
    exact hkept.awaitLocalApproval hcov
  | activate nowNs start answers => exact (kept_covers hsparing).activate hcov nowNs start
  | pollCapture nowNs event frameAnswers answers =>
    exact (kept_covers hsparing).pollCapture hcov nowNs event frameAnswers
  | pollEncodeCompletion nowNs encodeAnswers answers =>
    exact (kept_covers hsparing).pollEncodeCompletion hcov nowNs encodeAnswers
  | ingestInput stamp message nowNs injects answers =>
    obtain ⟨hanswer, hrange, hspared⟩ := hsparing
    exact covers_ingestInput hrange hcov hanswer stamp nowNs hspared
  | close nowNs answers => exact (kept_covers hsparing).closeMethod hcov nowNs

/-- A close leaves no authority behind. -/
theorem inputLedger_close (hcov : Covers runtime)
    (hanswer : answers.releaseAll = .ok ()) :
    (runtime.close nowNs answers).2.session.inputLedger = none := by
  unfold close
  split_ifs with hclosed hrecovering
  · exact hcov.shut (.inr (.inr hclosed))
  · exact hcov.shut (.inl hrecovering)
  have hnone := (hcov.closeInner nowNs .closed hanswer).2
  split
  all_goals
    rename_i heq
    rwa [heq] at hnone

/-- In every run that spares the releases, whatever else fails in it, a control that is held when
a close has succeeded was in a release plan that was carried out. -/
theorem close_leaves_nothing_pressed (authority : SessionAuthority) {calls : List HostCall}
    (hcalls : hostMachine.Along Sparing (.new authority) calls) :
    ∀ st ∈ hostMachine.trace (.new authority) calls, ∀ action, st.event = .close (.ok action) →
      ∀ control, Held st.post.log control → ReleaseDone st.post.log control := by
  have hstep : ∀ runtime call, Sparing runtime call → Covers runtime →
      Covers (hostMachine.step runtime call).2 :=
    fun _ _ hsparing hcov => covers_step hcov hsparing
  refine hostMachine.forall_trace_of_along hstep ?_ covers_new hcalls
  intro runtime call hsparing hcov action hev control hheld
  cases call with
  | close nowNs answers =>
    exact (hstep runtime _ hsparing hcov).plan (inputLedger_close hcov hsparing) control hheld
  | _ => cases hev

/-- The transport stamp of the sample authority. -/
def sampleStamp : SessionStamp := ⟨7, 1, 1, 1, 1, 1⟩

/-- The key of `samplePress` goes up again. -/
def sampleRelease : InputMessage := { sessionEpoch := 1, sequence := 6, event := .key 30 false }

/-- The key is pressed, the display is lost, and the recovery has to let go of the key. -/
def sampleCalls : List HostCall :=
  [.activate 1 (.ok ()) .allOk, .ingestInput sampleStamp samplePress 2 [.ok ()] .allOk,
    .pollCapture 3 (.ok (some .accessLost)) ⟨.ok (), .ok ()⟩ .allOk, .close 4 .allOk]

theorem sample_sparing : hostMachine.Along Sparing (.new sampleAuthority) sampleCalls := by
  refine ⟨rfl, ⟨rfl, ?_, ?_⟩, rfl, rfl, trivial⟩
  · exact (by decide : (30 : UInt16) ≤ maxKeyCode)
  · trivial

theorem sample_close_leaves_nothing_pressed :
    ∃ st ∈ hostMachine.trace (.new sampleAuthority) sampleCalls,
      st.event = .close (.ok .closed) ∧ Held st.post.log (.key 30) ∧
        ReleaseDone st.post.log (.key 30) := by
  obtain ⟨st, hmem, hev, hlog⟩ : ∃ st ∈ hostMachine.trace (.new sampleAuthority) sampleCalls,
      st.event = .close (.ok .closed) ∧
      st.post.log = [.start 1, .progress .streaming] ++
        .inject 2 sampleStamp (.key 30 true) (.ok ()) ::
        [.poll, .progress .closing, .authorityClosed, .releaseAll [.key 30 false] (.ok ()),
          .quiesceEncoding, .stop, .progress .recovering, .progress .closed] := by
    decide +kernel
  have hheld : Held st.post.log (.key 30) := by
    rw [hlog]
    exact ⟨_, _, _, rfl, rfl, by simp [sets]⟩
  exact ⟨st, hmem, hev, hheld,
    close_leaves_nothing_pressed sampleAuthority sample_sparing st hmem _ hev _ hheld⟩

/-- The injection of the release fails.  The ledger has let go of the key by then, so the plan of
the recovery is empty, and the close that follows succeeds with the key still down. -/
theorem failed_release_stays_pressed :
    let calls : List HostCall :=
      [.activate 1 (.ok ()) .allOk, .ingestInput sampleStamp samplePress 2 [.ok ()] .allOk,
        .ingestInput sampleStamp sampleRelease 3 [.error .deviceLost] .allOk, .close 4 .allOk]
    ∃ st ∈ hostMachine.trace (.new sampleAuthority) calls, st.event = .close (.ok .closed) ∧
      Held st.post.log (.key 30) ∧ ¬ ReleaseDone st.post.log (.key 30) := by
  intro calls
  obtain ⟨st, hmem, hev, hlog⟩ : ∃ st ∈ hostMachine.trace (.new sampleAuthority) calls,
      st.event = .close (.ok .closed) ∧
      st.post.log = [.start 1, .progress .streaming] ++
        .inject 2 sampleStamp (.key 30 true) (.ok ()) ::
        [.inject 3 sampleStamp (.key 30 false) (.error .deviceLost), .progress .closing,
          .authorityClosed, .releaseAll [] (.ok ()), .quiesceEncoding, .stop,
          .progress .recovering, .progress .closed] := by
    decide +kernel
  refine ⟨st, hmem, hev, ?_, ?_⟩
  · rw [hlog]
    exact ⟨_, _, _, rfl, rfl, by simp [sets]⟩
  · rw [hlog]
    rintro ⟨actions, hmem, hrel⟩
    have hempty : actions = [] := by simpa using hmem
    rw [hempty] at hrel
    cases hrel

end LatencyDesk.Runtime
