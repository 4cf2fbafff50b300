import LatencyDesk.Input.Mirror

/-!
# Input of the host applications

The model of `apply_input`, `release_all` and `attempt_all_injections` of the Linux and the
Windows host in `apps/host/src/secure.rs`.

The reconciler changes its state before its actions are injected.  A release that the platform
refuses is not tried again, and `release_all` reports success over a key that is down
(`refused_release_stays_pressed`).  Where no release is refused, everything that is pressed on
the platform is pressed in the reconciler, and `release_all` tries it
(`host_leaves_nothing_pressed`).
-/

namespace LatencyDesk.Input

open Lib InputReconciler List

inductive HostInputError where
  | input (error : InputError)
  | epoch (actual expected : UInt32)
  | actionCount
  | injections (failedActions : Nat)
  | synchronization
deriving DecidableEq

/-- What was injected, and whether the platform took it. -/
abbrev Injections := List (AppliedInput × Bool)

/-- Every action is tried.  `inject` says which of the attempts succeed. -/
def attemptAllInjections (inject : Nat → Bool) (actions : List AppliedInput) :
    Option HostInputError × Injections :=
  let attempts := actions.mapIdx fun i action => (action, inject i)
  (match attempts.countP (!·.2) with
    | 0 => none
    | failedActions => some (.injections failedActions), attempts)

inductive InputAckStatus where
  | applied
  | ignoredStaleSequence
  | ignoredStaleEpoch
  | applyFailed
deriving DecidableEq

structure InputApplyReport where
  sequence : UInt64
  ackRequested : Bool
  status : InputAckStatus
  appliedActionCount : UInt16
  failure : Option HostInputError

/-- The result of a call, its injections and the reconciler after it. -/
abbrev HostAnswer (α : Type) := Except HostInputError α × Injections × InputReconciler

/-- `reconcile_input` of the Linux host. -/
def reconcileInput (payload : List UInt8) (expectedInputEpoch : UInt32) (r : InputReconciler)
    (inject : Nat → Bool) : HostAnswer InputApplyReport :=
  match decodeEnvelope payload with
  | .error e => (.error (.input e), [], r)
  | .ok { message, ackRequested } =>
    if message.sessionEpoch ≠ expectedInputEpoch then
      (.error (.epoch message.sessionEpoch expectedInputEpoch), [], r)
    else
      let report := InputApplyReport.mk message.sequence ackRequested
      match r.apply message with
      | (.error e, r) => (.error (.input e), [], r)
      | (.ok (.applied actions), r) =>
        if 2 ^ 16 ≤ actions.length then
          (.error .actionCount, [], r)
        else
          let attempt := attemptAllInjections inject actions
          (.ok (match attempt.1 with
            | none => report .applied (.ofNat actions.length) none
            | failure => report .applyFailed 0 failure), attempt.2, r)
      | (.ok .ignoredStaleSequence, r) => (.ok (report .ignoredStaleSequence 0 none), [], r)
      | (.ok .ignoredStaleEpoch, r) => (.ok (report .ignoredStaleEpoch 0 none), [], r)

/-- `apply_input` of the Linux host. -/
def applyInputLinux (payload : List UInt8) (expectedInputEpoch : UInt32) (r : InputReconciler)
    (inject : Nat → Bool) (synchronized : Bool) : HostAnswer InputApplyReport :=
  let answer := reconcileInput payload expectedInputEpoch r inject
  (answer.1.map fun report =>
    if report.ackRequested ∧ report.status = .applied ∧ synchronized = false then
      { report with
        status := .applyFailed, appliedActionCount := 0, failure := some .synchronization }
    else report, answer.2)

/-- `InputMessage::decode`. -/
def decode (bytes : List UInt8) : Except InputError InputMessage :=
  match decodeEnvelope bytes with
  | .error e => .error e
  | .ok { message, ackRequested } => if ackRequested then .error .reserved else .ok message

/-- `apply_input` of the Windows host. -/
def applyInputWindows (payload : List UInt8) (expectedInputEpoch : UInt32) (r : InputReconciler)
    (inject : Nat → Bool) : HostAnswer Unit :=
  match decode payload with
  | .error e => (.error (.input e), [], r)
  | .ok message =>
    if message.sessionEpoch ≠ expectedInputEpoch then
      (.error (.epoch message.sessionEpoch expectedInputEpoch), [], r)
    else
      match r.apply message with
      | (.error e, r) => (.error (.input e), [], r)
      | (.ok (.applied actions), r) =>
        let attempt := attemptAllInjections inject actions
        (match attempt.1 with
          | none => .ok ()
          | some e => .error e, attempt.2, r)
      | (.ok _, r) => (.ok (), [], r)

/-- `release_all` of both hosts: its error, if any, and its injections. -/
def releaseAll (r : InputReconciler) (inject : Nat → Bool) : Option HostInputError × Injections :=
  attemptAllInjections inject r.disconnectReleasePlan.1

inductive HostKind where
  | linux
  | windows

/-- A payload, with what the platform answers to its injections and, on Linux, to the
synchronization after them. -/
structure HostCall where
  payload : List UInt8
  inject : Nat → Bool
  synchronized : Bool

/-- One session of a host, over its calls of `apply_input`.  An event is what a call injected. -/
def hostMachine (host : HostKind) (expectedInputEpoch : UInt32) :
    Machine InputReconciler HostCall Injections where
  step r call := match host with
    | .linux =>
      (applyInputLinux call.payload expectedInputEpoch r call.inject call.synchronized).2
    | .windows => (applyInputWindows call.payload expectedInputEpoch r call.inject).2

def injected (h : List (Step InputReconciler Injections)) : Injections := h.flatMap (·.event)

/-- The switches of the injections that the platform took. -/
def taken (log : Injections) : List (Control × Bool) :=
  switches ((log.filter (·.2)).map (·.1))

/-- What the platform shows. -/
def shown (log : Injections) : Board Control := setAll released (taken log)

/-- The platform refuses no release. -/
def TakesReleases (log : Injections) : Prop :=
  ∀ attempt ∈ log, attempt.2 = false → ∀ switch ∈ attempt.1.switch, switch.2 = true

instance (log : Injections) : Decidable (TakesReleases log) :=
  inferInstanceAs (Decidable (∀ attempt ∈ log, _))

/-! ## What a call injects -/

theorem length_reconcileSnapshot_le {r : InputReconciler} {snapshot : InputState} :
    (r.reconcileSnapshot snapshot).1.length ≤ 528 := by
  have hkeys := length_filter_le
    (fun code => r.state.keyPressed code != snapshot.keyPressed code) keyCodes
  have hbuttons := length_filter_le
    (fun button => r.state.buttonPressed button != snapshot.buttonPressed button) buttonNumbers
  simp only [keyCodes, buttonNumbers, length_map, length_range] at hkeys hbuttons
  simp only [reconcileSnapshot, length_append, length_map, keyCodes, buttonNumbers]
  omega

variable {r : InputReconciler} {message : InputMessage} {actions : List AppliedInput}
  {inject : Nat → Bool} {host : HostKind} {epoch : UInt32}

theorem length_applyFresh_le {event : InputEvent} (h : (r.applyFresh event).1 = .ok actions) :
    actions.length ≤ 528 := by
  cases event with
  | snapshot snapshot =>
    obtain rfl := Except.ok.inj h
    exact length_reconcileSnapshot_le
  | releaseAll =>
    obtain rfl := Except.ok.inj h
    exact length_reconcileSnapshot_le
  | _ => grind [applyFresh]

theorem length_applySequenced_le (h : (r.applySequenced message).1 = .ok (.applied actions)) :
    actions.length ≤ 528 := by
  grind [applySequenced, length_applyFresh_le]

/-- The count of the actions fits the acknowledgement. -/
theorem length_apply_le (h : (r.apply message).1 = .ok (.applied actions)) :
    actions.length ≤ 1056 := by
  have hnewer : ∀ r : InputReconciler, (r.applyNewer message).1 = .ok (.applied actions) →
      actions.length ≤ 1056 := by
    intro r h
    have hreleases : r.releaseAll.1.length ≤ 528 := length_reconcileSnapshot_le
    grind [applyNewer, length_applyFresh_le]
  grind [apply, applyActive, length_applySequenced_le]

theorem map_attemptAllInjections :
    (attemptAllInjections inject actions).2.map (·.1) = actions :=
  ext_getElem (by simp [attemptAllInjections]) (by simp [attemptAllInjections])

theorem attemptAllInjections_eq_none (h : (attemptAllInjections inject actions).1 = none) :
    ∀ attempt ∈ (attemptAllInjections inject actions).2, attempt.2 = true := by
  unfold attemptAllInjections at h ⊢
  grind [countP_eq_zero]

/-- What a call injects, if all of it were taken, brings the platform from the reconciler before
the call to the one after it. -/
theorem step_drives {call : HostCall} :
    let answer := (hostMachine host epoch).step r call
    setAll r.state.pressed (switches (answer.1.map (·.1))) = answer.2.state.pressed := by
  have hdrives : ∀ message, message.event.InRange → ∃ outcome r',
      r.apply message = (.ok outcome, r') ∧
        setAll r.state.pressed (switches outcome.actions) = r'.state.pressed := by
    intro message hrange
    obtain ⟨outcome, hok, hdrives⟩ := apply_drives hrange
    exact ⟨outcome, _, Prod.ext hok rfl, hdrives.reaches⟩
  cases hdec : decodeEnvelope call.payload with
  | error e => cases host <;> simp [hostMachine, applyInputLinux, reconcileInput,
      applyInputWindows, decode, hdec, switches]
  | ok envelope =>
    obtain ⟨outcome, _, happly, hreaches⟩ := hdrives _ (inRange_of_decodeEnvelope hdec)
    cases host with
    | linux =>
      simp only [hostMachine, applyInputLinux, reconcileInput, hdec, happly]
      split_ifs
      · rfl
      cases outcome with
      | applied actions =>
        have hlen := length_apply_le (congrArg Prod.fst happly)
        dsimp only
        rw [if_neg (by omega), map_attemptAllInjections]
        exact hreaches
      | _ => exact hreaches
    | windows =>
      simp only [hostMachine, applyInputWindows, decode, hdec]
      split_ifs
      · rfl
      dsimp only
      split_ifs
      · rfl
      rw [happly]
      cases outcome with
      | applied actions =>
        rw [map_attemptAllInjections]
        exact hreaches
      | _ => exact hreaches

/-! ## The platform and the reconciler -/

variable {control : Control}

/-- Presses that fail leave the platform below the reconciler. -/
theorem taken_le {log : Injections} {board state : Board Control}
    (hbelow : ∀ control, board control = true → state control = true) (htakes : TakesReleases log)
    (hon : setAll board (taken log) control = true) :
    setAll state (switches (log.map (·.1))) control = true := by
  induction log generalizing board state with
  | nil => exact hbelow control hon
  | cons attempt log ih =>
    obtain ⟨action, success⟩ := attempt
    obtain ⟨hfirst, hrest⟩ := forall_mem_cons.1 htakes
    cases hswitch : action.switch with
    | none =>
      simp only [map_cons, switches, filterMap_cons_none hswitch]
      refine ih hbelow hrest ?_
      cases success <;> simpa [taken, switches, hswitch] using hon
    | some switch =>
      simp only [map_cons, switches, filterMap_cons_some hswitch]
      -- Only a press can fail, and it puts the state above whatever the platform shows.
      cases success with
      | true =>
        have hbelow' : ∀ c, setOne board switch c = true → setOne state switch c = true := by
          grind [setOne_apply]
        exact ih hbelow' hrest (by simpa [taken, switches, hswitch] using hon)
      | false =>
        have hbelow' : ∀ c, board c = true → setOne state switch c = true := by
          grind [setOne_apply]
        exact ih hbelow' hrest (by simpa [taken] using hon)

theorem shown_append (log log' : Injections) :
    shown (log ++ log') = setAll (shown log) (taken log') := by
  simp [shown, taken, switches_append, setAll_append]

/-- Everything that is pressed on the platform is pressed in the reconciler. -/
theorem pressed_of_shown {calls : List HostCall}
    (htakes : TakesReleases (injected ((hostMachine host epoch).trace .default calls)))
    (hon : shown (injected ((hostMachine host epoch).trace .default calls)) control = true) :
    ((hostMachine host epoch).run .default calls).state.pressed control = true := by
  induction calls using reverseRecOn generalizing control with
  | nil => simp [injected, shown, taken, switches, released] at hon
  | append_singleton calls call ih =>
    simp only [Machine.trace_snoc, Machine.run_snoc, injected, flatMap_append,
      flatMap_singleton] at htakes hon ⊢
    obtain ⟨hbef, hlast⟩ := forall_mem_append.1 htakes
    rw [shown_append] at hon
    have hle := taken_le (fun control => ih hbef) hlast hon
    exact (congrFun step_drives control).symm.trans hle

/-- In every session in which the platform refuses no release, `release_all` tries to release
what is still pressed, and when it succeeds every press was followed by a release. -/
theorem host_leaves_nothing_pressed (host : HostKind) (epoch : UInt32) (calls : List HostCall)
    (inject : Nat → Bool)
    (htakes : TakesReleases (injected ((hostMachine host epoch).trace .default calls))) :
    let log := injected ((hostMachine host epoch).trace .default calls)
    let final := releaseAll ((hostMachine host epoch).run .default calls) inject
    (∀ control, shown log control = true →
        ∃ attempt ∈ final.2, attempt.1.switch = some (control, false)) ∧
      (final.1 = none → ∀ before action after control,
        log ++ final.2 = before ++ (action, true) :: after →
        action.switch = some (control, true) →
        ∃ later ∈ after, later.2 = true ∧ later.1.switch = some (control, false)) := by
  intro log final
  have hbelow : ∀ control, shown log control = true → _ := fun control => pressed_of_shown htakes
  have hreleases : setAll ((hostMachine host epoch).run .default calls).state.pressed
      (switches (final.2.map (·.1))) = released := by
    rw [show final.2.map (·.1) = _ from map_attemptAllInjections]
    exact (releaseAll_drives _).reaches
  refine ⟨fun control hon => ?_, fun hok before action after control hsplit hpress => ?_⟩
  · have hmem := mem_of_setAll (congrFun hreleases control) (hbelow control hon)
    simpa [switches] using hmem
  have htaken : TakesReleases final.2 := by
    intro attempt hattempt hfailed
    simp [attemptAllInjections_eq_none hok attempt hattempt] at hfailed
  have hoff : shown (log ++ final.2) control = false := by
    rw [shown_append, ← Bool.not_eq_true]
    intro hon
    have hle := taken_le hbelow htaken hon
    rw [hreleases] at hle
    cases hle
  rw [hsplit, shown_append] at hoff
  have hoff' : setAll (setOne (shown before) (control, true)) (taken after) control = false := by
    simpa [taken, switches, hpress] using hoff
  have hmem := mem_of_setAll hoff' (by simp [setOne_apply])
  simpa [taken, switches] using hmem

/-- A key of epoch 1 on the wire. -/
def sampleKeyBytes (sequence code pressed : UInt8) : List UInt8 :=
  [76, 68, 73, 78, 1, 1, 0, 3, 0, 0, 0, 1, 0, 0, 0, 0, 0, 0, 0, sequence, 0, 0, 0, 0, 0, code,
    pressed]

/-- Two keys go down, and the platform refuses the second one. -/
def samplePresses : List HostCall :=
  [⟨sampleKeyBytes 5 30 1, fun _ => true, true⟩, ⟨sampleKeyBytes 6 31 1, fun _ => false, true⟩]

theorem sample_host_leaves_nothing_pressed :
    let final := releaseAll ((hostMachine .linux 1).run .default samplePresses) fun _ => true
    final.1 = none ∧ ∃ attempt ∈ final.2, attempt.1.switch = some (.key 30, false) :=
  ⟨by decide +kernel, (host_leaves_nothing_pressed .linux 1 samplePresses (fun _ => true)
    (by decide +kernel)).1 (.key 30) (by decide +kernel)⟩

/-- A key goes down, and the platform refuses to release it. -/
def sampleRefusal : List HostCall :=
  [⟨sampleKeyBytes 5 30 1, fun _ => true, true⟩, ⟨sampleKeyBytes 6 30 0, fun _ => false, true⟩]

/-- `release_all` succeeds without a single injection, and the key stays down. -/
theorem refused_release_stays_pressed :
    let log := injected ((hostMachine .linux 1).trace .default sampleRefusal)
    log = [(.key 30 true, true), (.key 30 false, false)] ∧ shown log (.key 30) = true ∧
      releaseAll ((hostMachine .linux 1).run .default sampleRefusal) (fun _ => true) =
        (none, []) := by
  decide +kernel

end LatencyDesk.Input
