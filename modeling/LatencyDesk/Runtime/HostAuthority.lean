import LatencyDesk.Lib.Since
import LatencyDesk.Runtime.Host

/-!
# Native work needs a live authority

Whatever the backends answer, the host runtime starts its capture, encodes, sends and
injects only while its authority is open and before the session deadline.  `Authorized`
says so for each entry of the log, with the rest of what the runtime promises: work on
media and input is done while the progress is `Streaming`, which is entered once, and a
close of the authority comes with one release of the held input, before the encoder is
quiesced and the capture is stopped.
-/

namespace LatencyDesk.Runtime

open Input Lib Platform Session HostNote HostRuntime List SessionAuthority
open Protocol (SessionStamp)

def HostNote.isProgress : HostNote → Bool
  | .progress _ => true
  | _ => false

def HostNote.isReleaseAll : HostNote → Bool
  | .releaseAll _ _ => true
  | _ => false

/-- The progress is `Streaming`. -/
def Streams (log : List HostNote) : Prop :=
  Since (·.isProgress = false) (fun _ entry => entry = .progress .streaming) log

/-- The authority is open, and its deadline is ahead. -/
structure Dispatches (authority : SessionAuthority) (log : List HostNote) (nowNs : UInt64) :
    Prop where
  granted : authority.inputLedger ≠ none
  unclosed : HostNote.authorityClosed ∉ log
  early : nowNs < authority.sessionDeadlineNs

/-- The held input has been released. -/
def ReleasedAll (log : List HostNote) : Prop := ∃ entry ∈ log, entry.isReleaseAll = true

/-- What an entry of the log says about the entries before it, for a runtime that was given the
authority. -/
def Authorized (authority : SessionAuthority) (log : List HostNote) : HostNote → Prop
  | .start nowNs => Dispatches authority log nowNs
  | .prepare nowNs | .encode nowNs | .send nowNs => Dispatches authority log nowNs ∧ Streams log
  | .inject nowNs stamp _ _ =>
    Dispatches authority log nowNs ∧ Streams log ∧
      matchesTransportStamp authority.stamp stamp = true ∧
      authority.accepted.capabilities.contains .input = true
  | .progress .streaming => HostNote.progress .streaming ∉ log
  | .authorityClosed => HostNote.authorityClosed ∉ log
  | .releaseAll _ _ => log.getLast? = some .authorityClosed
  | .quiesceEncoding | .stop => ReleasedAll log
  | _ => True

/-- The invariant of the runtime. -/
structure Authorizes (authority : SessionAuthority) (runtime : HostRuntime) : Prop where
  throughout : Throughout (Authorized authority) runtime.log
  accepted : runtime.session.accepted = authority.accepted
  stamp : runtime.session.stamp = authority.stamp
  deadline : runtime.session.sessionDeadlineNs = authority.sessionDeadlineNs
  granted : runtime.session.inputLedger ≠ none →
    authority.inputLedger ≠ none ∧ HostNote.authorityClosed ∉ runtime.log
  streams : runtime.progress = .streaming → Streams runtime.log
  unstarted : runtime.progress = .pairingPending ∨ runtime.progress = .awaitingLocalApproval →
    HostNote.progress .streaming ∉ runtime.log
  counted : runtime.log.countP HostNote.isReleaseAll = runtime.log.count .authorityClosed
  once : runtime.log.count .authorityClosed ≤ 1

variable {authority : SessionAuthority} {runtime : HostRuntime}

theorem authorizes_new (authority : SessionAuthority) : Authorizes authority (.new authority) where
  throughout := throughout_nil
  accepted := rfl
  stamp := rfl
  deadline := rfl
  granted h := ⟨h, not_mem_nil⟩
  streams h := nomatch h
  unstarted _ := not_mem_nil
  counted := rfl
  once := Nat.zero_le _

/-- An entry that is neither a progress nor part of a close. -/
def HostNote.works : HostNote → Bool
  | .progress _ | .authorityClosed | .releaseAll _ _ | .quiesceEncoding | .stop => false
  | _ => true

section

variable (hauth : Authorizes authority runtime)

include hauth

theorem Authorizes.note (entry : HostNote) (hworks : entry.works = true)
    (hauthd : Authorized authority runtime.log entry) :
    Authorizes authority (runtime.note entry) where
  throughout := throughout_snoc.2 ⟨hauth.throughout, hauthd⟩
  accepted := hauth.accepted
  stamp := hauth.stamp
  deadline := hauth.deadline
  granted hled := by
    obtain ⟨hgrt, hunclosed⟩ := hauth.granted hled
    refine ⟨hgrt, ?_⟩
    rw [note_log, mem_append, mem_singleton, not_or]
    exact ⟨hunclosed, by rintro rfl; cases hworks⟩
  streams hprog :=
    (hauth.streams hprog).snoc (by cases entry <;> first | rfl | cases hworks)
  unstarted hprog := by
    rw [note_log, mem_append, mem_singleton, not_or]
    exact ⟨hauth.unstarted hprog, by rintro rfl; cases hworks⟩
  counted := by
    have hkind : entry.isReleaseAll = false := by cases entry <;> first | rfl | cases hworks
    have hne : entry ≠ .authorityClosed := by rintro rfl; cases hworks
    simpa [hkind, hne] using hauth.counted
  once := by
    have hne : entry ≠ .authorityClosed := by rintro rfl; cases hworks
    simpa [hne] using hauth.once

/-- The encode in flight is not part of the invariant. -/
theorem Authorizes.inFlight (permit? : Option DispatchPermit) :
    Authorizes authority { runtime with inFlightEncode := permit? } :=
  { hauth with }

/-- A permit that is rechecked lets a dispatch through. -/
theorem Authorizes.dispatches {permit : DispatchPermit} {stamp : DispatchStamp} {nowNs : UInt64}
    (hchk : runtime.session.recheck permit nowNs = .ok stamp) :
    Dispatches authority runtime.log nowNs := by
  obtain ⟨hled, hearly⟩ := live_of_ensureDispatchable (recheck_eq_ok hchk).1
  obtain ⟨hgrt, hunclosed⟩ := hauth.granted hled
  exact ⟨hgrt, hunclosed, hauth.deadline ▸ hearly⟩

theorem Authorizes.applyInput (message : InputMessage) (nowNs : UInt64) :
    Authorizes authority
      { runtime with session := (runtime.session.applyInput message nowNs).2 } := by
  rcases runtime.session.applyInput_cases message nowNs with heq | ⟨_, hled, heq⟩
  · rw [heq]
    exact { hauth with }
  rw [heq]
  exact
    { hauth with
      granted := fun _ => hauth.granted (by rw [hled]; exact nofun) }

end

/-! ## A change of progress -/

variable {log : List HostNote} {prog : RuntimeProgress}

theorem authorized_progress (hprog : prog ≠ .streaming) :
    Authorized authority log (.progress prog) := by
  cases prog <;> trivial

theorem Authorizes.setProgress (hauth : Authorizes authority runtime)
    (hnote : Authorized authority runtime.log (.progress prog))
    (hunst : prog = .pairingPending ∨ prog = .awaitingLocalApproval →
      progress .streaming ∉ runtime.log) :
    Authorizes authority (runtime.setProgress prog) where
  throughout := throughout_snoc.2 ⟨hauth.throughout, hnote⟩
  accepted := hauth.accepted
  stamp := hauth.stamp
  deadline := hauth.deadline
  granted hled := by
    obtain ⟨hgrt, hunclosed⟩ := hauth.granted hled
    exact ⟨hgrt, by simpa using hunclosed⟩
  streams heq := by
    obtain rfl : prog = .streaming := heq
    exact Since.of_mark rfl
  unstarted heq := by
    have hbef := hunst heq
    rcases heq with rfl | rfl <;> simpa using hbef
  counted := by simpa [isReleaseAll] using hauth.counted
  once := by simpa using hauth.once

/-! ## A close -/

variable {nextProg : RuntimeProgress}

/-- The entries of a close keep to the rules. -/
theorem throughout_closeNotes (hlog : Throughout (Authorized authority) log)
    (hunclosed : authorityClosed ∉ log) {plan : List AppliedInput} {answers : CloseAnswers}
    {drained : List HostNote} (hdrained : drained = [] ∨ drained = [releaseEncoded])
    (hnext : nextProg ≠ .streaming) :
    Throughout (Authorized authority) (log ++ closeNotes plan answers drained nextProg) := by
  obtain ⟨opened, hopened, hkept, hrel⟩ : ∃ opened,
      opened = log ++ [.progress .closing] ++ [.authorityClosed] ++
        [.releaseAll plan answers.releaseAll] ++ [.quiesceEncoding] ∧
      Throughout (Authorized authority) opened ∧ ReleasedAll opened := by
    refine ⟨_, rfl, throughout_snoc.2 ⟨throughout_snoc.2 ⟨throughout_snoc.2
      ⟨throughout_snoc.2 ⟨hlog, trivial⟩, ?_⟩, ?_⟩, ?_⟩,
      .releaseAll plan answers.releaseAll, by simp, rfl⟩
    · exact (mem_append.1 · |>.elim hunclosed nofun)
    · exact getLast?_concat
    · exact ⟨_, mem_append_right _ (mem_singleton_self _), rfl⟩
  have hdone : Throughout (Authorized authority) (opened ++ drained) := by
    rcases hdrained with rfl | rfl
    · rwa [append_nil]
    · exact throughout_snoc.2 ⟨hkept, trivial⟩
  obtain ⟨entry, hmem, hentry⟩ := hrel
  have hrel : ReleasedAll (opened ++ drained) := ⟨entry, mem_append_left _ hmem, hentry⟩
  have hstopped : Throughout (Authorized authority)
      (opened ++ drained ++ [.stop] ++ [.progress nextProg]) :=
    throughout_snoc.2 ⟨throughout_snoc.2 ⟨hdone, hrel⟩, authorized_progress hnext⟩
  simpa [closeNotes, hopened] using hstopped

theorem Authorizes.closeInner (hauth : Authorizes authority runtime) (nowNs : UInt64)
    (hnext : nextProg = .recovering ∨ nextProg = .closed) (answers : CloseAnswers) :
    Authorizes authority (runtime.closeInner nowNs nextProg answers).2 := by
  rcases runtime.closeInner_cases nowNs nextProg answers with
    ⟨-, heq⟩ | ⟨ledger, drained, hled, hdrained, hsess, hprog, hlog⟩
  · rw [heq]
    exact hauth.setProgress (authorized_progress nofun) (by rintro (h | h) <;> cases h)
  obtain ⟨-, hunclosed⟩ := hauth.granted (by rw [hled]; exact nofun)
  have hcount : runtime.log.count .authorityClosed = 0 := count_eq_zero.2 hunclosed
  have hcnt := hauth.counted
  constructor
  · rw [hlog]
    exact throughout_closeNotes hauth.throughout hunclosed hdrained
      (by rcases hnext with rfl | rfl <;> exact nofun)
  · rw [hsess]
    exact hauth.accepted
  · rw [hsess]
    exact hauth.stamp
  · rw [hsess]
    exact hauth.deadline
  · intro hopen
    rw [hsess] at hopen
    exact absurd rfl hopen
  · rw [hprog]
    rcases hnext with rfl | rfl <;> exact nofun
  · rw [hprog]
    rintro (h | h) <;> rcases hnext with rfl | rfl <;> cases h
  · rw [hlog]
    rcases hdrained with rfl | rfl <;>
      simp [closeNotes, isReleaseAll, countP_cons, hcnt]
  · rw [hlog]
    rcases hdrained with rfl | rfl <;> simp [closeNotes, hcount]

/-! ## The methods -/

theorem kept_authorizes (authority : SessionAuthority) (answers : CloseAnswers) :
    Kept (Authorizes authority) answers where
  deed _ _ hdeed hauth := by
    cases hdeed with
    | start hchk => exact hauth.note _ rfl (hauth.dispatches hchk)
    | prepare hchk hprog | encode hchk hprog | send hchk hprog =>
      exact hauth.note _ rfl ⟨hauth.dispatches hchk, hauth.streams hprog⟩
    | poll | pollEncodeCompletion | releaseEncoded => exact hauth.note _ rfl trivial
  inFlight _ permit? hauth := hauth.inFlight permit?
  approve _ hpend hauth :=
    hauth.setProgress (authorized_progress nofun) fun _ =>
      hauth.unstarted (.inl hpend)
  stream _ hprog hauth :=
    hauth.setProgress (hauth.unstarted hprog) (by rintro (h | h) <;> cases h)
  finish _ _ hauth :=
    hauth.setProgress (authorized_progress nofun) (by rintro (h | h) <;> cases h)
  close _ nowNs _ hnext hauth := hauth.closeInner nowNs hnext answers

section

variable (hauth : Authorizes authority runtime)

include hauth

theorem Authorizes.injectAll (hprog : runtime.progress = .streaming) (permit : DispatchPermit)
    {stamp : SessionStamp} (hmat : matchesTransportStamp authority.stamp stamp = true)
    (hinput : authority.accepted.capabilities.contains .input = true) (nowNs : UInt64)
    (answers : CloseAnswers) (actions : List AppliedInput) (injects : List Answer) :
    Authorizes authority (runtime.injectAll permit stamp nowNs answers actions injects).2 := by
  induction actions generalizing runtime injects with
  | nil => exact hauth
  | cons action actions ih =>
    rw [injectAll]
    split
    · exact (kept_authorizes authority answers).recoverAfter hauth nowNs _
    rename_i hchk
    have hinjected := hauth.note
      (.inject nowNs stamp action (injects.headD (.ok ()))) rfl
      ⟨hauth.dispatches hchk, hauth.streams hprog, hmat, hinput⟩
    dsimp only
    split
    · exact (kept_authorizes authority answers).recoverAfter hinjected nowNs _
    · exact ih hinjected hprog injects.tail

theorem Authorizes.ingestInput (stamp : SessionStamp) (message : InputMessage) (nowNs : UInt64)
    (injects : List Answer) (answers : CloseAnswers) :
    Authorizes authority (runtime.ingestInput stamp message nowNs injects answers).2 := by
  unfold HostRuntime.ingestInput
  split_ifs with hprog
  · exact hauth
  split
  · exact (kept_authorizes authority answers).recoverAfter hauth nowNs _
  rename_i permit hpermit
  split_ifs with hstale
  · exact hauth
  have happ := hauth.applyInput message nowNs
  split
  · rename_i heq
    rwa [heq] at happ
  · rename_i actions session heq
    rw [heq] at happ
    have hmat : matchesTransportStamp authority.stamp stamp = true := by
      rw [← hauth.stamp, ← (HostRuntime.activePermit_eq_ok hpermit).2]
      exact Bool.eq_true_of_not_eq_false hstale
    have hinput : authority.accepted.capabilities.contains .input = true := by
      rw [← hauth.accepted]
      exact (applyInput_eq_ok (congrArg Prod.fst heq)).1
    have hinjected := happ.injectAll (not_not.1 hprog) permit hmat
      hinput nowNs answers actions injects
    split
    all_goals
      rename_i heq'
      rwa [heq'] at hinjected
  · rename_i heq
    rwa [heq] at happ

theorem Authorizes.step (call : HostCall) :
    Authorizes authority (hostMachine.step runtime call).2 := by
  have hkept := kept_authorizes authority
  cases call with
  | awaitLocalApproval => exact (hkept .allOk).awaitLocalApproval hauth
  | activate nowNs start answers => exact (hkept answers).activate hauth nowNs start
  | pollCapture nowNs event frameAnswers answers =>
    exact (hkept answers).pollCapture hauth nowNs event frameAnswers
  | pollEncodeCompletion nowNs encodeAnswers answers =>
    exact (hkept answers).pollEncodeCompletion hauth nowNs encodeAnswers
  | ingestInput stamp msg nowNs injects answers =>
    exact hauth.ingestInput stamp msg nowNs injects answers
  | close nowNs answers => exact (hkept answers).closeMethod hauth nowNs

end

/-- In every run, whatever the backends answer and at whatever times the calls are made, native
work is done under a live authority, and a close of the authority releases the held input once. -/
theorem native_work_needs_live_authority (authority : SessionAuthority) (calls : List HostCall) :
    let log := (hostMachine.run (.new authority) calls).log
    Throughout (Authorized authority) log ∧
      log.countP HostNote.isReleaseAll = log.count .authorityClosed ∧
      log.count .authorityClosed ≤ 1 := by
  have hauth := hostMachine.run_induction (authorizes_new authority)
    (fun _ call hauth => hauth.step call) calls
  exact ⟨hauth.throughout, hauth.counted, hauth.once⟩

end LatencyDesk.Runtime
