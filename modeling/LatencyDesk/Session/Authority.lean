import LatencyDesk.Input.Reconciler
import LatencyDesk.Session.Pairing.Model

/-!
# The session authority

The model of `SessionAuthority` in `crates/session/src/runtime.rs`.  The authority is
open as long as it owns its input ledger, and gives it away when it is closed.
-/

namespace LatencyDesk.Session

open Input
open Session.Authorization (SessionId Capability)
open Session.Pairing (AcceptedSession)

inductive AuthorityError where
  | invalidDispatchStamp
  | sessionMismatch
  | invalidDeadline
  | viewNotGranted
  | inputNotGranted
  | expired
  | staleDispatch
  | closed
deriving DecidableEq

inductive SessionInputError where
  | authority (error : AuthorityError)
  | input (error : InputError)
deriving DecidableEq

/-- The generations of a dispatch.  `valid` is what the constructor checks. -/
structure DispatchStamp where
  sessionId : SessionId
  generation : UInt64
  authorizationEpoch : UInt32
  displayEpoch : UInt32
  codecEpoch : UInt32
  valid : generation ≠ 0 ∧ authorizationEpoch ≠ 0 ∧ displayEpoch ≠ 0 ∧ codecEpoch ≠ 0
deriving DecidableEq

def DispatchStamp.new (sessionId : SessionId) (generation : UInt64)
    (authorizationEpoch displayEpoch codecEpoch : UInt32) :
    Except AuthorityError DispatchStamp :=
  if valid : generation ≠ 0 ∧ authorizationEpoch ≠ 0 ∧ displayEpoch ≠ 0 ∧ codecEpoch ≠ 0 then
    .ok ⟨sessionId, generation, authorizationEpoch, displayEpoch, codecEpoch, valid⟩
  else
    .error .invalidDispatchStamp

structure DispatchPermit where
  stamp : DispatchStamp
deriving DecidableEq

/-- The state that the authority owns while it is open. -/
structure InputLedger where
  reconciler : InputReconciler
deriving DecidableEq

namespace InputLedger

/-- `InputLedger::default`. -/
def default : InputLedger := ⟨.default⟩

def apply (ledger : InputLedger) (message : InputMessage) :
    Except InputError ReconcileOutcome × InputLedger :=
  ((ledger.reconciler.apply message).1, ⟨(ledger.reconciler.apply message).2⟩)

/-- Releases for every held key and button. -/
def releasePlan (ledger : InputLedger) : List AppliedInput × InputLedger :=
  (ledger.reconciler.disconnectReleasePlan.1, ⟨ledger.reconciler.disconnectReleasePlan.2⟩)

end InputLedger

structure ClosedAuthority where
  inputLedger : InputLedger
  releaseDeadlineNs : UInt64

/-- The authority of one accepted session.  The last two fields are what the constructor checks. -/
structure SessionAuthority where
  accepted : AcceptedSession
  stamp : DispatchStamp
  inputLedger : Option InputLedger
  sessionDeadlineNs : UInt64
  releaseDeadlineNs : UInt64
  sameSession : accepted.sessionId = stamp.sessionId
  deadlines : sessionDeadlineNs ≠ 0 ∧ releaseDeadlineNs ≠ 0

namespace SessionAuthority

def new (accepted : AcceptedSession) (stamp : DispatchStamp) (inputLedger : InputLedger)
    (sessionDeadlineNs releaseDeadlineNs : UInt64) : Except AuthorityError SessionAuthority :=
  if hsession : accepted.sessionId = stamp.sessionId then
    if hdeadlines : sessionDeadlineNs ≠ 0 ∧ releaseDeadlineNs ≠ 0 then
      .ok ⟨accepted, stamp, some inputLedger, sessionDeadlineNs, releaseDeadlineNs, hsession,
        hdeadlines⟩
    else
      .error .invalidDeadline
  else
    .error .sessionMismatch

/-- The session is open, in time and may be viewed. -/
def ensureDispatchable (authority : SessionAuthority) (nowNs : UInt64) :
    Except AuthorityError Unit :=
  if authority.inputLedger.isNone then
    .error .closed
  else if authority.sessionDeadlineNs ≤ nowNs then
    .error .expired
  else if authority.accepted.capabilities.contains .view = false then
    .error .viewNotGranted
  else
    .ok ()

/-- A permit for the present stamp. -/
def acquireDispatch (authority : SessionAuthority) (nowNs : UInt64) :
    Except AuthorityError DispatchPermit :=
  match authority.ensureDispatchable nowNs with
  | .error e => .error e
  | .ok () => .ok ⟨authority.stamp⟩

/-- A permit is still for the present stamp. -/
def recheck (authority : SessionAuthority) (permit : DispatchPermit) (nowNs : UInt64) :
    Except AuthorityError DispatchStamp :=
  match authority.ensureDispatchable nowNs with
  | .error e => .error e
  | .ok () =>
    if permit.stamp ≠ authority.stamp then .error .staleDispatch else .ok authority.stamp

/-- Applies a message if input was granted. -/
def applyInput (authority : SessionAuthority) (message : InputMessage) (nowNs : UInt64) :
    Except SessionInputError ReconcileOutcome × SessionAuthority :=
  match authority.ensureDispatchable nowNs with
  | .error e => (.error (.authority e), authority)
  | .ok () =>
    if authority.accepted.capabilities.contains .input = false then
      (.error (.authority .inputNotGranted), authority)
    else
      match authority.inputLedger with
      | none => (.error (.authority .closed), authority)
      | some ledger =>
        match ledger.apply message with
        | (.error e, ledger) =>
          (.error (.input e), { authority with inputLedger := some ledger })
        | (.ok outcome, ledger) => (.ok outcome, { authority with inputLedger := some ledger })

def close (authority : SessionAuthority) :
    Except AuthorityError ClosedAuthority × SessionAuthority :=
  match authority.inputLedger with
  | none => (.error .closed, authority)
  | some ledger =>
    (.ok ⟨ledger, authority.releaseDeadlineNs⟩, { authority with inputLedger := none })

/-! ## When the authority lets a dispatch through -/

/-- The authority is open, and its deadline is ahead. -/
def Live (authority : SessionAuthority) (nowNs : UInt64) : Prop :=
  authority.inputLedger ≠ none ∧ nowNs < authority.sessionDeadlineNs

variable {authority : SessionAuthority} {nowNs : UInt64}

theorem live_of_ensureDispatchable (h : authority.ensureDispatchable nowNs = .ok ()) :
    authority.Live nowNs := by
  unfold ensureDispatchable at h
  split_ifs at h with hclosed hexp
  refine ⟨?_, UInt64.not_le.1 hexp⟩
  intro hnone
  rw [hnone] at hclosed
  exact hclosed rfl

theorem recheck_eq_ok {permit : DispatchPermit} {stamp : DispatchStamp}
    (h : authority.recheck permit nowNs = .ok stamp) :
    authority.ensureDispatchable nowNs = .ok () ∧ permit.stamp = authority.stamp := by
  unfold recheck at h
  split at h
  · cases h
  next hensure =>
  split_ifs at h with hstale
  exact ⟨hensure, not_not.1 hstale⟩

/-- A message that is applied went through the ledger of an open authority with the capability
for it. -/
theorem applyInput_eq_ok {msg : InputMessage} {outcome : ReconcileOutcome}
    (h : (authority.applyInput msg nowNs).1 = .ok outcome) :
    authority.accepted.capabilities.contains .input = true ∧
      ∃ ledger, authority.inputLedger = some ledger ∧
        (ledger.apply msg).1 = .ok outcome ∧
        (authority.applyInput msg nowNs).2 =
          { authority with inputLedger := some (ledger.apply msg).2 } := by
  unfold applyInput at h ⊢
  split at h
  · cases h
  split_ifs at h with hinput
  rw [if_neg hinput]
  split at h
  · cases h
  next ledger hled =>
  refine ⟨Bool.eq_true_of_not_eq_false hinput, ledger, hled, ?_⟩
  split at h
  · cases h
  next happly =>
  rw [happly]
  cases h
  exact ⟨rfl, rfl⟩

/-- A call of `apply_input` changes the ledger alone. -/
theorem applyInput_cases (authority : SessionAuthority) (msg : InputMessage) (nowNs : UInt64) :
    (authority.applyInput msg nowNs).2 = authority ∨
      ∃ ledger, authority.inputLedger = some ledger ∧
        (authority.applyInput msg nowNs).2 =
          { authority with inputLedger := some (ledger.apply msg).2 } := by
  unfold applyInput
  split
  · exact .inl rfl
  split_ifs
  · exact .inl rfl
  cases hled : authority.inputLedger with
  | none => exact .inl rfl
  | some ledger =>
    refine .inr ⟨ledger, rfl, ?_⟩
    simp only
    split
    all_goals
      rename_i heq
      rw [heq]

end SessionAuthority

/-- The authority of the sample pairing. -/
def sampleAuthority : SessionAuthority :=
  { accepted := .fromEvidence Pairing.sampleEvidence Pairing.sampleIdentity Pairing.samplePin
    stamp := ⟨Pairing.sampleEvidence.sessionId, 1, 1, 1, 1, by decide⟩
    inputLedger := some .default
    sessionDeadlineNs := 100
    releaseDeadlineNs := 200
    sameSession := rfl
    deadlines := by decide }

end LatencyDesk.Session
