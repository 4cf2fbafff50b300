import LatencyDesk.Lib.Machine
import LatencyDesk.Lib.Word

/-!
# Safe disconnection

A controller leaves the connected state once.  It drains until a deadline and is
then closed.  `initiate_disconnect` does not look at the state, so a second call
reopens a closed controller and moves the deadline
(`second_initiation_reopens`).  Without one, closing is final and the first
deadline holds (`disconnect_is_final`).
-/

namespace LatencyDesk.Session

open Lib

inductive DisconnectReason where
  | userInitiated
  | hostShutdown
  | idleTimeout
  | heartbeatExpired
  | authenticationRevoked
  | tokenExpired
  | securityViolation
  | sasMismatch
  | natTraversalFailed
  | migrationFailed

structure DisconnectWire where
  reason : DisconnectReason
  sessionId : UInt64
  authorizationEpoch : UInt32
  message : String

inductive DisconnectError where
  | alreadyClosed
  | drainTimeout
  | invalidWireMessage
  | sessionMismatch
  | authorizationEpochMismatch

inductive DisconnectState where
  | connected
  | closing (reason : DisconnectReason) (initiatedByLocal : Bool) (deadlineNs : UInt64)
  | closed (reason : DisconnectReason) (timestampNs : UInt64)

structure SafeDisconnectController where
  sessionId : UInt64
  authorizationEpoch : UInt32
  state : DisconnectState
  defaultDrainTimeoutNs : UInt64

namespace SafeDisconnectController

def isClosed (c : SafeDisconnectController) : Bool := c.state matches .closed ..

def canProcessTraffic (c : SafeDisconnectController) : Bool := c.state matches .connected

/-- Begins to close and says so to the peer. -/
def initiateDisconnect (c : SafeDisconnectController) (reason : DisconnectReason)
    (message : String) (nowNs : UInt64) : DisconnectWire × SafeDisconnectController :=
  (⟨reason, c.sessionId, c.authorizationEpoch, message⟩,
    { c with state := .closing reason true (saturatingAdd nowNs c.defaultDrainTimeoutNs) })

/-- The peer closes the session. -/
def handleRemoteDisconnect (c : SafeDisconnectController) (wire : DisconnectWire)
    (nowNs : UInt64) : Except DisconnectError Unit × SafeDisconnectController :=
  if wire.sessionId ≠ c.sessionId then
    (.error .sessionMismatch, c)
  else if wire.authorizationEpoch ≠ c.authorizationEpoch then
    (.error .authorizationEpochMismatch, c)
  else if c.isClosed then
    (.error .alreadyClosed, c)
  else
    (.ok (), { c with state := .closed wire.reason nowNs })

/-- Closes when nothing is left or the time is over. -/
def checkDrain (c : SafeDisconnectController) (pendingBytes : Nat) (nowNs : UInt64) :
    Bool × SafeDisconnectController :=
  match c.state with
  | .closing reason _ deadlineNs =>
    if pendingBytes = 0 ∨ deadlineNs ≤ nowNs then
      (true, { c with state := .closed reason nowNs })
    else
      (false, c)
  | .closed .. => (true, c)
  | .connected => (false, c)

def forceClose (c : SafeDisconnectController) (reason : DisconnectReason) (nowNs : UInt64) :
    SafeDisconnectController :=
  { c with state := .closed reason nowNs }

end SafeDisconnectController

inductive DisconnectCall where
  | initiate (reason : DisconnectReason) (message : String) (nowNs : UInt64)
  | remote (wire : DisconnectWire) (nowNs : UInt64)
  | drain (pendingBytes : Nat) (nowNs : UInt64)
  | force (reason : DisconnectReason) (nowNs : UInt64)

inductive DisconnectEvent where
  | initiated (wire : DisconnectWire)
  | handled (result : Except DisconnectError Unit)
  | drained (closed : Bool)
  | forced

def disconnectMachine : Machine SafeDisconnectController DisconnectCall DisconnectEvent where
  step c
    | .initiate reason message nowNs =>
      record .initiated (c.initiateDisconnect reason message nowNs)
    | .remote wire nowNs => record .handled (c.handleRemoteDisconnect wire nowNs)
    | .drain pendingBytes nowNs => record .drained (c.checkDrain pendingBytes nowNs)
    | .force reason nowNs => (.forced, c.forceClose reason nowNs)

/-- The call does not initiate a disconnection that is under way or complete. -/
def InitiatesOnce (c : SafeDisconnectController) : DisconnectCall → Prop
  | .initiate .. => c.canProcessTraffic
  | _ => True

open SafeDisconnectController

theorem step_state {c : SafeDisconnectController} (call : DisconnectCall) :
    (disconnectMachine.step c call).2.state = c.state ∨
      (disconnectMachine.step c call).2.isClosed ∨ ∃ reason message nowNs,
        call = .initiate reason message nowNs := by
  cases call with
  | initiate => exact .inr (.inr ⟨_, _, _, rfl⟩)
  | remote wire nowNs =>
    simp only [disconnectMachine, handleRemoteDisconnect]
    split_ifs <;> simp [isClosed]
  | drain pendingBytes nowNs =>
    simp only [disconnectMachine, checkDrain]
    split
    · split_ifs <;> simp [isClosed]
    · exact .inl rfl
    · exact .inl rfl
  | force => exact .inr (.inl rfl)

variable {c : SafeDisconnectController} {call : DisconnectCall}

/-- Draining until this deadline, or closed. -/
def WindsUpBy (deadlineNs : UInt64) (c : SafeDisconnectController) : Prop :=
  c.isClosed ∨ ∃ reason, c.state = .closing reason true deadlineNs

theorem step_keeps_deadline {deadlineNs : UInt64} (hcall : InitiatesOnce c call)
    (h : WindsUpBy deadlineNs c) :
    WindsUpBy deadlineNs (disconnectMachine.step c call).2 := by
  rcases step_state call with hsame | hclosed | ⟨_, _, _, rfl⟩
  · rwa [WindsUpBy, isClosed, hsame]
  · exact .inl hclosed
  -- Only a connected controller initiates.
  rcases h with hclosed | ⟨_, hclos⟩
  · grind [InitiatesOnce, canProcessTraffic, isClosed]
  · grind [InitiatesOnce, canProcessTraffic]

theorem step_keeps_closed (hcall : InitiatesOnce c call) (h : c.isClosed) :
    (disconnectMachine.step c call).2.isClosed := by
  rcases step_state call with hsame | hclosed | ⟨_, _, _, rfl⟩
  · rwa [isClosed, hsame]
  · exact hclosed
  · grind [InitiatesOnce, canProcessTraffic, isClosed]

theorem step_keeps_disconnected (call : DisconnectCall) (h : c.canProcessTraffic = false) :
    (disconnectMachine.step c call).2.canProcessTraffic = false := by
  rcases step_state call with hsame | hclosed | ⟨_, _, _, rfl⟩
  · rwa [canProcessTraffic, hsame]
  · grind [canProcessTraffic, isClosed]
  · rfl

/-- Traffic never starts again.  While only connected controllers initiate, closing is final and
the deadline of the initiation holds. -/
theorem disconnect_is_final (c : SafeDisconnectController) (calls : List DisconnectCall) :
    (c.canProcessTraffic = false → (disconnectMachine.run c calls).canProcessTraffic = false) ∧
    (c.isClosed → disconnectMachine.Along InitiatesOnce c calls →
      (disconnectMachine.run c calls).isClosed) ∧
    ∀ reason message startNs pendingBytes nowNs,
      disconnectMachine.Along InitiatesOnce c (.initiate reason message startNs :: calls) →
      startNs.toNat + c.defaultDrainTimeoutNs.toNat ≤ nowNs.toNat →
      (disconnectMachine.run c (.initiate reason message startNs :: calls ++
        [.drain pendingBytes nowNs])).isClosed := by
  refine ⟨fun h => disconnectMachine.run_induction (P := (·.canProcessTraffic = false)) h
      (fun _ => step_keeps_disconnected) calls,
    fun h hcalls => (disconnectMachine.along_induction (P := (·.isClosed)) (Q := fun _ => True)
      (fun _ _ hcall h => ⟨step_keeps_closed hcall h, trivial⟩) h hcalls).1, ?_⟩
  intro reason message startNs pendingBytes nowNs hcalls htime
  have hdead : saturatingAdd startNs c.defaultDrainTimeoutNs ≤ nowNs := by
    rw [UInt64.le_iff_toNat_le, toNat_saturatingAdd]
    omega
  obtain ⟨hwinds, -⟩ := disconnectMachine.along_induction
    (P := WindsUpBy (saturatingAdd startNs c.defaultDrainTimeoutNs)) (Q := fun _ => True)
    (fun _ _ hcall h => ⟨step_keeps_deadline hcall h, trivial⟩) (.inr ⟨reason, rfl⟩) hcalls.2
  rw [Machine.run_snoc, Machine.run_cons]
  generalize disconnectMachine.run _ calls = last at *
  show (last.checkDrain pendingBytes nowNs).2.isClosed
  rcases hwinds with hclosed | ⟨_, hclos⟩
  all_goals grind [checkDrain, isClosed]

/-- The peer's bytes are still waiting at the deadline. -/
theorem sample_disconnect :
    (disconnectMachine.run ⟨42, 7, .connected, 1000⟩ [.initiate .hostShutdown "" 5, .drain 9 6,
      .drain 9 1005]).isClosed :=
  (disconnect_is_final ⟨42, 7, .connected, 1000⟩ [.drain 9 6]).2.2 .hostShutdown "" 5 9 1005
    ⟨rfl, trivial, trivial⟩ (by decide)

/-- A closed controller is closing again, and a controller is still open at its first deadline. -/
theorem second_initiation_reopens :
    let c : SafeDisconnectController := ⟨42, 7, .connected, 1000⟩
    (disconnectMachine.run c [.force .userInitiated 0]).isClosed ∧
      ¬(disconnectMachine.run c [.force .userInitiated 0, .initiate .hostShutdown "" 5]).isClosed ∧
      ¬(disconnectMachine.run c [.initiate .hostShutdown "" 0, .initiate .hostShutdown "" 900,
        .drain 1 1000]).isClosed := by
  decide

end LatencyDesk.Session
