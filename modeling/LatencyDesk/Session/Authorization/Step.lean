import LatencyDesk.Session.Authorization.Model

/-!
# What one call can do to the policy

A call first sweeps what has expired and then acts on the swept policy.
`AccessEvent.sweep` is the first half.  It is a function of the event, because
the event records the time of the call.  `Effect` is the second half, one
constructor for each way in which the fields can change.  `step_effect` puts
them together, and the modules above never unfold a method.

`Refused p e` collects what a call that changed nothing has found out about
the policy, and `Drops p e` what a call that ended the pairing has.
-/

namespace LatencyDesk.Session.Authorization

open Lib HostAccessPolicy Option

/-! ## The sweep -/

namespace AccessEvent

/-- The time at which the call sweeps an expired pairing. -/
def pairingSweep : AccessEvent → Option UInt64
  | .beginPairing _ _ nowNs _ => some nowNs
  | .expirePairing nowNs _ => some nowNs
  | .register _ nowNs _ => some nowNs
  | _ => none

/-- The time at which the call sweeps an expired session. -/
def sessionSweep : AccessEvent → Option UInt64
  | .beginPairing _ _ nowNs _ => some nowNs
  | .register _ nowNs _ => some nowNs
  | .approveSession _ _ _ nowNs _ => some nowNs
  | .activeGrant nowNs _ => some nowNs
  | .isAuthorized _ _ nowNs _ => some nowNs
  | _ => none

/-- The policy after the sweep of the pairing. -/
def sweepPairing (e : AccessEvent) (p : HostAccessPolicy) : HostAccessPolicy :=
  match e.pairingSweep with
  | some nowNs => (p.expirePairing nowNs).2
  | none => p

/-- The policy after the sweeps with which the call starts. -/
def sweep (e : AccessEvent) (p : HostAccessPolicy) : HostAccessPolicy :=
  match e.sessionSweep with
  | some nowNs => (e.sweepPairing p).expireActive nowNs
  | none => e.sweepPairing p

end AccessEvent

/-- The deadline of a pairing in progress. -/
def PairingState.expiresAtNs : PairingState → Option UInt64
  | .awaitingProof pending => some pending.expiresAtNs
  | .awaitingHostApproval pending => some pending.expiresAtNs
  | .idle => none

variable (p : HostAccessPolicy) (nowNs : UInt64)

/-- The sweep of a pairing keeps it or ends it, and ends it from its deadline
on. -/
theorem expirePairing_cases :
    ((p.expirePairing nowNs).2 = p ∧
        ∀ expiresAtNs, p.pairing.expiresAtNs = some expiresAtNs → nowNs < expiresAtNs) ∨
      (p.expirePairing nowNs).2 = { p with pairing := .idle } := by
  unfold expirePairing
  split
  iterate 2
    · rename_i pend hpair
      split_ifs with htime
      · exact .inr rfl
      refine .inl ⟨rfl, ?_⟩
      intro expiresAtNs hexp
      rw [hpair, PairingState.expiresAtNs, some.injEq] at hexp
      rw [← hexp]
      exact UInt64.not_le.1 htime
  · rename_i hpair
    refine .inl ⟨rfl, ?_⟩
    intro expiresAtNs hexp
    simp [hpair, PairingState.expiresAtNs] at hexp

/-- The sweep of a session keeps it or clears the connection with it, and
clears it from its expiry on. -/
theorem expireActive_cases :
    (p.expireActive nowNs = p ∧
        ∀ grant, p.activeSession = some grant → nowNs < grant.expiresAtNs) ∨
      (p.expireActive nowNs =
        { p with activeSession := none, activeConnection := none, pendingSession := none } ∧
        ∃ grant, p.activeSession = some grant ∧ grant.expiresAtNs ≤ nowNs) := by
  unfold expireActive
  cases hact : p.activeSession with
  | none => exact .inl ⟨by simp, by simp⟩
  | some grant =>
    by_cases htime : grant.expiresAtNs ≤ nowNs
    · exact .inr ⟨by simp [htime], grant, rfl, htime⟩
    refine .inl ⟨by simp [htime], ?_⟩
    intro grant' hgrant
    obtain rfl := some.inj hgrant
    exact UInt64.not_le.1 htime

section

variable (e : AccessEvent) (p : HostAccessPolicy)

/-- The sweep of a pairing, as the event records it. -/
theorem AccessEvent.sweepPairing_cases :
    (e.sweepPairing p = p ∧
        ∀ nowNs expiresAtNs, e.pairingSweep = some nowNs →
          p.pairing.expiresAtNs = some expiresAtNs → nowNs < expiresAtNs) ∨
      e.sweepPairing p = { p with pairing := .idle } := by
  unfold AccessEvent.sweepPairing
  cases htime : e.pairingSweep with
  | none => exact .inl ⟨rfl, by simp⟩
  | some nowNs =>
    rcases expirePairing_cases p nowNs with ⟨heq, hlt⟩ | heq
    · refine .inl ⟨heq, ?_⟩
      intro nowNs' expiresAtNs hnow hexp
      obtain rfl := some.inj hnow
      exact hlt expiresAtNs hexp
    · exact .inr heq

/-- The sweep of a session, as the event records it.  It runs on the policy
whose pairing is already swept. -/
theorem AccessEvent.sweep_cases :
    (e.sweep p = e.sweepPairing p ∧
        ∀ nowNs grant, e.sessionSweep = some nowNs →
          (e.sweepPairing p).activeSession = some grant → nowNs < grant.expiresAtNs) ∨
      (e.sweep p =
        { e.sweepPairing p with
          activeSession := none, activeConnection := none, pendingSession := none } ∧
        ∃ nowNs grant, e.sessionSweep = some nowNs ∧
          (e.sweepPairing p).activeSession = some grant ∧ grant.expiresAtNs ≤ nowNs) := by
  unfold AccessEvent.sweep
  cases htime : e.sessionSweep with
  | none => exact .inl ⟨rfl, by simp⟩
  | some nowNs =>
    rcases expireActive_cases (e.sweepPairing p) nowNs with ⟨heq, hlt⟩ | ⟨heq, grant, hgrant, hle⟩
    · refine .inl ⟨heq, ?_⟩
      intro nowNs' grant hnow hgrant
      obtain rfl := some.inj hnow
      exact hlt grant hgrant
    · exact .inr ⟨heq, nowNs, grant, rfl, hgrant, hle⟩

/-- No sweep touches the pins and the counters. -/
theorem AccessEvent.sweep_frame :
    (e.sweep p).pinnedDevices = p.pinnedDevices ∧ (e.sweep p).nextEpoch = p.nextEpoch ∧
      (e.sweep p).nextGeneration = p.nextGeneration := by
  rcases e.sweep_cases p with ⟨heq, _⟩ | ⟨heq, _⟩ <;>
    rcases e.sweepPairing_cases p with ⟨heq', _⟩ | heq' <;>
    simp [heq, heq']

end

/-! ## The effects -/

/-- What a call that changed nothing has found in the policy. -/
def Refused (p : HostAccessPolicy) : AccessEvent → Prop
  | .beginPairing _ _ _ result => ∃ error, result = .error error
  | .confirmPairing _ _ result =>
    (∀ pending, p.pairing ≠ .awaitingProof pending) ∧
      ∃ error, result = .error error ∧
        ∀ pending, p.pairing = .awaitingHostApproval pending → error = .pairingAlreadyConfirmed
  | .approvePairing _ _ result => ∃ error, result = .error error
  | .rejectPairing handle _ =>
    ∀ pending, p.pairing = .awaitingHostApproval pending → pending.handle ≠ handle
  | .cancelPairing handle _ =>
    (∀ pending, p.pairing = .awaitingProof pending → pending.cancellationHandle ≠ handle) ∧
      ∀ pending, p.pairing = .awaitingHostApproval pending → pending.cancellationHandle ≠ handle
  | .expirePairing _ _ => True
  | .register _ _ result => ∃ error, result = .error error
  | .closeConnection context _ => p.activeConnection ≠ some context
  | .requestSession _ _ result => ∃ error, result = .error error
  | .approveSession _ _ _ _ result => ∃ error, result = .error error
  | .rejectSession _ _ => True
  | .revokeActive _ => False
  | .revokeDevice device result => device ∉ p.pinnedDevices ∧ result = .error .deviceNotPinned
  | .activeGrant _ _ => True
  | .isAuthorized _ _ _ _ => True

/-- What a call that ended the pairing has found in the policy. -/
def Drops (p : HostAccessPolicy) : AccessEvent → Prop
  | .confirmPairing _ _ result =>
    (∃ error, result = .error error) ∧ ∃ pending, p.pairing = .awaitingProof pending
  | .approvePairing _ _ result =>
    (∃ error, result = .error error) ∧ ∃ pending, p.pairing = .awaitingHostApproval pending
  | .rejectPairing _ _ => ∃ pending, p.pairing = .awaitingHostApproval pending
  | .cancelPairing _ _ => p.pairing ≠ .idle
  | _ => False

/-- The connection on which a request was made. -/
def SessionRequestHandle.context (request : SessionRequestHandle) : ConnectionContext :=
  ⟨request.device, request.sessionId, request.authorizationEpoch⟩

/-- The connection to which a grant is bound. -/
def SessionAuthorization.context (grant : SessionAuthorization) : ConnectionContext :=
  ⟨grant.device, grant.sessionId, grant.authorizationEpoch⟩

/-- The ways in which one call can change the swept policy. -/
inductive Effect (p : HostAccessPolicy) : AccessEvent → HostAccessPolicy → Prop where
  | refuse {e : AccessEvent} (hrefused : Refused p e) : Effect p e p
  | drop {e : AccessEvent} (hdrops : Drops p e) : Effect p e { p with pairing := .idle }
  | begin {device : DeviceFingerprint} {ttlNs nowNs next : UInt64}
      {invitation : PairingInvitation} (hunpinned : device ∉ p.pinnedDevices)
      (hpairing : p.pairing = .idle) (hpending : p.pendingSession = none)
      (hactive : p.activeSession = none) (hconnection : p.activeConnection = none)
      (hnext : next.toNat = p.nextGeneration.toNat + 1)
      (hdevice : invitation.device = device)
      (hgeneration : invitation.cancellationHandle.generation = p.nextGeneration) :
      Effect p (.beginPairing device ttlNs nowNs (.ok invitation))
        { p with
          nextGeneration := next
          pairing := .awaitingProof
            { device := device
              secret := invitation.secret
              cancellationHandle := invitation.cancellationHandle
              expiresAtNs := invitation.expiresAtNs
              generation := p.nextGeneration } }
  | confirm {proof : PairingProof} {nowNs : UInt64} {handle : PairingApprovalHandle}
      {pending : PendingPairing} (hpairing : p.pairing = .awaitingProof pending)
      (htime : nowNs < pending.expiresAtNs) (hdevice : proof.device = pending.device)
      (hsecret : proof.secret = pending.secret) (hhandle : handle.device = pending.device) :
      Effect p (.confirmPairing proof nowNs (.ok handle))
        { p with
          pairing := .awaitingHostApproval
            { handle := handle
              cancellationHandle := pending.cancellationHandle
              expiresAtNs := pending.expiresAtNs } }
  | approve {handle : PairingApprovalHandle} {nowNs : UInt64} {pending : PendingApproval}
      (hpairing : p.pairing = .awaitingHostApproval pending) (hhandle : pending.handle = handle)
      (htime : nowNs < pending.expiresAtNs) (hunpinned : handle.device ∉ p.pinnedDevices)
      (hroom : p.pinnedDevices.length < maxPinnedDevices) :
      Effect p (.approvePairing handle nowNs (.ok ()))
        { p with pairing := .idle, pinnedDevices := p.pinnedDevices ++ [handle.device] }
  | register {device : DeviceFingerprint} {nowNs : UInt64} {next : UInt32}
      {context : ConnectionContext} (hpinned : device ∈ p.pinnedDevices)
      (hpairing : p.pairing = .idle) (hnext : next.toNat = p.nextEpoch.toNat + 1)
      (hdevice : context.device = device)
      (hepoch : context.authorizationEpoch = ⟨p.nextEpoch⟩) :
      Effect p (.register device nowNs (.ok context))
        { p with
          nextEpoch := next
          pendingSession := none
          activeSession := none
          activeConnection := some context }
  /-- The connection, the request and the session end together. -/
  | close {e : AccessEvent}
      (hevent : (∃ result, e = .revokeActive result) ∨
        ∃ context result, e = .closeConnection context result ∧ p.activeConnection = some context) :
      Effect p e { p with activeConnection := none, pendingSession := none, activeSession := none }
  | request {context : ConnectionContext} {requested : CapabilitySet} {next : UInt64}
      {handle : SessionRequestHandle} (hpairing : p.pairing = .idle)
      (hconnection : p.activeConnection = some context) (hpending : p.pendingSession = none)
      (hactive : p.activeSession = none) (hnext : next.toNat = p.nextGeneration.toNat + 1)
      (hcontext : handle.context = context)
      (hrequested : handle.requestedCapabilities = requested) :
      Effect p (.requestSession context requested (.ok handle))
        { p with nextGeneration := next, pendingSession := some handle }
  /-- A request used up its generation, and then no nonce could be drawn. -/
  | spend {context : ConnectionContext} {requested : CapabilitySet} {next : UInt64}
      {error : AccessError} (hnext : next.toNat = p.nextGeneration.toNat + 1) :
      Effect p (.requestSession context requested (.error error)) { p with nextGeneration := next }
  | grant {handle : SessionRequestHandle} {capabilities : CapabilitySet} {ttlNs nowNs : UInt64}
      {authorization : SessionAuthorization} (hpending : p.pendingSession = some handle)
      (hconnection : p.activeConnection = some handle.context)
      (hcontext : authorization.context = handle.context)
      (hcapabilities : authorization.capabilities = capabilities)
      (hsubset : capabilities.isSubsetOf handle.requestedCapabilities = true) :
      Effect p (.approveSession handle capabilities ttlNs nowNs (.ok authorization))
        { p with pendingSession := none, activeSession := some authorization }
  /-- The pending request ends without a grant. -/
  | forget {e : AccessEvent}
      (hevent : (∃ handle result, e = .rejectSession handle result) ∨
        ∃ handle capabilities ttlNs nowNs error,
          e = .approveSession handle capabilities ttlNs nowNs (.error error)) :
      Effect p e { p with pendingSession := none }
  | revoke {device : DeviceFingerprint} {result : Option SessionAuthorization}
      (hpinned : device ∈ p.pinnedDevices) :
      Effect p (.revokeDevice device (.ok result))
        { p with
          pinnedDevices := p.pinnedDevices.erase device
          activeConnection :=
            if p.activeConnection.any (·.device == device) then none else p.activeConnection
          pendingSession :=
            if p.pendingSession.any (·.device == device) then none else p.pendingSession
          pairing := if p.pairingDevice = some device then .idle else p.pairing
          activeSession :=
            if p.activeSession.any (·.device == device) then none else p.activeSession }

section Methods

variable (p : HostAccessPolicy) (device : DeviceFingerprint)

theorem isPinned_iff :
    p.isPinned device = true ↔ device ∈ p.pinnedDevices := by
  simp [isPinned]

theorem beginPairing_effect (ttlNs nowNs : UInt64) (entropy : Entropy) :
    Effect p
      (.beginPairing device ttlNs nowNs (p.beginPairingSwept device ttlNs nowNs entropy).1)
      (p.beginPairingSwept device ttlNs nowNs entropy).2 := by
  unfold beginPairingSwept
  split_ifs with hpin hlimit hpair hsess httl
  iterate 5 exact .refuse ⟨_, rfl⟩
  rw [isPinned_iff] at hpin
  simp only [not_or, Bool.not_eq_true, isSome_eq_false_iff, isNone_iff_eq_none] at hsess
  iterate 4
    split
    · exact .refuse ⟨_, rfl⟩
  next next hnext =>
  rw [checkedAdd_eq_some] at hnext
  exact .begin hpin (not_not.1 hpair) hsess.1 hsess.2.1 hsess.2.2 hnext rfl rfl

theorem confirmPairing_effect (proof : PairingProof) (nowNs : UInt64) (entropy : Entropy) :
    Effect p (.confirmPairing proof nowNs (p.confirmPairing proof nowNs entropy).1)
      (p.confirmPairing proof nowNs entropy).2 := by
  unfold confirmPairing
  split
  · rename_i pend hpair
    split_ifs with htime hproof
    iterate 2 exact .drop ⟨⟨_, rfl⟩, pend, hpair⟩
    · simp only [not_or, not_not] at hproof
      split
      · exact .drop ⟨⟨_, rfl⟩, pend, hpair⟩
      · exact .confirm hpair (UInt64.not_le.1 htime) hproof.1 hproof.2 rfl
  · rename_i hpair
    exact .refuse ⟨by simp [hpair], _, rfl, fun _ _ => rfl⟩
  · rename_i hpair
    exact .refuse ⟨by simp [hpair], _, rfl, by simp [hpair]⟩

theorem approvePairing_effect (handle : PairingApprovalHandle) (nowNs : UInt64) :
    Effect p (.approvePairing handle nowNs (p.approvePairing handle nowNs).1)
      (p.approvePairing handle nowNs).2 := by
  unfold approvePairing
  split
  · rename_i pend hpair
    split_ifs with hhdl htime
    · exact .refuse ⟨_, rfl⟩
    · exact .drop ⟨⟨_, rfl⟩, pend, hpair⟩
    unfold pin
    split_ifs with hpin hlimit
    iterate 2 exact .drop ⟨⟨_, rfl⟩, pend, hpair⟩
    · rw [isPinned_iff] at hpin
      exact .approve hpair (not_not.1 hhdl) (UInt64.not_le.1 htime) hpin (Nat.lt_of_not_le hlimit)
  all_goals exact .refuse ⟨_, rfl⟩

theorem rejectPairing_effect (handle : PairingApprovalHandle) :
    Effect p (.rejectPairing handle (p.rejectPairing handle).1) (p.rejectPairing handle).2 := by
  unfold rejectPairing
  split
  · rename_i pend hpair
    split_ifs with hhdl
    · refine .refuse ?_
      intro pend' hpair'
      rw [hpair, PairingState.awaitingHostApproval.injEq] at hpair'
      rwa [← hpair']
    · exact .drop ⟨pend, hpair⟩
  all_goals
    rename_i hpair
    exact .refuse (by simp [Refused, hpair])

theorem cancelPairing_effect (handle : PairingCancellationHandle) :
    Effect p (.cancelPairing handle (p.cancelPairing handle).1) (p.cancelPairing handle).2 := by
  unfold cancelPairing
  split
  iterate 2
    · rename_i pend hpair
      split_ifs with hhdl
      · exact .refuse (by simpa [Refused, hpair] using hhdl)
      · exact .drop (by simp [Drops, hpair])
  · rename_i hpair
    exact .refuse (by simp [Refused, hpair])

theorem register_effect (nowNs : UInt64) (entropy : Entropy) :
    Effect p (.register device nowNs (p.registerSwept device entropy).1)
      (p.registerSwept device entropy).2 := by
  unfold registerSwept
  split_ifs with hpin hpair
  iterate 2 exact .refuse ⟨_, rfl⟩
  rw [Bool.not_eq_false, isPinned_iff] at hpin
  iterate 2
    split
    · exact .refuse ⟨_, rfl⟩
  next next hnext =>
  rw [checkedAdd32_eq_some] at hnext
  exact .register hpin (not_not.1 hpair) hnext rfl rfl

variable (context : ConnectionContext)

theorem closeConnection_effect :
    Effect p (.closeConnection context (p.closeConnection context).1)
      (p.closeConnection context).2 := by
  unfold closeConnection
  split_ifs with hconn
  · exact .close (.inr ⟨context, _, rfl, hconn⟩)
  · exact .refuse hconn

theorem requestSession_effect (requested : CapabilitySet) (entropy : Entropy) :
    Effect p (.requestSession context requested (p.requestSession context requested entropy).1)
      (p.requestSession context requested entropy).2 := by
  unfold requestSession
  split
  · exact .refuse ⟨_, rfl⟩
  next hpair =>
  split
  · exact .refuse ⟨_, rfl⟩
  split
  · exact .refuse ⟨_, rfl⟩
  next activeConn hconn =>
  split_ifs with hctx hact hpend hview
  iterate 4 exact .refuse ⟨_, rfl⟩
  obtain rfl := not_not.1 hctx
  split
  · exact .refuse ⟨_, rfl⟩
  next next hnext =>
  rw [checkedAdd_eq_some] at hnext
  split
  · exact .spend hnext
  · exact .request (not_not.1 hpair) hconn (by simpa using hpend) (by simpa using hact) hnext rfl
      rfl

variable (handle : SessionRequestHandle)

theorem approveSession_effect (capabilities : CapabilitySet) (ttlNs nowNs : UInt64) :
    Effect p
      (.approveSession handle capabilities ttlNs nowNs
        (p.approveSessionSwept handle capabilities ttlNs nowNs).1)
      (p.approveSessionSwept handle capabilities ttlNs nowNs).2 := by
  have hforget : ∀ error,
      Effect p (.approveSession handle capabilities ttlNs nowNs (.error error))
        { p with pendingSession := none } :=
    fun error => .forget (.inr ⟨handle, capabilities, ttlNs, nowNs, error, rfl⟩)
  unfold approveSessionSwept
  iterate 3
    split
    · exact .refuse ⟨_, rfl⟩
  next pend hpend =>
  split
  · exact .refuse ⟨_, rfl⟩
  next hhdl =>
  split
  · exact hforget _
  obtain rfl := not_not.1 hhdl
  split
  · exact hforget _
  rename_i activeConn hconn
  split_ifs with hctx hcaps
  · exact hforget _
  · exact .refuse ⟨_, rfl⟩
  simp only [not_or] at hcaps
  have hact : activeConn = pend.context := by
    cases activeConn
    simp_all [SessionRequestHandle.context]
  rw [hact] at hconn
  exact .grant hpend hconn rfl rfl (by simpa using hcaps.2)

theorem rejectSession_effect :
    Effect p (.rejectSession handle (p.rejectSession handle).1) (p.rejectSession handle).2 := by
  unfold rejectSession
  split
  · exact .refuse trivial
  split_ifs
  · exact .refuse trivial
  · exact .forget (.inl ⟨handle, _, rfl⟩)

theorem revokeDevice_effect :
    Effect p (.revokeDevice device (p.revokeDevice device).1) (p.revokeDevice device).2 := by
  unfold revokeDevice
  split
  · next hpin =>
    rw [← Bool.not_eq_true, isPinned_iff] at hpin
    exact .refuse ⟨hpin, rfl⟩
  · next hpin =>
    rw [Bool.not_eq_false, isPinned_iff] at hpin
    exact .revoke hpin

end Methods

/-- Every call sweeps the policy and then has one of the effects. -/
theorem step_effect (call : AccessCall) :
    Effect ((accessMachine.step p call).1.sweep p) (accessMachine.step p call).1
      (accessMachine.step p call).2 := by
  cases call with
  | beginPairing device ttlNs nowNs entropy =>
    exact beginPairing_effect _ device ttlNs nowNs entropy
  | confirmPairing proof nowNs entropy => exact confirmPairing_effect p proof nowNs entropy
  | approvePairing handle nowNs => exact approvePairing_effect p handle nowNs
  | rejectPairing handle => exact rejectPairing_effect p handle
  | cancelPairing handle => exact cancelPairing_effect p handle
  | expirePairing nowNs | activeGrant nowNs | isAuthorized grant capability nowNs =>
    exact .refuse trivial
  | register device nowNs entropy => exact register_effect _ device nowNs entropy
  | closeConnection context => exact closeConnection_effect p context
  | requestSession context requested entropy =>
    exact requestSession_effect p context requested entropy
  | approveSession handle capabilities ttlNs nowNs =>
    exact approveSession_effect _ handle capabilities ttlNs nowNs
  | rejectSession handle => exact rejectSession_effect p handle
  | revokeActive => exact .close (.inl ⟨_, rfl⟩)
  | revokeDevice device => exact revokeDevice_effect p device

end LatencyDesk.Session.Authorization
