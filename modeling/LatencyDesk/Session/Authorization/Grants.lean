import LatencyDesk.Lib.Since
import LatencyDesk.Session.Authorization.Invariant

/-!
# The life of a grant

A grant lives from the `approve_session` that returned it to the first call
that ends it.  `Live` says this about a trace, and `active_iff_live` says that
the active session of the policy is the grant that lives.  The answer of
`is_authorized` is then a property of the trace and of its own arguments.

A grant that no longer lives stays dead.  `Spent` is the reason: the
connection of the grant is gone, and its epoch is below the counter, so no
later connection can have it.
-/

namespace LatencyDesk.Session.Authorization

open Lib HostAccessPolicy Option

variable {p p' : HostAccessPolicy} {e : AccessEvent} {grant : SessionAuthorization}
  {calls : List AccessCall} {call : AccessCall}

/-- The call is an `approve_session` that returned the grant. -/
def Approves (grant : SessionAuthorization) (e : AccessEvent) : Prop :=
  ∃ handle capabilities ttlNs nowNs, e = .approveSession handle capabilities ttlNs nowNs (.ok grant)

/-- The call takes the grant back, or replaces its connection. -/
def Revokes (grant : SessionAuthorization) : AccessEvent → Prop
  | .revokeActive _ => True
  | .revokeDevice device _ => device = grant.device
  | .closeConnection context _ => context = grant.context
  | .register _ _ (.ok _) => True
  | _ => False

/-- The call sweeps sessions at a time at or after the expiry of the grant. -/
def Expires (grant : SessionAuthorization) (e : AccessEvent) : Prop :=
  ∃ nowNs, e.sessionSweep = some nowNs ∧ grant.expiresAtNs ≤ nowNs

/-- The grant was approved, and no call has ended it since. -/
def Live (grant : SessionAuthorization) (h : AccessTrace) : Prop :=
  Since (fun st => ¬ Revokes grant st.event ∧ ¬ Expires grant st.event)
    (fun _ st => Approves grant st.event) h

/-! ## The active session across one call -/

theorem sweepPairing_session :
    (e.sweepPairing p).activeSession = p.activeSession ∧
      (e.sweepPairing p).activeConnection = p.activeConnection ∧
      (e.sweepPairing p).pendingSession = p.pendingSession := by
  rcases e.sweepPairing_cases p with ⟨heq, _⟩ | heq <;> simp [heq]

/-- A sweep keeps the active session exactly when it has not expired. -/
theorem sweep_active_iff :
    (e.sweep p).activeSession = some grant ↔ ¬ Expires grant e ∧ p.activeSession = some grant := by
  obtain ⟨hact, _⟩ := sweepPairing_session
  rcases e.sweep_cases p with ⟨heq, hlt⟩ | ⟨heq, nowNs, _, htime, hexp, hle⟩
  · rw [heq, hact]
    refine ⟨fun hgrant => ⟨?_, hgrant⟩, And.right⟩
    rintro ⟨nowNs, htime, hle⟩
    exact UInt64.not_le.2 (hlt nowNs grant htime (hact ▸ hgrant)) hle
  · rw [heq]
    refine ⟨by simp, ?_⟩
    rintro ⟨hkept, hgrant⟩
    rw [hact, hgrant] at hexp
    obtain rfl := some.inj hexp
    exact absurd ⟨nowNs, htime, hle⟩ hkept

/-- A call that only ends or starts a pairing, or only deals with a request,
leaves the active session alone. -/
theorem active_iff_of_quiet (happroves : ¬ Approves grant e) (hrevs : ¬ Revokes grant e) :
    p.activeSession = some grant ↔
      Approves grant e ∨ (¬ Revokes grant e ∧ p.activeSession = some grant) := by
  simp [happroves, hrevs]

/-- A call that changed nothing approved no grant, and it revoked none that
was active. -/
theorem Refused.active_iff (h : Coherent p) (href : Refused p e) :
    p.activeSession = some grant ↔
      Approves grant e ∨ (¬ Revokes grant e ∧ p.activeSession = some grant) := by
  have happroves : ¬ Approves grant e := by
    rintro ⟨_, _, _, _, rfl⟩
    obtain ⟨error, herror⟩ := href
    simp at herror
  have hrevs : p.activeSession = some grant → ¬ Revokes grant e := by
    intro hgrant hrevs
    have hconn := h.active grant hgrant
    cases e with
    | register _ _ res =>
      obtain ⟨_, rfl⟩ := href
      exact hrevs
    | closeConnection context =>
      have hctx : context = grant.context := hrevs
      exact href (hctx ▸ hconn)
    | revokeActive => exact href
    | revokeDevice dev =>
      have hdev : dev = grant.device := hrevs
      exact href.1 (hdev ▸ h.connection _ hconn)
    | _ => exact hrevs
  refine ⟨fun hgrant => .inr ⟨hrevs hgrant, hgrant⟩, ?_⟩
  rintro (happ | ⟨_, hgrant⟩)
  · exact absurd happ happroves
  · exact hgrant

/-- The active session after an effect is the grant that the call approved, or
the one from before if the call did not revoke it. -/
theorem Effect.active_iff (h : Coherent p) (heff : Effect p e p') :
    p'.activeSession = some grant ↔
      Approves grant e ∨ (¬ Revokes grant e ∧ p.activeSession = some grant) := by
  cases heff with
  | refuse href => exact href.active_iff h
  | @drop e hdrops =>
    refine active_iff_of_quiet (p := p) ?_ ?_
    · rintro ⟨_, _, _, _, rfl⟩
      exact hdrops
    · cases e <;> first | exact hdrops.elim | exact id
  | begin | confirm | request | spend => exact active_iff_of_quiet (by simp [Approves]) id
  | approve => exact active_iff_of_quiet (p := p) (by simp [Approves]) id
  | register => simp [Approves, Revokes]
  | close hev =>
    rcases hev with ⟨_, rfl⟩ | ⟨_, _, rfl, hconn⟩
    · simp [Approves, Revokes]
    refine ⟨by simp, ?_⟩
    rintro (⟨_, _, _, _, happ⟩ | ⟨hkept, hgrant⟩)
    · simp at happ
    · have hsame := hconn.symm.trans (h.active grant hgrant)
      exact absurd (some.inj hsame) hkept
  | @grant handle capabilities ttlNs nowNs authorization hpend =>
    have hnone : p.activeSession = none := by
      rcases h.exclusive with hnone | hnone
      · simp [hpend] at hnone
      · exact hnone
    simp [Approves, hnone]
  | forget hev =>
    rcases hev with ⟨_, _, rfl⟩ | ⟨_, _, _, _, _, rfl⟩
    all_goals exact active_iff_of_quiet (by simp [Approves]) id
  | revoke =>
    rw [ite_any_eq_some, beq_eq_false_iff_ne]
    constructor
    · rintro ⟨hgrant, hne⟩
      exact Or.inr ⟨Ne.symm hne, hgrant⟩
    · rintro (⟨_, _, _, _, happ⟩ | ⟨hne, hgrant⟩)
      · simp at happ
      · exact ⟨hgrant, Ne.symm hne⟩

/-- The active session after a call. -/
theorem step_active_iff (h : Coherent p) :
    (accessMachine.step p call).2.activeSession = some grant ↔
      Approves grant (accessMachine.step p call).1 ∨
        ((¬ Revokes grant (accessMachine.step p call).1 ∧
            ¬ Expires grant (accessMachine.step p call).1) ∧
          p.activeSession = some grant) := by
  rw [(step_effect p call).active_iff (h.sweep _), sweep_active_iff, and_assoc]

/-- The active session of a policy is the grant that lives. -/
theorem active_iff_live (hinitial : Initial p) :
    (accessMachine.run p calls).activeSession = some grant ↔
      Live grant (accessMachine.trace p calls) := by
  obtain ⟨hcoh, _, _, _, hnone⟩ := hinitial.coherent
  have hinit : p.activeSession = some grant ↔ Live grant [] := by
    rw [hnone]
    exact ⟨by simp, fun hlive => absurd hlive not_since_nil⟩
  refine (accessMachine.trace_induction (P := fun h p => Coherent p ∧
    (p.activeSession = some grant ↔ Live grant h)) ⟨hcoh, hinit⟩ ?_ calls).2
  intro h s call ⟨hs, hlive⟩
  refine ⟨hs.step call, ?_⟩
  rw [step_active_iff hs, hlive, Live, Live, since_snoc]
  rfl

/-! ## The request behind a grant -/

/-- The request was returned by an earlier `request_session` on its
connection. -/
def Requested (request : SessionRequestHandle) (h : AccessTrace) : Prop :=
  ∃ st ∈ h, st.event = .requestSession request.context request.requestedCapabilities (.ok request)

variable {request : SessionRequestHandle}

/-- A request that an effect leaves pending was pending before, or the call
returned it. -/
theorem Effect.pending (heff : Effect p e p') (hpend : p'.pendingSession = some request) :
    p.pendingSession = some request ∨
      e = .requestSession request.context request.requestedCapabilities (.ok request) := by
  cases heff with
  | request _ _ _ _ _ hctx hreqd =>
    obtain rfl := some.inj hpend
    exact .inr (by rw [hctx, hreqd])
  | register | close | grant | forget => simp at hpend
  | revoke =>
    rw [ite_any_eq_some] at hpend
    exact .inl hpend.1
  | _ => exact .inl hpend

theorem sweep_pending (hpend : (e.sweep p).pendingSession = some request) :
    p.pendingSession = some request := by
  rcases e.sweep_cases p with ⟨heq, _⟩ | ⟨heq, _⟩
  · rwa [heq, sweepPairing_session.2.2] at hpend
  · rw [heq] at hpend
    simp at hpend

/-- A pending request was returned by a `request_session` of the run. -/
theorem requested_of_pending (hinitial : Initial p)
    (hpend : (accessMachine.run p calls).pendingSession = some request) :
    Requested request (accessMachine.trace p calls) := by
  obtain ⟨_, _, _, hnone, _⟩ := hinitial.coherent
  refine accessMachine.trace_induction
    (P := fun h p => p.pendingSession = some request → Requested request h)
    (by simp [hnone]) ?_ calls hpend
  intro h s call ih hpost
  rcases (step_effect s call).pending hpost with hswept | hev
  · obtain ⟨st, hst, hreq⟩ := ih (sweep_pending hswept)
    exact ⟨st, List.mem_append_left _ hst, hreq⟩
  · exact ⟨accessMachine.stepAt s call, by simp, hev⟩

variable {capability : Capability}

/-- A set within another holds no capability that the other lacks. -/
theorem CapabilitySet.contains_of_isSubsetOf {set requested : CapabilitySet}
    (hsubset : set.isSubsetOf requested = true) (hcont : set.contains capability = true) :
    requested.contains capability = true := by
  simp only [isSubsetOf, contains, beq_iff_eq, bne_iff_ne] at *
  intro hnone
  apply hcont
  refine UInt8.toBitVec_inj.1 (BitVec.eq_of_getLsbD_eq ?_)
  intro i _
  have hset := congrArg (fun b => b.toBitVec.getLsbD i) hsubset
  have hreqd := congrArg (fun b => b.toBitVec.getLsbD i) hnone
  simp only [UInt8.toBitVec_and, UInt8.toBitVec_not] at *
  grind

variable {nowNs : UInt64}

/-- An approval answers the pending request, on its connection and with no
capability that was not requested. -/
theorem step_approves {handle : SessionRequestHandle}
    {capabilities : CapabilitySet} {ttlNs : UInt64} (hev : (accessMachine.step p call).1 =
      .approveSession handle capabilities ttlNs nowNs (.ok grant)) :
    p.pendingSession = some handle ∧ grant.context = handle.context ∧
      ∀ capability, grant.capabilities.contains capability = true →
        handle.requestedCapabilities.contains capability = true := by
  have heff := step_effect p call
  rw [hev] at heff
  generalize (accessMachine.step p call).2 = post at heff
  cases heff with
  | refuse href =>
    obtain ⟨_, herror⟩ := href
    simp at herror
  | drop hdrops => exact hdrops.elim
  | close hev | forget hev => simp at hev
  | grant hpend _ hctx hcaps hsubset =>
    refine ⟨sweep_pending hpend, hctx, ?_⟩
    rw [hcaps]
    intro capability hcont
    exact CapabilitySet.contains_of_isSubsetOf hsubset hcont

/-! ## A grant that has ended stays ended -/

/-- The connection of the grant is gone, and its epoch is used up. -/
def Spent (grant : SessionAuthorization) (p : HostAccessPolicy) : Prop :=
  grant.authorizationEpoch.value < p.nextEpoch ∧
    ∀ conn, p.activeConnection = some conn → conn.authorizationEpoch ≠ grant.authorizationEpoch

/-- The grant is the active session, or it never will be again. -/
def Used (grant : SessionAuthorization) (p : HostAccessPolicy) : Prop :=
  p.activeSession = some grant ∨ Spent grant p

theorem Used.epoch_lt (hused : Used grant p) (h : Coherent p) :
    grant.authorizationEpoch.value < p.nextEpoch := by
  rcases hused with hgrant | hspent
  · exact h.issued grant.context (h.active grant hgrant)
  · exact hspent.1

theorem Spent.not_active (hspent : Spent grant p) (h : Coherent p) :
    p.activeSession ≠ some grant := by
  intro hgrant
  exact hspent.2 grant.context (h.active grant hgrant) rfl

/-- A new connection takes the epoch of the counter, which is above the epoch
of the grant. -/
theorem spent_of_registered {next : UInt32} {context : ConnectionContext}
    (hlt : grant.authorizationEpoch.value < p.nextEpoch)
    (hnext : next.toNat = p.nextEpoch.toNat + 1)
    (hep : context.authorizationEpoch = ⟨p.nextEpoch⟩) :
    Spent grant
      { p with
        nextEpoch := next
        pendingSession := none
        activeSession := none
        activeConnection := some context } := by
  rw [UInt32.lt_iff_toNat_lt] at hlt
  refine ⟨UInt32.lt_iff_toNat_lt.2 ?_, ?_⟩
  · dsimp only
    omega
  · intro conn hconn hsame
    obtain rfl := some.inj hconn
    rw [← hsame, hep] at hlt
    exact Nat.lt_irrefl _ hlt

theorem Spent.effect (hspent : Spent grant p) (heff : Effect p e p') : Spent grant p' := by
  cases heff with
  | register _ _ hnext _ hep => exact spent_of_registered hspent.1 hnext hep
  | close => exact ⟨hspent.1, by simp⟩
  | revoke =>
    refine ⟨hspent.1, ?_⟩
    intro conn hconn
    rw [ite_any_eq_some] at hconn
    exact hspent.2 conn hconn.1
  | _ => exact hspent

theorem Used.effect (hused : Used grant p) (h : Coherent p) (heff : Effect p e p') :
    Used grant p' := by
  have hlt := hused.epoch_lt h
  rcases hused with hgrant | hspent
  swap
  · exact .inr (hspent.effect heff)
  cases heff with
  | register _ _ hnext _ hep => exact .inr (spent_of_registered hlt hnext hep)
  | close => exact .inr ⟨hlt, by simp⟩
  | grant hpend =>
    rcases h.exclusive with hnone | hnone
    · simp [hpend] at hnone
    · simp [hgrant] at hnone
  | @revoke dev =>
    by_cases hdev : grant.device = dev
    · refine .inr ⟨hlt, ?_⟩
      intro conn hconn
      rw [ite_any_eq_some, beq_eq_false_iff_ne] at hconn
      have hsame := (h.active grant hgrant).symm.trans hconn.1
      exact absurd (some.inj hsame ▸ hdev) hconn.2
    · left
      rw [ite_any_eq_some, beq_eq_false_iff_ne]
      exact ⟨hgrant, hdev⟩
  | _ => exact .inl hgrant

/-- A sweep ends the session with its connection, or touches neither. -/
theorem Spent.sweep (hspent : Spent grant p) (e : AccessEvent) : Spent grant (e.sweep p) := by
  obtain ⟨_, hep, _⟩ := e.sweep_frame p
  refine ⟨hep ▸ hspent.1, ?_⟩
  rcases e.sweep_cases p with ⟨heq, _⟩ | ⟨heq, _⟩
  · rw [heq, sweepPairing_session.2.1]
    exact hspent.2
  · rw [heq]
    simp

theorem Used.sweep (hused : Used grant p) (h : Coherent p) :
    Used grant (e.sweep p) := by
  have hlt := hused.epoch_lt h
  rcases hused with hgrant | hspent
  swap
  · exact .inr (hspent.sweep e)
  rcases e.sweep_cases p with ⟨heq, _⟩ | ⟨heq, _⟩
  · left
    rw [heq, sweepPairing_session.1]
    exact hgrant
  · refine .inr ⟨(e.sweep_frame p).2.1 ▸ hlt, ?_⟩
    rw [heq]
    simp

theorem Spent.step (hspent : Spent grant p) (call : AccessCall) :
    Spent grant (accessMachine.step p call).2 :=
  (hspent.sweep _).effect (step_effect p call)

theorem Used.step (hused : Used grant p) (h : Coherent p) (call : AccessCall) :
    Used grant (accessMachine.step p call).2 :=
  (hused.sweep h).effect (h.sweep _) (step_effect p call)

/-- A grant that some call of the run approved is used. -/
theorem used_of_approved (hcoh : Coherent p)
    (happroved : ∃ st ∈ accessMachine.trace p calls, Approves grant st.event) :
    Used grant (accessMachine.run p calls) := by
  refine (accessMachine.trace_induction (P := fun h p => Coherent p ∧
    ((∃ st ∈ h, Approves grant st.event) → Used grant p)) ⟨hcoh, by simp⟩ ?_ calls).2
    happroved
  intro h s call ⟨hs, ih⟩
  refine ⟨hs.step call, ?_⟩
  rintro ⟨st, hst, happroves⟩
  rw [List.mem_append, List.mem_singleton] at hst
  rcases hst with hst | rfl
  · exact (ih ⟨st, hst, happroves⟩).step hs call
  · exact .inl ((step_active_iff hs).2 (.inl happroves))

/-- A spent grant stays spent. -/
theorem Spent.run (hspent : Spent grant p) (calls : List AccessCall) :
    Spent grant (accessMachine.run p calls) :=
  accessMachine.run_induction hspent (fun _ call hs => hs.step call) calls

/-! ## `is_authorized` -/

/-- `is_authorized` compares the grant with the active session.  The
connection it also compares is the one of the active session. -/
theorem Coherent.isAuthorized_iff (h : Coherent p) :
    (p.isAuthorized grant capability nowNs).1 = true ↔
      p.activeSession = some grant ∧ grant.capabilities.contains capability = true ∧
        nowNs < grant.expiresAtNs := by
  simp only [isAuthorized, activeGrant]
  rcases expireActive_cases p nowNs with ⟨heq, hlt⟩ | ⟨heq, _, hexp, hle⟩
  · rw [heq]
    cases hact : p.activeSession with
    | none => simp
    | some active =>
      have hconn := h.active active hact
      have htime := hlt active hact
      rw [hconn]
      simp only [any_some, Bool.and_eq_true, beq_iff_eq, some.injEq]
      constructor
      · rintro ⟨⟨rfl, hcont⟩, _⟩
        exact ⟨rfl, hcont, htime⟩
      · rintro ⟨rfl, hcont, _⟩
        exact ⟨⟨rfl, hcont⟩, ⟨rfl, rfl⟩, rfl⟩
  · rw [heq]
    refine ⟨by simp, ?_⟩
    rintro ⟨hgrant, _, htime⟩
    rw [hexp] at hgrant
    obtain rfl := some.inj hgrant
    exact absurd hle (UInt64.not_le.2 htime)

/-- A grant that some call approved, and for which `is_authorized` then fails
although the grant holds the capability, is spent after that call. -/
theorem Used.spent_of_isAuthorized (hused : Used grant p) (h : Coherent p)
    (hcont : grant.capabilities.contains capability = true)
    (hfalse : (p.isAuthorized grant capability nowNs).1 = false) :
    Spent grant (accessMachine.step p (.isAuthorized grant capability nowNs)).2 := by
  have hnot : ¬ (p.activeSession = some grant ∧ nowNs < grant.expiresAtNs) := by
    rintro ⟨hgrant, htime⟩
    have htrue := h.isAuthorized_iff.2 ⟨hgrant, hcont, htime⟩
    simp [hfalse] at htrue
  rcases hused.step h (.isAuthorized grant capability nowNs) with hgrant | hspent
  · rcases (step_active_iff h).1 hgrant with ⟨_, _, _, _, happ⟩ | ⟨⟨_, hkept⟩, hact⟩
    · simp [accessMachine, record] at happ
    refine absurd ⟨hact, ?_⟩ hnot
    by_contra htime
    exact hkept ⟨nowNs, rfl, UInt64.not_lt.1 htime⟩
  · exact hspent

/-- The answer of `is_authorized` after a run, from the trace of the run.

* It is true exactly for a live grant, one of its capabilities and a time
  before its expiry.
* Every approval answers an earlier request on the connection of the grant,
  and grants no capability that the request did not name.
* Once a grant has failed for one of its capabilities it fails for ever. -/
theorem isAuthorized_iff_live (hinitial : Initial p) (calls : List AccessCall) :
    (∀ grant capability nowNs,
      ((accessMachine.run p calls).isAuthorized grant capability nowNs).1 = true ↔
        Live grant (accessMachine.trace p calls) ∧
          grant.capabilities.contains capability = true ∧ nowNs < grant.expiresAtNs) ∧
    (∀ before st after grant handle capabilities ttlNs nowNs,
      accessMachine.trace p calls = before ++ st :: after →
      st.event = .approveSession handle capabilities ttlNs nowNs (.ok grant) →
        grant.context = handle.context ∧ Requested handle before ∧
          ∀ capability, grant.capabilities.contains capability = true →
            handle.requestedCapabilities.contains capability = true) ∧
    (∀ grant capability nowNs,
      (∃ st ∈ accessMachine.trace p calls, Approves grant st.event) →
      grant.capabilities.contains capability = true →
      ((accessMachine.run p calls).isAuthorized grant capability nowNs).1 = false →
      ∀ later capability' nowNs',
        ((accessMachine.run p
          (calls ++ .isAuthorized grant capability nowNs :: later)).isAuthorized grant
            capability' nowNs').1 = false) := by
  have hcoh : ∀ calls, Coherent (accessMachine.run p calls) := hinitial.coherent.1.run
  refine ⟨?_, ?_, ?_⟩
  · intro grant capability nowNs
    rw [(hcoh calls).isAuthorized_iff, active_iff_live hinitial]
  · intro before st after grant handle capabilities ttlNs nowNs htrace hev
    obtain ⟨before', _, _, rfl, rfl, rfl, _⟩ :=
      accessMachine.trace_eq_append_cons htrace
    obtain ⟨hpend, hctx, hcaps⟩ := step_approves hev
    exact ⟨hctx, requested_of_pending hinitial hpend, hcaps⟩
  · intro grant capability nowNs happroved hcont hfalse later capability' nowNs'
    have hused := used_of_approved hinitial.coherent.1 happroved
    have hspent := (hused.spent_of_isAuthorized (hcoh calls) hcont hfalse).run later
    rw [← Machine.run_cons, ← Machine.run_append] at hspent
    rw [← Bool.not_eq_true, (hcoh _).isAuthorized_iff]
    exact fun hauthd => hspent.not_active (hcoh _) hauthd.1

/-- The sample grant lives until it is revoked.  A query after its expiry ends
it too, and a later query with an earlier time finds it ended. -/
theorem sample_isAuthorized_iff_live :
    Live sampleGrant (accessMachine.trace .default sampleSessionCalls) ∧
      ¬ Live sampleGrant (accessMachine.trace .default (sampleSessionCalls ++ [.revokeActive])) ∧
      ((accessMachine.run .default
        (sampleSessionCalls ++ [.isAuthorized sampleGrant .view 2000])).isAuthorized sampleGrant
          .view 60).1 = false := by
  have h := isAuthorized_iff_live (.inl rfl) sampleSessionCalls
  have hrev := isAuthorized_iff_live (.inl rfl) (sampleSessionCalls ++ [.revokeActive])
  have hlive := ((h.1 sampleGrant .view 60).1 (by decide +kernel)).1
  refine ⟨hlive, ?_, ?_⟩
  · intro hlive'
    exact absurd ((hrev.1 sampleGrant .view 60).2 ⟨hlive', by decide, by decide⟩)
      (by decide +kernel)
  · obtain ⟨_, st, _, heq, happroves, _⟩ := hlive
    exact h.2.2 sampleGrant .view 2000 ⟨st, by simp [heq], happroves⟩ (by decide)
      (by decide +kernel) [] .view 60

end LatencyDesk.Session.Authorization
