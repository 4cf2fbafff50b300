import LatencyDesk.Session.RouteTransition.Step

/-!
# When a health failure revokes the committed route

A health failure of a committed route ends in one of three ways.  Without a
proof of the previous route the authority is revoked.  With one,
`begin_verified_rollback` revokes it too, when it issues a rollback token and
when the route epoch is exhausted.  Its two other exits, an exhausted sequence
and an overflowing deadline, return the error and leave the controller as it
was, so the failed route stays accepted.  `RollbackStalls` is the condition
of those two exits, and `health_failure_revokes_iff` says that nothing else
keeps the route.
-/

namespace LatencyDesk.Session.RouteTransition

open Lib Protocol RouteTransitionController Sha256

/-- The call is a health failure of the route that `token` committed: an
unhealthy note for it, or a tick or a healthy note at or after the stability
deadline whose candidate proof is incomplete or of another transcript. -/
def FailsRoute (token : PromotionToken) (stableAtNs : UInt64) : RouteCall → Prop
  | .noteUnhealthy sequence _ _ => sequence = token.sequence
  | .tick nowNs candidateProof _ =>
    stableAtNs ≤ nowNs ∧ provesTranscript candidateProof token.transcriptDigest = false
  | .noteHealthy _ nowNs candidateProof _ =>
    stableAtNs ≤ nowNs ∧ provesTranscript candidateProof token.transcriptDigest = false
  | _ => False

/-- The previous route is proved and a further epoch exists, but the sequence
is exhausted or the deadline of the rollback token overflows. -/
def RollbackStalls (c : RouteTransitionController) (digest : Bytes 32) (nowNs : UInt64)
    (previousProof : RouteProof) : Prop :=
  provesTranscript previousProof digest = true ∧ c.stamp.routeEpoch.toNat + 1 < 2 ^ 64 ∧
    (2 ^ 64 ≤ c.nextSequence.toNat + 1 ∨ 2 ^ 64 ≤ nowNs.toNat + c.prepareTimeoutNs.toNat)

/-- The condition under which a health failure revokes: its rollback does not
stall, and a healthy note names the committed sequence. -/
def RevokesRoute (c : RouteTransitionController) (token : PromotionToken) (digest : Bytes 32) :
    RouteCall → Prop
  | .noteUnhealthy _ nowNs previousProof => ¬ RollbackStalls c digest nowNs previousProof
  | .tick nowNs _ previousProof => ¬ RollbackStalls c digest nowNs previousProof
  | .noteHealthy sequence nowNs _ previousProof =>
    sequence = token.sequence ∧ ¬ RollbackStalls c digest nowNs previousProof
  | _ => False

/-! ## The committed route is the active one -/

/-- A committed controller holds the authority for the route of its token. -/
def CommittedActive (c : RouteTransitionController) : Prop :=
  ∀ token previous digest stableAtNs, c.state = .committed token previous digest stableAtNs →
    c.activeAuthority = true ∧ c.active = token.route

theorem Effect.committedActive {c c' : RouteTransitionController} {e : RouteEvent}
    (heff : Effect c e c') (h : CommittedActive c) : CommittedActive c' := by
  cases heff with
  | idle => exact h
  | expire | begin | prepare | settle | rollback | revoke => simp [CommittedActive]
  | commit =>
    intro token previous digest stableAtNs hstate
    obtain ⟨rfl, _⟩ := TransitionState.committed.inj hstate
    exact ⟨rfl, rfl⟩

theorem committedActive_run {sha256 : Sha256} {stamp : SessionStamp} {active : ConnectionPath}
    {proof : RouteProof} {prepareTimeoutNs stabilityWindowNs : UInt64}
    {c : RouteTransitionController}
    (hnew : new stamp active proof prepareTimeoutNs stabilityWindowNs = .ok c)
    {calls : List RouteCall} : CommittedActive ((routeMachine sha256).run c calls) := by
  refine (routeMachine sha256).run_induction ?_
    (fun s call hs => (step_effect sha256 s call).committedActive hs) calls
  intro token previous digest stableAtNs hstate
  rw [(new_eq_ok hnew).1] at hstate
  simp at hstate

/-! ## The exits of a rollback attempt -/

section Exits

variable (sha256 : Sha256) {c : RouteTransitionController}

variable {digest : Bytes 32} {nowNs : UInt64} {previousProof : RouteProof}

/-- A stalled rollback leaves the controller as it was. -/
theorem beginVerifiedRollback_of_stalls (hstalls : RollbackStalls c digest nowNs previousProof)
    (previous : ConnectionPath) :
    (beginVerifiedRollback sha256 c previous digest nowNs).2 = c := by
  obtain ⟨_, hep, hlimit⟩ := hstalls
  have hone : (1 : UInt64).toNat = 1 := rfl
  unfold beginVerifiedRollback
  split
  · rename_i hnone
    rw [checkedAdd_eq_none] at hnone
    omega
  split
  · rfl
  rename_i seq hseq
  rw [checkedAdd_eq_some] at hseq
  have hlt := UInt64.toNat_lt seq
  split
  · rfl
  rename_i expiresAtNs hexp
  rw [checkedAdd_eq_some] at hexp
  have hlt' := UInt64.toNat_lt expiresAtNs
  omega

/-- Every other exit of a rollback revokes the authority. -/
theorem beginVerifiedRollback_revokes (hproves : provesTranscript previousProof digest = true)
    (hnot : ¬ RollbackStalls c digest nowNs previousProof) (previous : ConnectionPath) :
    (beginVerifiedRollback sha256 c previous digest nowNs).2.activeAuthority = false := by
  have hone : (1 : UInt64).toNat = 1 := rfl
  unfold beginVerifiedRollback
  split
  · rfl
  rename_i epoch hep
  rw [checkedAdd_eq_some] at hep
  have hlt := UInt64.toNat_lt epoch
  split
  · rename_i hseq
    rw [checkedAdd_eq_none] at hseq
    exact absurd ⟨hproves, by omega, .inl hseq⟩ hnot
  · split
    · rename_i hexp
      rw [checkedAdd_eq_none] at hexp
      exact absurd ⟨hproves, by omega, .inr hexp⟩ hnot
    · rfl

variable {token : PromotionToken} {previous : ConnectionPath} {stableAtNs : UInt64}
  (hstate : c.state = .committed token previous digest stableAtNs)

/-- The end of a health failure: a rollback where the previous route is proved, and no authority
where it is not. -/
theorem failed_of_rollback (previous : ConnectionPath) {after : RouteTransitionController}
    (hafter : provesTranscript previousProof digest = true →
      after = (beginVerifiedRollback sha256 c previous digest nowNs).2)
    (hrev : ¬provesTranscript previousProof digest = true → after.activeAuthority = false) :
    (RollbackStalls c digest nowNs previousProof → after = c) ∧
    (¬ RollbackStalls c digest nowNs previousProof → after.activeAuthority = false) := by
  constructor
  · intro hstalls
    rw [hafter hstalls.1]
    exact beginVerifiedRollback_of_stalls sha256 hstalls previous
  · intro hnot
    by_cases hproves : provesTranscript previousProof digest = true
    · rw [hafter hproves]
      exact beginVerifiedRollback_revokes sha256 hproves hnot previous
    · exact hrev hproves

include hstate in
/-- `settle_committed` with a bad candidate proof revokes unless it stalls. -/
theorem settleCommitted_failed {candidateProof : RouteProof} (nowNs : UInt64)
    (previousProof : RouteProof)
    (hcand : provesTranscript candidateProof token.transcriptDigest = false) :
    (RollbackStalls c digest nowNs previousProof →
      (settleCommitted sha256 c nowNs candidateProof previousProof).2 = c) ∧
    (¬ RollbackStalls c digest nowNs previousProof →
      (settleCommitted sha256 c nowNs candidateProof previousProof).2.activeAuthority = false) := by
  refine failed_of_rollback sha256 previous (fun hproves => ?_) fun hproves => ?_
  · simp only [settleCommitted, hstate, hcand, hproves]
    cases beginVerifiedRollback sha256 c previous digest nowNs with
    | mk res after => cases res <;> rfl
  · simp [settleCommitted, hstate, hcand, hproves]

include hstate in
/-- `note_unhealthy` for the committed sequence revokes unless it stalls. -/
theorem noteUnhealthy_failed (nowNs : UInt64) (previousProof : RouteProof) :
    (RollbackStalls c digest nowNs previousProof →
      (noteUnhealthy sha256 c token.sequence nowNs previousProof).2 = c) ∧
    (¬ RollbackStalls c digest nowNs previousProof →
      (noteUnhealthy sha256 c token.sequence nowNs previousProof).2.activeAuthority = false) := by
  refine failed_of_rollback sha256 previous (fun hproves => ?_) fun hproves => ?_
  all_goals simp [noteUnhealthy, hstate, hproves]

include hstate in
/-- One health failure: either the controller stays as it was, or the
authority is gone. -/
theorem step_failed {call : RouteCall} (hfails : FailsRoute token stableAtNs call) :
    (¬ RevokesRoute c token digest call → ((routeMachine sha256).step c call).2 = c) ∧
    (RevokesRoute c token digest call →
      ((routeMachine sha256).step c call).2.activeAuthority = false) := by
  cases call with
  | begin | peerPrepared | commit => exact hfails.elim
  | noteUnhealthy seq nowNs previousProof =>
    obtain rfl : seq = token.sequence := hfails
    obtain ⟨hkeep, hrevoke⟩ := noteUnhealthy_failed sha256 hstate nowNs previousProof
    exact ⟨fun hnot => hkeep (not_not.1 hnot), hrevoke⟩
  | tick nowNs candidateProof previousProof =>
    obtain ⟨htime, hcand⟩ := hfails
    obtain ⟨hkeep, hrevoke⟩ := settleCommitted_failed sha256 hstate nowNs previousProof hcand
    have htick : tick sha256 c nowNs candidateProof previousProof =
        settleCommitted sha256 c nowNs candidateProof previousProof := by
      simp [tick, hstate, htime]
    rw [show (routeMachine sha256).step c (.tick ..) = record _ (tick ..) from rfl, htick]
    exact ⟨fun hnot => hkeep (not_not.1 hnot), hrevoke⟩
  | noteHealthy seq nowNs candidateProof previousProof =>
    obtain ⟨htime, hcand⟩ := hfails
    obtain ⟨hkeep, hrevoke⟩ := settleCommitted_failed sha256 hstate nowNs previousProof hcand
    rw [show (routeMachine sha256).step c (.noteHealthy ..) = record _ (noteHealthy ..) from rfl]
    by_cases hseq : seq = token.sequence
    · have hnote : noteHealthy sha256 c seq nowNs candidateProof previousProof =
          settleCommitted sha256 c nowNs candidateProof previousProof := by
        simp [noteHealthy, hstate, hseq, htime]
      rw [hnote]
      exact ⟨fun hnot => hkeep (not_not.1 fun h => hnot ⟨hseq, h⟩), fun hrevs => hrevoke hrevs.2⟩
    · have hnote : noteHealthy sha256 c seq nowNs candidateProof previousProof =
          (.error .tokenMismatch, c) := by
        simp [noteHealthy, hstate, hseq]
      rw [hnote]
      exact ⟨fun _ => rfl, fun hrevs => absurd hrevs.1 hseq⟩

end Exits

/-- A health failure of the committed route revokes it exactly when its
rollback does not stall. -/
theorem health_failure_revokes_iff (sha256 : Sha256) {stamp : SessionStamp}
    {active : ConnectionPath} {proof : RouteProof}
    {prepareTimeoutNs stabilityWindowNs : UInt64} {c₀ : RouteTransitionController}
    (hnew : new stamp active proof prepareTimeoutNs stabilityWindowNs = .ok c₀)
    (calls : List RouteCall) {token : PromotionToken} {previous : ConnectionPath}
    {digest : Bytes 32} {stableAtNs : UInt64}
    (hstate : ((routeMachine sha256).run c₀ calls).state =
      .committed token previous digest stableAtNs)
    {call : RouteCall} (hfails : FailsRoute token stableAtNs call) :
    ((routeMachine sha256).run c₀ (calls ++ [call])).acceptsApplicationRoute
        ((routeMachine sha256).run c₀ calls).stamp.routeEpoch token.route = false ↔
      RevokesRoute ((routeMachine sha256).run c₀ calls) token digest call := by
  obtain ⟨hauthy, hact⟩ :=
    committedActive_run hnew token previous digest stableAtNs hstate
  obtain ⟨hkeep, hrevoke⟩ := step_failed sha256 hstate hfails
  rw [Machine.run_snoc]
  constructor
  · intro hrejected
    by_contra hnot
    rw [hkeep hnot] at hrejected
    simp [acceptsApplicationRoute, hauthy, hact] at hrejected
  · intro hrevs
    simp [acceptsApplicationRoute, hrevoke hrevs]

/-- An unhealthy note in time revokes the sample route. -/
theorem health_failure_revokes_sample :
    ((routeMachine hash).run sampleController
      (samplePromotion ++ [.commit sampleToken 3] ++
        [.noteUnhealthy 1 4 sampleProof])).acceptsApplicationRoute
          ((routeMachine hash).run sampleController
            (samplePromotion ++ [.commit sampleToken 3])).stamp.routeEpoch
          sampleToken.route = false := by
  have hstate : ((routeMachine hash).run sampleController
      (samplePromotion ++ [.commit sampleToken 3])).state =
        .committed sampleToken sampleRelay (List.Vector.replicate 32 0xA5) 53 := by
    decide +kernel
  have hfails : FailsRoute sampleToken 53 (.noteUnhealthy 1 4 sampleProof) := rfl
  refine (health_failure_revokes_iff hash sampleController_new _ hstate hfails).2 ?_
  unfold RevokesRoute RollbackStalls
  decide +kernel

/-- An unhealthy note at the end of the clock returns `TimeOverflow`, and the
failed route is still accepted. -/
theorem clock_overflow_keeps_failed_route :
    ((routeMachine hash).run sampleController
        (samplePromotion ++ [.commit sampleToken 3])).state =
      .committed sampleToken sampleRelay (List.Vector.replicate 32 0xA5) 53 ∧
    FailsRoute sampleToken 53 (.noteUnhealthy 1 0xFFFFFFFFFFFFFFFF sampleProof) ∧
    (noteUnhealthy hash
      ((routeMachine hash).run sampleController
        (samplePromotion ++ [.commit sampleToken 3])) 1 0xFFFFFFFFFFFFFFFF sampleProof).1 =
      .error .timeOverflow ∧
    ¬ ((routeMachine hash).run sampleController
      (samplePromotion ++ [.commit sampleToken 3] ++
        [.noteUnhealthy 1 0xFFFFFFFFFFFFFFFF sampleProof])).acceptsApplicationRoute 2
          sampleToken.route = false := by
  refine ⟨by decide +kernel, rfl, by decide +kernel, by decide +kernel⟩

end LatencyDesk.Session.RouteTransition
