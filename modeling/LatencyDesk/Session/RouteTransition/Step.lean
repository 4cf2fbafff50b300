import LatencyDesk.Session.RouteTransition.Model

/-!
# What one call can do to the controller

`Effect c e c'` lists the eight ways in which a call that leaves the event `e`
can move the controller from `c` to `c'`, each with the guards that the code
checked.  `step_effect` says that every call has one of them.  The modules
above read a step through `Effect` and never unfold a method again.

`Numbered` is the numbering invariant of a controller that `new` built: the
token that a state holds is the last one that was issued.
-/

namespace LatencyDesk.Session.RouteTransition

open Lib Protocol RouteTransitionController TransitionState

/-! ## What an event tells -/

namespace RouteEvent

/-- The token that the call issued, by a begin or by a rollback. -/
def issued : RouteEvent → Option PromotionToken
  | .begin _ _ _ (.ok token) => some token
  | .noteHealthy _ _ _ _ (.ok (.rollbackRequired token)) => some token
  | .noteUnhealthy _ _ _ (.ok token) => some token
  | .tick _ _ _ (.ok (.rollbackRequired token)) => some token
  | _ => none

/-- The token and the switch of a commit that returned `Ok`. -/
def committed : RouteEvent → Option (PromotionToken × RouteSwitch)
  | .commit token _ (.ok switch) => some (token, switch)
  | _ => none

/-- The proof of the previous route that a health call was given. -/
def previousProof : RouteEvent → Option RouteProof
  | .noteHealthy _ _ _ proof _ => some proof
  | .noteUnhealthy _ _ proof _ => some proof
  | .tick _ _ proof _ => some proof
  | _ => none

/-- A health call returned a rollback token or `NoVerifiedRoute`. -/
def healthFailed : RouteEvent → Bool
  | .noteHealthy _ _ _ _ (.ok (.rollbackRequired _)) => true
  | .noteHealthy _ _ _ _ (.error .noVerifiedRoute) => true
  | .noteUnhealthy _ _ _ (.ok _) => true
  | .noteUnhealthy _ _ _ (.error .noVerifiedRoute) => true
  | .tick _ _ _ (.ok (.rollbackRequired _)) => true
  | .tick _ _ _ (.error .noVerifiedRoute) => true
  | _ => false

/-- The call issued nothing, committed nothing and did not fail a route. -/
def Quiet (e : RouteEvent) : Prop :=
  e.issued = none ∧ e.committed = none ∧ e.healthFailed = false

end RouteEvent

/-! ## The effects -/

/-- The ways in which one call can move the controller. -/
inductive Effect (c : RouteTransitionController) :
    RouteEvent → RouteTransitionController → Prop where
  /-- Refused, or nothing to do. -/
  | idle {e : RouteEvent} (hquiet : e.Quiet) : Effect c e c
  /-- The pending token passed its deadline. -/
  | expire {e : RouteEvent} {token : PromotionToken} {previous : ConnectionPath}
      (hquiet : e.Quiet)
      (hstate : c.state = .probing token previous ∨ c.state = .prepared token previous) :
      Effect c e { c with state := .stable }
  | begin {candidate : ConnectionPath} {proof : RouteProof} {nowNs : UInt64}
      {token : PromotionToken} (hauthority : c.activeAuthority = true)
      (hstate : c.state = .stable) (hvalid : validPath candidate = true)
      (hcomplete : proof.isComplete = true)
      (hsequence : token.sequence.toNat = c.nextSequence.toNat + 1)
      (hroute : token.route = candidate) (hbase : token.baseRouteEpoch = c.stamp.routeEpoch) :
      Effect c (.begin candidate proof nowNs (.ok token))
        { c with nextSequence := token.sequence, state := .probing token c.active }
  | prepare {token : PromotionToken} {previous : ConnectionPath} {nowNs : UInt64}
      (hstate : c.state = .probing token previous) (htime : nowNs < token.expiresAtNs) :
      Effect c (.peerPrepared token nowNs (.ok ())) { c with state := .prepared token previous }
  | commit {token : PromotionToken} {previous : ConnectionPath}
      {nowNs stableAtNs routeEpoch : UInt64} (hstate : c.state = .prepared token previous)
      (htime : nowNs < token.expiresAtNs)
      (hepoch : routeEpoch.toNat = c.stamp.routeEpoch.toNat + 1) :
      Effect c
        (.commit token nowNs (.ok
          { sequence := token.sequence
            routeEpoch := routeEpoch
            stamp := { c.stamp with routeEpoch := routeEpoch }
            fromRoute := previous
            toRoute := token.route }))
        { c with
          stamp := { c.stamp with routeEpoch := routeEpoch }
          activeTranscriptDigest := token.transcriptDigest
          active := token.route
          activeAuthority := true
          state := .committed token previous c.activeTranscriptDigest stableAtNs }
  /-- The stability window ended with a good candidate proof. -/
  | settle {e : RouteEvent} {token : PromotionToken} {previous : ConnectionPath}
      {digest : Bytes 32} {stableAtNs : UInt64} (hquiet : e.Quiet)
      (hstate : c.state = .committed token previous digest stableAtNs) :
      Effect c e { c with activeAuthority := true, state := .stable }
  | rollback {e : RouteEvent} {token rollback : PromotionToken} {previous : ConnectionPath}
      {digest : Bytes 32} {stableAtNs : UInt64} {proof : RouteProof}
      (hstate : c.state = .committed token previous digest stableAtNs)
      (hissued : e.issued = some rollback) (hcommitted : e.committed = none)
      (hfailed : e.healthFailed = true) (hproof : e.previousProof = some proof)
      (hproves : provesTranscript proof digest = true) (hroute : rollback.route = previous)
      (hsequence : rollback.sequence.toNat = c.nextSequence.toNat + 1)
      (hbase : rollback.baseRouteEpoch = c.stamp.routeEpoch) :
      Effect c e
        { c with
          nextSequence := rollback.sequence
          activeAuthority := false
          state := .probing rollback c.active }
  /-- The route failed and no rollback could be issued. -/
  | revoke {e : RouteEvent} {token : PromotionToken} {previous : ConnectionPath}
      {digest : Bytes 32} {stableAtNs : UInt64}
      (hstate : c.state = .committed token previous digest stableAtNs)
      (hissued : e.issued = none) (hcommitted : e.committed = none) :
      Effect c e { c with activeAuthority := false, state := .stable }

section Methods

variable (sha256 : Sha256) (c : RouteTransitionController)

theorem begin_effect (cand : ConnectionPath) (proof : RouteProof) (nowNs : UInt64) :
    Effect c (.begin cand proof nowNs (begin sha256 c cand proof nowNs).1)
      (begin sha256 c cand proof nowNs).2 := by
  unfold begin
  split_ifs with hauthy hstate hsame hval hdone
  iterate 5 exact .idle ⟨rfl, rfl, rfl⟩
  split
  · exact .idle ⟨rfl, rfl, rfl⟩
  next sequence hseq =>
  rw [checkedAdd_eq_some] at hseq
  split
  · exact .idle ⟨rfl, rfl, rfl⟩
  · exact .begin (by simpa using hauthy) (not_not.1 hstate) (by simpa using hval)
      (by simpa using hdone) hseq rfl rfl

variable (token : PromotionToken) (nowNs : UInt64)

theorem peerPrepared_effect :
    Effect c (.peerPrepared token nowNs (peerPrepared c token nowNs).1)
      (peerPrepared c token nowNs).2 := by
  unfold peerPrepared
  split
  · rename_i expected prev hstate
    split_ifs with htok htime
    · exact .idle ⟨rfl, rfl, rfl⟩
    · exact .expire ⟨rfl, rfl, rfl⟩ (.inl hstate)
    · obtain rfl := not_not.1 htok
      exact .prepare hstate (UInt64.not_le.1 htime)
  · exact .idle ⟨rfl, rfl, rfl⟩

theorem commit_effect :
    Effect c (.commit token nowNs (commit c token nowNs).1) (commit c token nowNs).2 := by
  unfold commit
  split
  · rename_i expected prev hstate
    split_ifs with htok htime
    · exact .idle ⟨rfl, rfl, rfl⟩
    · exact .expire ⟨rfl, rfl, rfl⟩ (.inr hstate)
    obtain rfl := not_not.1 htok
    iterate 2
      split
      · exact .idle ⟨rfl, rfl, rfl⟩
    next routeEpoch hep =>
    rw [checkedAdd_eq_some] at hep
    exact .commit hstate (UInt64.not_le.1 htime) hep
  · exact .idle ⟨rfl, rfl, rfl⟩

/-- The three ends of a rollback attempt.  It revokes the authority when the
route epoch is exhausted, changes nothing when the sequence or the clock is,
and issues a token otherwise. -/
theorem beginVerifiedRollback_cases (prev : ConnectionPath) (digest : Bytes 32)
    (nowNs : UInt64) :
    (∃ e, beginVerifiedRollback sha256 c prev digest nowNs =
        (.error e, { c with activeAuthority := false, state := .stable })) ∨
      (∃ e, e ≠ .noVerifiedRoute ∧
        beginVerifiedRollback sha256 c prev digest nowNs = (.error e, c)) ∨
      ∃ token,
        beginVerifiedRollback sha256 c prev digest nowNs =
          (.ok token, { c with
            nextSequence := token.sequence
            activeAuthority := false
            state := .probing token c.active }) ∧
        token.route = prev ∧ token.sequence.toNat = c.nextSequence.toNat + 1 ∧
        token.baseRouteEpoch = c.stamp.routeEpoch := by
  unfold beginVerifiedRollback
  split
  · exact .inl ⟨_, rfl⟩
  split
  · exact .inr (.inl ⟨_, by decide, rfl⟩)
  rename_i sequence hseq
  rw [checkedAdd_eq_some] at hseq
  split
  · exact .inr (.inl ⟨_, by decide, rfl⟩)
  · exact .inr (.inr ⟨_, rfl, rfl, hseq, rfl⟩)

variable (sequence nowNs : UInt64)

theorem noteUnhealthy_effect (prevProof : RouteProof) :
    Effect c
      (.noteUnhealthy sequence nowNs prevProof (noteUnhealthy sha256 c sequence nowNs prevProof).1)
      (noteUnhealthy sha256 c sequence nowNs prevProof).2 := by
  unfold noteUnhealthy
  split
  · rename_i token prev digest stableAtNs hstate
    split_ifs with hseq hproves
    · exact .idle ⟨rfl, rfl, rfl⟩
    · exact .revoke hstate rfl rfl
    rcases beginVerifiedRollback_cases sha256 c prev digest nowNs with
      ⟨e, heq⟩ | ⟨e, hne, heq⟩ | ⟨rollback, heq, hrt, hnum, hbase⟩
    · rw [heq]
      exact .revoke hstate rfl rfl
    · rw [heq]
      exact .idle ⟨rfl, rfl, by cases e <;> first | rfl | exact absurd rfl hne⟩
    · rw [heq]
      exact .rollback hstate rfl rfl rfl rfl (by simpa using hproves) hrt hnum hbase
  · exact .idle ⟨rfl, rfl, rfl⟩

variable (candidateProof prevProof : RouteProof)

/-- The effect of `settle_committed`, for whichever health call made it. -/
theorem settleCommitted_effect
    {event : Except RouteTransitionError RouteHealthAction → RouteEvent}
    (hev : event = .tick nowNs candidateProof prevProof ∨
      ∃ sequence, event = .noteHealthy sequence nowNs candidateProof prevProof) :
    Effect c (event (settleCommitted sha256 c nowNs candidateProof prevProof).1)
      (settleCommitted sha256 c nowNs candidateProof prevProof).2 := by
  have hquiet : ∀ e, e ≠ .noVerifiedRoute → (event (.error e)).Quiet := by
    intro e hne
    rcases hev with rfl | ⟨sequence, rfl⟩ <;>
      exact ⟨rfl, rfl, by cases e <;> first | rfl | exact absurd rfl hne⟩
  have hiss : ∀ e, (event (.error e)).issued = none := by
    intro e
    rcases hev with rfl | ⟨sequence, rfl⟩ <;> rfl
  have hcomm : ∀ res, (event res).committed = none := by
    intro res
    rcases hev with rfl | ⟨sequence, rfl⟩ <;> rfl
  unfold settleCommitted
  split
  · rename_i token prev digest stableAtNs hstate
    split_ifs with hcand hprev
    · refine .settle ?_ hstate
      rcases hev with rfl | ⟨sequence, rfl⟩ <;> exact ⟨rfl, rfl, rfl⟩
    · rcases beginVerifiedRollback_cases sha256 c prev digest nowNs with
        ⟨e, heq⟩ | ⟨e, hne, heq⟩ | ⟨rollback, heq, hrt, hnum, hbase⟩
      · rw [heq]
        exact .revoke hstate (hiss _) (hcomm _)
      · rw [heq]
        exact .idle (hquiet _ hne)
      · rw [heq]
        rcases hev with rfl | ⟨_, rfl⟩ <;>
          exact .rollback hstate rfl rfl rfl rfl hprev hrt hnum hbase
    · exact .revoke hstate (hiss _) (hcomm _)
  · exact .idle (hquiet _ (by decide))

theorem noteHealthy_effect :
    Effect c
      (.noteHealthy sequence nowNs candidateProof prevProof
        (noteHealthy sha256 c sequence nowNs candidateProof prevProof).1)
      (noteHealthy sha256 c sequence nowNs candidateProof prevProof).2 := by
  unfold noteHealthy
  split
  · split_ifs
    · exact .idle ⟨rfl, rfl, rfl⟩
    · exact settleCommitted_effect sha256 c nowNs candidateProof prevProof (.inr ⟨sequence, rfl⟩)
    all_goals exact .idle ⟨rfl, rfl, rfl⟩
  · exact .idle ⟨rfl, rfl, rfl⟩

theorem tick_effect :
    Effect c
      (.tick nowNs candidateProof prevProof (tick sha256 c nowNs candidateProof prevProof).1)
      (tick sha256 c nowNs candidateProof prevProof).2 := by
  unfold tick
  split
  · rename_i token prev hstate
    split_ifs
    · exact .expire ⟨rfl, rfl, rfl⟩ (.inl hstate)
    · exact .idle ⟨rfl, rfl, rfl⟩
  · rename_i token prev hstate
    split_ifs
    · exact .expire ⟨rfl, rfl, rfl⟩ (.inr hstate)
    · exact .idle ⟨rfl, rfl, rfl⟩
  · split_ifs
    · exact settleCommitted_effect sha256 c nowNs candidateProof prevProof (.inl rfl)
    · exact .idle ⟨rfl, rfl, rfl⟩
  · exact .idle ⟨rfl, rfl, rfl⟩

/-- Every call has one of the effects. -/
theorem step_effect (call : RouteCall) :
    Effect c ((routeMachine sha256).step c call).1 ((routeMachine sha256).step c call).2 := by
  cases call with
  | begin cand proof nowNs => exact begin_effect sha256 c cand proof nowNs
  | peerPrepared token nowNs => exact peerPrepared_effect c token nowNs
  | commit token nowNs => exact commit_effect c token nowNs
  | noteHealthy sequence nowNs candidateProof prevProof =>
    exact noteHealthy_effect sha256 c sequence nowNs candidateProof prevProof
  | noteUnhealthy sequence nowNs prevProof =>
    exact noteUnhealthy_effect sha256 c sequence nowNs prevProof
  | tick nowNs candidateProof prevProof =>
    exact tick_effect sha256 c nowNs candidateProof prevProof

end Methods

/-! ## The numbering of tokens -/

/-- The token that a state holds. -/
def TransitionState.token : TransitionState → Option PromotionToken
  | .stable => none
  | .probing token _ => some token
  | .prepared token _ => some token
  | .committed token _ _ _ => some token

/-- The token that the controller holds is the last one it issued. -/
def Numbered (c : RouteTransitionController) : Prop :=
  ∀ token, c.state.token = some token → token.sequence = c.nextSequence

theorem Effect.numbered {c c' : RouteTransitionController} {e : RouteEvent}
    (heff : Effect c e c') (h : Numbered c) : Numbered c' := by
  cases heff with
  | idle => exact h
  | expire | begin | settle | rollback | revoke => simp [Numbered, token]
  | prepare hstate | commit hstate => simpa [Numbered, token, hstate] using h

/-- What `new` returns: a stable controller with authority. -/
theorem new_eq_ok {stamp : SessionStamp} {active : ConnectionPath} {proof : RouteProof}
    {prepareTimeoutNs stabilityWindowNs : UInt64} {c : RouteTransitionController}
    (h : new stamp active proof prepareTimeoutNs stabilityWindowNs = .ok c) :
    c.state = .stable ∧ c.activeAuthority = true ∧ c.stamp = stamp ∧ c.active = active ∧
      c.activeTranscriptDigest = proof.transcriptDigest ∧ validPath active = true ∧
      proof.isComplete = true := by
  unfold new at h
  split_ifs at h with hcfg hpath
  cases h
  simp only [not_or] at hcfg
  exact ⟨rfl, rfl, rfl, rfl, rfl, by simpa using hpath, by simpa using hcfg.2.2.2.2.1⟩

end LatencyDesk.Session.RouteTransition
