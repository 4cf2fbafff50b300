import LatencyDesk.Session.RouteTransition.Step

/-!
# Route epochs fence off old packets

The route epoch of a controller moves only at a commit that returns `Ok`, and
then by one.  A packet that some earlier state accepted carries an earlier
epoch, so no later state accepts it, not even after a rollback to the same
path.

Tokens are numbered the same way.  `Spent token c` says that the controller
is past `token`: every token that it can still commit has a larger number.
A commit of `token` spends it, and so does the issue of a later token.
`Spent` is kept by every call and rules the commit of `token` out.
-/

namespace LatencyDesk.Session.RouteTransition

open Lib Protocol RouteTransitionController RouteEvent Machine Option

/-- The event is a commit of `token` that returned `Ok`. -/
def RouteEvent.commits (token : PromotionToken) (e : RouteEvent) : Bool :=
  e.committed.any fun entry => entry.1 == token

/-! ## One step -/

variable {c c' : RouteTransitionController} {e : RouteEvent} {token : PromotionToken}

section

variable (heff : Effect c e c')

include heff

/-- Only a commit moves the stamp, and it moves the route epoch by one. -/
theorem Effect.stamp_eq :
    (e.committed = none ∧ c'.stamp = c.stamp) ∨
      (e.committed ≠ none ∧
        c'.stamp = { c.stamp with routeEpoch := c'.stamp.routeEpoch } ∧
        c'.stamp.routeEpoch.toNat = c.stamp.routeEpoch.toNat + 1) := by
  cases heff with
  | idle hquiet | expire hquiet | settle hquiet => exact .inl ⟨hquiet.2.1, rfl⟩
  | begin | prepare => exact .inl ⟨rfl, rfl⟩
  | commit _ _ hep => exact .inr ⟨by simp [committed], rfl, hep⟩
  | rollback _ _ hcomm | revoke _ _ hcomm => exact .inl ⟨hcomm, rfl⟩

theorem Effect.routeEpoch_le : c.stamp.routeEpoch.toNat ≤ c'.stamp.routeEpoch.toNat := by
  rcases heff.stamp_eq with ⟨_, heq⟩ | ⟨_, _, hep⟩
  · rw [heq]
  · omega

/-- A commit that returns `Ok` found its token prepared. -/
theorem Effect.prepared_of_commits (h : e.commits token = true) :
    ∃ prev digest stableAtNs, c.state = .prepared token prev ∧
      c'.state = .committed token prev digest stableAtNs ∧
      c'.nextSequence = c.nextSequence := by
  cases heff with
  | idle hquiet | expire hquiet | settle hquiet => simp [commits, hquiet.2.1] at h
  | begin | prepare => simp [commits, committed] at h
  | @commit expected prev _ stableAtNs _ hstate =>
    have htok : expected = token := by
      simpa [commits, committed] using h
    subst htok
    exact ⟨prev, _, stableAtNs, hstate, rfl, rfl⟩
  | rollback _ _ hcomm | revoke _ _ hcomm => simp [commits, hcomm] at h

/-- An issued token takes the next number and is the one the controller holds. -/
theorem Effect.probing_of_issued (h : e.issued = some token) :
    token.sequence.toNat = c.nextSequence.toNat + 1 ∧ c'.nextSequence = token.sequence ∧
      c'.state = .probing token c.active := by
  cases heff with
  | idle hquiet | expire hquiet | settle hquiet => simp [hquiet.1] at h
  | begin _ _ _ _ hseq =>
    obtain rfl := some.inj h
    exact ⟨hseq, rfl, rfl⟩
  | prepare | commit => simp [issued] at h
  | rollback _ hiss _ _ _ _ _ hseq =>
    obtain rfl := some.inj (hiss.symm.trans h)
    exact ⟨hseq, rfl, rfl⟩
  | revoke _ hiss => simp [hiss] at h

/-- A call that issues nothing keeps the numbering and holds no new token. -/
theorem Effect.token_of_not_issued (h : e.issued = none) :
    c'.nextSequence = c.nextSequence ∧
      (c'.state.token = none ∨ c'.state.token = c.state.token) := by
  cases heff with
  | idle => exact ⟨rfl, .inr rfl⟩
  | expire | settle | revoke => exact ⟨rfl, .inl rfl⟩
  | begin => simp [issued] at h
  | prepare hstate | commit hstate => exact ⟨rfl, .inr (by rw [hstate]; rfl)⟩
  | rollback _ hiss => simp [hiss] at h

/-! ## Spent tokens -/

/-- The controller is past `token`.  The token that it holds is a later one,
or it is `token` itself after its commit. -/
def Spent (token : PromotionToken) (c : RouteTransitionController) : Prop :=
  token.sequence.toNat ≤ c.nextSequence.toNat ∧
    ∀ held, c.state.token = some held →
      token.sequence.toNat < held.sequence.toNat ∨
        ∃ previous digest stableAtNs, c.state = .committed held previous digest stableAtNs

theorem Effect.spent (h : Spent token c) : Spent token c' := by
  cases hiss : e.issued with
  | some later =>
    obtain ⟨hnum, hnext, hstate⟩ := heff.probing_of_issued hiss
    have hle := h.1
    refine ⟨by rw [hnext]; omega, ?_⟩
    intro held hheld
    rw [hstate, TransitionState.token, some.injEq] at hheld
    subst hheld
    exact .inl (by omega)
  | none =>
    obtain ⟨hnext, htok⟩ := heff.token_of_not_issued hiss
    refine ⟨by rw [hnext]; exact h.1, ?_⟩
    intro held hheld
    rcases htok with hnone | hsame
    · rw [hnone] at hheld
      exact absurd hheld (by simp)
    rw [hsame] at hheld
    -- A committed token stays committed or is dropped, so the second case of
    -- `Spent` needs the effect once more.
    rcases h.2 held hheld with hlt | ⟨prev, digest, stableAtNs, hstate⟩
    · exact .inl hlt
    cases heff with
    | idle => exact .inr ⟨prev, digest, stableAtNs, hstate⟩
    | expire _ hpend => rcases hpend with hp | hp <;> simp [hp] at hstate
    | begin _ hstable => simp [hstable] at hstate
    | prepare hprobing => simp [hprobing] at hstate
    | commit hprep => simp [hprep] at hstate
    | settle | revoke => rw [hstate] at hsame; simp [TransitionState.token] at hsame
    | rollback _ hissue => simp [hissue] at hiss

/-- A spent token cannot be committed. -/
theorem Effect.not_commits_of_spent (h : Spent token c) : e.commits token = false := by
  cases hcommits : e.commits token with
  | false => rfl
  | true =>
    obtain ⟨_, _, _, hstate, _⟩ := heff.prepared_of_commits hcommits
    rcases h.2 token (by rw [hstate]; rfl) with hlt | ⟨_, _, _, hcomm⟩
    · exact absurd hlt (lt_irrefl _)
    · simp [hstate] at hcomm

/-- A commit spends its token. -/
theorem Effect.spent_of_commits
    (hnumd : Numbered c) (h : e.commits token = true) : Spent token c' := by
  obtain ⟨prev, digest, stableAtNs, hstate, hstate', hnext⟩ := heff.prepared_of_commits h
  have hseq : token.sequence = c.nextSequence := hnumd token (by rw [hstate]; rfl)
  refine ⟨by rw [hnext, hseq], ?_⟩
  intro held hheld
  rw [hstate', TransitionState.token, some.injEq] at hheld
  subst hheld
  exact .inr ⟨prev, digest, stableAtNs, hstate'⟩

/-! ## Whole runs -/

end

section Runs

variable (sha256 : Sha256)

theorem routeEpoch_run_le (c : RouteTransitionController) (calls : List RouteCall) :
    c.stamp.routeEpoch.toNat ≤ ((routeMachine sha256).run c calls).stamp.routeEpoch.toNat :=
  (routeMachine sha256).run_mono (f := fun c => c.stamp.routeEpoch.toNat)
    (fun s call => (step_effect sha256 s call).routeEpoch_le) c calls

theorem nextSequence_run_le (c : RouteTransitionController) (calls : List RouteCall) :
    c.nextSequence.toNat ≤ ((routeMachine sha256).run c calls).nextSequence.toNat := by
  refine (routeMachine sha256).run_mono (f := fun c => c.nextSequence.toNat) ?_ c calls
  intro s call
  have heff := step_effect sha256 s call
  cases hiss : ((routeMachine sha256).step s call).1.issued with
  | some token =>
    obtain ⟨hnum, hnext, _⟩ := heff.probing_of_issued hiss
    rw [hnext]
    omega
  | none => rw [(heff.token_of_not_issued hiss).1]

theorem not_commits_after_spent (h : Spent token c) (calls : List RouteCall) :
    ∀ st ∈ (routeMachine sha256).trace c calls, st.event.commits token = false :=
  (routeMachine sha256).forall_trace_of_invariant (Q := Spent token)
    (fun s call hs => (step_effect sha256 s call).spent hs)
    (fun s call hs => (step_effect sha256 s call).not_commits_of_spent hs) h calls

/-- The issue of a second token spends the first. -/
theorem spent_of_issued_twice (c : RouteTransitionController) (first second : RouteCall)
    (mid : List RouteCall) {later : PromotionToken}
    (hfirst : ((routeMachine sha256).stepAt c first).event.issued = some token)
    (hsnd : ((routeMachine sha256).stepAt ((routeMachine sha256).run c (first :: mid))
      second).event.issued = some later) :
    Spent token ((routeMachine sha256).run c (first :: mid ++ [second])) := by
  obtain ⟨_, hnext, _⟩ := (step_effect sha256 c first).probing_of_issued hfirst
  obtain ⟨hnum, hnext', hstate⟩ :=
    (step_effect sha256 ((routeMachine sha256).run c (first :: mid)) second).probing_of_issued hsnd
  have hmono := nextSequence_run_le sha256 ((routeMachine sha256).step c first).2 mid
  rw [hnext] at hmono
  rw [run_cons] at hnum
  rw [run_snoc]
  refine ⟨by rw [hnext']; omega, ?_⟩
  intro held hheld
  rw [hstate, TransitionState.token, some.injEq] at hheld
  subst hheld
  exact .inl (by omega)

/-- A commit that returns `Ok` moves the route epoch, and no later call moves it
back. -/
theorem routeEpoch_lt_of_commit {nowNs : UInt64} {switch : RouteSwitch}
    (hcom : (commit c token nowNs).1 = .ok switch)
    (after : List RouteCall) :
    c.stamp.routeEpoch.toNat <
      ((routeMachine sha256).run c (.commit token nowNs :: after)).stamp.routeEpoch.toNat := by
  have hafter := routeEpoch_run_le sha256
    ((routeMachine sha256).step c (.commit token nowNs)).2 after
  rw [run_cons]
  rcases (step_effect sha256 c (.commit token nowNs)).stamp_eq with ⟨hnone, _⟩ | ⟨_, _, hep⟩
  · simp [routeMachine, record, hcom, committed] at hnone
  · omega

/-- A packet that was accepted before a commit is not accepted after it. -/
theorem not_acceptsPacket_of_routeEpoch_lt {stamp : SessionStamp} {route : ConnectionPath}
    (h : c.acceptsPacket stamp route = true)
    (hlt : c.stamp.routeEpoch.toNat < c'.stamp.routeEpoch.toNat) :
    c'.acceptsPacket stamp route = false := by
  have hstp : c.stamp = stamp := by
    simp only [acceptsPacket, Bool.and_eq_true, beq_iff_eq] at h
    exact h.1
  have hne : c'.stamp ≠ stamp := by
    intro heq
    rw [heq, hstp] at hlt
    exact absurd hlt (lt_irrefl _)
  simp [acceptsPacket, hne]

end Runs

/-- The fence of a controller that `new` built, over every run.

* Only a commit that returns `Ok` moves the stamp, and it moves the route
  epoch by one and nothing else.
* A packet that some state accepted before a successful commit is rejected by
  every state after it.
* A token commits at most once, and never after a later token was issued. -/
theorem commit_fences_epoch_and_tokens (sha256 : Sha256) {stamp : SessionStamp}
    {active : ConnectionPath} {proof : RouteProof}
    {prepareTimeoutNs stabilityWindowNs : UInt64} {c : RouteTransitionController}
    (hnew : new stamp active proof prepareTimeoutNs stabilityWindowNs = .ok c) :
    (∀ calls, ∀ st ∈ (routeMachine sha256).trace c calls,
      (st.event.committed = none ∧ st.post.stamp = st.pre.stamp) ∨
        (st.event.committed ≠ none ∧
          st.post.stamp = { st.pre.stamp with routeEpoch := st.post.stamp.routeEpoch } ∧
          st.post.stamp.routeEpoch.toNat = st.pre.stamp.routeEpoch.toNat + 1)) ∧
    (∀ before mid after token nowNs switch packetStamp route,
      ((routeMachine sha256).run c before).acceptsPacket packetStamp route = true →
      (commit ((routeMachine sha256).run c (before ++ mid)) token nowNs).1 = .ok switch →
      ((routeMachine sha256).run c
        (before ++ mid ++ .commit token nowNs :: after)).acceptsPacket packetStamp route = false) ∧
    (∀ calls token,
      ((routeMachine sha256).trace c calls).countP (fun st => st.event.commits token) ≤ 1) ∧
    (∀ before first mid second after token later,
      ((routeMachine sha256).stepAt ((routeMachine sha256).run c before) first).event.issued
        = some token →
      ((routeMachine sha256).stepAt ((routeMachine sha256).run c (before ++ first :: mid))
        second).event.issued = some later →
      ∀ st ∈ (routeMachine sha256).trace
          ((routeMachine sha256).run c (before ++ first :: mid ++ [second])) after,
        st.event.commits token = false) := by
  have hnumd : Numbered c := by
    intro token htok
    rw [(new_eq_ok hnew).1] at htok
    simp [TransitionState.token] at htok
  refine ⟨?_, ?_, ?_, ?_⟩
  · intro calls st hst
    obtain ⟨before, call, _, _, rfl⟩ := (routeMachine sha256).mem_trace hst
    exact (step_effect sha256 _ call).stamp_eq
  · intro before mid after token nowNs switch packetStamp route haccs hcom
    apply not_acceptsPacket_of_routeEpoch_lt haccs
    have hmid := routeEpoch_run_le sha256 ((routeMachine sha256).run c before) mid
    rw [← run_append] at hmid
    have hlater := routeEpoch_lt_of_commit sha256 hcom after
    rw [run_append]
    omega
  · intro calls token
    exact (routeMachine sha256).countP_trace_le_one
      (fun s call hs => (step_effect sha256 s call).numbered hs)
      (fun s call hs hcommits => (step_effect sha256 s call).spent_of_commits hs hcommits)
      (fun s call hs => (step_effect sha256 s call).spent hs)
      (fun s call hs => (step_effect sha256 s call).not_commits_of_spent hs) hnumd calls
  · intro before first mid second after token later hfirst hsnd
    rw [run_append] at hsnd
    have hspent := spent_of_issued_twice sha256 ((routeMachine sha256).run c before) first
      second mid hfirst hsnd
    rw [List.append_assoc, run_append]
    exact not_commits_after_spent sha256 hspent after

/-- A packet on the relay path that was accepted before a promotion stays
rejected after the rollback that makes the relay path active again. -/
theorem stale_packet_rejected_after_rollback :
    sampleController.acceptsPacket sampleStamp sampleRelay = true ∧
      ((routeMachine Sha256.hash).run sampleController
        (samplePromotion ++ .commit sampleToken 3 :: sampleRollbackCalls)).active = sampleRelay ∧
      ((routeMachine Sha256.hash).run sampleController
        (samplePromotion ++ .commit sampleToken 3 :: sampleRollbackCalls)).acceptsPacket
          sampleStamp sampleRelay = false :=
  ⟨by decide, by decide +kernel,
    (commit_fences_epoch_and_tokens Sha256.hash sampleController_new).2.1 [] samplePromotion
      sampleRollbackCalls sampleToken 3
      { sequence := 1, routeEpoch := 2, stamp := { sampleStamp with routeEpoch := 2 }
        fromRoute := sampleRelay, toRoute := sampleDirect 5000 }
      sampleStamp sampleRelay (by decide) (by decide +kernel)⟩

end LatencyDesk.Session.RouteTransition
