import LatencyDesk.Lib.Since
import LatencyDesk.Session.RouteTransition.Step

/-!
# Where the authority of a route comes from

A route that the controller accepts after a commit has a history.  Its token
was issued on a proof, prepared by the peer and committed in time, and no
health call has failed the route since.  `Promoted` states that history over
the trace of a run, as nested `Since` operators, newest step first.

`AuthorityInv` links the trace to the state that the controller is in.  The
probing and prepared states carry the part of the history that is already
there, and a commit puts the parts together.  Two facts about the past keep
the rollback case going: a committed route holds the authority, and the route
that it replaced was accepted at some earlier state under the digest that the
controller remembers.
-/

namespace LatencyDesk.Session.RouteTransition

open Lib Protocol RouteTransitionController TransitionState Since Sha256

/-- A trace of the controller, oldest step first. -/
abbrev RouteTrace := List (Step RouteTransitionController RouteEvent)

/-- At some state of the trace the route was accepted, and the transcript
digest of the active route was `digest`. -/
def WasActive (h : RouteTrace) (route : ConnectionPath) (digest : Bytes 32) : Prop :=
  ∃ st ∈ h, st.pre.acceptsApplicationRoute st.pre.stamp.routeEpoch route = true ∧
    st.pre.activeTranscriptDigest = digest

/-- The last successful commit of the trace took over from the route, whose
transcript digest was `digest`. -/
def Replaced (h : RouteTrace) (route : ConnectionPath) (digest : Bytes 32) : Prop :=
  Since (fun st => st.event.committed = none)
    (fun _ st => st.event.committed ≠ none ∧ st.pre.active = route ∧
      st.pre.activeTranscriptDigest = digest) h

/-- The step issued `token`: a begin with a complete proof on a valid path, or
a health call with a complete proof of the transcript under which the route
of the token was active, until the last commit replaced it. -/
def IssuedOnProof (token : PromotionToken) (earlier : RouteTrace)
    (st : Step RouteTransitionController RouteEvent) : Prop :=
  (∃ proof nowNs, st.event = .begin token.route proof nowNs (.ok token) ∧
      proof.isComplete = true ∧ validPath token.route = true) ∨
    ∃ proof, st.event.issued = some token ∧ st.event.previousProof = some proof ∧
      proof.isComplete = true ∧ WasActive earlier token.route proof.transcriptDigest ∧
      Replaced earlier token.route proof.transcriptDigest

/-- The step issued no token. -/
def IssuedNothing (st : Step RouteTransitionController RouteEvent) : Prop :=
  st.event.issued = none

/-- `token` was issued on a proof, and it is the last token that was issued. -/
def Pending (token : PromotionToken) (h : RouteTrace) : Prop :=
  Since IssuedNothing (IssuedOnProof token) h

/-- `token` is pending, and the peer prepared it before its deadline. -/
def PeerReady (token : PromotionToken) (h : RouteTrace) : Prop :=
  Since IssuedNothing
    (fun earlier st => (∃ nowNs, st.event = .peerPrepared token nowNs (.ok ()) ∧
      nowNs < token.expiresAtNs) ∧ Pending token earlier) h

/-- The last successful commit of the trace was for a token with the route
`route`, made the epoch `routeEpoch`, and came before the deadline of a token
that the peer had prepared.  No health call failed the route since. -/
def Promoted (routeEpoch : UInt64) (route : ConnectionPath) (h : RouteTrace) : Prop :=
  Since (fun st => st.event.committed = none ∧ st.event.healthFailed = false)
    (fun earlier st => ∃ token nowNs switch, st.event = .commit token nowNs (.ok switch) ∧
      token.route = route ∧ switch.routeEpoch = routeEpoch ∧ nowNs < token.expiresAtNs ∧
      PeerReady token earlier) h

theorem WasActive.snoc {h : RouteTrace} {route : ConnectionPath} {digest : Bytes 32}
    (hw : WasActive h route digest) (st : Step RouteTransitionController RouteEvent) :
    WasActive (h ++ [st]) route digest := by
  obtain ⟨x, hx, haccs, hdigest⟩ := hw
  exact ⟨x, List.mem_append_left _ hx, haccs, hdigest⟩

/-- The state before the last step of a trace counts as past. -/
theorem wasActive_of_last {h : RouteTrace} {st : Step RouteTransitionController RouteEvent}
    (hauthy : st.pre.activeAuthority = true) :
    WasActive (h ++ [st]) st.pre.active st.pre.activeTranscriptDigest :=
  ⟨st, by simp, by simp [acceptsApplicationRoute, hauthy], rfl⟩

/-- What the trace of a run says about the state that the run reached. -/
structure AuthorityInv (h : RouteTrace) (c : RouteTransitionController) : Prop where
  accepted : c.activeAuthority = true →
    (∀ st ∈ h, st.event.committed = none) ∨ Promoted c.stamp.routeEpoch c.active h
  remembered : c.activeAuthority = true ∨ WasActive h c.active c.activeTranscriptDigest
  probing : ∀ token previous, c.state = .probing token previous →
    previous = c.active ∧ Pending token h
  prepared : ∀ token previous, c.state = .prepared token previous →
    previous = c.active ∧ PeerReady token h
  committed : ∀ token previous digest stableAtNs,
    c.state = .committed token previous digest stableAtNs →
    c.activeAuthority = true ∧ WasActive h previous digest ∧ Replaced h previous digest

namespace AuthorityInv

variable {h : RouteTrace} {c c' : RouteTransitionController} {e : RouteEvent}

section

variable (hinv : AuthorityInv h c)

include hinv

/-- A step without a commit or a health failure keeps the history of the
accepted route. -/
theorem accepted_snoc (hcomm : e.committed = none)
    (hfailed : e.healthFailed = false) (hauthy : c.activeAuthority = true) :
    (∀ st ∈ h ++ [⟨c, e, c'⟩], st.event.committed = none) ∨
      Promoted c.stamp.routeEpoch c.active (h ++ [⟨c, e, c'⟩]) := by
  rcases hinv.accepted hauthy with hnone | hpromoted
  · refine .inl ?_
    intro st hst
    rw [List.mem_append, List.mem_singleton] at hst
    rcases hst with hst | rfl
    · exact hnone st hst
    · exact hcomm
  · exact .inr (hpromoted.snoc ⟨hcomm, hfailed⟩)

/-- The active route of the state before the last step is past. -/
theorem remembered_snoc :
    WasActive (h ++ [⟨c, e, c'⟩]) c.active c.activeTranscriptDigest := by
  rcases hinv.remembered with hauthy | hwas
  · exact wasActive_of_last hauthy
  · exact hwas.snoc _

/-- One step keeps the invariant. -/
theorem step (heff : Effect c e c') :
    AuthorityInv (h ++ [⟨c, e, c'⟩]) c' := by
  cases heff with
  | idle hquiet =>
    refine ⟨hinv.accepted_snoc hquiet.2.1 hquiet.2.2, .inr hinv.remembered_snoc, ?_, ?_, ?_⟩
    · intro token prev hstate
      obtain ⟨hprev, hpend⟩ := hinv.probing token prev hstate
      exact ⟨hprev, hpend.snoc hquiet.1⟩
    · intro token prev hstate
      obtain ⟨hprev, hready⟩ := hinv.prepared token prev hstate
      exact ⟨hprev, hready.snoc hquiet.1⟩
    · intro token prev digest stableAtNs hstate
      obtain ⟨hauthy, hwas, hreplaced⟩ :=
        hinv.committed token prev digest stableAtNs hstate
      exact ⟨hauthy, hwas.snoc _, hreplaced.snoc hquiet.2.1⟩
  | expire hquiet hstate =>
    refine ⟨hinv.accepted_snoc hquiet.2.1 hquiet.2.2, .inr hinv.remembered_snoc, ?_, ?_, ?_⟩
      <;> simp
  | begin _ _ hval hdone _ hrt =>
    refine ⟨hinv.accepted_snoc rfl rfl, .inr hinv.remembered_snoc, ?_, by simp, by simp⟩
    intro token prev hstate
    obtain ⟨rfl, rfl⟩ := probing.inj hstate
    subst hrt
    exact ⟨rfl, of_mark (.inl ⟨_, _, rfl, hdone, hval⟩)⟩
  | prepare hstate htime =>
    obtain ⟨hprev, hpend⟩ := hinv.probing _ _ hstate
    refine ⟨hinv.accepted_snoc rfl rfl, .inr hinv.remembered_snoc, by simp, ?_, by simp⟩
    intro token prev hstate'
    obtain ⟨rfl, rfl⟩ := prepared.inj hstate'
    exact ⟨hprev, of_mark ⟨⟨_, rfl, htime⟩, hpend⟩⟩
  | commit hstate htime =>
    obtain ⟨hprev, hready⟩ := hinv.prepared _ _ hstate
    refine ⟨?_, .inl rfl, by simp, by simp, ?_⟩
    · intro _
      exact .inr (of_mark ⟨_, _, _, rfl, rfl, rfl, htime, hready⟩)
    · intro token prev digest stableAtNs hstate'
      obtain ⟨rfl, rfl, rfl, rfl⟩ := committed.inj hstate'
      subst hprev
      exact ⟨rfl, hinv.remembered_snoc, of_mark ⟨by simp [RouteEvent.committed], rfl, rfl⟩⟩
  | settle hquiet hstate =>
    have hauthy := (hinv.committed _ _ _ _ hstate).1
    refine ⟨fun _ => hinv.accepted_snoc hquiet.2.1 hquiet.2.2 hauthy,
      .inr hinv.remembered_snoc, by simp, by simp, by simp⟩
  | rollback hstate hiss _ _ hproof hproves hrt =>
    obtain ⟨_, hwas, hreplaced⟩ := hinv.committed _ _ _ _ hstate
    refine ⟨by simp, .inr hinv.remembered_snoc, ?_, by simp, by simp⟩
    intro token prev hstate'
    obtain ⟨rfl, rfl⟩ := probing.inj hstate'
    simp only [provesTranscript, Bool.and_eq_true, beq_iff_eq] at hproves
    obtain ⟨hdone, hdigest⟩ := hproves
    subst hrt hdigest
    exact ⟨rfl, of_mark (.inr ⟨_, hiss, hproof, hdone, hwas, hreplaced⟩)⟩
  | revoke hstate =>
    exact ⟨by simp, .inr hinv.remembered_snoc, by simp, by simp, by simp⟩

end

/-- The invariant holds after every run of a controller that `new` built. -/
theorem run (sha256 : Sha256) {stamp : SessionStamp} {active : ConnectionPath}
    {proof : RouteProof} {prepareTimeoutNs stabilityWindowNs : UInt64}
    (hnew : new stamp active proof prepareTimeoutNs stabilityWindowNs = .ok c)
    (calls : List RouteCall) :
    AuthorityInv ((routeMachine sha256).trace c calls) ((routeMachine sha256).run c calls) := by
  obtain ⟨hstable, hauthy, _⟩ := new_eq_ok hnew
  refine (routeMachine sha256).trace_induction ?_ ?_ calls
  · exact ⟨fun _ => .inl (by simp), .inl hauthy, by simp [hstable], by simp [hstable],
      by simp [hstable]⟩
  · intro h s call hinv
    exact hinv.step (step_effect sha256 s call)

end AuthorityInv

/-- A route that the controller accepts after at least one successful commit
got its authority from the last of them, and from the whole history of its
token behind it. -/
theorem accepted_route_was_promoted (sha256 : Sha256) {stamp : SessionStamp}
    {active : ConnectionPath} {proof : RouteProof}
    {prepareTimeoutNs stabilityWindowNs : UInt64} {c : RouteTransitionController}
    (hnew : new stamp active proof prepareTimeoutNs stabilityWindowNs = .ok c)
    (calls : List RouteCall) (routeEpoch : UInt64) (route : ConnectionPath)
    (hcommit : ∃ st ∈ (routeMachine sha256).trace c calls, st.event.committed ≠ none)
    (haccepts : ((routeMachine sha256).run c calls).acceptsApplicationRoute routeEpoch route
      = true) :
    Promoted routeEpoch route ((routeMachine sha256).trace c calls) := by
  simp only [acceptsApplicationRoute, Bool.and_eq_true, beq_iff_eq] at haccepts
  obtain ⟨⟨hauthy, rfl⟩, rfl⟩ := haccepts
  rcases (AuthorityInv.run sha256 hnew calls).accepted hauthy with hnone | hpromoted
  · obtain ⟨st, hst, hne⟩ := hcommit
    exact absurd (hnone st hst) hne
  · exact hpromoted

/-- The relay path after a rollback is accepted at epoch 3, and its history
goes back to the rollback token. -/
theorem rollback_route_was_promoted :
    ((routeMachine hash).run sampleController
        (samplePromotion ++ .commit sampleToken 3 :: sampleRollbackCalls)).acceptsApplicationRoute
          3 sampleRelay = true ∧
      Promoted 3 sampleRelay ((routeMachine hash).trace sampleController
        (samplePromotion ++ .commit sampleToken 3 :: sampleRollbackCalls)) := by
  refine ⟨by decide +kernel,
    accepted_route_was_promoted hash sampleController_new _ 3 sampleRelay ?_
      (by decide +kernel)⟩
  refine ⟨(routeMachine hash).stepAt
    ((routeMachine hash).run sampleController samplePromotion) (.commit sampleToken 3),
    ?_, by decide +kernel⟩
  rw [Machine.trace_append]
  simp

end LatencyDesk.Session.RouteTransition
