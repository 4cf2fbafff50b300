import LatencyDesk.SocketTransport.RouteStep

/-!
# A route set is a party of a switch-over

`ProductRouteSet.party` reads the state of a set as a party of
`Lib.Switchover`.  Each method of the set that does not fail closed is a step of
that party (`Effect`).

`Coherent` is what the set itself keeps in every call, whether it succeeds or
fails: only the active route can be authorized, both routes have the same epoch
and sequence number, and only the transition route has a wire state.
-/

namespace LatencyDesk.SocketTransport

open Lib Lib.Switchover Protocol RouteWireState

/-! ## The party -/

def RouteWireState.handshake : RouteWireState → Option (Handshake Digests)
  | .idle => none
  | .prepareSent prepare => some (.offered (messageTerms prepare))
  | .prepareReceived prepare => some (.asked (messageTerms prepare))
  | .preparedSent prepared => some (.answered (messageTerms prepared))
  | .preparedReceived prepared => some (.agreed (messageTerms prepared))

def RouteActivationState.promotion : RouteActivationState → Promotion Digests
  | .idle => .idle
  | .awaitingActivated _ commit => .awaitingActivated (messageTerms commit)
  | .awaitingConfirmed commit => .awaitingConfirmed (messageTerms commit)

namespace ProductRouteSet

def targets (set : ProductRouteSet) (index : RouteIndex) : Digests :=
  ((set.bindings index).routeDigest, (set.bindings index).transcriptDigest)

/-- The set as a party of the switch-over. -/
def party (set : ProductRouteSet) : Party Digests :=
  { sequence := (set.routes 0).routeSequence.toNat
    epoch := (set.routes 0).routeEpoch.toNat
    active := set.active
    targets := set.targets
    handshake := set.transitionRoute.bind fun index =>
      (set.routes index).routeTransition.handshake.map (index, ·)
    promotion := set.activation.promotion }

/-- What a set keeps in every call. -/
structure Coherent (set : ProductRouteSet) : Prop where
  guarded : (set.routes set.active.other).routeAuthorized = false
  epochs : ∀ index, (set.routes index).routeEpoch = (set.routes 0).routeEpoch
  sequences : ∀ index, (set.routes index).routeSequence = (set.routes 0).routeSequence
  wires : ∀ index, set.transitionRoute ≠ some index → (set.routes index).routeTransition = .idle

/-! ## The start -/

variable {set : ProductRouteSet}

/-- What `new` has checked and set. -/
theorem new_eq_ok {active rollbackCandidate : RouteSession}
    {activeBinding candidateBinding : VerifiedRouteBinding}
    (h : new active activeBinding rollbackCandidate candidateBinding = .ok set) :
    set.bindings 0 = activeBinding ∧ set.bindings 1 = candidateBinding ∧
      activeBinding.routeDigest ≠ candidateBinding.routeDigest ∧
      active.currentStamp = rollbackCandidate.currentStamp ∧
      set.routes 0 = active.setRouteAuthorized true ∧
      set.routes 1 = rollbackCandidate.setRouteAuthorized false ∧
      set.active = 0 ∧ set.activation = .idle ∧ set.transitionRoute = none := by
  unfold new at h
  split_ifs at h with hbind hconn hstp
  cases h
  simp only [not_or] at hbind
  exact ⟨rfl, rfl, hbind.2.2.2.2.1, not_not.1 hstp, rfl, rfl, rfl, rfl, rfl⟩

/-- A fresh set is coherent, and it is a fresh party. -/
theorem Fresh.start (h : set.Fresh) :
    set.Coherent ∧ set.targets 0 ≠ set.targets 1 ∧
      set.party = Party.fresh set.stamp.routeEpoch.toNat set.targets := by
  obtain ⟨active, _, cand, _, hnew, hseq, hwire, hseq', hwire'⟩ := h
  obtain ⟨hbind, hbind', hdigest, hstp, hrt, hrt', hact, hactv, hline⟩ :=
    new_eq_ok hnew
  have hep : cand.routeEpoch = active.routeEpoch :=
    (congrArg SessionStamp.routeEpoch hstp).symm
  refine ⟨⟨?_, ?_, ?_, ?_⟩, ?_, ?_⟩
  · rw [hact]
    exact congrArg (·.routeAuthorized) hrt'
  · refine Fin.forall_fin_two.2 ⟨rfl, ?_⟩
    rw [hrt, hrt']
    exact hep
  · refine Fin.forall_fin_two.2 ⟨rfl, ?_⟩
    rw [hrt, hrt']
    exact hseq'.trans hseq.symm
  · rw [Fin.forall_fin_two, hrt, hrt']
    exact ⟨fun _ => hwire, fun _ => hwire'⟩
  · intro heq
    rw [targets, targets, hbind, hbind'] at heq
    exact hdigest (congrArg Prod.fst heq)
  · have hzero : ((set.routes 0).routeSequence).toNat = 0 := by
      rw [hrt]
      exact congrArg UInt64.toNat hseq
    have hstart : set.stamp.routeEpoch = (set.routes 0).routeEpoch := by
      rw [stamp, hact]
      rfl
    simp only [party, hzero, hstart, hact, hactv, hline]
    rfl

/-! ## Revoking -/

/-- The second set differs from the first one in its timeouts, and in routes that
were revoked or closed. -/
structure Revoked (set set' : ProductRouteSet) : Prop where
  bindings : set'.bindings = set.bindings
  active : set'.active = set.active
  activation : set'.activation = set.activation
  transitionRoute : set'.transitionRoute = set.transitionRoute
  epoch : ∀ index, (set'.routes index).routeEpoch = (set.routes index).routeEpoch
  sequence : ∀ index, (set'.routes index).routeSequence = (set.routes index).routeSequence
  wire : ∀ index, (set'.routes index).routeTransition = (set.routes index).routeTransition
  authorized : ∀ index, (set.routes index).routeAuthorized = false →
    (set'.routes index).routeAuthorized = false

variable {set set' set'' : ProductRouteSet}

theorem Revoked.refl (set : ProductRouteSet) : Revoked set set :=
  ⟨rfl, rfl, rfl, rfl, fun _ => rfl, fun _ => rfl, fun _ => rfl, fun _ h => h⟩

section

variable (h : Revoked set set')

include h

theorem Revoked.trans (h' : Revoked set' set'') : Revoked set set'' where
  bindings := h'.bindings.trans h.bindings
  active := h'.active.trans h.active
  activation := h'.activation.trans h.activation
  transitionRoute := h'.transitionRoute.trans h.transitionRoute
  epoch index := (h'.epoch index).trans (h.epoch index)
  sequence index := (h'.sequence index).trans (h.sequence index)
  wire index := (h'.wire index).trans (h.wire index)
  authorized index hrev := h'.authorized index (h.authorized index hrev)

theorem Revoked.coherent (hset : set.Coherent) : set'.Coherent where
  guarded := by
    rw [h.active]
    exact h.authorized _ hset.guarded
  epochs index := by rw [h.epoch, h.epoch, hset.epochs]
  sequences index := by rw [h.sequence, h.sequence, hset.sequences]
  wires index hidx := by
    rw [h.wire]
    exact hset.wires index (h.transitionRoute ▸ hidx)

theorem Revoked.party_eq : set'.party = set.party := by
  have htargets : set'.targets = set.targets := by
    funext index
    rw [targets, targets, h.bindings]
  simp only [party, htargets, h.active, h.activation, h.transitionRoute, h.epoch, h.sequence,
    h.wire]

end

section

variable (set : ProductRouteSet)

theorem revoked_revokeRoutes : Revoked set set.revokeRoutes :=
  { Revoked.refl set with authorized := fun _ _ => rfl }

theorem revoked_armTransitionTimeout : Revoked set set.armTransitionTimeout :=
  { Revoked.refl set with }

theorem revoked_disarmTransitionTimeout : Revoked set set.disarmTransitionTimeout :=
  { Revoked.refl set with }

theorem revoked_expire (ticket : UInt64) :
    Revoked set (set.expire ticket) := by
  unfold expire
  split_ifs
  · exact { Revoked.refl set with authorized := fun _ _ => rfl }
  · exact { Revoked.refl set with }
  · exact .refl set

theorem revoked_expireAll (tickets : List UInt64) :
    Revoked set (set.expireAll tickets) := by
  induction tickets generalizing set with
  | nil => exact .refl set
  | cons ticket tickets ih => exact (revoked_expire set ticket).trans (ih _)

theorem setRoute_same (index : RouteIndex) : set.setRoute index (set.routes index) = set := by
  unfold setRoute
  rw [Function.update_eq_self]

theorem routes_setRoute_self (index : RouteIndex) (route : RouteSession) :
    (set.setRoute index route).routes index = route := by
  simp [setRoute]

end

variable {index other : RouteIndex} {route : RouteSession} {msg : RouteTransitionMessage}

theorem routes_setRoute_of_ne (h : other ≠ index) :
    (set.setRoute index route).routes other = set.routes other := by
  simp [setRoute, h]

/-- What the new route has in common with the old one is common to all routes. -/
theorem field_setRoute {β : Type} (field : RouteSession → β)
    (hrt : field route = field (set.routes index)) (other : RouteIndex) :
    field ((set.setRoute index route).routes other) = field (set.routes other) := by
  by_cases h : other = index
  · subst h
    rw [routes_setRoute_self]
    exact hrt
  · rw [routes_setRoute_of_ne h]

/-- A route that was only revoked or closed takes the place of the route. -/
theorem revoked_setRoute (hep : route.routeEpoch = (set.routes index).routeEpoch)
    (hseq : route.routeSequence = (set.routes index).routeSequence)
    (hwire : route.routeTransition = (set.routes index).routeTransition)
    (hauthd : (set.routes index).routeAuthorized = false → route.routeAuthorized = false) :
    Revoked set (set.setRoute index route) := by
  refine ⟨rfl, rfl, rfl, rfl, ?_, ?_, ?_, ?_⟩
  · exact field_setRoute (·.routeEpoch) hep
  · exact field_setRoute (·.routeSequence) hseq
  · exact field_setRoute (·.routeTransition) hwire
  · intro other hoth
    by_cases h : other = index
    · subst h
      rw [routes_setRoute_self]
      exact hauthd hoth
    · rw [routes_setRoute_of_ne h]
      exact hoth

theorem revoked_close : Revoked set set.close :=
  (revoked_disarmTransitionTimeout set).trans (revoked_revokeRoutes _)

theorem revoked_failActiveRoute : Revoked set set.failActiveRoute :=
  revoked_setRoute rfl rfl rfl fun _ => rfl

/-! ## A call as a step of the party -/

/-- The letter of a record that arrives or leaves. -/
def letterOf (routed : Option (RouteIndex × ControlRecord)) : Option (Letter Digests) :=
  routed.bind fun routed => recordLetter routed.1 routed.2

/-- A call keeps the set coherent, and it fails closed or takes a step of the
party, with the record that arrived or without it. -/
structure Effect (set : ProductRouteSet) (arrived : Option (RouteIndex × ControlRecord))
    (operation : Operation) : Prop where
  coherent : operation.set.Coherent
  step : (∃ error, operation.outcome = .failedClosed error) ∨
    ∃ took, (took = none ∨ took = letterOf arrived) ∧
      Act set.party took (letterOf operation.sent) operation.set.party

variable {arrived sent : Option (RouteIndex × ControlRecord)} {e : ProductSessionError}
  {consumed : Bool}

theorem effect_refuse (h : set.Coherent) :
    Effect set arrived (set.refuse e) :=
  ⟨h, .inr ⟨none, .inl rfl, .stay⟩⟩

theorem effect_wait (h : set.Coherent) : Effect set arrived set.wait :=
  ⟨h, .inr ⟨none, .inl rfl, .stay⟩⟩

theorem effect_succeed (h : set'.Coherent) {took : Option (Letter Digests)}
    (htook : took = none ∨ took = letterOf arrived)
    (hact : Act set.party took (letterOf sent) set'.party)
    {msg : Option RouteTransitionMessage} :
    Effect set arrived (set'.succeed msg consumed sent) :=
  ⟨h, .inr ⟨took, htook, hact⟩⟩

theorem effect_failClosed (h : set'.Coherent) :
    Effect set arrived (set'.failClosed e consumed sent) :=
  ⟨(revoked_revokeRoutes set').coherent h, .inl ⟨e, rfl⟩⟩

/-! ## A handshake -/

/-- The set with a new state of the route that carries the transition. -/
def withTransition (set : ProductRouteSet) (index : RouteIndex) (route : RouteSession) :
    ProductRouteSet :=
  { set.setRoute index route with transitionRoute := some index }

theorem setRoute_eq_withTransition (h : set.transitionRoute = some index) :
    set.setRoute index route = set.withTransition index route := by
  rw [withTransition, ← h]
  rfl

/-- The route keeps its epoch, its sequence number and its authorization. -/
structure SameStamp (route route' : RouteSession) : Prop where
  epoch : route'.routeEpoch = route.routeEpoch
  sequence : route'.routeSequence = route.routeSequence
  authorized : route'.routeAuthorized = route.routeAuthorized

theorem SameStamp.setRoute (h : SameStamp (set.routes index) route) (other : RouteIndex) :
    SameStamp (set.routes other) ((set.setRoute index route).routes other) where
  epoch := field_setRoute (·.routeEpoch) h.epoch other
  sequence := field_setRoute (·.routeSequence) h.sequence other
  authorized := field_setRoute (·.routeAuthorized) h.authorized other

theorem Coherent.withTransition (h : set.Coherent) (hrt : SameStamp (set.routes index) route)
    (hline : set.transitionRoute = none ∨ set.transitionRoute = some index) :
    (set.withTransition index route).Coherent := by
  have hsame := hrt.setRoute
  refine ⟨(hsame _).authorized.trans h.guarded, ?_, ?_, ?_⟩
  · intro other
    exact (hsame other).epoch.trans ((h.epochs other).trans (hsame 0).epoch.symm)
  · intro other
    exact (hsame other).sequence.trans ((h.sequences other).trans (hsame 0).sequence.symm)
  · intro other hoth
    have hne : other ≠ index := fun heq => hoth (congrArg some heq.symm)
    have hidle : (set.routes other).routeTransition = .idle := by
      refine h.wires other fun hsome => ?_
      rcases hline with hnone | hidx
      · rw [hnone] at hsome
        cases hsome
      · rw [hidx] at hsome
        exact hne (Option.some.inj hsome).symm
    exact (congrArg _ (routes_setRoute_of_ne hne)).trans hidle

theorem party_withTransition {handshake : Handshake Digests}
    (hrt : SameStamp (set.routes index) route)
    (hwire : route.routeTransition.handshake = some handshake) :
    (set.withTransition index route).party =
      { set.party with handshake := some (index, handshake) } := by
  have hsame := hrt.setRoute 0
  simp only [party, withTransition, hsame.epoch, hsame.sequence, Option.bind_some,
    routes_setRoute_self, hwire]
  rfl

theorem sameStamp_applied {sess : RouteSession} (hstage : msg.stage ≠ .commit)
    {next : RouteWireState} :
    SameStamp sess (sess.applied msg next) ∧ (sess.applied msg next).routeTransition = next := by
  rw [RouteSession.applied, if_neg hstage]
  exact ⟨⟨rfl, rfl, rfl⟩, rfl⟩

theorem party_handshake_none (h : set.transitionRoute = none) : set.party.handshake = none := by
  simp [party, h]

theorem party_handshake_some (h : set.transitionRoute = some index) :
    set.party.handshake = (set.routes index).routeTransition.handshake.map (index, ·) := by
  simp [party, h]

theorem validateTransitionBinding_eq_ok (h : set.validateTransitionBinding msg = .ok ()) :
    (messageTerms msg).target = set.targets set.active.other := by
  unfold validateTransitionBinding at h
  dsimp only at h
  split_ifs at h with hmismatch
  rw [not_or, not_not, not_not] at hmismatch
  exact Prod.ext hmismatch.1 hmismatch.2

variable {state next : RouteWireState}

theorem sent_eq_ok (h : state.sent msg = .ok next) :
    match msg.stage with
    | .prepare => state = .idle ∧ next.handshake = some (.offered (messageTerms msg))
    | .prepared => state.handshake = some (.asked (messageTerms msg)) ∧
      next.handshake = some (.answered (messageTerms msg))
    | .commit => state.handshake = some (.agreed (messageTerms msg)) ∧ next = .idle
    | _ => False := by
  unfold sent at h
  split at h
  · next hstage =>
    cases h
    rw [hstage]
    exact ⟨rfl, rfl⟩
  iterate 2
    · next hstage =>
      split_ifs at h with hsame
      cases h
      rw [hstage]
      refine ⟨?_, rfl⟩
      rw [← terms_eq_of_same hsame]
      rfl
  · cases h

theorem received_eq_ok (h : state.received msg = .ok next) :
    match msg.stage with
    | .prepare => state = .idle ∧ next.handshake = some (.asked (messageTerms msg))
    | .prepared => state.handshake = some (.offered (messageTerms msg)) ∧
      next.handshake = some (.agreed (messageTerms msg))
    | .commit => state.handshake = some (.answered (messageTerms msg)) ∧ next = .idle
    | _ => False := by
  unfold received at h
  split at h
  · next hstage =>
    cases h
    rw [hstage]
    exact ⟨rfl, rfl⟩
  iterate 2
    · next hstage =>
      split_ifs at h with hsame
      cases h
      rw [hstage]
      refine ⟨?_, rfl⟩
      rw [← terms_eq_of_same hsame]
      rfl
  · cases h

end ProductRouteSet

end LatencyDesk.SocketTransport
