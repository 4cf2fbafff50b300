import LatencyDesk.SocketTransport.RouteParty

/-!
# The effect of each call on a route set

One lemma for each method of `ProductRouteSet`: it keeps the set coherent, and it
fails closed or is a step of the party.
-/

namespace LatencyDesk.SocketTransport.ProductRouteSet

open Lib Lib.Switchover Protocol RouteSession Option RouteActivationState

variable {set set' : ProductRouteSet} {arrived : Option (RouteIndex × ControlRecord)}
  {message : RouteTransitionMessage} {index : RouteIndex} {next : RouteWireState}

theorem other_ne : index.other ≠ index := by
  revert index
  decide

theorem other_other : index.other.other = index := by
  revert index
  decide

theorem eq_other_of_ne {index other : RouteIndex} (h : index ≠ other) : index = other.other := by
  revert index other
  decide

theorem letterOf_recordOf {sess : RouteSession} (hval : message.validate = .ok ()) :
    letterOf (some (index, sess.recordOf message)) =
      some ⟨index, messageStage message.stage, messageTerms message⟩ :=
  sess.recordLetter_recordOf index hval

/-! ## Steps of a handshake -/

/-- A message that is no commit takes the handshake of its route to the next wire
state. -/
theorem Coherent.applied (h : set.Coherent) (hcom : message.stage ≠ .commit)
    (hline : set.transitionRoute = none ∨ set.transitionRoute = some index) :
    (set.withTransition index ((set.routes index).applied message next)).Coherent :=
  h.withTransition (sameStamp_applied hcom).1 hline

theorem party_applied
    (hcom : message.stage ≠ .commit) {handshake : Handshake Digests}
    (hnext : next.handshake = some handshake) :
    (set.withTransition index ((set.routes index).applied message next)).party =
      { set.party with handshake := some (index, handshake) } := by
  obtain ⟨hsame, hwire⟩ := sameStamp_applied hcom
  exact party_withTransition hsame (by rw [hwire, hnext])

/-- The base epoch of a message that a route admits is the epoch of the party. -/
theorem Coherent.base_eq (h : set.Coherent) (hadm : (set.routes index).Admits message) :
    (messageTerms message).base = set.party.epoch := by
  show message.baseRouteEpoch.toNat = (set.routes 0).routeEpoch.toNat
  rw [hadm.base, h.epochs]

theorem Coherent.sequence_eq (h : set.Coherent) (hadm : (set.routes index).Admits message)
    (hstage : message.stage = .prepare) :
    (messageTerms message).sequence = set.party.sequence + 1 := by
  show message.sequence.toNat = (set.routes 0).routeSequence.toNat + 1
  rw [hadm.sequence_toNat hstage, h.sequences]

/-- Only the first three stages are sent and read on the wire of a transition. -/
theorem stage_eq_prepared {P Q R : Prop}
    (hwire : match message.stage with
      | .prepare => P
      | .prepared => Q
      | .commit => R
      | _ => False) (hprepare : message.stage ≠ .prepare) (hcom : message.stage ≠ .commit) :
    message.stage = .prepared := by
  cases hstage : message.stage <;> simp_all

variable {record : ControlRecord} (h : set.Coherent) (hadm : (set.routes index).Admits message)
  (hsent : (set.routes index).routeTransition.sent message = .ok next)
  (haccs : (set.routes index).Accepts (set.bindings set.active.other) message record)
  (hrecv : (set.routes index).routeTransition.received message = .ok next)
  (hfree : set.transitionRoute = none) (hstage : message.stage = .prepare)

include hstage hfree h hadm hsent in
/-- Sending a prepare message on a free set. -/
theorem effect_offer (hbind : set.validateTransitionBinding message = .ok ()) :
    Effect set arrived
      ((set.withTransition index
        ((set.routes index).applied message next)).armTransitionTimeout.succeed none false
          (some (index, (set.routes index).recordOf message))) := by
  have hcom : message.stage ≠ .commit := by simp [hstage]
  have hwire := sent_eq_ok hsent
  rw [hstage] at hwire
  have hrev := revoked_armTransitionTimeout
    (set.withTransition index ((set.routes index).applied message next))
  refine effect_succeed (hrev.coherent (h.applied hcom (.inl hfree))) (.inl rfl) ?_
  rw [hrev.party_eq, party_applied hcom hwire.2, letterOf_recordOf hadm.valid, hstage]
  exact .offer index (messageTerms message) (party_handshake_none hfree) (h.base_eq hadm)
    (h.sequence_eq hadm hstage) (validateTransitionBinding_eq_ok hbind)

variable (hline : set.transitionRoute = some index) {prev : RouteIndex}

include hline h hadm hsent in
/-- Sending the answer to a prepare message. -/
theorem effect_answer (hstage : message.stage = .prepared) :
    Effect set arrived
      ((set.setRoute index ((set.routes index).applied message next)).succeed none false
        (some (index, (set.routes index).recordOf message))) := by
  have hcom : message.stage ≠ .commit := by simp [hstage]
  have hwire := sent_eq_ok hsent
  rw [hstage] at hwire
  rw [setRoute_eq_withTransition hline]
  refine effect_succeed (h.applied hcom (.inr hline)) (.inl rfl) ?_
  rw [party_applied hcom hwire.2, letterOf_recordOf hadm.valid, hstage]
  refine .answer index (messageTerms message) ?_
  rw [party_handshake_some hline, hwire.1]
  rfl

theorem letterOf_payload (hpay : RouteTransitionMessage.decode record.payload = .ok message)
    (index : RouteIndex) :
    letterOf (some (index, record)) =
      some ⟨index, messageStage message.stage, messageTerms message⟩ := by
  simp [letterOf, recordLetter, hpay]

theorem letterOf_same {commit : RouteTransitionMessage}
    (hpay : RouteTransitionMessage.decode record.payload = .ok message)
    (hsame : sameRouteTransition message commit = true) :
    letterOf (some (index, record)) =
      some ⟨index, messageStage message.stage, messageTerms commit⟩ := by
  rw [letterOf_payload hpay, terms_eq_of_same hsame]

include hstage hfree h haccs hrecv in
/-- Receiving a prepare message on a free set.  The set after it may have lost
authority. -/
theorem effect_hear
    (hrev : Revoked (set.withTransition index ((set.routes index).applied message next)) set') :
    Effect set (some (index, record)) (set'.succeed (some message) true none) := by
  have hcom : message.stage ≠ .commit := by simp [hstage]
  have hwire := received_eq_ok hrecv
  rw [hstage] at hwire
  refine effect_succeed (hrev.coherent (h.applied hcom (.inl hfree))) (.inr rfl) ?_
  rw [hrev.party_eq, party_applied hcom hwire.2, letterOf_payload haccs.payload, hstage]
  exact .hear index (messageTerms message) (party_handshake_none hfree)
    (h.base_eq haccs.admits) (h.sequence_eq haccs.admits hstage) haccs.target

include hline h haccs hrecv in
/-- Receiving the answer to the set's own prepare message. -/
theorem effect_agree (hstage : message.stage = .prepared) :
    Effect set (some (index, record))
      ((set.setRoute index ((set.routes index).applied message next)).succeed (some message)
        true none) := by
  have hcom : message.stage ≠ .commit := by simp [hstage]
  have hwire := received_eq_ok hrecv
  rw [hstage] at hwire
  rw [setRoute_eq_withTransition hline]
  refine effect_succeed (h.applied hcom (.inr hline)) (.inr rfl) ?_
  rw [party_applied hcom hwire.2, letterOf_payload haccs.payload, hstage]
  refine .agree index (messageTerms message) ?_
  rw [party_handshake_some hline, hwire.1]
  rfl

/-! ## Commits -/

/-- Both routes take over the epoch and the sequence number of a commit. -/
def synchronized (set : ProductRouteSet) (message : RouteTransitionMessage) : ProductRouteSet :=
  { set with
    routes := fun index =>
      { set.routes index with
        routeEpoch := message.nextRouteEpoch
        routeSequence := message.sequence } }

theorem synchronizeRoute_eq {route : RouteSession} (hval : message.validate = .ok ())
    (hep : route.routeEpoch = message.baseRouteEpoch ∨ route.routeEpoch = message.nextRouteEpoch) :
    synchronizeRoute route message =
      .ok { route with
        routeEpoch := message.nextRouteEpoch
        routeSequence := message.sequence } := by
  unfold synchronizeRoute
  split_ifs with hbase hnext
  · rw [advanceRouteEpoch_of_valid hval hbase.symm]
  · rw [← hnext]
  · exact absurd hep (not_or.2 ⟨hbase, hnext⟩)

theorem synchronizeRouteEpochs_eq (hval : message.validate = .ok ())
    (hepochs : ∀ index, (set.routes index).routeEpoch = message.baseRouteEpoch ∨
      (set.routes index).routeEpoch = message.nextRouteEpoch) :
    set.synchronizeRouteEpochs message = (.ok (), set.synchronized message) := by
  unfold synchronizeRouteEpochs
  rw [synchronizeRoute_eq hval (hepochs 0), synchronizeRoute_eq hval (hepochs 1)]
  refine Prod.ext rfl ?_
  show (set.setRoute 0 _).setRoute 1 _ = set.synchronized message
  unfold setRoute
  congr 1
  funext index
  match index with
  | 0 | 1 => rfl

/-- The set behind a commit on its transition route, before it says what it waits
for. -/
def committed (set : ProductRouteSet) (index : RouteIndex) (message : RouteTransitionMessage)
    (next : RouteWireState) : ProductRouteSet :=
  (set.setRoute index ((set.routes index).applied message next)).synchronized message

/-- A commit that a route admits brings both routes to its epoch. -/
theorem Coherent.synchronize_applied (h : set.Coherent) (hstage : message.stage = .commit)
    (hadm : (set.routes index).Admits message) :
    (set.setRoute index ((set.routes index).applied message next)).synchronizeRouteEpochs message =
      (.ok (), set.committed index message next) := by
  refine synchronizeRouteEpochs_eq hadm.valid fun other => ?_
  by_cases hoth : other = index
  · subst hoth
    rw [routes_setRoute_self, RouteSession.applied, if_pos hstage]
    exact .inr rfl
  · rw [routes_setRoute_of_ne hoth, h.epochs, ← h.epochs index, hadm.base]
    exact .inl rfl

/-- What a committed set has in common with the set before. -/
structure Follows (set : ProductRouteSet) (message : RouteTransitionMessage)
    (set' : ProductRouteSet) : Prop where
  bindings : set'.bindings = set.bindings
  epoch : ∀ index, (set'.routes index).routeEpoch = message.nextRouteEpoch
  sequence : ∀ index, (set'.routes index).routeSequence = message.sequence
  wire : ∀ index, (set'.routes index).routeTransition = .idle

theorem Coherent.follows_committed (h : set.Coherent) (hline : set.transitionRoute = some index)
    (hstage : message.stage = .commit) :
    Follows set message (set.committed index message .idle) := by
  refine ⟨rfl, fun _ => rfl, fun _ => rfl, fun other => ?_⟩
  show ((set.setRoute index _).routes other).routeTransition = .idle
  by_cases hoth : other = index
  · subst hoth
    rw [routes_setRoute_self, RouteSession.applied, if_pos hstage]
  rw [routes_setRoute_of_ne hoth]
  refine h.wires other fun hsome => hoth ?_
  rw [hline] at hsome
  exact (Option.some.inj hsome).symm

theorem authorized_committed (set : ProductRouteSet) (index : RouteIndex)
    (message : RouteTransitionMessage) (next : RouteWireState) (other : RouteIndex) :
    ((set.committed index message next).routes other).routeAuthorized =
      (set.routes other).routeAuthorized := by
  refine field_setRoute (·.routeAuthorized) ?_ other
  unfold applied
  split_ifs <;> rfl

theorem Follows.coherent (h : Follows set message set')
    (hguarded : (set'.routes set'.active.other).routeAuthorized = false) : set'.Coherent where
  guarded := hguarded
  epochs index := by rw [h.epoch, h.epoch]
  sequences index := by rw [h.sequence, h.sequence]
  wires index _ := h.wire index

theorem Follows.party_eq (h : Follows set message set') (hset : set.Coherent)
    (hadm : (set.routes index).Admits message) :
    set'.party =
      { set.party with
        sequence := (messageTerms message).sequence
        epoch := set.party.epoch + 1
        active := set'.active
        handshake := none
        promotion := set'.activation.promotion } := by
  have htargets : set'.targets = set.targets := by
    funext other
    rw [targets, targets, h.bindings]
  have hep : message.nextRouteEpoch.toNat = (set.routes 0).routeEpoch.toNat + 1 := by
    rw [hadm.next_toNat, hset.epochs]
  have hhandshake : (set'.transitionRoute.bind fun other =>
      (set'.routes other).routeTransition.handshake.map (other, ·)) = none := by
    cases set'.transitionRoute with
    | none => rfl
    | some other => rw [bind_some, h.wire]; rfl
  simp only [party, htargets, h.epoch, h.sequence, hep, hhandshake]
  rfl

include hline h hadm hsent in
/-- Sending a commit. -/
theorem effect_commit (hstage : message.stage = .commit)
    (hbind : set.validateTransitionBinding message = .ok ()) :
    Effect set arrived
      ({ set.committed index message next with
        activation := .awaitingActivated set.active message
        transitionRoute := none }.succeed none false
          (some (index, (set.routes index).recordOf message))) := by
  have hwire := sent_eq_ok hsent
  rw [hstage] at hwire
  obtain ⟨hstate, rfl⟩ := hwire
  have hcomm := h.follows_committed hline hstage
  have hfollows : Follows set message
      { set.committed index message .idle with
        activation := .awaitingActivated set.active message
        transitionRoute := none } :=
    { hcomm with }
  have hguarded : ((set.committed index message .idle).routes
      set.active.other).routeAuthorized = false := by
    rw [authorized_committed, h.guarded]
  refine effect_succeed (hfollows.coherent hguarded) (.inl rfl) ?_
  rw [hfollows.party_eq h hadm, letterOf_recordOf hadm.valid, hstage]
  refine .commit index (messageTerms message) ?_ (validateTransitionBinding_eq_ok hbind)
  rw [party_handshake_some hline, hstate]
  rfl

/-! ## Activation -/

/-- Activating a route changes authorizations only. -/
theorem field_activate {β : Type} (field : RouteSession → β)
    (hfield : ∀ route authorized, field (route.setRouteAuthorized authorized) = field route)
    (set : ProductRouteSet) (prev index : RouteIndex) :
    field ((set.activatePreparedRoute prev).routes index) = field (set.routes index) := by
  have hfirst := field_setRoute field (hfield (set.routes prev) false) index
  refine Eq.trans (field_setRoute field ?_ index) hfirst
  rw [hfield, field_setRoute field (hfield (set.routes prev) false)]

/-- The route that was active is revoked. -/
theorem guarded_activate :
    ((set.activatePreparedRoute prev).routes prev.other.other).routeAuthorized = false := by
  rw [other_other]
  show (((set.setRoute prev _).setRoute prev.other _).routes prev).routeAuthorized = false
  rw [routes_setRoute_of_ne other_ne.symm, routes_setRoute_self]
  rfl

theorem Coherent.activate (h : set.Coherent)
    (hprev : prev = set.active) (activation : RouteActivationState) :
    { set.activatePreparedRoute prev with activation := activation }.Coherent := by
  subst hprev
  refine ⟨guarded_activate, ?_, ?_, ?_⟩
  · intro index
    have hep := field_activate (·.routeEpoch) (fun _ _ => rfl) set set.active
    exact (hep index).trans ((h.epochs index).trans (hep 0).symm)
  · intro index
    have hseq := field_activate (·.routeSequence) (fun _ _ => rfl) set set.active
    exact (hseq index).trans ((h.sequences index).trans (hseq 0).symm)
  · intro index hidx
    have hwire := field_activate (·.routeTransition) (fun _ _ => rfl) set set.active
    exact (hwire index).trans (h.wires index hidx)

theorem party_activate (set : ProductRouteSet) (activation : RouteActivationState) :
    { set.activatePreparedRoute prev with activation := activation }.party =
      { set.party with active := 1 - prev, promotion := activation.promotion } := by
  simp only [party, field_activate (·.routeEpoch) (fun _ _ => rfl),
    field_activate (·.routeSequence) (fun _ _ => rfl),
    field_activate (·.routeTransition) (fun _ _ => rfl)]
  rfl

theorem Follows.revoked (h : Follows set message set') {set'' : ProductRouteSet}
    (hrev : Revoked set' set'') : Follows set message set'' where
  bindings := hrev.bindings.trans h.bindings
  epoch index := (hrev.epoch index).trans (h.epoch index)
  sequence index := (hrev.sequence index).trans (h.sequence index)
  wire index := (hrev.wire index).trans (h.wire index)

theorem Follows.activate (h : Follows set message set') (previous : RouteIndex)
    (activation : RouteActivationState) (transitionRoute : Option RouteIndex) :
    Follows set message
      { set'.activatePreparedRoute previous with
        activation := activation
        transitionRoute := transitionRoute } where
  bindings := h.bindings
  epoch index := (field_activate (·.routeEpoch) (fun _ _ => rfl) set' previous index).trans
    (h.epoch index)
  sequence index := (field_activate (·.routeSequence) (fun _ _ => rfl) set' previous index).trans
    (h.sequence index)
  wire index := (field_activate (·.routeTransition) (fun _ _ => rfl) set' previous index).trans
    (h.wire index)

include hline h haccs hrecv in
/-- Receiving a commit: the set sends the activation record on the other route and
activates it. -/
theorem effect_followCommit (hstage : message.stage = .commit) (during : Wait) :
    Effect set (some (index, record))
      ((set.setRoute index ((set.routes index).applied message next)).followCommit message
        during) := by
  have hwire := received_eq_ok hrecv
  rw [hstage] at hwire
  obtain ⟨hstate, rfl⟩ := hwire
  have hcomm := h.follows_committed hline hstage
  have hguarded : ((set.committed index message .idle).routes
      set.active.other).routeAuthorized = false := by
    rw [authorized_committed, h.guarded]
  have hrev := revoked_expireAll (set.committed index message .idle) during.expired
  unfold followCommit
  rw [h.synchronize_applied hstage haccs.admits]
  dsimp only
  rcases sendRouteActivation_cases with ⟨_, _, herror⟩ | ⟨hsent, hval⟩
  · rw [herror]
    exact effect_failClosed (hrev.coherent (hcomm.coherent hguarded))
  rw [hsent]
  have hfollows := (hcomm.revoked hrev).activate set.active (.awaitingConfirmed message) none
  refine effect_succeed (hfollows.coherent guarded_activate) (.inr rfl) ?_
  have hlet : letterOf (some (set.active.other,
      ((set.committed index message .idle).routes set.active.other).recordOf
        { message with stage := .activated })) =
      some ⟨1 - set.active, .activated, messageTerms message⟩ :=
    letterOf_recordOf hval
  rw [hfollows.party_eq h haccs.admits, letterOf_payload haccs.payload, hstage]
  refine hlet ▸ .follow index (messageTerms message) ?_
  rw [party_handshake_some hline, hstate]
  rfl

/-! ## The methods -/

theorem revoked_setRoute_close :
    Revoked set (set.setRoute index (set.routes index).close) :=
  revoked_setRoute rfl rfl rfl id

include h

theorem effect_sendRouteTransition (message : RouteTransitionMessage) (write : WriteOutcome) :
    Effect set arrived (set.sendRouteTransition message write) := by
  unfold sendRouteTransition
  split
  · exact effect_refuse h
  next hbind =>
  split
  · exact effect_refuse h
  next index hrt =>
  rcases (set.routes index).sendRouteTransition_cases message write with
    ⟨e, record, heq⟩ | ⟨next, heq, hadm, hsent⟩
  · simp only [heq, setRoute_same]
    exact effect_failClosed h
  simp only [heq, finishSend]
  split
  · next hstage =>
    have hline : set.transitionRoute = some index := by
      rw [hstage] at hrt
      exact hrt
    rw [h.synchronize_applied hstage hadm]
    exact effect_commit h hadm hsent hline hstage hbind
  · next hstage =>
    have hfree : set.transitionRoute = none := by
      rw [hstage] at hrt
      unfold controlRoute at hrt
      split_ifs at hrt with hnone
      exact isNone_iff_eq_none.1 hnone
    exact effect_offer h hadm hsent hfree hstage hbind
  · next hcom hprepare =>
    have hstage := stage_eq_prepared (sent_eq_ok hsent) hprepare hcom
    have hline : set.transitionRoute = some index := by
      rw [hstage] at hrt
      exact hrt
    exact effect_answer h hadm hsent hline hstage

theorem effect_sendRollbackViaRetained (message : RouteTransitionMessage) (write : WriteOutcome) :
    Effect set arrived (set.sendRollbackViaRetained message write) := by
  unfold sendRollbackViaRetained
  split_ifs with hstate
  · exact effect_refuse h
  simp only [not_or, not_not] at hstate
  obtain ⟨hstage, hfree, _⟩ := hstate
  split
  · exact effect_refuse h
  next hbind =>
  rcases (set.routes set.active.other).sendRouteTransition_cases message write with
    ⟨e, record, heq⟩ | ⟨next, heq, hadm, hsent⟩
  · simp only [heq, setRoute_same]
    exact effect_failClosed h
  simp only [heq]
  exact effect_offer h hadm hsent (not_isSome_iff_eq_none.1 hfree) hstage hbind

include haccs hrecv in
/-- What follows a message that was read on a route which may carry it. -/
theorem effect_finishReceive (hline : set.transitionRoute = none ∨ set.transitionRoute = some index)
    (during : Wait) :
    Effect set (some (index, record))
      ((set.setRoute index ((set.routes index).applied message next)).finishReceive index message
        during) := by
  unfold finishReceive
  split
  · next hstage =>
    have hcom : message.stage ≠ .commit := by simp [hstage]
    split_ifs with hbusy
    · refine effect_failClosed ?_
      rcases hline with hnone | hsome
      · rw [show (setRoute set index _).transitionRoute = none from hnone] at hbusy
        cases hbusy
      · rw [setRoute_eq_withTransition hsome]
        exact h.applied hcom (.inr hsome)
    · have hfree : set.transitionRoute = none := not_isSome_iff_eq_none.1 hbusy
      refine effect_hear h haccs hrecv hfree hstage ?_
      refine Revoked.trans ?_ (revoked_armTransitionTimeout _)
      split_ifs
      · exact revoked_setRoute rfl rfl rfl fun _ => rfl
      · exact .refl _
  · next hprepare =>
    have hsome : set.transitionRoute = some index := by
      rcases hline with hnone | hsome
      · -- on a free set every wire state is idle, and an idle route takes a prepare message only
        have hidle := h.wires index (by rw [hnone]; simp)
        have hwire := received_eq_ok hrecv
        rw [hidle] at hwire
        split at hwire
        · next hoth => exact absurd hoth hprepare
        iterate 2 cases hwire.1
        · exact hwire.elim
      · exact hsome
    have hkept : (set.setRoute index ((set.routes index).applied message next)).transitionRoute =
        some index := hsome
    rw [if_neg (not_not.2 hkept)]
    split_ifs with hstage
    · exact effect_followCommit h haccs hrecv hsome hstage during
    · exact effect_agree h haccs hrecv hsome
        (stage_eq_prepared (received_eq_ok hrecv) hprepare hstage)

variable (recvr : RouteIndex) (inbound : Inbound) (during : Wait)

theorem effect_nextRouteTransition :
    Effect set (inbound.record?.map (recvr, ·)) (set.nextRouteTransition recvr inbound during) := by
  unfold nextRouteTransition
  split_ifs with hwrong
  · exact effect_refuse h
  have hline : set.transitionRoute = none ∨ set.transitionRoute = some recvr := by
    cases hrt : set.transitionRoute with
    | none => exact .inl rfl
    | some route =>
      rw [hrt, any_some, decide_eq_true_eq, not_not] at hwrong
      exact .inr (congrArg some hwrong)
  split
  · exact effect_wait h
  next inbound _ _ _ =>
  rcases nextRouteTransitionInner_cases with
    ⟨e, heq⟩ | ⟨record, message, next, hinbound, heq, haccs, hrecv⟩
  · rw [heq]
    exact effect_failClosed (revoked_setRoute_close.coherent h)
  · rw [heq, hinbound]
    exact effect_finishReceive h haccs hrecv hline during

theorem effect_nextRouteActivation :
    Effect set (inbound.record?.map (recvr, ·)) (set.nextRouteActivation recvr inbound during) := by
  unfold nextRouteActivation
  split
  · next prev commit hactv =>
    dsimp only
    split_ifs with hwrong
    · exact effect_refuse h
    rw [not_or, not_not, not_not] at hwrong
    obtain ⟨rfl, rfl⟩ := hwrong
    split
    · exact effect_wait h
    rcases nextRouteActivation_cases with
      ⟨e, heq⟩ | ⟨record, message, hinbound, heq, hpay, hstage, hsame⟩
    · rw [heq]
      exact effect_failClosed (revoked_setRoute_close.coherent h)
    rw [heq, hinbound]
    dsimp only
    rw [setRoute_same]
    have hrev := revoked_expireAll set during.expired
    rcases sendRouteActivation_cases with
      ⟨e, sent, herror⟩ | ⟨hsent, hval⟩
    · rw [herror]
      exact effect_failClosed (hrev.coherent h)
    rw [hsent]
    have hdisarmed := revoked_disarmTransitionTimeout
      { (set.expireAll during.expired).activatePreparedRoute set.active with activation := .idle }
    refine effect_succeed (hdisarmed.coherent ((hrev.coherent h).activate
      hrev.active.symm .idle)) (.inr rfl) ?_
    rw [hdisarmed.party_eq, party_activate, hrev.party_eq]
    have hgave : letterOf (some (set.active.other, (set.routes set.active.other).recordOf
        { commit with stage := .confirmed })) =
        some ⟨1 - set.active, .confirmed, messageTerms commit⟩ :=
      letterOf_recordOf hval
    rw [map_some, map_some, letterOf_same hpay hsame, hstage, hgave]
    refine .move (messageTerms commit) ?_
    simp [party, hactv, promotion]
  · exact effect_refuse h

theorem effect_nextRouteConfirmation :
    Effect set (inbound.record?.map (recvr, ·)) (set.nextRouteConfirmation recvr inbound) := by
  unfold nextRouteConfirmation
  split
  · next commit hactv =>
    split_ifs with hwrong
    · exact effect_refuse h
    rw [not_not] at hwrong
    subst hwrong
    split
    · exact effect_wait h
    rcases nextRouteActivation_cases with
      ⟨e, heq⟩ | ⟨record, message, hinbound, heq, hpay, hstage, hsame⟩
    · rw [heq]
      exact effect_failClosed (revoked_setRoute_close.coherent h)
    rw [heq, hinbound]
    dsimp only
    rw [setRoute_same]
    have hdisarmed := revoked_disarmTransitionTimeout { set with activation := .idle }
    have hcoh : { set with activation := .idle }.Coherent := { h with }
    refine effect_succeed (hdisarmed.coherent hcoh) (.inr rfl) ?_
    rw [hdisarmed.party_eq, map_some, letterOf_same hpay hsame, hstage]
    refine .finish (messageTerms commit) ?_
    simp [party, hactv, promotion]
  · exact effect_refuse h

end LatencyDesk.SocketTransport.ProductRouteSet
