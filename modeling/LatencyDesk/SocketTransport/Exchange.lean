import LatencyDesk.SocketTransport.MediaPath
import LatencyDesk.SocketTransport.TrafficWorld

/-!
# One exchange, call by call

The exchange that moves two sets from their route 0 to their route 1.  The
initiator sends the prepare message, reads the answer, sends the commit, and
reads the activation record on the other route.  The responder reads the prepare
message, answers, reads the commit, and reads the confirmation.

`Standing` is what the calls read and change of a set.  There is one lemma for
each of the eight calls: at its standing the call succeeds, it writes the record
of its message at the present stamp, and it leaves the next standing.
-/

namespace LatencyDesk.SocketTransport

open Lib Protocol Transport RouteSession ProductRouteSet Inbound

/-- The message of the exchange at a stage. -/
def atStage (message : RouteTransitionMessage) (stage : RouteTransitionStage) :
    RouteTransitionMessage :=
  { message with stage := stage }

/-- The terms of an exchange that two fresh sets with this stamp can make. -/
structure Proposal (stamp : SessionStamp) (message : RouteTransitionMessage) : Prop where
  valid : message.validate = .ok ()
  base : message.baseRouteEpoch = stamp.routeEpoch
  sequence : message.sequence = 1

/-- The epoch at which the message of a stage is sent. -/
def stageEpoch (message : RouteTransitionMessage) : RouteTransitionStage → UInt64
  | .activated => message.nextRouteEpoch
  | .confirmed => message.nextRouteEpoch
  | _ => message.baseRouteEpoch

/-- The record of a stage of the exchange. -/
def exchangeRecord (stamp : SessionStamp) (message : RouteTransitionMessage)
    (stage : RouteTransitionStage) : ControlRecord :=
  recordAt (stampAtRouteEpoch stamp (stageEpoch message stage)) (atStage message stage)

theorem sameRouteTransition_atStage {message : RouteTransitionMessage}
    {stage stage' : RouteTransitionStage} :
    sameRouteTransition (atStage message stage) (atStage message stage') = true := by
  simp [sameRouteTransition, atStage]

structure Standing where
  epoch : UInt64
  sequence : UInt64
  active : RouteIndex
  wire : RouteWireState
  activation : RouteActivationState
  transitionRoute : Option RouteIndex

namespace Standing

variable (message : RouteTransitionMessage)

def ready : Standing :=
  ⟨message.baseRouteEpoch, 0, 0, .idle, .idle, none⟩

def offered : Standing :=
  ⟨message.baseRouteEpoch, 0, 0, .prepareSent (atStage message .prepare), .idle, some 0⟩

def asked : Standing :=
  ⟨message.baseRouteEpoch, 0, 0, .prepareReceived (atStage message .prepare), .idle, some 0⟩

def answered : Standing :=
  ⟨message.baseRouteEpoch, 0, 0, .preparedSent (atStage message .prepared), .idle, some 0⟩

def agreed : Standing :=
  ⟨message.baseRouteEpoch, 0, 0, .preparedReceived (atStage message .prepared), .idle, some 0⟩

/-- The initiator has sent its commit. -/
def committed : Standing :=
  ⟨message.nextRouteEpoch, message.sequence, 0, .idle,
    .awaitingActivated 0 (atStage message .commit), none⟩

/-- The responder has read the commit and writes its activation record. -/
def following : Standing :=
  ⟨message.nextRouteEpoch, message.sequence, 0, .idle, .idle, some 0⟩

def followed : Standing :=
  ⟨message.nextRouteEpoch, message.sequence, 1, .idle,
    .awaitingConfirmed (atStage message .commit), none⟩

def moved : Standing :=
  ⟨message.nextRouteEpoch, message.sequence, 1, .idle, .idle, none⟩

end Standing

/-- The session of a route of a set at a standing.  It is open, and it takes every datagram
of a peer. -/
structure SessionStands (stamp : SessionStamp) (epoch sequence : UInt64)
    (active route : RouteIndex) (session : RouteSession) : Prop where
  currentStamp : session.currentStamp = stampAtRouteEpoch stamp epoch
  routeEpoch : session.routeEpoch = epoch
  routeSequence : session.routeSequence = sequence
  routeAuthorized : session.routeAuthorized = decide (route = active)
  isOpen : session.connectionClosed = false
  settled : session.reassembler.Settled
  config : session.reassembler.config = session.reassemblyConfig
  room : maxDatagramMtu ≤ session.reassemblyConfig.maxDatagramBytes.toNat

/-- A set of the session `stamp` at a standing of the exchange. -/
structure Stands (stamp : SessionStamp) (message : RouteTransitionMessage) (set : ProductRouteSet)
    (standing : Standing) : Prop where
  routes : ∀ route, SessionStands stamp standing.epoch standing.sequence standing.active route
    (set.routes route)
  wire : (set.routes 0).routeTransition = standing.wire
  target : (message.routeDigest, message.transcriptDigest) =
    ((set.bindings 1).routeDigest, (set.bindings 1).transcriptDigest)
  active : set.active = standing.active
  activation : set.activation = standing.activation
  transitionRoute : set.transitionRoute = standing.transitionRoute

/-! ## Behind a read -/

section

variable {message : RouteTransitionMessage} {recvr : RouteIndex} (set : ProductRouteSet)

theorem finishReceive_prepare (hfree : set.transitionRoute = none) (hact : set.active = recvr)
    (during : Wait) :
    set.finishReceive recvr (atStage message .prepare) during =
      { set with transitionRoute := some recvr }.armTransitionTimeout.succeed
        (some (atStage message .prepare)) true none := by
  unfold finishReceive
  dsimp only [atStage]
  rw [hfree, if_neg nofun, if_neg (not_not.2 hact.symm)]

variable (hrt : set.transitionRoute = some recvr)

include hrt

theorem finishReceive_prepared (during : Wait) :
    set.finishReceive recvr (atStage message .prepared) during =
      set.succeed (some (atStage message .prepared)) true none := by
  unfold finishReceive
  dsimp only [atStage]
  rw [if_neg (not_not.2 hrt), if_neg nofun]

theorem finishReceive_commit (during : Wait) :
    set.finishReceive recvr (atStage message .commit) during =
      set.followCommit (atStage message .commit) during := by
  unfold finishReceive
  dsimp only [atStage]
  rw [if_neg (not_not.2 hrt), if_pos rfl]

end

namespace Stands

variable {stamp : SessionStamp} {message : RouteTransitionMessage} {set : ProductRouteSet}
  {standing : Standing} (hprop : Proposal stamp message)
  (h : Stands stamp message set standing)

/-! ## Changes of a set -/

section

include h

/-- Another wire state of the route 0. -/
theorem setWire (wire : RouteWireState)
    (transitionRoute : Option RouteIndex) :
    Stands stamp message
      { set.setRoute 0 { set.routes 0 with routeTransition := wire } with
        transitionRoute := transitionRoute }
      { standing with wire := wire, transitionRoute := transitionRoute } :=
  { h with
    routes
      | 0 => { h.routes 0 with }
      | 1 => { h.routes 1 with }
    wire := rfl
    transitionRoute := rfl }

/-- Both routes take over the epoch of the commit. -/
theorem commit :
    Stands stamp message (set.committed 0 (atStage message .commit) .idle)
      { standing with
        epoch := message.nextRouteEpoch
        sequence := message.sequence
        wire := .idle } := by
  have hstp (route : RouteIndex) : stampAtRouteEpoch (set.routes route).stamp
      message.nextRouteEpoch = stampAtRouteEpoch stamp message.nextRouteEpoch := by
    have hcurr := congrArg (fun other : SessionStamp =>
      stampAtRouteEpoch other message.nextRouteEpoch) (h.routes route).currentStamp
    exact hcurr
  refine { h with routes := Fin.forall_fin_two.2 ⟨?_, ?_⟩, wire := rfl }
  · exact { h.routes 0 with currentStamp := hstp 0, routeEpoch := rfl, routeSequence := rfl }
  · exact { h.routes 1 with currentStamp := hstp 1, routeEpoch := rfl, routeSequence := rfl }

/-- The set moves to the route 1. -/
theorem activate (activation : RouteActivationState)
    (transitionRoute : Option RouteIndex) :
    Stands stamp message
      { set.activatePreparedRoute 0 with
        activation := activation
        transitionRoute := transitionRoute }
      { standing with
        active := 1
        activation := activation
        transitionRoute := transitionRoute } :=
  { h with
    routes
      | 0 => { h.routes 0 with routeAuthorized := rfl }
      | 1 => { h.routes 1 with routeAuthorized := rfl }
    active := rfl
    activation := rfl
    transitionRoute := rfl }

theorem active_other (hact : standing.active = 0) : set.active.other = 1 := by
  rw [h.active, hact]
  rfl

end

/-! ## The calls -/

variable (hep : standing.epoch = message.baseRouteEpoch) {stage : RouteTransitionStage}

include hprop h hep in
/-- The sessions admit the messages of the exchange until they have its epoch. -/
theorem admits (hseq : stage = .prepare → standing.sequence = 0) (route : RouteIndex) :
    (set.routes route).Admits (atStage message stage) where
  valid := hprop.valid
  base := by rw [(h.routes route).routeEpoch, hep]; rfl
  sequence hstage := by
    unfold RouteSession.expectedSequence
    rw [(h.routes route).routeSequence, hseq hstage]
    exact hprop.sequence

include h in
theorem binding_ok (hact : standing.active = 0) (stage : RouteTransitionStage) :
    set.validateTransitionBinding (atStage message stage) = .ok () := by
  obtain ⟨hrt, htranscript⟩ := Prod.mk.inj h.target
  unfold validateTransitionBinding
  rw [h.active_other hact, if_neg]
  rw [not_or, not_not, not_not]
  exact ⟨hrt, htranscript⟩

include h in
/-- The record of a message that a set writes is the one of the exchange. -/
theorem recordOf_eq_exchangeRecord (route : RouteIndex)
    (hep : standing.epoch = stageEpoch message stage) :
    (set.routes route).recordOf (atStage message stage) = exchangeRecord stamp message stage := by
  rw [recordOf_eq, (h.routes route).currentStamp, hep]
  rfl

include hprop h in
theorem sendRouteActivation_eq (route : RouteIndex)
    (hep : standing.epoch = stageEpoch message stage)
    (hstage : stage = .activated ∨ stage = .confirmed) :
    (set.routes route).sendRouteActivation (atStage message stage) .written =
      (.ok (), some (exchangeRecord stamp message stage)) := by
  have hval : (atStage message stage).validate = .ok () := hprop.valid
  rw [sendRouteActivation_of_valid hval hstage, h.recordOf_eq_exchangeRecord _ hep]

variable {next : RouteWireState} (hact : standing.active = 0) (stage : RouteTransitionStage)
  (hstp : stageEpoch message stage = message.baseRouteEpoch)
  (hseq : stage = .prepare → standing.sequence = 0)

include hprop h hep hact hstp hseq in
/-- Sending on the route 0, up to the part behind the write. -/
theorem sendRouteTransition_eq (hrt : set.controlRoute stage = some 0)
    (hsent : standing.wire.sent (atStage message stage) = .ok next) :
    set.sendRouteTransition (atStage message stage) .written =
      (set.setRoute 0 ((set.routes 0).applied (atStage message stage) next)).finishSend 0
        (atStage message stage) (some (0, exchangeRecord stamp message stage)) := by
  rw [← h.wire] at hsent
  unfold ProductRouteSet.sendRouteTransition
  rw [h.binding_ok hact]
  rw [show set.controlRoute (atStage message stage).stage = some 0 from hrt]
  dsimp only
  rw [sendRouteTransition_of_admits (h.admits hprop hep hseq 0) hsent]
  rw [h.recordOf_eq_exchangeRecord 0 (hep.trans hstp.symm)]
  rfl

include hprop in
theorem sendPrepare (h : Stands stamp message set (.ready message)) :
    ∃ set', set.sendRouteTransition (atStage message .prepare) .written =
        set'.succeed none false (some (0, exchangeRecord stamp message .prepare)) ∧
      Stands stamp message set' (.offered message) := by
  have hrt : set.controlRoute .prepare = some 0 := by
    unfold controlRoute
    rw [h.transitionRoute, h.active]
    rfl
  refine ⟨_, h.sendRouteTransition_eq hprop rfl rfl .prepare rfl (fun _ => rfl) hrt rfl, ?_⟩
  exact { h.setWire (.prepareSent (atStage message .prepare)) (some 0) with }

open Standing

include hprop in
theorem sendPrepared (h : Stands stamp message set (.asked message)) :
    ∃ set', set.sendRouteTransition (atStage message .prepared) .written =
        set'.succeed none false (some (0, exchangeRecord stamp message .prepared)) ∧
      Stands stamp message set' (.answered message) := by
  have hsent : (asked message).wire.sent (atStage message .prepared) =
      .ok (.preparedSent (atStage message .prepared)) :=
    if_pos sameRouteTransition_atStage
  refine ⟨_, h.sendRouteTransition_eq hprop rfl rfl .prepared rfl nofun h.transitionRoute hsent, ?_⟩
  exact { h.setWire (.preparedSent (atStage message .prepared)) (some 0) with
    transitionRoute := h.transitionRoute }

include hprop h hep in
/-- The commit brings both routes to its epoch. -/
theorem synchronize :
    (set.setRoute 0 ((set.routes 0).applied (atStage message .commit)
        .idle)).synchronizeRouteEpochs (atStage message .commit) =
      (.ok (), set.committed 0 (atStage message .commit) .idle) := by
  refine synchronizeRouteEpochs_eq hprop.valid fun route => ?_
  match route with
  | 0 => exact .inr rfl
  | 1 => exact .inl (((h.routes 1).routeEpoch).trans hep)

include hprop in
theorem sendCommit (h : Stands stamp message set (.agreed message)) :
    ∃ set', set.sendRouteTransition (atStage message .commit) .written =
        set'.succeed none false (some (0, exchangeRecord stamp message .commit)) ∧
      Stands stamp message set' (.committed message) := by
  have hsent : (agreed message).wire.sent (atStage message .commit) = .ok .idle :=
    if_pos sameRouteTransition_atStage
  have hsend := h.sendRouteTransition_eq hprop rfl rfl .commit rfl nofun h.transitionRoute hsent
  have hfinish : ∀ sent, (set.setRoute 0 ((set.routes 0).applied (atStage message .commit)
      .idle)).finishSend 0 (atStage message .commit) sent =
        { set.committed 0 (atStage message .commit) .idle with
          activation := .awaitingActivated set.active (atStage message .commit)
          transitionRoute := none }.succeed none false sent := by
    intro sent
    unfold finishSend
    rw [h.synchronize hprop rfl]
    rfl
  rw [hfinish] at hsend
  refine ⟨_, hsend, ?_⟩
  refine { h.commit with activation := ?_, transitionRoute := rfl }
  rw [h.active]
  rfl

include hprop h hep hact hstp hseq in
/-- Reading a record of the exchange on the route 0. -/
theorem nextRouteTransitionInner_eq
    (hrecv : standing.wire.received (atStage message stage) = .ok next) :
    (set.routes 0).nextRouteTransitionInner (set.bindings set.active.other)
        (decide ((0 : RouteIndex) ≠ set.active)) (some (exchangeRecord stamp message stage)) =
      (.ok (atStage message stage), (set.routes 0).applied (atStage message stage) next) := by
  have hauthd : (set.routes 0).routeAuthorized = true := by
    rw [(h.routes 0).routeAuthorized, hact]
    rfl
  have hrec : exchangeRecord stamp message stage =
      recordAt (set.routes 0).currentStamp (atStage message stage) := by
    rw [(h.routes 0).currentStamp, hep, ← hstp]
    rfl
  rw [← h.wire] at hrecv
  rw [h.active_other hact, hrec]
  exact nextRouteTransitionInner_of_admits (h.admits hprop hep hseq 0) hauthd h.target hrecv

variable (hrt : standing.transitionRoute = none ∨ standing.transitionRoute = some 0)

include h hrt in
theorem transitionRoute_any :
    ¬set.transitionRoute.any (· ≠ (0 : RouteIndex)) = true := by
  rw [h.transitionRoute]
  rcases hrt with hnone | hsome
  · rw [hnone]
    nofun
  · rw [hsome]
    decide

include hprop h hep hact hstp hseq hrt in
theorem nextRouteTransition_eq
    (hrecv : standing.wire.received (atStage message stage) = .ok next) (during : Wait) :
    set.nextRouteTransition 0 (.arrived (exchangeRecord stamp message stage)) during =
      (set.setRoute 0 ((set.routes 0).applied (atStage message stage) next)).finishReceive 0
        (atStage message stage) during := by
  unfold nextRouteTransition
  rw [if_neg (h.transitionRoute_any hrt)]
  dsimp only [record?]
  rw [h.nextRouteTransitionInner_eq hprop hep hact stage hstp hseq hrecv]

include hprop in
theorem hearPrepare (h : Stands stamp message set (.ready message)) (during : Wait) :
    ∃ set', set.nextRouteTransition 0 (.arrived (exchangeRecord stamp message .prepare)) during =
        set'.succeed (some (atStage message .prepare)) true none ∧
      Stands stamp message set' (.asked message) := by
  have hrecv : (ready message).wire.received (atStage message .prepare) =
      .ok (.prepareReceived (atStage message .prepare)) := rfl
  have hread := h.nextRouteTransition_eq hprop rfl rfl .prepare rfl (fun _ => rfl) (.inl rfl)
    hrecv during
  refine ⟨_, hread.trans
    (finishReceive_prepare (set.setRoute 0 _) h.transitionRoute h.active during), ?_⟩
  exact { h.setWire (.prepareReceived (atStage message .prepare)) (some 0) with }

include hprop in
theorem hearPrepared (h : Stands stamp message set (.offered message)) (during : Wait) :
    ∃ set', set.nextRouteTransition 0 (.arrived (exchangeRecord stamp message .prepared)) during =
        set'.succeed (some (atStage message .prepared)) true none ∧
      Stands stamp message set' (.agreed message) := by
  have hrecv : (offered message).wire.received (atStage message .prepared) =
      .ok (.preparedReceived (atStage message .prepared)) :=
    if_pos sameRouteTransition_atStage
  have hread := h.nextRouteTransition_eq hprop rfl rfl .prepared rfl nofun (.inr rfl) hrecv during
  refine ⟨_, hread.trans (finishReceive_prepared (set.setRoute 0 _) h.transitionRoute during), ?_⟩
  exact { h.setWire (.preparedReceived (atStage message .prepared)) (some 0) with
    transitionRoute := h.transitionRoute }

include hprop in
/-- The responder reads the commit: the epochs are those of the commit while it writes its
activation record, and then it moves. -/
theorem hearCommit (h : Stands stamp message set (.answered message)) :
    (∃ set', set.nextRouteTransition 0 (.arrived (exchangeRecord stamp message .commit))
          ⟨.written, []⟩ =
        set'.succeed (some (atStage message .commit)) true
          (some (1, exchangeRecord stamp message .activated)) ∧
      Stands stamp message set' (.followed message)) ∧
    Stands stamp message (set.behindCommit 0 (.arrived (exchangeRecord stamp message .commit)))
      (.following message) := by
  have hrecv : (answered message).wire.received (atStage message .commit) =
      .ok .idle :=
    if_pos sameRouteTransition_atStage
  have hread := h.nextRouteTransition_eq hprop rfl rfl .commit rfl nofun (.inr rfl)
    hrecv ⟨.written, []⟩
  have hinner := h.nextRouteTransitionInner_eq hprop rfl rfl .commit rfl nofun hrecv
  have hfoll : Stands stamp message (set.committed 0 (atStage message .commit) .idle)
      (.following message) := { h.commit with }
  constructor
  · have hact : set.active = 0 := h.active
    have hactivated := hfoll.sendRouteActivation_eq hprop set.active.other rfl (.inl rfl)
    refine ⟨_, hread.trans ?_, hfoll.activate (.awaitingConfirmed (atStage message .commit)) none⟩
    rw [finishReceive_commit (set.setRoute 0 _) h.transitionRoute]
    unfold followCommit
    rw [h.synchronize hprop rfl]
    dsimp only
    rw [show (set.committed 0 (atStage message .commit) .idle).active = set.active from rfl,
      show ({ atStage message .commit with stage := .activated } : RouteTransitionMessage) =
        atStage message .activated from rfl, hactivated, hact]
    rfl
  · unfold behindCommit
    dsimp only [record?]
    rw [hinner]
    dsimp only
    rw [h.synchronize hprop rfl]
    exact hfoll

include hprop h in
/-- Reading the record of the activation or of the confirmation on the route 1. -/
theorem nextRouteActivation_eq (stage : RouteTransitionStage)
    (hep : standing.epoch = stageEpoch message stage) :
    (set.routes 1).nextRouteActivation (set.bindings 1) (atStage message .commit) stage
        (some (exchangeRecord stamp message stage)) =
      (.ok (atStage message stage), set.routes 1) := by
  have hval : (atStage message stage).validate = .ok () := hprop.valid
  have hrec : exchangeRecord stamp message stage =
      recordAt (set.routes 1).currentStamp (atStage message stage) := by
    rw [(h.routes 1).currentStamp, hep]
    rfl
  rw [hrec]
  exact nextRouteActivation_of_same hval sameRouteTransition_atStage
    h.target

include hprop in
theorem hearActivated (h : Stands stamp message set (.committed message)) :
    ∃ set', set.nextRouteActivation 1 (.arrived (exchangeRecord stamp message .activated))
          ⟨.written, []⟩ =
        set'.succeed (some (atStage message .activated)) true
          (some (1, exchangeRecord stamp message .confirmed)) ∧
      Stands stamp message set' (.moved message) := by
  have hactivated := h.nextRouteActivation_eq hprop .activated rfl
  have hconf := h.sendRouteActivation_eq hprop 1 rfl (.inr rfl)
  have hmoved := h.activate .idle none
  refine ⟨{ set.activatePreparedRoute 0 with activation := .idle }.disarmTransitionTimeout, ?_, ?_⟩
  · unfold ProductRouteSet.nextRouteActivation
    rw [h.activation]
    dsimp only [Standing.committed]
    rw [if_neg, show RouteIndex.other 0 = 1 from rfl]
    · dsimp only [record?]
      rw [hactivated]
      dsimp only
      rw [show ({ atStage message .commit with stage := .confirmed } : RouteTransitionMessage) =
        atStage message .confirmed from rfl, hconf, setRoute_same]
      rfl
    · rw [h.active, not_or, not_not, not_not]
      exact ⟨rfl, rfl⟩
  · exact { hmoved with transitionRoute := h.transitionRoute }

include hprop in
theorem hearConfirmed (h : Stands stamp message set (.followed message)) :
    ∃ set', set.nextRouteConfirmation 1 (.arrived (exchangeRecord stamp message .confirmed)) =
        set'.succeed (some (atStage message .confirmed)) true none ∧
      Stands stamp message set' (.moved message) := by
  have hact : set.active = 1 := h.active
  have hconf := h.nextRouteActivation_eq hprop .confirmed rfl
  rw [← hact] at hconf
  refine ⟨{ set with activation := .idle }.disarmTransitionTimeout, ?_, ?_⟩
  · unfold nextRouteConfirmation
    rw [h.activation]
    dsimp only [followed]
    rw [if_neg (not_not.2 hact.symm)]
    dsimp only [record?]
    rw [hconf]
    dsimp only
    rw [setRoute_same]
  · exact { h with activation := rfl }

/-! ## Calls that wait -/

include h hact hrt in
theorem nextRouteTransition_pending (during : Wait) :
    set.nextRouteTransition 0 .pending during = set.wait := by
  have hreads : set.reads 0 = true := by
    unfold reads
    rw [(h.routes 0).routeAuthorized, hact]
    exact Bool.or_true _
  unfold nextRouteTransition
  rw [if_neg (h.transitionRoute_any hrt), hreads]

theorem nextRouteActivation_pending (h : Stands stamp message set (.committed message))
    (during : Wait) : set.nextRouteActivation 1 .pending during = set.wait := by
  unfold ProductRouteSet.nextRouteActivation
  rw [h.activation]
  dsimp only [Standing.committed]
  rw [if_neg]
  rw [h.active, not_or, not_not, not_not]
  exact ⟨rfl, rfl⟩

theorem nextRouteConfirmation_pending (h : Stands stamp message set (.followed message)) :
    set.nextRouteConfirmation 1 .pending = set.wait := by
  unfold nextRouteConfirmation
  rw [h.activation]
  dsimp only [followed]
  have hact : set.active = 1 := h.active
  rw [if_neg (not_not.2 hact.symm)]

end Stands

end LatencyDesk.SocketTransport
