import LatencyDesk.Lib.Switchover
import LatencyDesk.SocketTransport.RouteSession

/-!
# Route sets

The model of `ProductRouteSet` in `crates/socket-transport/src/product.rs`: two
authenticated connections of one session, of which one is active.

The methods take `&mut self`, so nothing but the timeouts of the set runs beside
a call.  A timeout is a task that sleeps with a ticket.  It can wake up between
two calls, and while a call waits for its write.  The second makes a difference
only where the call activates a route after the write.

A call that leaves behind an armed `FailClosedRouteSetOperation` has failed
closed.  That is any error after the guard was made, and also a call whose future
is dropped.
-/

namespace LatencyDesk.SocketTransport

open Lib Protocol

/-- An index into the two routes of a set. -/
abbrev RouteIndex := Fin 2

/-- `1 - index`. -/
def RouteIndex.other (index : RouteIndex) : RouteIndex := 1 - index

/-- What follows the commit. -/
inductive RouteActivationState where
  | idle
  | awaitingActivated (previous : RouteIndex) (commit : RouteTransitionMessage)
  | awaitingConfirmed (commit : RouteTransitionMessage)
deriving DecidableEq

/-- Two verified routes, one of them active. -/
structure ProductRouteSet where
  routes : RouteIndex → RouteSession
  bindings : RouteIndex → VerifiedRouteBinding
  active : RouteIndex
  transitionTimer : UInt64
  /-- The tickets of the timeouts that sleep. -/
  sleeping : List UInt64
  activation : RouteActivationState
  transitionRoute : Option RouteIndex

/-- What a method of the set returns. -/
inductive Outcome where
  /-- The read is still pending. -/
  | waiting
  | ok (message : Option RouteTransitionMessage)
  /-- An error before the guard was made. -/
  | refused (error : ProductSessionError)
  /-- The guard was dropped armed. -/
  | failedClosed (error : ProductSessionError)
deriving DecidableEq

/-- What a call does: its outcome, the set after it, whether it took a record out
of the lane it reads, and the record it put into a lane. -/
structure Operation where
  outcome : Outcome
  set : ProductRouteSet
  consumed : Bool
  sent : Option (RouteIndex × ControlRecord)

/-- What a read finds. -/
inductive Inbound where
  | pending
  | failed
  | arrived (record : ControlRecord)

def Inbound.record? : Inbound → Option ControlRecord
  | .arrived record => some record
  | _ => none

/-- What happens while a call waits for its write: the outcome of the write, and
the timeouts that wake up. -/
structure Wait where
  write : WriteOutcome
  expired : List UInt64

namespace ProductRouteSet

/-- Two different routes, bound to their connections. -/
def new (active : RouteSession) (activeBinding : VerifiedRouteBinding)
    (rollbackCandidate : RouteSession) (candidateBinding : VerifiedRouteBinding) :
    Except ProductSessionError ProductRouteSet :=
  if activeBinding.routeDigest.isZero ∨ activeBinding.transcriptDigest.isZero ∨
      candidateBinding.routeDigest.isZero ∨ candidateBinding.transcriptDigest.isZero ∨
      activeBinding.routeDigest = candidateBinding.routeDigest ∨
      activeBinding.transcriptDigest = candidateBinding.transcriptDigest ∨
      activeBinding.connectionId ≠ active.connectionId ∨
      candidateBinding.connectionId ≠ rollbackCandidate.connectionId then
    .error (.routeTransition .invalidBinding)
  else if active.connectionId = rollbackCandidate.connectionId then
    .error (.routeTransition .duplicateConnection)
  else if active.currentStamp ≠ rollbackCandidate.currentStamp then
    .error (.routeTransition .sessionMismatch)
  else if active.peerCertificateChain ≠ rollbackCandidate.peerCertificateChain then
    .error (.routeTransition .peerIdentityMismatch)
  else if activeBinding.peerFingerprint ≠ candidateBinding.peerFingerprint then
    .error (.routeTransition .invalidBinding)
  else
    .ok
      { routes := fun index =>
          if index = 0 then active.setRouteAuthorized true
          else rollbackCandidate.setRouteAuthorized false
        bindings := fun index => if index = 0 then activeBinding else candidateBinding
        active := 0
        transitionTimer := 0
        sleeping := []
        activation := .idle
        transitionRoute := none }

def stamp (set : ProductRouteSet) : SessionStamp := (set.routes set.active).currentStamp

/-- A set over two sessions that have not taken part in a transition. -/
def Fresh (set : ProductRouteSet) : Prop :=
  ∃ active activeBinding rollbackCandidate candidateBinding,
    new active activeBinding rollbackCandidate candidateBinding = .ok set ∧
      active.routeSequence = 0 ∧ active.routeTransition = .idle ∧
      rollbackCandidate.routeSequence = 0 ∧ rollbackCandidate.routeTransition = .idle

def setRoute (set : ProductRouteSet) (index : RouteIndex) (route : RouteSession) :
    ProductRouteSet :=
  { set with routes := Function.update set.routes index route }

/-- Revoke and close both routes. -/
def revokeRoutes (set : ProductRouteSet) : ProductRouteSet :=
  { set with routes := fun index => ((set.routes index).setRouteAuthorized false).close }

/-- Starts a timeout with a new ticket. -/
def armTransitionTimeout (set : ProductRouteSet) : ProductRouteSet :=
  { set with
    transitionTimer := set.transitionTimer + 1
    sleeping := (set.transitionTimer + 1) :: set.sleeping }

/-- Outdates the tickets of all timeouts. -/
def disarmTransitionTimeout (set : ProductRouteSet) : ProductRouteSet :=
  { set with transitionTimer := set.transitionTimer + 1 }

/-- A timeout wakes up. -/
def expire (set : ProductRouteSet) (ticket : UInt64) : ProductRouteSet :=
  if ticket ∈ set.sleeping then
    let woken := { set with sleeping := set.sleeping.erase ticket }
    if set.transitionTimer = ticket then woken.revokeRoutes else woken
  else
    set

def expireAll (set : ProductRouteSet) (tickets : List UInt64) : ProductRouteSet :=
  tickets.foldl expire set

/-- A message is about the other route. -/
def validateTransitionBinding (set : ProductRouteSet) (message : RouteTransitionMessage) :
    Except ProductSessionError Unit :=
  let target := set.bindings set.active.other
  if message.routeDigest ≠ target.routeDigest ∨
      message.transcriptDigest ≠ target.transcriptDigest then
    .error (.routeTransition .bindingMismatch)
  else
    .ok ()

/-- One pass of the loop of `synchronize_route_epochs`. -/
def synchronizeRoute (route : RouteSession) (message : RouteTransitionMessage) :
    Except ProductSessionError RouteSession :=
  if route.routeEpoch = message.baseRouteEpoch then
    match route.advanceRouteEpoch message.baseRouteEpoch message.nextRouteEpoch with
    | (.error e, _) => .error e
    | (.ok _, advanced) =>
      .ok { route with toProductSession := advanced, routeSequence := message.sequence }
  else if route.routeEpoch = message.nextRouteEpoch then
    .ok { route with routeSequence := message.sequence }
  else
    .error (.routeEpochTransition message.baseRouteEpoch route.routeEpoch message.nextRouteEpoch)

/-- `synchronize_route_epochs`.  When the second route fails, the first one has
been synchronized already. -/
def synchronizeRouteEpochs (set : ProductRouteSet) (message : RouteTransitionMessage) :
    Except ProductSessionError Unit × ProductRouteSet :=
  match synchronizeRoute (set.routes 0) message with
  | .error e => (.error e, set)
  | .ok first =>
    match synchronizeRoute (set.routes 1) message with
    | .error e => (.error e, set.setRoute 0 first)
    | .ok second => (.ok (), (set.setRoute 0 first).setRoute 1 second)

/-- Moves the authority to the other route. -/
def activatePreparedRoute (set : ProductRouteSet) (previous : RouteIndex) : ProductRouteSet :=
  let next := previous.other
  { (set.setRoute previous ((set.routes previous).setRouteAuthorized false)).setRoute next
      ((set.routes next).setRouteAuthorized true) with
    active := next }

/-! ## The results of a call -/

def refuse (set : ProductRouteSet) (error : ProductSessionError) : Operation :=
  { outcome := .refused error, set := set, consumed := false, sent := none }

def wait (set : ProductRouteSet) : Operation :=
  { outcome := .waiting, set := set, consumed := false, sent := none }

/-- The guard is dropped armed. -/
def failClosed (set : ProductRouteSet) (error : ProductSessionError) (consumed : Bool)
    (sent : Option (RouteIndex × ControlRecord)) : Operation :=
  { outcome := .failedClosed error, set := set.revokeRoutes, consumed := consumed, sent := sent }

def succeed (set : ProductRouteSet) (message : Option RouteTransitionMessage) (consumed : Bool)
    (sent : Option (RouteIndex × ControlRecord)) : Operation :=
  { outcome := .ok message, set := set, consumed := consumed, sent := sent }

/-! ## Sending -/

/-- The route that carries a message of `send_route_transition`. -/
def controlRoute (set : ProductRouteSet) : RouteTransitionStage → Option RouteIndex
  | .prepare => if set.transitionRoute.isNone then some set.active else none
  | .prepared => set.transitionRoute
  | .commit => set.transitionRoute
  | _ => none

/-- The part of `send_route_transition` behind the write. -/
def finishSend (set : ProductRouteSet) (controlRoute : RouteIndex)
    (message : RouteTransitionMessage) (sent : Option (RouteIndex × ControlRecord)) : Operation :=
  match message.stage with
  | .commit =>
    match set.synchronizeRouteEpochs message with
    | (.error e, set) => set.failClosed e false sent
    | (.ok (), set) =>
      { set with
        activation := .awaitingActivated set.active message
        transitionRoute := none }.succeed none false sent
  | .prepare =>
    { set with transitionRoute := some controlRoute }.armTransitionTimeout.succeed none false sent
  | _ => set.succeed none false sent

/-- Sends a message on its route. -/
def sendRouteTransition (set : ProductRouteSet) (message : RouteTransitionMessage)
    (write : WriteOutcome) : Operation :=
  match set.validateTransitionBinding message with
  | .error e => set.refuse e
  | .ok () =>
    match set.controlRoute message.stage with
    | none => set.refuse (.routeTransition .invalidState)
    | some controlRoute =>
      match (set.routes controlRoute).sendRouteTransition message write with
      | (.error e, route, record) =>
        (set.setRoute controlRoute route).failClosed e false (record.map (controlRoute, ·))
      | (.ok (), route, record) =>
        (set.setRoute controlRoute route).finishSend controlRoute message
          (record.map (controlRoute, ·))

/-- Starts to move off a failed route. -/
def sendRollbackViaRetained (set : ProductRouteSet) (message : RouteTransitionMessage)
    (write : WriteOutcome) : Operation :=
  if message.stage ≠ .prepare ∨ set.transitionRoute.isSome ∨ set.activation ≠ .idle ∨
      (set.routes set.active).routeAuthorized then
    set.refuse (.routeTransition .invalidState)
  else
    match set.validateTransitionBinding message with
    | .error e => set.refuse e
    | .ok () =>
      let retained := set.active.other
      match (set.routes retained).sendRouteTransition message write with
      | (.error e, route, record) =>
        (set.setRoute retained route).failClosed e false (record.map (retained, ·))
      | (.ok (), route, record) =>
        { set.setRoute retained route with
          transitionRoute := some retained }.armTransitionTimeout.succeed none false
            (record.map (retained, ·))

/-! ## Receiving -/

/-- The part of `next_route_transition` for a commit message. -/
def followCommit (set : ProductRouteSet) (message : RouteTransitionMessage) (during : Wait) :
    Operation :=
  match set.synchronizeRouteEpochs message with
  | (.error e, set) => set.failClosed e true none
  | (.ok (), set) =>
    let next := set.active.other
    match (set.routes next).sendRouteActivation { message with stage := .activated }
        during.write with
    | (.error e, record) =>
      (set.expireAll during.expired).failClosed e true (record.map (next, ·))
    | (.ok (), record) =>
      { (set.expireAll during.expired).activatePreparedRoute set.active with
        activation := .awaitingConfirmed message
        transitionRoute := none }.succeed (some message) true (record.map (next, ·))

/-- The part of `next_route_transition` behind the read. -/
def finishReceive (set : ProductRouteSet) (receiver : RouteIndex)
    (message : RouteTransitionMessage) (during : Wait) : Operation :=
  match message.stage with
  | .prepare =>
    if set.transitionRoute.isSome then
      set.failClosed (.routeTransition .invalidState) true none
    else
      let set := { set with transitionRoute := some receiver }
      let set :=
        if receiver ≠ set.active then
          set.setRoute set.active ((set.routes set.active).setRouteAuthorized false)
        else set
      set.armTransitionTimeout.succeed (some message) true none
  | stage =>
    if set.transitionRoute ≠ some receiver then
      set.failClosed (.routeTransition .wrongActiveRoute) true none
    else if stage = .commit then
      set.followCommit message during
    else
      set.succeed (some message) true none

/-- Whether a read on the route gets as far as the lane. -/
def reads (set : ProductRouteSet) (receiver : RouteIndex) : Bool :=
  decide (receiver ≠ set.active) || (set.routes receiver).routeAuthorized

/-- Reads a message and follows it. -/
def nextRouteTransition (set : ProductRouteSet) (receiver : RouteIndex) (inbound : Inbound)
    (during : Wait) : Operation :=
  if set.transitionRoute.any (· ≠ receiver) then
    set.refuse (.routeTransition .wrongActiveRoute)
  else
    match inbound, set.reads receiver with
    | .pending, true => set.wait
    | inbound, reads =>
      match (set.routes receiver).nextRouteTransitionInner (set.bindings set.active.other)
          (decide (receiver ≠ set.active)) inbound.record? with
      | (.error e, route) =>
        (set.setRoute receiver route).failClosed e (reads && inbound.record?.isSome) none
      | (.ok message, route) => (set.setRoute receiver route).finishReceive receiver message during

/-- The peer has activated the route. -/
def nextRouteActivation (set : ProductRouteSet) (receiver : RouteIndex) (inbound : Inbound)
    (during : Wait) : Operation :=
  match set.activation with
  | .awaitingActivated previous commit =>
    let next := previous.other
    if set.active ≠ previous ∨ receiver ≠ next then
      set.refuse (.routeTransition .wrongActiveRoute)
    else
      match inbound with
      | .pending => set.wait
      | inbound =>
        match (set.routes next).nextRouteActivation (set.bindings next) commit .activated
            inbound.record? with
        | (.error e, route) =>
          (set.setRoute next route).failClosed e inbound.record?.isSome none
        | (.ok activated, route) =>
          match route.sendRouteActivation { commit with stage := .confirmed } during.write with
          | (.error e, record) =>
            ((set.setRoute next route).expireAll during.expired).failClosed e true
              (record.map (next, ·))
          | (.ok (), record) =>
            { ((set.setRoute next route).expireAll during.expired).activatePreparedRoute
                previous with
              activation := .idle }.disarmTransitionTimeout.succeed (some activated) true
                (record.map (next, ·))
  | _ => set.refuse (.routeTransition .invalidState)

/-- The peer has confirmed the route. -/
def nextRouteConfirmation (set : ProductRouteSet) (receiver : RouteIndex) (inbound : Inbound) :
    Operation :=
  match set.activation with
  | .awaitingConfirmed commit =>
    if receiver ≠ set.active then
      set.refuse (.routeTransition .wrongActiveRoute)
    else
      match inbound with
      | .pending => set.wait
      | inbound =>
        match (set.routes set.active).nextRouteActivation (set.bindings set.active) commit
            .confirmed inbound.record? with
        | (.error e, route) =>
          (set.setRoute set.active route).failClosed e inbound.record?.isSome none
        | (.ok confirmed, route) =>
          { set.setRoute set.active route with
            activation := .idle }.disarmTransitionTimeout.succeed (some confirmed) true none
  | _ => set.refuse (.routeTransition .invalidState)

/-! ## Closing -/

/-- Both routes lose their authority and close. -/
def close (set : ProductRouteSet) : ProductRouteSet :=
  set.disarmTransitionTimeout.revokeRoutes

/-- The active route breaks down. -/
def failActiveRoute (set : ProductRouteSet) : ProductRouteSet :=
  set.setRoute set.active ((set.routes set.active).setRouteAuthorized false).close

end ProductRouteSet

/-! ## A sample -/

def sampleDigest (byte : UInt8) : Bytes 32 := ⟨List.replicate 32 byte, List.length_replicate⟩

def sampleBinding (byte : UInt8) (connectionId : Nat) : VerifiedRouteBinding :=
  { routeDigest := sampleDigest byte
    transcriptDigest := sampleDigest (byte + 16)
    connectionId := connectionId
    peerFingerprint := sampleDigest 99 }

def sampleRoute (connectionId : Nat) : RouteSession :=
  { sampleSession with
    routeSequence := 0
    routeTransition := .idle
    connectionId := connectionId
    peerCertificateChain := [[1]] }

def sampleSet : ProductRouteSet :=
  { routes := fun index =>
      if index = 0 then (sampleRoute 5).setRouteAuthorized true
      else (sampleRoute 6).setRouteAuthorized false
    bindings := fun index => if index = 0 then sampleBinding 1 5 else sampleBinding 2 6
    active := 0
    transitionTimer := 0
    sleeping := []
    activation := .idle
    transitionRoute := none }

theorem sampleSet_fresh : sampleSet.Fresh := by
  refine ⟨sampleRoute 5, sampleBinding 1 5, sampleRoute 6, sampleBinding 2 6, ?_, rfl, rfl, rfl,
    rfl⟩
  rfl

def sampleMessage (stage : RouteTransitionStage) : RouteTransitionMessage :=
  { version := wireVersion
    stage := stage
    sequence := 1
    baseRouteEpoch := 1
    nextRouteEpoch := 2
    expiresAtNs := 1
    routeDigest := sampleDigest 2
    transcriptDigest := sampleDigest 18 }

end LatencyDesk.SocketTransport
