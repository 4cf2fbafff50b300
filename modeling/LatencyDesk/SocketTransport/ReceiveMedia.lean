import LatencyDesk.Protocol.Quic
import LatencyDesk.Protocol.RouteTransition
import LatencyDesk.Transport.Reassembler

/-!
# Receiving media in a product session

The model of `ProductSession::receive_media_frame` and `advance_route_epoch` in
`crates/socket-transport/src/product.rs`.  A session is shared by its clones, so
calls of `receive_media_frame` run side by side.  Each of them is a thread with a
`ReceiveState`, and `receiveMediaFrame` is the next atomic step of a thread: one
load or one update under one lock.  What the step does between two awaits is cut
wherever another thread can come in between.

The peer and the clock are free: a step takes the datagram that arrives and the
local time as arguments, and route epochs and authorizations change between any
two steps.
-/

namespace LatencyDesk.SocketTransport

open Lib Protocol Transport

/-- `QuicTransportError`, as the media lane reports it. -/
inductive QuicTransportError where
  | connection
  | protocol (error : ProtocolError)
  | expiryMismatch (expected actual : UInt64)
deriving DecidableEq

inductive MediaSendOutcome where
  | sent
  | droppedExpired
  | droppedTooLarge
  | unsupported
deriving DecidableEq

/-- `RouteTransitionViolation`, as the modelled functions report it.  An inactive
route is an error of its own below. -/
inductive RouteTransitionViolation where
  | malformed (error : ProtocolError)
  | unexpectedKind (kind : ControlKind)
  | stageKindMismatch (stage : RouteTransitionStage) (kind : ControlKind)
  | routeEpoch (expected actual : UInt64)
  | sequence (expected actual : UInt64)
  | invalidState
  | sessionMismatch
  | peerIdentityMismatch
  | duplicateConnection
  | wrongActiveRoute
  | invalidBinding
  | bindingMismatch
deriving DecidableEq

/-- `ProductSessionError`, as the modelled functions report it.  A
`ProductProtocolViolation` of the peer is `stampMismatch`,
`controlSessionMismatch` or `peerRouteTransition`. -/
inductive ProductSessionError where
  | quic (error : QuicTransportError)
  | protocol (error : ProtocolError)
  | transport (error : TransportError)
  | stampMismatch (expected actual : SessionStamp)
  | inactiveRoute
  | routeEpochTransition (expectedCurrent actualCurrent requestedNext : UInt64)
  | routeTransition (violation : RouteTransitionViolation)
  | controlSessionMismatch (expected actual : UInt64)
  | peerRouteTransition (violation : RouteTransitionViolation)
  | datagramsUnsupported
  | datagramBudgetTooSmall (pathMaxDatagramBytes outerHeaderBytes minimumInnerDatagramBytes : Nat)
  | invalidMediaMaxAge
  | mediaDeadlineOverflow
  | mediaSendAborted (outcome : MediaSendOutcome) (fragmentsSent fragmentsTotal : Nat)
deriving DecidableEq

def stampAtRouteEpoch (stamp : SessionStamp) (routeEpoch : UInt64) : SessionStamp :=
  { stamp with routeEpoch := routeEpoch }

/-- The fields of `ProductSession` that the media lane shares. -/
structure ProductSession where
  stamp : SessionStamp
  routeEpoch : UInt64
  routeAuthorized : Bool
  reassembler : Reassembler
  reassemblyConfig : ReassemblyConfig
  reassemblyRouteEpoch : UInt64
  lastDeliveredFrameId : Option UInt64
  connectionClosed : Bool

namespace ProductSession

def new (stamp : SessionStamp) (reassembly : ReassemblyConfig) :
    Except TransportError ProductSession :=
  match Reassembler.new reassembly with
  | .error e => .error e
  | .ok reassembler =>
    .ok
      { stamp := stamp
        routeEpoch := stamp.routeEpoch
        routeAuthorized := true
        reassembler := reassembler
        reassemblyConfig := reassembly
        reassemblyRouteEpoch := stamp.routeEpoch
        lastDeliveredFrameId := none
        connectionClosed := false }

/-- `ProductSession::stamp()`: the stamp at the present route epoch. -/
def currentStamp (session : ProductSession) : SessionStamp :=
  stampAtRouteEpoch session.stamp session.routeEpoch

/-- `connection.close_for_protocol_violation()`. -/
def closeForProtocolViolation (session : ProductSession) : ProductSession :=
  { session with connectionClosed := true }

/-- Moves on by one epoch. -/
def advanceRouteEpoch (session : ProductSession) (expectedCurrent requestedNext : UInt64) :
    Except ProductSessionError SessionStamp × ProductSession :=
  if checkedAdd expectedCurrent 1 ≠ some requestedNext ∨ session.routeEpoch ≠ expectedCurrent then
    (.error (.routeEpochTransition expectedCurrent session.routeEpoch requestedNext), session)
  else
    let session : ProductSession := { session with routeEpoch := requestedNext }
    (.ok session.currentStamp, session)

/-- Start over with an empty reassembler when the route epoch is another one. -/
def resetReassembler (session : ProductSession) (routeEpoch : UInt64) :
    Except TransportError ProductSession :=
  if session.reassemblyRouteEpoch ≠ routeEpoch then
    match Reassembler.new session.reassemblyConfig with
    | .error e => .error e
    | .ok reassembler =>
      .ok { session with reassembler := reassembler, reassemblyRouteEpoch := routeEpoch }
  else
    .ok session

end ProductSession

/-- The session reads on after these. -/
def isSkippableIngestError : TransportError → Bool
  | .staleCodecEpoch _ _ => true
  | .metadataConflict _ => true
  | .fragmentConflict => true
  | .fragmentOverlap => true
  | .fragmentEntryLimit => true
  | .reassemblyCapacity => true
  | .frameExceedsReassemblyBudget _ _ => true
  | _ => false

/-! ## One call -/

/-- How far a call of `receive_media_frame` has come. -/
inductive ReceiveState where
  /-- There is no call. -/
  | idle
  /-- The top of the loop. -/
  | starting
  /-- Authorized; the reassembler's lock comes next. -/
  | expiring
  /-- In `connection.receive_media()`. -/
  | receiving
  /-- A datagram has come; the authorization is checked again. -/
  | received (bytes : List UInt8)
  /-- Authorized again; the datagram's stamp is compared. -/
  | checking (bytes : List UInt8)
  /-- The stamp was the expected one; the reassembler's lock comes next. -/
  | ingesting (bytes : List UInt8) (expected : SessionStamp)
  /-- The datagram is in; the stamp is compared again. -/
  | ingested (expected : SessionStamp) (outcome : Except TransportError IngestOutcome)
  /-- A frame is complete; the lock of `last_delivered_frame_id` comes next. -/
  | delivering (frame : ReassembledFrame)

/-- What a step does that others can see. -/
inductive ReceiveEvent where
  | quiet
  /-- The thread has put a datagram into the reassembler. -/
  | ingested (thread : Nat) (bytes : List UInt8) (outcome : Except TransportError IngestOutcome)
  /-- The call returned the frame. -/
  | delivered (thread : Nat) (frame : ReassembledFrame)
  /-- The call returned an error. -/
  | failed (thread : Nat) (error : ProductSessionError)
  | advanced (result : Except ProductSessionError SessionStamp)

/-- Put a datagram into the reassembler, under its lock. -/
def ingestDatagram (thread : Nat) (session : ProductSession) (bytes : List UInt8)
    (expected : SessionStamp) (nowNs : UInt64) : ReceiveEvent × ProductSession × ReceiveState :=
  match session.resetReassembler expected.routeEpoch with
  | .error e => (.failed thread (.transport e), session, .idle)
  | .ok session =>
    let result :=
      (session.reassembler.expire nowNs).2.ingest (bytes.drop quicMediaHeaderLen) nowNs
    (.ingested thread bytes result.1, { session with reassembler := result.2 },
      .ingested expected result.1)

/-- What follows the second comparison of the stamp. -/
def handleOutcome (thread : Nat) (session : ProductSession)
    (outcome : Except TransportError IngestOutcome) :
    ReceiveEvent × ProductSession × ReceiveState :=
  match outcome with
  | .ok (.complete frame) => (.quiet, session, .delivering frame)
  | .ok _ => (.quiet, session, .starting)
  | .error e =>
    if isSkippableIngestError e then (.quiet, session, .starting)
    else (.failed thread (.transport e), session.closeForProtocolViolation, .idle)

/-- Hand a frame out, under the lock of `last_delivered_frame_id`. -/
def deliverFrame (thread : Nat) (session : ProductSession) (frame : ReassembledFrame) :
    ReceiveEvent × ProductSession × ReceiveState :=
  let isStale :=
    match session.lastDeliveredFrameId with
    | some previous => decide (frame.header.frameId ≤ previous)
    | none => false
  if isStale then
    (.quiet, session, .starting)
  else
    (.delivered thread frame,
      { session with lastDeliveredFrameId := some frame.header.frameId }, .idle)

/-- The next atomic step of a call of `receive_media_frame`.  `inbound` is what
`connection.receive_media()` reads, and `none` when the connection is lost. -/
def receiveMediaFrame (thread : Nat) (session : ProductSession) (state : ReceiveState)
    (inbound : Option (List UInt8)) (nowNs : UInt64) :
    ReceiveEvent × ProductSession × ReceiveState :=
  match state with
  | .idle => (.quiet, session, .idle)
  | .starting =>
    if session.routeAuthorized then (.quiet, session, .expiring)
    else (.failed thread .inactiveRoute, session, .idle)
  | .expiring =>
    (.quiet, { session with reassembler := (session.reassembler.expire nowNs).2 }, .receiving)
  | .receiving =>
    match inbound with
    | none => (.failed thread (.quic .connection), session, .idle)
    | some bytes =>
      match MediaDatagram.decode bytes with
      | .error e =>
        (.failed thread (.quic (.protocol e)), session.closeForProtocolViolation, .idle)
      | .ok _ => (.quiet, session, .received bytes)
  | .received bytes =>
    if session.routeAuthorized then (.quiet, session, .checking bytes)
    else (.failed thread .inactiveRoute, session, .idle)
  | .checking bytes =>
    match MediaDatagram.decode bytes with
    | .error e =>
      (.failed thread (.protocol e), session.closeForProtocolViolation, .idle)
    | .ok datagram =>
      if datagram.stamp ≠ session.currentStamp then
        (.failed thread (.stampMismatch session.currentStamp datagram.stamp),
          session.closeForProtocolViolation, .idle)
      else
        (.quiet, session, .ingesting bytes session.currentStamp)
  | .ingesting bytes expected => ingestDatagram thread session bytes expected nowNs
  | .ingested expected outcome =>
    if session.currentStamp ≠ expected then (.quiet, session, .starting)
    else handleOutcome thread session outcome
  | .delivering frame => deliverFrame thread session frame

/-! ## All calls -/

/-- The shared session and the calls on its clones. -/
structure ReceiveWorld where
  session : ProductSession
  threads : Nat → ReceiveState

inductive ReceiveStep where
  /-- A clone calls `receive_media_frame`. -/
  | call (thread : Nat)
  | proceed (thread : Nat) (inbound : Option (List UInt8)) (nowNs : UInt64)
  /-- The future of a call is dropped. -/
  | cancel (thread : Nat)
  | advanceRouteEpoch (expectedCurrent requestedNext : UInt64)
  | setRouteAuthorized (authorized : Bool)

namespace ReceiveWorld

def setThread (world : ReceiveWorld) (thread : Nat) (state : ReceiveState) : ReceiveWorld :=
  { world with threads := Function.update world.threads thread state }

/-- A session without calls. -/
def ofSession (session : ProductSession) : ReceiveWorld :=
  { session := session, threads := fun _ => .idle }

def step (world : ReceiveWorld) : ReceiveStep → ReceiveEvent × ReceiveWorld
  | .call thread =>
    match world.threads thread with
    | .idle => (.quiet, world.setThread thread .starting)
    | _ => (.quiet, world)
  | .proceed thread inbound nowNs =>
    let next := receiveMediaFrame thread world.session (world.threads thread) inbound nowNs
    (next.1, { world with session := next.2.1 }.setThread thread next.2.2)
  | .cancel thread => (.quiet, world.setThread thread .idle)
  | .advanceRouteEpoch expectedCurrent requestedNext =>
    let next := world.session.advanceRouteEpoch expectedCurrent requestedNext
    (.advanced next.1, { world with session := next.2 })
  | .setRouteAuthorized authorized =>
    (.quiet, { world with session := { world.session with routeAuthorized := authorized } })

end ReceiveWorld

def receiveMachine : Machine ReceiveWorld ReceiveStep ReceiveEvent where
  step := ReceiveWorld.step

/-! ## A sample -/

/-- A stamp of an active session. -/
def sampleStamp : SessionStamp :=
  { sessionId := 9, generation := 1, authorizationEpoch := 1, displayEpoch := 1, codecEpoch := 1
    routeEpoch := 1 }

def sampleSession : ProductSession :=
  { stamp := sampleStamp
    routeEpoch := 1
    routeAuthorized := true
    reassembler := .ofValid .default ReassemblyConfig.validate_default
    reassemblyConfig := .default
    reassemblyRouteEpoch := 1
    lastDeliveredFrameId := none
    connectionClosed := false }

end LatencyDesk.SocketTransport
