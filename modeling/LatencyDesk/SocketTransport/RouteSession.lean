import LatencyDesk.SocketTransport.ReceiveMedia

/-!
# Route transitions of one session

The model of the route transition methods of `ProductSession` and
`ControlReceiver` in `crates/socket-transport/src/product.rs`.

Control records lie in a lane between two endpoints.  The envelope of a record
is a structure here, and its payload is the encoded message.  What the network
does is an argument: a write can fail, and it can also leave its record in the
lane before the call is dropped.  A read gets a record or fails.
-/

namespace LatencyDesk.SocketTransport

open Lib Protocol

structure VerifiedRouteBinding where
  routeDigest : Bytes 32
  transcriptDigest : Bytes 32
  connectionId : Nat
  peerFingerprint : Bytes 32
deriving DecidableEq

/-! ## The wire state -/

/-- The transition message that went last. -/
inductive RouteWireState where
  | idle
  | prepareSent (prepare : RouteTransitionMessage)
  | prepareReceived (prepare : RouteTransitionMessage)
  | preparedSent (prepared : RouteTransitionMessage)
  | preparedReceived (prepared : RouteTransitionMessage)
deriving DecidableEq

/-- Two messages of one transition. -/
def sameRouteTransition (first second : RouteTransitionMessage) : Bool :=
  first.sequence == second.sequence && first.baseRouteEpoch == second.baseRouteEpoch &&
    first.nextRouteEpoch == second.nextRouteEpoch && first.expiresAtNs == second.expiresAtNs &&
    first.routeDigest == second.routeDigest && first.transcriptDigest == second.transcriptDigest

namespace RouteWireState

/-- What may be sent after what. -/
def sent (state : RouteWireState) (message : RouteTransitionMessage) :
    Except RouteTransitionViolation RouteWireState :=
  match state, message.stage with
  | .idle, .prepare => .ok (.prepareSent message)
  | .prepareReceived prepare, .prepared =>
    if sameRouteTransition prepare message then .ok (.preparedSent message)
    else .error .invalidState
  | .preparedReceived prepared, .commit =>
    if sameRouteTransition prepared message then .ok .idle else .error .invalidState
  | _, _ => .error .invalidState

/-- What may be received after what. -/
def received (state : RouteWireState) (message : RouteTransitionMessage) :
    Except RouteTransitionViolation RouteWireState :=
  match state, message.stage with
  | .idle, .prepare => .ok (.prepareReceived message)
  | .prepareSent prepare, .prepared =>
    if sameRouteTransition prepare message then .ok (.preparedReceived message)
    else .error .invalidState
  | .preparedSent prepared, .commit =>
    if sameRouteTransition prepared message then .ok .idle else .error .invalidState
  | _, _ => .error .invalidState

end RouteWireState

/-! ## Sending -/

/-- A control record in a lane. -/
structure ControlRecord where
  stamp : SessionStamp
  kind : ControlKind
  sessionId : UInt64
  payload : List UInt8
deriving DecidableEq

/-- What becomes of a write. -/
inductive WriteOutcome where
  | written
  /-- The write failed and nothing is in the lane. -/
  | failed
  /-- The record is in the lane, but the call was dropped before it returned. -/
  | interrupted
deriving DecidableEq

/-- A session with the state of its route transitions.  `connectionId` is
`connection.stable_id()`. -/
structure RouteSession extends ProductSession where
  routeSequence : UInt64
  routeTransition : RouteWireState
  connectionId : Nat
  peerCertificateChain : List (List UInt8)

namespace RouteSession

def setRouteAuthorized (session : RouteSession) (authorized : Bool) : RouteSession :=
  { session with routeAuthorized := authorized }

/-- `close`, whatever its code and reason are. -/
def close (session : RouteSession) : RouteSession :=
  { session with connectionClosed := true }

/-- The sequence number of the next prepare message. -/
def expectedSequence (session : RouteSession) : UInt64 :=
  (checkedAdd session.routeSequence 1).getD 0

def sendControlUnlocked (session : RouteSession) (kind : ControlKind) (payload : List UInt8)
    (write : WriteOutcome) : Except ProductSessionError Unit × Option ControlRecord :=
  let record : ControlRecord :=
    { stamp := session.currentStamp
      kind := kind
      sessionId := session.stamp.sessionId
      payload := payload }
  match write with
  | .written => (.ok (), some record)
  | .failed => (.error (.quic .connection), none)
  | .interrupted => (.error (.quic .connection), some record)

/-- The checks of `send_route_transition` before the write.  They give the next
wire state and the payload. -/
def checkSend (session : RouteSession) (message : RouteTransitionMessage) :
    Except RouteTransitionViolation (RouteWireState × List UInt8) :=
  match message.validate with
  | .error e => .error (.malformed e)
  | .ok () =>
    if message.baseRouteEpoch ≠ session.routeEpoch then
      .error (.routeEpoch session.routeEpoch message.baseRouteEpoch)
    else if message.stage = .prepare ∧ message.sequence ≠ session.expectedSequence then
      .error (.sequence session.expectedSequence message.sequence)
    else
      match session.routeTransition.sent message with
      | .error violation => .error violation
      | .ok next =>
        match message.encode with
        | .error e => .error (.malformed e)
        | .ok payload => .ok (next, payload)

/-- Sends a message and moves on. -/
def sendRouteTransition (session : RouteSession) (message : RouteTransitionMessage)
    (write : WriteOutcome) :
    Except ProductSessionError Unit × RouteSession × Option ControlRecord :=
  match session.checkSend message with
  | .error violation => (.error (.routeTransition violation), session, none)
  | .ok (next, payload) =>
    match session.sendControlUnlocked message.stage.controlKind payload write with
    | (.error e, record) => (.error e, session, record)
    | (.ok (), record) =>
      if message.stage = .commit then
        match session.advanceRouteEpoch message.baseRouteEpoch message.nextRouteEpoch with
        | (.error e, _) => (.error e, session.close, record)
        | (.ok _, advanced) =>
          (.ok (),
            { session with
              toProductSession := advanced
              routeSequence := message.sequence
              routeTransition := next }, record)
      else
        (.ok (), { session with routeTransition := next }, record)

def sendRouteActivation (session : RouteSession) (message : RouteTransitionMessage)
    (write : WriteOutcome) : Except ProductSessionError Unit × Option ControlRecord :=
  if message.stage ≠ .activated ∧ message.stage ≠ .confirmed then
    (.error (.routeTransition .invalidState), none)
  else
    match message.encode with
    | .error e => (.error (.routeTransition (.malformed e)), none)
    | .ok payload => session.sendControlUnlocked message.stage.controlKind payload write

/-! ## Receiving -/

/-- `next_control_private_inner`.  The route's authorization is checked before
the read and once more after it. -/
def nextControlPrivateInner (session : RouteSession) (allowInactive : Bool)
    (inbound : Option ControlRecord) : Except ProductSessionError (ControlKind × List UInt8) :=
  if !allowInactive && !session.routeAuthorized then
    .error .inactiveRoute
  else
    match inbound with
    | none => .error (.quic .connection)
    | some record =>
      if record.stamp ≠ session.currentStamp then
        .error (.stampMismatch session.currentStamp record.stamp)
      else if record.sessionId ≠ session.stamp.sessionId then
        .error (.controlSessionMismatch session.stamp.sessionId record.sessionId)
      else
        .ok (record.kind, record.payload)

def isRouteControl (kind : ControlKind) : Bool :=
  match kind with
  | .routePrepare | .routePrepared | .routeCommit | .routeActivated | .routeConfirmed => true
  | _ => false

/-- The checks of `next_route_transition_inner` on a decoded message. -/
def checkMessage (session : RouteSession) (binding : VerifiedRouteBinding) (kind : ControlKind)
    (message : RouteTransitionMessage) :
    Except RouteTransitionViolation (RouteTransitionMessage × RouteWireState) :=
  if message.stage.controlKind ≠ kind then
    .error (.stageKindMismatch message.stage kind)
  else if message.routeDigest ≠ binding.routeDigest ∨
      message.transcriptDigest ≠ binding.transcriptDigest then
    .error .bindingMismatch
  else if message.baseRouteEpoch ≠ session.routeEpoch then
    .error (.routeEpoch session.routeEpoch message.baseRouteEpoch)
  else if message.stage = .prepare ∧ message.sequence ≠ session.expectedSequence then
    .error (.sequence session.expectedSequence message.sequence)
  else
    match session.routeTransition.received message with
    | .error violation => .error violation
    | .ok next => .ok (message, next)

/-- What `next_route_transition_inner` does before it changes anything. -/
def checkReceive (session : RouteSession) (binding : VerifiedRouteBinding) (allowInactive : Bool)
    (inbound : Option ControlRecord) :
    Except ProductSessionError (RouteTransitionMessage × RouteWireState) :=
  match session.nextControlPrivateInner allowInactive inbound with
  | .error e => .error e
  | .ok (kind, payload) =>
    if isRouteControl kind then
      match RouteTransitionMessage.decode payload with
      | .error e => .error (.peerRouteTransition (.malformed e))
      | .ok message =>
        match session.checkMessage binding kind message with
        | .error violation => .error (.peerRouteTransition violation)
        | .ok answer => .ok answer
    else
      .error (.peerRouteTransition (.unexpectedKind kind))

/-- `next_route_transition_inner`.  `FailClosedControlRead` closes the connection
on every error. -/
def nextRouteTransitionInner (session : RouteSession) (binding : VerifiedRouteBinding)
    (allowInactive : Bool) (inbound : Option ControlRecord) :
    Except ProductSessionError RouteTransitionMessage × RouteSession :=
  match session.checkReceive binding allowInactive inbound with
  | .error e => (.error e, session.close)
  | .ok (message, next) =>
    if message.stage = .commit then
      -- `compare_exchange` cannot fail: the epoch was compared above
      (.ok message,
        { session with
          routeEpoch := message.nextRouteEpoch
          routeSequence := message.sequence
          routeTransition := next })
    else
      (.ok message, { session with routeTransition := next })

/-- The checks of `next_route_activation`. -/
def checkActivation (session : RouteSession) (binding : VerifiedRouteBinding)
    (commit : RouteTransitionMessage) (expectedStage : RouteTransitionStage)
    (inbound : Option ControlRecord) : Except ProductSessionError RouteTransitionMessage :=
  match inbound with
  | none => .error (.quic .connection)
  | some record =>
    if record.stamp ≠ session.currentStamp then
      .error (.stampMismatch session.currentStamp record.stamp)
    else
      match RouteTransitionMessage.decode record.payload with
      | .error e => .error (.peerRouteTransition (.malformed e))
      | .ok message =>
        if record.sessionId ≠ session.currentStamp.sessionId ∨
            record.kind ≠ expectedStage.controlKind ∨ message.stage ≠ expectedStage ∨
            sameRouteTransition message commit = false ∨
            message.routeDigest ≠ binding.routeDigest ∨
            message.transcriptDigest ≠ binding.transcriptDigest then
          .error (.peerRouteTransition .bindingMismatch)
        else
          .ok message

/-- Reads an activation or a confirmation. -/
def nextRouteActivation (session : RouteSession) (binding : VerifiedRouteBinding)
    (commit : RouteTransitionMessage) (expectedStage : RouteTransitionStage)
    (inbound : Option ControlRecord) :
    Except ProductSessionError RouteTransitionMessage × RouteSession :=
  match session.checkActivation binding commit expectedStage inbound with
  | .error e => (.error e, session.close)
  | .ok message => (.ok message, session)

end RouteSession

end LatencyDesk.SocketTransport
