import LatencyDesk.Lib.Machine
import LatencyDesk.Lib.Sha256
import LatencyDesk.Protocol.Types

/-!
# The route transition controller

The model of `crates/session/src/route_transition.rs`.  A method that takes
`&mut self` becomes a function from the controller to its result and the
controller after the call, so an early return keeps the fields that were
already written.

`RouteCall` lists the six public methods that change the controller, and
`RouteEvent` records a call together with its result.  `routeMachine` runs
them.  Times are arbitrary arguments of the calls.  Nothing makes them
monotone.
-/

namespace LatencyDesk.Session.RouteTransition

open Lib Protocol

structure RouteProof where
  iceNominated : Bool
  exactMtls : Bool
  transcriptBound : Bool
  consentFresh : Bool
  transcriptDigest : Bytes 32
deriving DecidableEq

/-- Every part is proved, of some transcript. -/
def RouteProof.isComplete (proof : RouteProof) : Bool :=
  proof.iceNominated && proof.exactMtls && proof.transcriptBound && proof.consentFresh &&
    proof.transcriptDigest != List.Vector.replicate 32 0

/-- A move to a route that is under way. -/
structure PromotionToken where
  sequence : UInt64
  baseRouteEpoch : UInt64
  stamp : SessionStamp
  route : ConnectionPath
  routeDigest : Bytes 32
  transcriptDigest : Bytes 32
  expiresAtNs : UInt64
deriving DecidableEq

structure RouteSwitch where
  sequence : UInt64
  routeEpoch : UInt64
  stamp : SessionStamp
  fromRoute : ConnectionPath
  toRoute : ConnectionPath
deriving DecidableEq

inductive RouteHealthAction where
  | noChange
  | stable
  | rollbackRequired (token : PromotionToken)
deriving DecidableEq

inductive RouteTransitionError where
  | invalidConfig
  | invalidRoute
  | sameRoute
  | unverifiedRoute
  | transitionInProgress
  | tokenMismatch
  | invalidState
  | expired
  | noVerifiedRoute
  | sequenceExhausted
  | routeEpochExhausted
  | timeOverflow
deriving DecidableEq

inductive TransitionState where
  | stable
  | probing (token : PromotionToken) (previous : ConnectionPath)
  | prepared (token : PromotionToken) (previous : ConnectionPath)
  | committed (token : PromotionToken) (previous : ConnectionPath)
      (previousTranscriptDigest : Bytes 32) (stableAtNs : UInt64)
deriving DecidableEq

/-- The active route and the move to another. -/
structure RouteTransitionController where
  stamp : SessionStamp
  active : ConnectionPath
  activeTranscriptDigest : Bytes 32
  prepareTimeoutNs : UInt64
  stabilityWindowNs : UInt64
  nextSequence : UInt64
  activeAuthority : Bool
  state : TransitionState
deriving DecidableEq

/-! ## Paths -/

def validIp : WireIpAddr → Bool
  | .v4 bytes =>
    bytes != List.Vector.replicate 4 0 && bytes != List.Vector.replicate 4 255 &&
      !(decide (224 ≤ bytes.head) && decide (bytes.head ≤ 239))
  | .v6 bytes => bytes != List.Vector.replicate 16 0 && bytes.head != 0xff

/-- Both addresses are of one family. -/
def sameFamily : WireIpAddr → WireIpAddr → Bool
  | .v4 _, .v4 _ => true
  | .v6 _, .v6 _ => true
  | _, _ => false

/-- The parts of a route are usable. -/
def validPath : ConnectionPath → Bool
  | .direct localIp localPort remoteIp remotePort pairPriority =>
    localPort != 0 && remotePort != 0 && pairPriority != 0 && validIp localIp &&
      validIp remoteIp && sameFamily localIp remoteIp
  | .relay relaySessionId provider remotePeerId =>
    relaySessionId != 0 && provider != .none && remotePeerId != List.Vector.replicate 16 0

/-- The bytes that `update_ip_digest` feeds to the hash. -/
def updateIpDigest : WireIpAddr → List UInt8
  | .v4 bytes => 4 :: bytes.toList
  | .v6 bytes => 6 :: bytes.toList

/-- `b"latencydesk-route-v1"`. -/
def routeDomain : List UInt8 := asciiBytes "latencydesk-route-v1"

/-- What stands for a route on the wire. -/
def connectionPathDigest (sha256 : Sha256) : ConnectionPath → Bytes 32
  | .direct localIp localPort remoteIp remotePort pairPriority =>
    sha256 (routeDomain ++ [1] ++ updateIpDigest localIp ++ beBytes 2 localPort.toNat ++
      updateIpDigest remoteIp ++ beBytes 2 remotePort.toNat ++ beBytes 8 pairPriority.toNat)
  | .relay relaySessionId provider remotePeerId =>
    sha256 (routeDomain ++ [2] ++ beBytes 8 relaySessionId.toNat ++ [provider.toByte] ++
      remotePeerId.toList)

/-! ## The methods of the controller -/

namespace RouteTransitionController

def new (stamp : SessionStamp) (active : ConnectionPath) (activeProof : RouteProof)
    (prepareTimeoutNs stabilityWindowNs : UInt64) :
    Except RouteTransitionError RouteTransitionController :=
  if stamp.validatePending ≠ .ok () ∨ stamp.authorizationEpoch = 0 ∨ stamp.displayEpoch = 0 ∨
      stamp.codecEpoch = 0 ∨ activeProof.isComplete = false ∨ prepareTimeoutNs = 0 ∨
      stabilityWindowNs = 0 then
    .error .invalidConfig
  else if validPath active = false then
    .error .invalidRoute
  else
    .ok
      { stamp := stamp
        active := active
        activeTranscriptDigest := activeProof.transcriptDigest
        prepareTimeoutNs := prepareTimeoutNs
        stabilityWindowNs := stabilityWindowNs
        nextSequence := 0
        activeAuthority := true
        state := .stable }

/-- Data of the active route and epoch. -/
def acceptsApplicationRoute (c : RouteTransitionController) (routeEpoch : UInt64)
    (route : ConnectionPath) : Bool :=
  c.activeAuthority && routeEpoch == c.stamp.routeEpoch && route == c.active

def acceptsPacket (c : RouteTransitionController) (stamp : SessionStamp)
    (route : ConnectionPath) : Bool :=
  c.stamp == stamp && c.acceptsApplicationRoute stamp.routeEpoch route

variable (sha256 : Sha256)

/-- Starts to move to a proved route. -/
def begin (c : RouteTransitionController) (candidate : ConnectionPath) (proof : RouteProof)
    (nowNs : UInt64) : Except RouteTransitionError PromotionToken × RouteTransitionController :=
  if c.activeAuthority = false then
    (.error .noVerifiedRoute, c)
  else if c.state ≠ .stable then
    (.error .transitionInProgress, c)
  else if candidate = c.active then
    (.error .sameRoute, c)
  else if validPath candidate = false then
    (.error .invalidRoute, c)
  else if proof.isComplete = false then
    (.error .unverifiedRoute, c)
  else
    match checkedAdd c.nextSequence 1 with
    | none => (.error .sequenceExhausted, c)
    | some sequence =>
      match checkedAdd nowNs c.prepareTimeoutNs with
      | none => (.error .timeOverflow, c)
      | some expiresAtNs =>
        let token : PromotionToken :=
          { sequence := sequence
            baseRouteEpoch := c.stamp.routeEpoch
            stamp := c.stamp
            route := candidate
            routeDigest := connectionPathDigest sha256 candidate
            transcriptDigest := proof.transcriptDigest
            expiresAtNs := expiresAtNs }
        (.ok token, { c with nextSequence := sequence, state := .probing token c.active })

/-- The peer is ready for the move. -/
def peerPrepared (c : RouteTransitionController) (token : PromotionToken) (nowNs : UInt64) :
    Except RouteTransitionError Unit × RouteTransitionController :=
  match c.state with
  | .probing expected previous =>
    if token ≠ expected then
      (.error .tokenMismatch, c)
    else if token.expiresAtNs ≤ nowNs then
      (.error .expired, { c with state := .stable })
    else
      (.ok (), { c with state := .prepared token previous })
  | _ => (.error .invalidState, c)

/-- Moves to the new route and epoch. -/
def commit (c : RouteTransitionController) (token : PromotionToken) (nowNs : UInt64) :
    Except RouteTransitionError RouteSwitch × RouteTransitionController :=
  match c.state with
  | .prepared expected previous =>
    if token ≠ expected then
      (.error .tokenMismatch, c)
    else if token.expiresAtNs ≤ nowNs then
      (.error .expired, { c with state := .stable })
    else
      match checkedAdd nowNs c.stabilityWindowNs with
      | none => (.error .timeOverflow, c)
      | some stableAtNs =>
        match checkedAdd c.stamp.routeEpoch 1 with
        | none => (.error .routeEpochExhausted, c)
        | some routeEpoch =>
          let stamp : SessionStamp := { c.stamp with routeEpoch := routeEpoch }
          (.ok
            { sequence := token.sequence
              routeEpoch := routeEpoch
              stamp := stamp
              fromRoute := previous
              toRoute := token.route },
            { c with
              stamp := stamp
              activeTranscriptDigest := token.transcriptDigest
              active := token.route
              activeAuthority := true
              state := .committed token previous c.activeTranscriptDigest stableAtNs })
  | _ => (.error .invalidState, c)

/-- Starts to move back. -/
def beginVerifiedRollback (c : RouteTransitionController) (previous : ConnectionPath)
    (transcriptDigest : Bytes 32) (nowNs : UInt64) :
    Except RouteTransitionError PromotionToken × RouteTransitionController :=
  match checkedAdd c.stamp.routeEpoch 1 with
  | none => (.error .routeEpochExhausted, { c with activeAuthority := false, state := .stable })
  | some _ =>
    match checkedAdd c.nextSequence 1 with
    | none => (.error .sequenceExhausted, c)
    | some sequence =>
      match checkedAdd nowNs c.prepareTimeoutNs with
      | none => (.error .timeOverflow, c)
      | some expiresAtNs =>
        let token : PromotionToken :=
          { sequence := sequence
            baseRouteEpoch := c.stamp.routeEpoch
            stamp := c.stamp
            route := previous
            routeDigest := connectionPathDigest sha256 previous
            transcriptDigest := transcriptDigest
            expiresAtNs := expiresAtNs }
        (.ok token,
          { c with
            nextSequence := sequence
            activeAuthority := false
            state := .probing token c.active })

/-- `proof` is complete and bound to the transcript `digest`.  The health
methods check both the candidate proof and the previous proof this way. -/
def provesTranscript (proof : RouteProof) (digest : Bytes 32) : Bool :=
  proof.isComplete && proof.transcriptDigest == digest

/-- Keeps the new route if it is still proved. -/
def settleCommitted (c : RouteTransitionController) (nowNs : UInt64)
    (candidateProof previousProof : RouteProof) :
    Except RouteTransitionError RouteHealthAction × RouteTransitionController :=
  match c.state with
  | .committed token previous previousTranscriptDigest _ =>
    if provesTranscript candidateProof token.transcriptDigest then
      (.ok .stable, { c with activeAuthority := true, state := .stable })
    else if provesTranscript previousProof previousTranscriptDigest then
      match beginVerifiedRollback sha256 c previous previousTranscriptDigest nowNs with
      | (.ok rollback, after) => (.ok (.rollbackRequired rollback), after)
      | (.error e, after) => (.error e, after)
    else
      (.error .noVerifiedRoute, { c with activeAuthority := false, state := .stable })
  | _ => (.error .invalidState, c)

def noteHealthy (c : RouteTransitionController) (sequence nowNs : UInt64)
    (candidateProof previousProof : RouteProof) :
    Except RouteTransitionError RouteHealthAction × RouteTransitionController :=
  match c.state with
  | .committed token _ _ stableAtNs =>
    if sequence ≠ token.sequence then
      (.error .tokenMismatch, c)
    else if stableAtNs ≤ nowNs then
      settleCommitted sha256 c nowNs candidateProof previousProof
    else if provesTranscript candidateProof token.transcriptDigest = false then
      (.error .unverifiedRoute, c)
    else
      (.ok .noChange, c)
  | _ => (.error .invalidState, c)

/-- The new route fails: back, or no route. -/
def noteUnhealthy (c : RouteTransitionController) (sequence nowNs : UInt64)
    (previousProof : RouteProof) :
    Except RouteTransitionError PromotionToken × RouteTransitionController :=
  match c.state with
  | .committed token previous previousTranscriptDigest _ =>
    if sequence ≠ token.sequence then
      (.error .tokenMismatch, c)
    else if provesTranscript previousProof previousTranscriptDigest = false then
      (.error .noVerifiedRoute, { c with activeAuthority := false, state := .stable })
    else
      beginVerifiedRollback sha256 c previous previousTranscriptDigest nowNs
  | _ => (.error .invalidState, c)

def tick (c : RouteTransitionController) (nowNs : UInt64)
    (candidateProof previousProof : RouteProof) :
    Except RouteTransitionError RouteHealthAction × RouteTransitionController :=
  match c.state with
  | .probing token _ | .prepared token _ =>
    if token.expiresAtNs ≤ nowNs then
      (.ok .noChange, { c with state := .stable })
    else
      (.ok .noChange, c)
  | .committed _ _ _ stableAtNs =>
    if stableAtNs ≤ nowNs then
      settleCommitted sha256 c nowNs candidateProof previousProof
    else
      (.ok .noChange, c)
  | .stable => (.ok .noChange, c)

end RouteTransitionController

/-! ## The machine -/

/-- A call of one of the six methods that take `&mut self`. -/
inductive RouteCall where
  | begin (candidate : ConnectionPath) (proof : RouteProof) (nowNs : UInt64)
  | peerPrepared (token : PromotionToken) (nowNs : UInt64)
  | commit (token : PromotionToken) (nowNs : UInt64)
  | noteHealthy (sequence nowNs : UInt64) (candidateProof previousProof : RouteProof)
  | noteUnhealthy (sequence nowNs : UInt64) (previousProof : RouteProof)
  | tick (nowNs : UInt64) (candidateProof previousProof : RouteProof)

/-- A call with the result it returned. -/
inductive RouteEvent where
  | begin (candidate : ConnectionPath) (proof : RouteProof) (nowNs : UInt64)
      (result : Except RouteTransitionError PromotionToken)
  | peerPrepared (token : PromotionToken) (nowNs : UInt64)
      (result : Except RouteTransitionError Unit)
  | commit (token : PromotionToken) (nowNs : UInt64)
      (result : Except RouteTransitionError RouteSwitch)
  | noteHealthy (sequence nowNs : UInt64) (candidateProof previousProof : RouteProof)
      (result : Except RouteTransitionError RouteHealthAction)
  | noteUnhealthy (sequence nowNs : UInt64) (previousProof : RouteProof)
      (result : Except RouteTransitionError PromotionToken)
  | tick (nowNs : UInt64) (candidateProof previousProof : RouteProof)
      (result : Except RouteTransitionError RouteHealthAction)
deriving DecidableEq

open RouteTransitionController in
/-- The controller as a machine over its six calls. -/
def routeMachine (sha256 : Sha256) :
    Machine RouteTransitionController RouteCall RouteEvent where
  step c
    | .begin candidate proof nowNs =>
      record (.begin candidate proof nowNs) (begin sha256 c candidate proof nowNs)
    | .peerPrepared token nowNs =>
      record (.peerPrepared token nowNs) (peerPrepared c token nowNs)
    | .commit token nowNs =>
      record (.commit token nowNs) (commit c token nowNs)
    | .noteHealthy sequence nowNs candidateProof previousProof =>
      record (.noteHealthy sequence nowNs candidateProof previousProof)
        (noteHealthy sha256 c sequence nowNs candidateProof previousProof)
    | .noteUnhealthy sequence nowNs previousProof =>
      record (.noteUnhealthy sequence nowNs previousProof)
        (noteUnhealthy sha256 c sequence nowNs previousProof)
    | .tick nowNs candidateProof previousProof =>
      record (.tick nowNs candidateProof previousProof)
        (tick sha256 c nowNs candidateProof previousProof)

/-! ## The values of the source's tests -/

/-- `stamp()`. -/
def sampleStamp : SessionStamp :=
  { sessionId := 7, generation := 2, authorizationEpoch := 3, displayEpoch := 4
    codecEpoch := 5, routeEpoch := 1 }

/-- `relay()`. -/
def sampleRelay : ConnectionPath := .relay 9 .turn (List.Vector.replicate 16 8)

/-- `direct(port)`. -/
def sampleDirect (port : UInt16) : ConnectionPath :=
  .direct (.v4 ⟨[10, 0, 0, 1], rfl⟩) port (.v4 ⟨[10, 0, 0, 2], rfl⟩) (port + 1)
    (UInt64.ofNat port.toNat)

/-- `proof()`. -/
def sampleProof : RouteProof :=
  { iceNominated := true, exactMtls := true, transcriptBound := true, consentFresh := true
    transcriptDigest := List.Vector.replicate 32 0xA5 }

/-- `candidate_proof()`. -/
def sampleCandidateProof : RouteProof :=
  { sampleProof with transcriptDigest := List.Vector.replicate 32 0xB6 }

/-- The controller that `new` builds from them. -/
def sampleController : RouteTransitionController :=
  { stamp := sampleStamp
    active := sampleRelay
    activeTranscriptDigest := List.Vector.replicate 32 0xA5
    prepareTimeoutNs := 100
    stabilityWindowNs := 50
    nextSequence := 0
    activeAuthority := true
    state := .stable }

theorem sampleController_new :
    RouteTransitionController.new sampleStamp sampleRelay sampleProof 100 50 =
      .ok sampleController := rfl

/-- The token of a promotion to the direct path at time 1. -/
def sampleToken : PromotionToken :=
  { sequence := 1
    baseRouteEpoch := 1
    stamp := sampleStamp
    route := sampleDirect 5000
    routeDigest := connectionPathDigest Sha256.hash (sampleDirect 5000)
    transcriptDigest := List.Vector.replicate 32 0xB6
    expiresAtNs := 101 }

/-- The token of the rollback from it at time 4. -/
def sampleRollback : PromotionToken :=
  { sequence := 2
    baseRouteEpoch := 2
    stamp := { sampleStamp with routeEpoch := 2 }
    route := sampleRelay
    routeDigest := connectionPathDigest Sha256.hash sampleRelay
    transcriptDigest := List.Vector.replicate 32 0xA5
    expiresAtNs := 104 }

/-- The promotion up to its commit, which is the next call. -/
def samplePromotion : List RouteCall :=
  [.begin (sampleDirect 5000) sampleCandidateProof 1, .peerPrepared sampleToken 2]

/-- The rollback after that commit. -/
def sampleRollbackCalls : List RouteCall :=
  [.noteUnhealthy 1 4 sampleProof, .peerPrepared sampleRollback 5, .commit sampleRollback 6]

end LatencyDesk.Session.RouteTransition
