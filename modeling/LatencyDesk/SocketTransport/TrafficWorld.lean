import LatencyDesk.SocketTransport.Agreement
import LatencyDesk.SocketTransport.Traffic

/-!
# Traffic while the route changes

Two endpoints with a `ProductRouteSet` each, as in `Agreement`, that also send
media and input.  The methods of a set that change it borrow it, so a call of
`receive_media_frame` on the set has returned or was dropped when one of them
begins, and nothing is sent before it has returned.  An `InputReceiver` is a
value of its own: its calls run at any time, also while a method of the set waits
for its write.

So a method of the set is two steps here, when it writes a record.  The first one
ends when the record is on the wire.  What the input receivers see of the set in
between is `SetCall.whileWriting`.

The writes succeed and no timeout wakes up: the exchange is a complete one.  The
lanes of control and input are first in, first out.  A datagram may be read at
any time after it was sent, or never.
-/

namespace LatencyDesk.SocketTransport

open Lib Protocol Transport Function

/-! ## Calls of a set -/

inductive SetCall where
  | sendRouteTransition (message : RouteTransitionMessage)
  | nextRouteTransition (receiver : RouteIndex)
  | nextRouteActivation (receiver : RouteIndex)
  | nextRouteConfirmation (receiver : RouteIndex)
deriving DecidableEq

/-- The set with the epochs of the commit that a call of `next_route_transition` has read. -/
def ProductRouteSet.behindCommit (set : ProductRouteSet) (receiver : RouteIndex)
    (inbound : Inbound) : ProductRouteSet :=
  match (set.routes receiver).nextRouteTransitionInner (set.bindings set.active.other)
      (decide (receiver ≠ set.active)) inbound.record? with
  | (.error _, _) => set
  | (.ok message, route) => ((set.setRoute receiver route).synchronizeRouteEpochs message).2

/-- The set, with the connections closed that are closed in the other one. -/
def ProductRouteSet.closedAs (set other : ProductRouteSet) : ProductRouteSet :=
  { set with
    routes := fun index =>
      { set.routes index with
        connectionClosed :=
          (set.routes index).connectionClosed || (other.routes index).connectionClosed } }

namespace SetCall

def receiver : SetCall → Option RouteIndex
  | sendRouteTransition _ => none
  | nextRouteTransition receiver => some receiver
  | nextRouteActivation receiver => some receiver
  | nextRouteConfirmation receiver => some receiver

def perform (set : ProductRouteSet) (inbound : RouteIndex → Inbound) : SetCall → Operation
  | sendRouteTransition message => set.sendRouteTransition message .written
  | nextRouteTransition receiver =>
    set.nextRouteTransition receiver (inbound receiver) ⟨.written, []⟩
  | nextRouteActivation receiver =>
    set.nextRouteActivation receiver (inbound receiver) ⟨.written, []⟩
  | nextRouteConfirmation receiver => set.nextRouteConfirmation receiver (inbound receiver)

/-- The set as others see it while the call waits for its write.  Only the call that
follows a commit has changed something by then. -/
def whileWriting (set : ProductRouteSet) (inbound : RouteIndex → Inbound) :
    SetCall → ProductRouteSet
  | nextRouteTransition receiver => set.behindCommit receiver (inbound receiver)
  | _ => set

end SetCall

/-- The call is in `connection.receive_media()`. -/
def ReceiveState.waits : ReceiveState → Bool
  | .receiving => true
  | _ => false

/-! ## The world -/

/-- Two endpoints with media and input. -/
structure TrafficWorld extends RouteWorld where
  /-- The calls of its set that a side has still to make. -/
  programs : Side → List SetCall
  /-- The call of the set that waits for its write, with what it comes to. -/
  underway : Side → Option Operation
  /-- The calls of `receive_media_frame`. -/
  threads : Side → Nat → ReceiveState
  /-- The calls of `next_input` on the two connections. -/
  receivers : Side → RouteIndex → InputState
  /-- The input that a side has sent on a route and the other side has not read. -/
  inputs : Side → RouteIndex → List InputRecord
  /-- The datagrams that a side has sent on a route. -/
  datagrams : Side → RouteIndex → List (List UInt8)

inductive TrafficCall where
  /-- The next call of the side's program. -/
  | transition (side : Side)
  /-- The write of the call returns. -/
  | written (side : Side)
  | sendInput (side : Side) (payload : List UInt8)
  | sendMedia (side : Side) (media : MediaFrame)
  /-- A call of `receive_media_frame` begins. -/
  | callMedia (side : Side) (thread : Nat)
  /-- The next step of the call, with the datagram that it reads if it reads one. -/
  | receiveMedia (side : Side) (thread : Nat) (datagram : Nat) (nowNs : UInt64)
  /-- The call is dropped. -/
  | dropMedia (side : Side) (thread : Nat)
  /-- The next step of `next_input`. -/
  | nextInput (side : Side) (route : RouteIndex)
  /-- A call of `next_input` is dropped, which it can be while it waits for a record. -/
  | dropInput (side : Side) (route : RouteIndex)

inductive TrafficEvent where
  | quiet
  | returned (side : Side) (outcome : Outcome)
  | inputSent (side : Side) (result : Except ProductSessionError Unit)
  | mediaSent (side : Side) (result : Except ProductSessionError MediaFrameSendReport)
  | media (side : Side) (event : ReceiveEvent)
  | input (side : Side) (result : InputResult)

/-- The error of a call that reads, other than that the route is not active. -/
def TrafficEvent.violation : TrafficEvent → Option ProductSessionError
  | .returned _ (.refused e) => some e
  | .returned _ (.failedClosed e) => some e
  | .media _ (.failed _ e) => if e = .inactiveRoute then none else some e
  | .input _ (.failed e) => if e = .inactiveRoute then none else some e
  | _ => none

namespace TrafficWorld

/-- Two sets, the one of which has the program `first` and the other one `second`. -/
def start (sets : Side → ProductRouteSet) (initiator : Side) (first second : List SetCall) :
    TrafficWorld :=
  { sets := sets
    lanes := fun _ _ => []
    programs := fun side => if side = initiator then first else second
    underway := fun _ => none
    threads := fun _ _ => .idle
    receivers := fun _ _ => .idle
    inputs := fun _ _ => []
    datagrams := fun _ _ => [] }

def setOf (world : TrafficWorld) (side : Side) (set : ProductRouteSet) : TrafficWorld :=
  { world with sets := update world.sets side set }

/-- The session of a route after a call on it. -/
def setSession (world : TrafficWorld) (side : Side) (route : RouteIndex)
    (session : ProductSession) : TrafficWorld :=
  world.setOf side ((world.sets side).setRoute route
    { (world.sets side).routes route with toProductSession := session })

def setThread (world : TrafficWorld) (side : Side) (thread : Nat) (state : ReceiveState) :
    TrafficWorld :=
  { world with
    threads := update world.threads side
      (update (world.threads side) thread state) }

def addInputs (world : TrafficWorld) (side : Side) (route : RouteIndex)
    (records : List InputRecord) : TrafficWorld :=
  { world with
    inputs := update world.inputs side
      (update (world.inputs side) route (world.inputs side route ++ records)) }

def addDatagrams (world : TrafficWorld) (side : Side) (route : RouteIndex)
    (datagrams : List (List UInt8)) : TrafficWorld :=
  { world with
    datagrams := update world.datagrams side
      (update (world.datagrams side) route (world.datagrams side route ++ datagrams)) }

/-- A call of the set that has read what it reads, and has written its record if it writes
one.  The set was borrowed, so no call of `receive_media_frame` goes on. -/
def perform (world : TrafficWorld) (side : Side) (call : SetCall) (rest : List SetCall) :
    TrafficEvent × TrafficWorld :=
  let inbound := fun receiver => world.inbound side receiver true
  let operation := call.perform (world.sets side) inbound
  if operation.outcome = .waiting then
    (.quiet, world)
  else
    let begun :=
      { world with
        lanes := world.lanesAfter side call.receiver operation
        programs := update world.programs side rest
        threads := update world.threads side fun _ => .idle }
    if operation.sent.isSome then
      (.quiet,
        { begun.setOf side (call.whileWriting (world.sets side) inbound) with
          underway := update world.underway side (some operation) })
    else
      (.returned side operation.outcome, begun.setOf side operation.set)

/-- A step of one side, or of the network. -/
def step (world : TrafficWorld) : TrafficCall → TrafficEvent × TrafficWorld
  | .transition side =>
    match world.underway side, world.programs side with
    | none, call :: rest => world.perform side call rest
    | _, _ => (.quiet, world)
  | .written side =>
    match world.underway side with
    | none => (.quiet, world)
    | some operation =>
      (.returned side operation.outcome,
        { world.setOf side (operation.set.closedAs (world.sets side)) with
          underway := update world.underway side none })
  | .sendInput side payload =>
    if (world.underway side).isSome then (.quiet, world)
    else
      let active := (world.sets side).active
      match ((world.sets side).routes active).sendInput payload with
      | .error e => (.inputSent side (.error e), world)
      | .ok record => (.inputSent side (.ok ()), world.addInputs side active [record])
  | .sendMedia side media =>
    if (world.underway side).isSome then (.quiet, world)
    else
      let active := (world.sets side).active
      let sent := ((world.sets side).routes active).sendMediaFrame media
      (.mediaSent side sent.1, world.addDatagrams side active sent.2)
  | .callMedia side thread =>
    match world.underway side, world.threads side thread with
    | none, .idle => (.quiet, world.setThread side thread .starting)
    | _, _ => (.quiet, world)
  | .receiveMedia side thread datagram nowNs =>
    let active := (world.sets side).active
    let inbound := (world.datagrams side.peer active)[datagram]?
    if (world.underway side).isSome ∨ (world.threads side thread).waits ∧ inbound.isNone then
      (.quiet, world)
    else
      let next := receiveMediaFrame thread ((world.sets side).routes active).toProductSession
        (world.threads side thread) inbound nowNs
      (.media side next.1, (world.setSession side active next.2.1).setThread side thread next.2.2)
  | .dropMedia side thread => (.quiet, world.setThread side thread .idle)
  | .nextInput side route =>
    let next := nextInput ((world.sets side).routes route).toProductSession
      (world.receivers side route) (world.inputs side.peer route)
    (.input side next.1,
      { world.setSession side route next.2.1 with
        receivers := update world.receivers side
          (update (world.receivers side) route next.2.2.1)
        inputs := update world.inputs side.peer
          (update (world.inputs side.peer) route next.2.2.2) })
  | .dropInput side route =>
    match world.receivers side route with
    | .reading =>
      (.quiet,
        { world with
          receivers := update world.receivers side
            (update (world.receivers side) route .idle) })
    | _ => (.quiet, world)

end TrafficWorld

def trafficMachine : Machine TrafficWorld TrafficCall TrafficEvent where
  step := TrafficWorld.step

end LatencyDesk.SocketTransport
