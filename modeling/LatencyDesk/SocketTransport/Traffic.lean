import LatencyDesk.SocketTransport.ReceiveMedia
import LatencyDesk.Transport.Bounds
import LatencyDesk.Transport.Fragmenter

/-!
# Media and input of a session

The model of `send_media_frame`, `send_input` and `InputReceiver::next_input` in
`crates/socket-transport/src/product.rs`.

A call of `next_input` runs beside the calls on the session, so it is cut into
its loads: `InputState` says how far it has come.  `send_media_frame` does not
wait for anything, so it is one step.
-/

namespace LatencyDesk.SocketTransport

open Lib Protocol Transport

/-! ## Sending media -/

structure MediaFrameSendReport where
  fragmentsSent : Nat
  largestDatagramBytes : Nat
  pathMaxDatagramBytes : Nat
  expiresAtNs : UInt64
deriving DecidableEq

/-- What a datagram leaves for a packet. -/
def mediaPacketBudget (pathMaxDatagramBytes : Nat) : Except ProductSessionError Nat :=
  let minimumInnerDatagramBytes := mediaHeaderLen + 1
  if pathMaxDatagramBytes < quicMediaHeaderLen ∨
      pathMaxDatagramBytes - quicMediaHeaderLen < minimumInnerDatagramBytes then
    .error (.datagramBudgetTooSmall pathMaxDatagramBytes quicMediaHeaderLen
      minimumInnerDatagramBytes)
  else
    .ok (min (pathMaxDatagramBytes - quicMediaHeaderLen) maxDatagramMtu)

/-- `QuicConnection::send_media`.  The answer is what the connection says to a
datagram that is not expired. -/
def sendMedia (datagram : List UInt8) (nowNs expiresAtNs : UInt64)
    (answer : Except QuicTransportError MediaSendOutcome) :
    Except QuicTransportError MediaSendOutcome :=
  match MediaDatagram.decode datagram with
  | .error e => .error (.protocol e)
  | .ok parsed =>
    if parsed.expiresAtNs ≠ expiresAtNs then
      .error (.expiryMismatch expiresAtNs parsed.expiresAtNs)
    else if expiresAtNs ≤ nowNs then
      .ok .droppedExpired
    else
      answer

/-- The loop of `send_media_frame_at`, after `sent` of the fragments.  It also
gives the datagrams that are on their way. -/
def submitFragments (stamp : SessionStamp) (nowNs expiresAtNs : UInt64)
    (answer : Nat → Except QuicTransportError MediaSendOutcome) (fragmentsTotal : Nat) :
    Nat → List MediaPacket → Except ProductSessionError Nat × List (List UInt8)
  | sent, [] => (.ok sent, [])
  | sent, fragment :: rest =>
    match MediaDatagram.encode stamp expiresAtNs fragment.header fragment.payload with
    | .error e => (.error (.protocol e), [])
    | .ok datagram =>
      match sendMedia datagram nowNs expiresAtNs (answer sent) with
      | .error e => (.error (.quic e), [])
      | .ok .sent =>
        let next := submitFragments stamp nowNs expiresAtNs answer fragmentsTotal (sent + 1) rest
        (next.1, datagram :: next.2)
      | .ok outcome => (.error (.mediaSendAborted outcome sent fragmentsTotal), [])

/-- A call of `send_media_frame`.  The maximal age is in nanoseconds. -/
structure MediaFrame where
  spec : FragmentSpec
  frame : List UInt8
  maxAge : Nat
  pathMaxDatagramBytes : Option Nat
  nowNs : UInt64
  answer : Nat → Except QuicTransportError MediaSendOutcome

namespace ProductSession

/-- The part of `send_media_frame` after the fragments have been made. -/
def sendFragments (session : ProductSession) (media : MediaFrame) (pathMaxDatagramBytes : Nat)
    (fragments : List MediaPacket) :
    Except ProductSessionError MediaFrameSendReport × List (List UInt8) :=
  let largestDatagramBytes := (fragments.map fun fragment =>
    quicMediaHeaderLen + mediaHeaderLen + fragment.payload.length).foldl max 0
  if pathMaxDatagramBytes < largestDatagramBytes then
    (.error (.datagramBudgetTooSmall pathMaxDatagramBytes quicMediaHeaderLen
      (largestDatagramBytes - quicMediaHeaderLen)), [])
  else
    match checkedAdd media.nowNs (.ofNat media.maxAge) with
    | none => (.error .mediaDeadlineOverflow, [])
    | some expiresAtNs =>
      match submitFragments session.currentStamp media.nowNs expiresAtNs media.answer
          fragments.length 0 fragments with
      | (.error e, datagrams) => (.error e, datagrams)
      | (.ok fragmentsSent, datagrams) =>
        (.ok
          { fragmentsSent := fragmentsSent
            largestDatagramBytes := largestDatagramBytes
            pathMaxDatagramBytes := pathMaxDatagramBytes
            expiresAtNs := expiresAtNs }, datagrams)

/-- `send_media_frame`, with the datagrams that are on their way after it. -/
def sendMediaFrame (session : ProductSession) (media : MediaFrame) :
    Except ProductSessionError MediaFrameSendReport × List (List UInt8) :=
  if session.routeAuthorized = false then
    (.error .inactiveRoute, [])
  else if media.maxAge = 0 ∨ 2 ^ 64 ≤ media.maxAge then
    (.error .invalidMediaMaxAge, [])
  else
    match media.pathMaxDatagramBytes with
    | none => (.error .datagramsUnsupported, [])
    | some pathMaxDatagramBytes =>
      match mediaPacketBudget pathMaxDatagramBytes with
      | .error e => (.error e, [])
      | .ok innerDatagramBytes =>
        match frameFragmentsWithPacketBudget media.spec media.frame innerDatagramBytes with
        | .error e => (.error (.transport e), [])
        | .ok fragments =>
          match fragments.collect fragments.remaining with
          | .error e => (.error (.transport e), [])
          | .ok packets => session.sendFragments media pathMaxDatagramBytes packets

/-! ## Input -/

def sendInput (session : ProductSession) (payload : List UInt8) :
    Except ProductSessionError InputRecord :=
  if session.routeAuthorized = false then
    .error .inactiveRoute
  else
    match InputRecord.encode session.currentStamp payload with
    | .error e => .error (.protocol e)
    | .ok record => .ok record

end ProductSession

/-- How far a call of `next_input` has come. -/
inductive InputState where
  /-- There is no call. -/
  | idle
  /-- In `stream.next_record()`. -/
  | reading
  /-- A record has come; the authorization is checked again. -/
  | received (record : InputRecord)
  /-- Authorized again; the record's stamp is compared. -/
  | checking (record : InputRecord)
deriving DecidableEq

/-- What a step of `next_input` returns. -/
inductive InputResult where
  | pending
  | payload (payload : List UInt8)
  | failed (error : ProductSessionError)
deriving DecidableEq

/-- The next step of a call of `next_input`, with the records of the lane. -/
def nextInput (session : ProductSession) (state : InputState) (lane : List InputRecord) :
    InputResult × ProductSession × InputState × List InputRecord :=
  match state with
  | .idle =>
    if session.routeAuthorized then (.pending, session, .reading, lane)
    else (.failed .inactiveRoute, session, .idle, lane)
  | .reading =>
    match lane with
    | [] => (.pending, session, .reading, [])
    | record :: rest => (.pending, session, .received record, rest)
  | .received record =>
    if session.routeAuthorized then (.pending, session, .checking record, lane)
    else (.failed .inactiveRoute, session, .idle, lane)
  | .checking record =>
    if record.stamp ≠ session.currentStamp then
      (.failed (.stampMismatch session.currentStamp record.stamp),
        session.closeForProtocolViolation, .idle, lane)
    else
      (.payload record.payload, session, .idle, lane)

end LatencyDesk.SocketTransport
