import LatencyDesk.SocketTransport.RouteSet

/-!
# What one message does to a session

`sendRouteTransition_cases`, `nextRouteTransitionInner_cases` and the two lemmas
for the activation records say all that a session can do with a message: refuse
it, or take the step of the message after the checks of `Admits`.

The records are read as letters of `Lib.Switchover`.
-/

namespace LatencyDesk.SocketTransport

open Lib Lib.Switchover Protocol RouteTransitionMessage

/-! ## Messages as letters -/

abbrev Digests := Bytes 32 × Bytes 32

def messageTerms (message : RouteTransitionMessage) : Terms Digests :=
  { sequence := message.sequence.toNat
    base := message.baseRouteEpoch.toNat
    target := (message.routeDigest, message.transcriptDigest) }

def messageStage : RouteTransitionStage → Stage
  | .prepare => .prepare
  | .prepared => .prepared
  | .commit => .commit
  | .activated => .activated
  | .confirmed => .confirmed

/-- The letter that a record on a route carries. -/
def recordLetter (route : RouteIndex) (record : ControlRecord) : Option (Letter Digests) :=
  match RouteTransitionMessage.decode record.payload with
  | .error _ => none
  | .ok message =>
    some { line := route, stage := messageStage message.stage, terms := messageTerms message }

theorem terms_eq_of_same {first second : RouteTransitionMessage}
    (h : sameRouteTransition first second = true) : messageTerms first = messageTerms second := by
  simp only [sameRouteTransition, Bool.and_eq_true, beq_iff_eq] at h
  simp [messageTerms, h]

variable {message : RouteTransitionMessage}

theorem validate_eq_ok (h : message.validate = .ok ()) :
    message.sequence ≠ 0 ∧ checkedAdd message.baseRouteEpoch 1 = some message.nextRouteEpoch := by
  unfold validate at h
  split_ifs at h with hinv
  simp only [not_or, not_not] at hinv
  exact ⟨hinv.2.1, hinv.2.2.2.1⟩

theorem valid_of_decode {payload : List UInt8}
    (h : decode payload = .ok message) : message.validate = .ok () := by
  unfold decode at h
  split_ifs at h
  split at h
  · cases h
  dsimp only at h
  split at h
  · cases h
  next hval =>
  cases h
  exact hval

/-! ## One session -/

namespace RouteSession

/-- The session after a message was sent or received that leaves the wire state
`next`. -/
def applied (session : RouteSession) (message : RouteTransitionMessage) (next : RouteWireState) :
    RouteSession :=
  if message.stage = .commit then
    { session with
      routeEpoch := message.nextRouteEpoch
      routeSequence := message.sequence
      routeTransition := next }
  else
    { session with routeTransition := next }

/-- What both sides of a message have checked. -/
structure Admits (session : RouteSession) (message : RouteTransitionMessage) : Prop where
  valid : message.validate = .ok ()
  base : message.baseRouteEpoch = session.routeEpoch
  sequence : message.stage = .prepare → message.sequence = session.expectedSequence

variable {session : RouteSession} {binding : VerifiedRouteBinding}
  {message commit : RouteTransitionMessage} {next : RouteWireState} {payload : List UInt8}

/-- A prepare message counts the session's sequence number up. -/
theorem Admits.sequence_toNat (h : session.Admits message) (hprepare : message.stage = .prepare) :
    message.sequence.toNat = session.routeSequence.toNat + 1 := by
  have hseq := h.sequence hprepare
  unfold expectedSequence at hseq
  cases hnext : checkedAdd session.routeSequence 1 with
  | none =>
    rw [hnext] at hseq
    exact absurd hseq (validate_eq_ok h.valid).1
  | some next =>
    rw [hnext] at hseq
    rw [hseq]
    exact checkedAdd_eq_some.1 hnext

theorem Admits.next_toNat (h : session.Admits message) :
    message.nextRouteEpoch.toNat = session.routeEpoch.toNat + 1 := by
  rw [← h.base]
  exact checkedAdd_eq_some.1 (validate_eq_ok h.valid).2

theorem checkSend_eq_ok (h : session.checkSend message = .ok (next, payload)) :
    session.Admits message ∧ session.routeTransition.sent message = .ok next ∧
      payload = message.toBytes := by
  unfold checkSend at h
  split at h
  · cases h
  next hval =>
  split_ifs at h with hbase hseq
  split at h
  · cases h
  next hsent =>
  unfold encode at h
  rw [hval] at h
  cases h
  refine ⟨⟨hval, not_not.1 hbase, fun hprepare => ?_⟩, hsent, rfl⟩
  by_contra hne
  exact hseq ⟨hprepare, hne⟩

/-- The record of a message. -/
def recordOf (session : RouteSession) (message : RouteTransitionMessage) : ControlRecord :=
  { stamp := session.currentStamp
    kind := message.stage.controlKind
    sessionId := session.stamp.sessionId
    payload := message.toBytes }

variable (hval : message.validate = .ok ()) {inbound : Option ControlRecord} {allowInactive : Bool}
  {write : WriteOutcome}

include hval in
theorem advanceRouteEpoch_of_valid (hbase : message.baseRouteEpoch = session.routeEpoch) :
    session.advanceRouteEpoch message.baseRouteEpoch message.nextRouteEpoch =
      (.ok (stampAtRouteEpoch session.stamp message.nextRouteEpoch),
        { session.toProductSession with routeEpoch := message.nextRouteEpoch }) := by
  unfold ProductSession.advanceRouteEpoch
  rw [if_neg]
  · rfl
  · rw [not_or, not_not, not_not]
    exact ⟨(validate_eq_ok hval).2, hbase.symm⟩

/-- A session either refuses to send and stays as it is, or its record is on the
wire and the session has taken the step. -/
theorem sendRouteTransition_cases (session : RouteSession) (message : RouteTransitionMessage)
    (write : WriteOutcome) :
    (∃ e record, session.sendRouteTransition message write = (.error e, session, record)) ∨
      ∃ next, session.sendRouteTransition message write =
          (.ok (), session.applied message next, some (session.recordOf message)) ∧
        session.Admits message ∧ session.routeTransition.sent message = .ok next := by
  unfold sendRouteTransition
  cases hcheck : session.checkSend message with
  | error violation => exact .inl ⟨_, _, rfl⟩
  | ok answer =>
    obtain ⟨next, _⟩ := answer
    obtain ⟨hadm, hsent, rfl⟩ := checkSend_eq_ok hcheck
    cases write with
    | failed | interrupted => exact .inl ⟨_, _, rfl⟩
    | written =>
      refine .inr ⟨next, ?_, hadm, hsent⟩
      simp only [applied]
      split_ifs with hcom
      · rw [advanceRouteEpoch_of_valid hadm.valid hadm.base]
        rfl
      · rfl

/-- An activation record is on the wire, or the session refuses to send it. -/
theorem sendRouteActivation_cases :
    (∃ e record, session.sendRouteActivation message write = (.error e, record)) ∨
      session.sendRouteActivation message write = (.ok (), some (session.recordOf message)) ∧
        message.validate = .ok () := by
  unfold sendRouteActivation encode
  split_ifs with hstage
  · exact .inl ⟨_, _, rfl⟩
  cases hval : message.validate with
  | error e => exact .inl ⟨_, _, rfl⟩
  | ok =>
    cases write with
    | failed | interrupted => exact .inl ⟨_, _, rfl⟩
    | written => exact .inr ⟨rfl, rfl⟩

theorem recordLetter_recordOf (session : RouteSession) (route : RouteIndex)
    (hval : message.validate = .ok ()) :
    recordLetter route (session.recordOf message) =
      some ⟨route, messageStage message.stage, messageTerms message⟩ := by
  simp [recordLetter, recordOf, decode_toBytes hval]

/-- What a read has checked. -/
structure Accepts (session : RouteSession) (binding : VerifiedRouteBinding)
    (message : RouteTransitionMessage) (record : ControlRecord) : Prop where
  admits : session.Admits message
  payload : RouteTransitionMessage.decode record.payload = .ok message
  target : (message.routeDigest, message.transcriptDigest) =
    (binding.routeDigest, binding.transcriptDigest)

theorem checkMessage_eq_ok {kind : ControlKind} {answer : RouteTransitionMessage}
    (h : session.checkMessage binding kind message = .ok (answer, next)) :
    answer = message ∧
      (message.routeDigest, message.transcriptDigest) =
        (binding.routeDigest, binding.transcriptDigest) ∧
      message.baseRouteEpoch = session.routeEpoch ∧
      (message.stage = .prepare → message.sequence = session.expectedSequence) ∧
      session.routeTransition.received message = .ok next := by
  unfold checkMessage at h
  split_ifs at h with hkind hbind hbase hseq
  rw [not_or, not_not, not_not] at hbind
  split at h
  · cases h
  next hrecv =>
  cases h
  refine ⟨rfl, Prod.ext hbind.1 hbind.2, not_not.1 hbase, fun hprepare => ?_, hrecv⟩
  by_contra hne
  exact hseq ⟨hprepare, hne⟩

theorem checkReceive_eq_ok
    (h : session.checkReceive binding allowInactive inbound = .ok (message, next)) :
    ∃ record, inbound = some record ∧ session.Accepts binding message record ∧
      session.routeTransition.received message = .ok next := by
  unfold checkReceive nextControlPrivateInner at h
  split_ifs at h with hinactive
  cases inbound with
  | none => cases h
  | some record =>
    dsimp only at h
    split_ifs at h with hstp
    dsimp only at h
    split_ifs at h with hkind
    split at h
    · cases h
    next decoded hdec =>
    split at h
    · cases h
    next hcheck =>
    cases h
    obtain ⟨rfl, htgt, hbase, hseq, hrecv⟩ := checkMessage_eq_ok hcheck
    exact ⟨record, rfl, ⟨⟨valid_of_decode hdec, hbase, hseq⟩, hdec, htgt⟩, hrecv⟩

/-- A read fails and closes the connection, or the session has taken the step of
the message. -/
theorem nextRouteTransitionInner_cases :
    (∃ e, session.nextRouteTransitionInner binding allowInactive inbound =
        (.error e, session.close)) ∨
      ∃ record message next, inbound = some record ∧
        session.nextRouteTransitionInner binding allowInactive inbound =
          (.ok message, session.applied message next) ∧
        session.Accepts binding message record ∧
        session.routeTransition.received message = .ok next := by
  unfold nextRouteTransitionInner
  cases hcheck : session.checkReceive binding allowInactive inbound with
  | error e => exact .inl ⟨e, rfl⟩
  | ok answer =>
    obtain ⟨message, next⟩ := answer
    obtain ⟨record, hinbound, haccs, hrecv⟩ := checkReceive_eq_ok hcheck
    refine .inr ⟨record, message, next, hinbound, ?_, haccs, hrecv⟩
    simp only [applied]
    split_ifs <;> rfl

/-- A read of an activation record fails and closes the connection, or the record
is of the expected stage and has the terms of the commit. -/
theorem nextRouteActivation_cases {expectedStage : RouteTransitionStage} :
    (∃ e, session.nextRouteActivation binding commit expectedStage inbound =
        (.error e, session.close)) ∨
      ∃ record message, inbound = some record ∧
        session.nextRouteActivation binding commit expectedStage inbound = (.ok message, session) ∧
        decode record.payload = .ok message ∧
        message.stage = expectedStage ∧ sameRouteTransition message commit = true := by
  unfold nextRouteActivation
  split
  · next e hcheck => exact .inl ⟨e, rfl⟩
  next message hcheck =>
  unfold checkActivation at hcheck
  split at hcheck
  · cases hcheck
  next record =>
  split_ifs at hcheck with hstp
  split at hcheck
  · cases hcheck
  next hdec =>
  split_ifs at hcheck with hmatch
  cases hcheck
  simp only [not_or, not_not, Bool.not_eq_false] at hmatch
  exact .inr ⟨record, message, rfl, rfl, hdec, hmatch.2.2.1, hmatch.2.2.2.1⟩

/-! ## What succeeds -/

/-- A message that the session admits and that its wire state can send is on the wire. -/
theorem sendRouteTransition_of_admits (hadm : session.Admits message)
    (hsent : session.routeTransition.sent message = .ok next) :
    session.sendRouteTransition message .written =
      (.ok (), session.applied message next, some (session.recordOf message)) := by
  have hcheck : session.checkSend message = .ok (next, message.toBytes) := by
    unfold checkSend encode
    rw [hadm.valid]
    rw [if_neg (not_not.2 hadm.base), if_neg, hsent]
    exact fun h => h.2 (hadm.sequence h.1)
  rcases session.sendRouteTransition_cases message .written with ⟨_, _, herror⟩ |
    ⟨_, hwritten, _, hsent'⟩
  · unfold sendRouteTransition at herror
    rw [hcheck] at herror
    split_ifs at herror
    · rw [advanceRouteEpoch_of_valid hadm.valid hadm.base] at herror
      cases herror
    · cases herror
  · rw [hsent] at hsent'
    cases hsent'
    exact hwritten

include hval in
theorem sendRouteActivation_of_valid
    (hstage : message.stage = .activated ∨ message.stage = .confirmed) :
    session.sendRouteActivation message .written = (.ok (), some (session.recordOf message)) := by
  unfold sendRouteActivation encode
  rw [if_neg, hval]
  · rfl
  · intro h
    rcases hstage with hactivated | hconf
    · exact h.1 hactivated
    · exact h.2 hconf

/-- The record of a message at a stamp. -/
def recordAt (stamp : SessionStamp) (message : RouteTransitionMessage) : ControlRecord :=
  { stamp := stamp
    kind := message.stage.controlKind
    sessionId := stamp.sessionId
    payload := message.toBytes }

theorem recordOf_eq :
    session.recordOf message = recordAt session.currentStamp message := rfl

/-- A session takes the step of a message that it admits, when the record has its stamp. -/
theorem nextRouteTransitionInner_of_admits (hadm : session.Admits message)
    (hauthd : session.routeAuthorized = true)
    (htgt : (message.routeDigest, message.transcriptDigest) =
      (binding.routeDigest, binding.transcriptDigest))
    (hrecv : session.routeTransition.received message = .ok next) :
    session.nextRouteTransitionInner binding allowInactive
        (some (recordAt session.currentStamp message)) =
      (.ok message, session.applied message next) := by
  have hctl : session.nextControlPrivateInner allowInactive
      (some (recordAt session.currentStamp message)) =
        .ok (message.stage.controlKind, message.toBytes) := by
    unfold nextControlPrivateInner
    rw [hauthd, if_neg (by simp)]
    have hsess : session.currentStamp.sessionId = session.stamp.sessionId := rfl
    dsimp only [recordAt]
    rw [if_neg (not_not.2 rfl), if_neg (not_not.2 hsess)]
  have hkind : isRouteControl message.stage.controlKind = true := by
    cases message.stage <;> rfl
  have hcheck : session.checkMessage binding message.stage.controlKind message =
      .ok (message, next) := by
    have hbind : ¬(message.routeDigest ≠ binding.routeDigest ∨
        message.transcriptDigest ≠ binding.transcriptDigest) := by
      rw [not_or, not_not, not_not]
      exact Prod.mk.inj htgt
    unfold checkMessage
    rw [if_neg (not_not.2 rfl), if_neg hbind, if_neg (not_not.2 hadm.base), if_neg, hrecv]
    exact fun h => h.2 (hadm.sequence h.1)
  have hreceive : session.checkReceive binding allowInactive
      (some (recordAt session.currentStamp message)) = .ok (message, next) := by
    unfold checkReceive
    rw [hctl]
    dsimp only
    rw [if_pos hkind, decode_toBytes hadm.valid]
    dsimp only
    rw [hcheck]
  unfold nextRouteTransitionInner applied
  rw [hreceive]
  dsimp only
  split_ifs <;> rfl

include hval in
/-- A session takes an activation record of the expected stage, when it has the session's
stamp. -/
theorem nextRouteActivation_of_same (hsame : sameRouteTransition message commit = true)
    (htgt : (message.routeDigest, message.transcriptDigest) =
      (binding.routeDigest, binding.transcriptDigest)) :
    session.nextRouteActivation binding commit message.stage
        (some (recordAt session.currentStamp message)) = (.ok message, session) := by
  have hcheck : session.checkActivation binding commit message.stage
      (some (recordAt session.currentStamp message)) = .ok message := by
    obtain ⟨hrt, htranscript⟩ := Prod.mk.inj htgt
    unfold checkActivation recordAt
    dsimp only
    rw [decode_toBytes hval]
    simp [hsame, hrt, htranscript]
  unfold nextRouteActivation
  rw [hcheck]

end RouteSession

end LatencyDesk.SocketTransport
