import LatencyDesk.Lib.Since
import LatencyDesk.SocketTransport.ReceiveMedia
import LatencyDesk.Transport.Provenance

/-!
# What a product session delivers

Calls of `receive_media_frame` on the clones of a session run in any order, and
the route epoch advances between any two of their steps.  The frames that they
return still have increasing ids, and each frame is made of datagrams that carry
one session stamp, the one that the session had when the frame was completed
(`delivered_in_order_from_one_stamp`).

The reassembler is cleared whenever a datagram of another route epoch comes, so
its contents are always from datagrams with one stamp (`Traced.madeOf`).  A call
compares the stamp before and after it puts its datagram in, and epochs only
grow, so the stamp is the same while the frame is completed.
-/

namespace LatencyDesk.SocketTransport

open Lib Protocol Transport List Function ProductSession ReceiveWorld Since

/-- A step of the session and its calls. -/
abbrev WorldStep := Step ReceiveWorld ReceiveEvent

/-- The packet came in a datagram with the stamp. -/
def Received (steps : List WorldStep) (stamp : SessionStamp) (packet : MediaPacket) : Prop :=
  ∃ st ∈ steps, ∃ thread bytes outcome expiresAtNs,
    st.event = .ingested thread bytes outcome ∧
      MediaDatagram.decode bytes =
        .ok { stamp := stamp, expiresAtNs := expiresAtNs, packet := packet }

/-- The thread puts a datagram into the reassembler. -/
def Ingests (thread : Nat) (st : WorldStep) : Prop :=
  ∃ bytes outcome, st.event = .ingested thread bytes outcome

/-- The thread completes the frame. -/
def Completes (thread : Nat) (frame : ReassembledFrame) (st : WorldStep) : Prop :=
  ∃ bytes, st.event = .ingested thread bytes (.ok (.complete frame))

/-- The last datagram that the thread put in completed the frame, which is made
of datagrams with the stamp that the session had then. -/
def CompletedFromOneStamp (steps : List WorldStep) (thread : Nat) (frame : ReassembledFrame) :
    Prop :=
  Since (fun st => ¬ Ingests thread st)
    (fun earlier st => Completes thread frame st ∧
      frame.MadeOf (Received (earlier ++ [st]) st.pre.session.currentStamp)) steps

variable {stamp : SessionStamp}

theorem Received.mono {steps : List WorldStep} {pkt : MediaPacket}
    (h : Received steps stamp pkt) (st : WorldStep) :
    Received (steps ++ [st]) stamp pkt := by
  obtain ⟨done, hdone, hrest⟩ := h
  exact ⟨done, mem_append_left _ hdone, hrest⟩

/-! ## The invariant -/

/-- What is known of a call.  `expected` is a stamp that the session has had. -/
def Reached (base : SessionStamp) (steps : List WorldStep) (routeEpoch : UInt64) (thread : Nat) :
    ReceiveState → Prop
  | .ingesting bytes expected =>
    expected = stampAtRouteEpoch base expected.routeEpoch ∧ expected.routeEpoch ≤ routeEpoch ∧
      ∃ datagram, MediaDatagram.decode bytes = .ok datagram ∧ datagram.stamp = expected
  | .ingested expected (.ok (.complete frame)) =>
    Since (fun st => ¬ Ingests thread st)
      (fun earlier st => Completes thread frame st ∧
        frame.MadeOf (Received (earlier ++ [st]) expected) ∧
        expected = stampAtRouteEpoch st.pre.session.stamp expected.routeEpoch ∧
        expected.routeEpoch ≤ st.pre.session.routeEpoch ∧
        st.pre.session.routeEpoch ≤ routeEpoch) steps
  | .delivering frame => CompletedFromOneStamp steps thread frame
  | _ => True

/-- The invariant of a run. -/
structure Traced (base : SessionStamp) (steps : List WorldStep) (world : ReceiveWorld) : Prop where
  stamp : world.session.stamp = base
  settled : world.session.reassembler.Settled
  madeOf : world.session.reassembler.MadeOf
    (Received steps (stampAtRouteEpoch base world.session.reassemblyRouteEpoch))
  reached : ∀ thread, Reached base steps world.session.routeEpoch thread (world.threads thread)

variable {base : SessionStamp} {steps : List WorldStep} {world : ReceiveWorld} {st : WorldStep}
  {thread : Nat} {state : ReceiveState} {routeEpoch routeEpoch' : UInt64}

/-- What is known of a call stays known while it does not ingest. -/
theorem Reached.snoc (h : Reached base steps routeEpoch thread state)
    (hst : ¬ Ingests thread st) (hle : routeEpoch ≤ routeEpoch') :
    Reached base (steps ++ [st]) routeEpoch' thread state := by
  cases state with
  | ingesting bytes expected => exact ⟨h.1, UInt64.le_trans h.2.1 hle, h.2.2⟩
  | ingested expected outcome =>
    cases outcome with
    | error e => trivial
    | ok outcome =>
      cases outcome with
      | complete frame =>
        refine snoc (h.imp fun earlier done hdone => ?_) hst
        obtain ⟨hcompletes, hmade, hexpd, hbef, hafter⟩ := hdone
        exact ⟨hcompletes, hmade, hexpd, hbef, UInt64.le_trans hafter hle⟩
      | pending | duplicate => trivial
  | delivering frame => exact snoc h hst
  | _ => trivial

variable {expected : SessionStamp} {frame : ReassembledFrame}

/-- The stamp is still the expected one, so it was when the frame was completed. -/
theorem Reached.delivering
    (h : Reached base steps routeEpoch thread (.ingested expected (.ok (.complete frame))))
    (hstp : stampAtRouteEpoch base routeEpoch = expected) :
    CompletedFromOneStamp steps thread frame := by
  refine imp h fun earlier done hdone => ?_
  obtain ⟨hcompletes, hmade, hexpd, hbef, hafter⟩ := hdone
  have hep : expected.routeEpoch = routeEpoch := by
    rw [← hstp]
    rfl
  have hsame : done.pre.session.routeEpoch = expected.routeEpoch :=
    UInt64.le_antisymm (hep ▸ hafter) hbef
  have hcurr : done.pre.session.currentStamp = expected := by
    rw [currentStamp, hsame]
    exact hexpd.symm
  exact ⟨hcompletes, hcurr ▸ hmade⟩

/-! ## One step of a call -/

/-- The invariant after a step of a call, as far as the step can touch it. -/
structure Moved (base : SessionStamp) (steps : List WorldStep) (routeEpoch : UInt64) (thread : Nat)
    (session : ProductSession) (state : ReceiveState) : Prop where
  stamp : session.stamp = base
  sameEpoch : session.routeEpoch = routeEpoch
  settled : session.reassembler.Settled
  madeOf : session.reassembler.MadeOf
    (Received steps (stampAtRouteEpoch base session.reassemblyRouteEpoch))
  reached : Reached base steps routeEpoch thread state

variable {session : ProductSession} {bytes : List UInt8} {nowNs : UInt64}
  {outcome : Except TransportError IngestOutcome}

section

variable (h : Traced base steps world)

include h

/-- A step that leaves the reassembler alone or only takes frames out of it. -/
theorem Traced.moved (hstp : session.stamp = world.session.stamp)
    (hep : session.routeEpoch = world.session.routeEpoch)
    (hrt : session.reassemblyRouteEpoch = world.session.reassemblyRouteEpoch)
    (hshr : world.session.reassembler.Shrinks session.reassembler)
    (hrch : Reached base (steps ++ [st]) world.session.routeEpoch thread state) :
    Moved base (steps ++ [st]) world.session.routeEpoch thread session state where
  stamp := hstp.trans h.stamp
  sameEpoch := hep
  settled := h.settled.shrinks hshr
  madeOf := by
    rw [hrt]
    exact (h.madeOf.shrinks hshr).mono fun pkt hpkt => hpkt.mono st
  reached := hrch

/-- A step that changes the state of the call only. -/
theorem Traced.moved_same
    (hrch : Reached base (steps ++ [st]) world.session.routeEpoch thread state) :
    Moved base (steps ++ [st]) world.session.routeEpoch thread world.session state :=
  h.moved rfl rfl rfl (.refl _) hrch

/-- The reassembler that a datagram with the expected stamp goes into. -/
theorem Traced.resetReassembler (hreset : world.session.resetReassembler routeEpoch = .ok session) :
    session.stamp = base ∧ session.routeEpoch = world.session.routeEpoch ∧
      session.reassemblyRouteEpoch = routeEpoch ∧ session.reassembler.Settled ∧
      session.reassembler.MadeOf (Received steps (stampAtRouteEpoch base routeEpoch)) := by
  unfold ProductSession.resetReassembler at hreset
  split_ifs at hreset with hsame
  · split at hreset
    · cases hreset
    next reassembler hnew =>
    cases hreset
    obtain ⟨valid, rfl⟩ := Reassembler.new_eq_ok hnew
    exact ⟨h.stamp, rfl, rfl, Reassembler.settled_ofValid valid,
      Reassembler.madeOf_ofValid valid⟩
  · cases hreset
    rw [not_not] at hsame
    exact ⟨h.stamp, rfl, hsame, h.settled, hsame ▸ h.madeOf⟩

/-- Putting a datagram in. -/
theorem Traced.ingestDatagram
    (hrch : Reached base steps world.session.routeEpoch thread (.ingesting bytes expected))
    (hpre : st.pre = world) (hev : st.event =
      (ingestDatagram thread world.session bytes expected nowNs).1) :
    Moved base (steps ++ [st]) world.session.routeEpoch thread
      (ingestDatagram thread world.session bytes expected nowNs).2.1
      (ingestDatagram thread world.session bytes expected nowNs).2.2 := by
  obtain ⟨hexpd, hle, datagram, hdec, hstp⟩ := hrch
  unfold SocketTransport.ingestDatagram at hev ⊢
  split
  · exact h.moved_same trivial
  next session hreset =>
  rw [hreset] at hev
  dsimp only at hev ⊢
  obtain ⟨hbase, hep, hrt, hsett, hmade⟩ := h.resetReassembler hreset
  rw [← hexpd] at hmade
  have hshr := session.reassembler.shrinks_expire nowNs
  have hsett' := hsett.shrinks hshr
  have hcases := Reassembler.ingest_cases hsett'.toSound (bytes.drop quicMediaHeaderLen) nowNs
  -- The packet of the datagram has now been received with the expected stamp.
  have hpkt : ∀ packet, MediaPacket.decode (bytes.drop quicMediaHeaderLen) = .ok packet →
      Received (steps ++ [st]) expected packet := by
    intro packet hpkt
    rw [MediaDatagram.decode_packet hdec, Except.ok.injEq] at hpkt
    refine ⟨st, mem_append_right _ (mem_singleton.2 rfl), thread, bytes, _,
      datagram.expiresAtNs, hev, ?_⟩
    rw [hdec, ← hpkt, ← hstp]
  have hold := (hmade.shrinks hshr).mono fun packet hpkt => hpkt.mono st
  obtain ⟨hmade', hdone⟩ := hcases.madeOf hold hpkt
  refine ⟨hbase, hep, (hcases.settled hsett').1, ?_, ?_⟩
  · rw [hrt, ← hexpd]
    exact hmade'
  generalize (session.reassembler.expire nowNs).2.ingest
    (bytes.drop quicMediaHeaderLen) nowNs = result at hev hdone
  obtain ⟨outcome, _⟩ := result
  cases outcome with
  | error e => trivial
  | ok outcome =>
    cases outcome with
    | pending | duplicate => trivial
    | complete frame =>
      refine of_mark ⟨⟨bytes, hev⟩, hdone frame rfl, ?_, ?_, ?_⟩
      · rw [hpre, h.stamp]
        exact hexpd
      · rw [hpre]
        exact hle
      · rw [hpre]
        exact UInt64.le_refl _

/-- What follows the second comparison of the stamp. -/
theorem Traced.handleOutcome (hrch : Reached base steps world.session.routeEpoch thread
      (.ingested world.session.currentStamp outcome))
    (hev : st.event = (handleOutcome thread world.session outcome).1) :
    Moved base (steps ++ [st]) world.session.routeEpoch thread
      (handleOutcome thread world.session outcome).2.1
      (handleOutcome thread world.session outcome).2.2 := by
  cases outcome with
  | error e =>
    unfold handleOutcome
    dsimp only
    split
    · exact h.moved_same trivial
    · exact h.moved rfl rfl rfl (.refl _) trivial
  | ok outcome =>
    cases outcome with
    | pending | duplicate => exact h.moved_same trivial
    | complete frame =>
      refine h.moved_same (snoc (hrch.delivering ?_) ?_)
      · rw [currentStamp, h.stamp]
      · rintro ⟨_, _, hingest⟩
        rw [hev] at hingest
        cases hingest

end

/-- A frame is dropped, or it is newer than every frame handed out before. -/
theorem deliverFrame_cases :
    deliverFrame thread session frame = (.quiet, session, .starting) ∨
      deliverFrame thread session frame =
          (.delivered thread frame,
            { session with lastDeliveredFrameId := some frame.header.frameId }, .idle) ∧
        ∀ prev, session.lastDeliveredFrameId = some prev → prev < frame.header.frameId := by
  unfold deliverFrame
  cases hlast : session.lastDeliveredFrameId with
  | none => exact .inr ⟨rfl, nofun⟩
  | some prev =>
    by_cases hstale : frame.header.frameId ≤ prev
    · rw [if_pos (decide_eq_true hstale)]
      exact .inl rfl
    rw [if_neg (fun hle => hstale (of_decide_eq_true hle))]
    refine .inr ⟨rfl, fun other hoth => ?_⟩
    cases hoth
    exact UInt64.not_le.1 hstale

theorem Traced.receiveMediaFrame (h : Traced base steps world) {inbound : Option (List UInt8)}
    (hpre : st.pre = world)
    (hev : st.event = (receiveMediaFrame thread world.session
      (world.threads thread) inbound nowNs).1) :
    Moved base (steps ++ [st]) world.session.routeEpoch thread
      (receiveMediaFrame thread world.session (world.threads thread) inbound
        nowNs).2.1
      (receiveMediaFrame thread world.session (world.threads thread) inbound
        nowNs).2.2 := by
  have hrch := h.reached thread
  generalize world.threads thread = state at hrch hev
  unfold SocketTransport.receiveMediaFrame at hev ⊢
  cases state with
  | idle => exact h.moved_same trivial
  | starting | received bytes =>
    dsimp only
    split <;> exact h.moved_same trivial
  | expiring =>
    exact h.moved rfl rfl rfl (world.session.reassembler.shrinks_expire nowNs) trivial
  | receiving =>
    dsimp only
    split
    · exact h.moved_same trivial
    split
    · exact h.moved rfl rfl rfl (.refl _) trivial
    · exact h.moved_same trivial
  | checking bytes =>
    dsimp only
    split
    · exact h.moved rfl rfl rfl (.refl _) trivial
    next dgram hdec =>
    split
    · exact h.moved rfl rfl rfl (.refl _) trivial
    next hstp =>
    refine h.moved_same ⟨?_, UInt64.le_refl _, dgram, hdec, not_not.1 hstp⟩
    rw [currentStamp, h.stamp]
    rfl
  | ingesting bytes expected => exact h.ingestDatagram hrch hpre hev
  | ingested expected outcome =>
    dsimp only at hev ⊢
    by_cases hstp : world.session.currentStamp = expected
    · rw [if_neg (not_not.2 hstp)] at hev ⊢
      subst hstp
      exact h.handleOutcome hrch hev
    · rw [if_pos hstp]
      exact h.moved_same trivial
  | delivering frame =>
    dsimp only
    rcases deliverFrame_cases with heq | ⟨heq, _⟩
    · rw [heq]
      exact h.moved_same trivial
    · rw [heq]
      exact h.moved rfl rfl rfl (.refl _) trivial

/-- What a step of a call shows, and what it does to the last delivered id. -/
inductive Shows (thread : Nat) (session : ProductSession) (state : ReceiveState) :
    ReceiveEvent × ProductSession × ReceiveState → Prop
  | quiet (session' : ProductSession) (state' : ReceiveState)
      (hlast : session'.lastDeliveredFrameId = session.lastDeliveredFrameId) :
      Shows thread session state (.quiet, session', state')
  | failed (error : ProductSessionError) (session' : ProductSession) (state' : ReceiveState)
      (hlast : session'.lastDeliveredFrameId = session.lastDeliveredFrameId) :
      Shows thread session state (.failed thread error, session', state')
  | ingested (bytes : List UInt8) (outcome : Except TransportError IngestOutcome)
      (session' : ProductSession) (state' : ReceiveState)
      (hlast : session'.lastDeliveredFrameId = session.lastDeliveredFrameId) :
      Shows thread session state (.ingested thread bytes outcome, session', state')
  | delivered (frame : ReassembledFrame) (state' : ReceiveState)
      (hstate : state = .delivering frame)
      (hnewer : ∀ previous, session.lastDeliveredFrameId = some previous →
        previous < frame.header.frameId) :
      Shows thread session state
        (.delivered thread frame,
          { session with lastDeliveredFrameId := some frame.header.frameId }, state')

theorem shows_ingestDatagram :
    Shows thread session state (ingestDatagram thread session bytes expected nowNs) := by
  unfold ingestDatagram
  split
  · exact .failed _ _ _ rfl
  next sess' hreset =>
  have hlast : sess'.lastDeliveredFrameId = session.lastDeliveredFrameId := by
    unfold resetReassembler at hreset
    split at hreset
    · split at hreset
      · cases hreset
      · cases hreset
        rfl
    · cases hreset
      rfl
  exact .ingested _ _ _ _ hlast

theorem shows_receiveMediaFrame (thread : Nat) (session : ProductSession) (state : ReceiveState)
    (inbound : Option (List UInt8)) (nowNs : UInt64) :
    Shows thread session state (receiveMediaFrame thread session state inbound nowNs) := by
  unfold receiveMediaFrame
  cases state with
  | idle | expiring => exact .quiet _ _ rfl
  | starting | received bytes =>
    dsimp only
    split
    · exact .quiet _ _ rfl
    · exact .failed _ _ _ rfl
  | receiving | checking bytes =>
    dsimp only
    split
    · exact .failed _ _ _ rfl
    split
    · exact .failed _ _ _ rfl
    · exact .quiet _ _ rfl
  | ingesting bytes expected => exact shows_ingestDatagram
  | ingested expected outcome =>
    unfold handleOutcome
    dsimp only
    split
    · exact .quiet _ _ rfl
    split
    iterate 2 exact .quiet _ _ rfl
    · split
      · exact .quiet _ _ rfl
      · exact .failed _ _ _ rfl
  | delivering frame =>
    dsimp only
    rcases deliverFrame_cases with heq | ⟨heq, hnewer⟩
    · rw [heq]
      exact .quiet _ _ rfl
    · rw [heq]
      exact .delivered frame _ rfl hnewer

variable {next : ReceiveEvent × ProductSession × ReceiveState} {call : ReceiveStep}

/-- A step of a call ingests for that call only. -/
theorem Shows.thread_eq {other : Nat} (h : Shows thread session state next)
    (hev : next.1 = .ingested other bytes outcome) : other = thread := by
  cases h with
  | quiet | failed | delivered => cases hev
  | ingested => exact (ReceiveEvent.ingested.inj hev).1.symm

/-- The last delivered id changes when a newer frame is delivered, and only then. -/
theorem Shows.lastDelivered (h : Shows thread session state next) :
    (next.2.1.lastDeliveredFrameId = session.lastDeliveredFrameId ∧
        ∀ other frame, next.1 ≠ .delivered other frame) ∨
      ∃ frame, next.1 = .delivered thread frame ∧ state = .delivering frame ∧
        next.2.1.lastDeliveredFrameId = some frame.header.frameId ∧
        ∀ prev, session.lastDeliveredFrameId = some prev → prev < frame.header.frameId := by
  cases h with
  | quiet _ _ hlast | failed _ _ _ hlast | ingested _ _ _ _ hlast =>
    exact .inl ⟨hlast, nofun⟩
  | delivered frame _ hstate hnewer => exact .inr ⟨frame, rfl, hstate, rfl, hnewer⟩

/-! ## Every run -/

theorem advanceRouteEpoch_cases {expectedCurrent requestedNext : UInt64} :
    (session.advanceRouteEpoch expectedCurrent requestedNext).2 = session ∨
      session.routeEpoch < requestedNext ∧
        (session.advanceRouteEpoch expectedCurrent requestedNext).2 =
          { session with routeEpoch := requestedNext } := by
  unfold advanceRouteEpoch
  split_ifs with hinv
  · exact .inl rfl
  simp only [not_or, not_not] at hinv
  refine .inr ⟨?_, rfl⟩
  have hnext : requestedNext.toNat = expectedCurrent.toNat + 1 :=
    checkedAdd_eq_some.1 hinv.1
  rw [hinv.2, UInt64.lt_iff_toNat_lt]
  omega

section

variable (h : Traced base steps world)

include h

/-- The invariant after a step that leaves the calls alone. -/
theorem Traced.of_session (hst : ∀ thread, ¬ Ingests thread st)
    (hstp : session.stamp = world.session.stamp)
    (hreas : session.reassembler = world.session.reassembler)
    (hrt : session.reassemblyRouteEpoch = world.session.reassemblyRouteEpoch)
    (hep : world.session.routeEpoch ≤ session.routeEpoch) :
    Traced base (steps ++ [st]) { world with session := session } where
  stamp := hstp.trans h.stamp
  settled := by
    rw [hreas]
    exact h.settled
  madeOf := by
    rw [hreas, hrt]
    exact h.madeOf.mono fun pkt hpkt => hpkt.mono st
  reached thread := (h.reached thread).snoc (hst thread) hep

/-- The invariant after a step of one call. -/
theorem Traced.of_moved
    (hmoved : Moved base (steps ++ [st]) world.session.routeEpoch thread session state)
    (hst : ∀ other, other ≠ thread → ¬ Ingests other st) :
    Traced base (steps ++ [st]) ({ world with session := session }.setThread thread state) where
  stamp := hmoved.stamp
  settled := hmoved.settled
  madeOf := hmoved.madeOf
  reached other := by
    show Reached base (steps ++ [st]) session.routeEpoch other
      (update world.threads thread state other)
    rw [hmoved.sameEpoch]
    by_cases hsame : other = thread
    · subst hsame
      rw [update_self]
      exact hmoved.reached
    · rw [update_of_ne hsame]
      exact (h.reached other).snoc (hst other hsame) (UInt64.le_refl _)

theorem Traced.step (call : ReceiveStep) :
    Traced base (steps ++ [receiveMachine.stepAt world call])
      (receiveMachine.step world call).2 := by
  -- A step that shows nothing ingests nothing.
  have hquiet (hev : (receiveMachine.stepAt world call).event = .quiet) (thread : Nat) :
      ¬ Ingests thread (receiveMachine.stepAt world call) := by
    rintro ⟨bytes, outcome, hingest⟩
    rw [hev] at hingest
    cases hingest
  cases call with
  | call thread =>
    cases hstate : world.threads thread with
    | idle =>
      have hstep : receiveMachine.step world (.call thread) =
          (.quiet, world.setThread thread .starting) := by
        show ReceiveWorld.step world (.call thread) = _
        rw [ReceiveWorld.step, hstate]
      rw [hstep]
      refine h.of_moved (h.moved_same trivial) fun other _ => hquiet ?_ other
      rw [Machine.stepAt_event, hstep]
    | _ =>
      have hstep : receiveMachine.step world (.call thread) = (.quiet, world) := by
        show ReceiveWorld.step world (.call thread) = _
        rw [ReceiveWorld.step, hstate]
      rw [hstep]
      refine h.of_session (hquiet ?_) rfl rfl rfl (UInt64.le_refl _)
      rw [Machine.stepAt_event, hstep]
  | proceed thread inbound nowNs =>
    refine h.of_moved (h.receiveMediaFrame rfl rfl) fun other hne => ?_
    rintro ⟨bytes, outcome, hingest⟩
    exact hne ((shows_receiveMediaFrame _ _ _ _ _).thread_eq hingest)
  | cancel thread => exact h.of_moved (h.moved_same trivial) fun other _ => hquiet rfl other
  | advanceRouteEpoch expectedCurrent requestedNext =>
    have hst (thread : Nat) : ¬ Ingests thread
        (receiveMachine.stepAt world (.advanceRouteEpoch expectedCurrent requestedNext)) := by
      rintro ⟨_, _, hingest⟩
      cases hingest
    rcases advanceRouteEpoch_cases with
      hsame | ⟨hlt, hnext⟩
    · refine h.of_session hst ?_ ?_ ?_ ?_
      all_goals rw [hsame]
      exact UInt64.le_refl _
    · refine h.of_session hst ?_ ?_ ?_ ?_
      all_goals rw [hnext]
      exact UInt64.le_of_lt hlt
  | setRouteAuthorized authorized =>
    exact h.of_session (hquiet rfl) rfl rfl rfl (UInt64.le_refl _)

end

/-- The id of the frame that a step delivers. -/
def deliveredFrameId (st : WorldStep) : Option UInt64 :=
  match st.event with
  | .delivered _ frame => some frame.header.frameId
  | _ => none

/-- A step delivers nothing and keeps the last delivered id, or it delivers a
frame that is newer and that its call has completed. -/
theorem step_lastDelivered :
    ((receiveMachine.step world call).2.session.lastDeliveredFrameId =
          world.session.lastDeliveredFrameId ∧
        ∀ thread frame, (receiveMachine.step world call).1 ≠ .delivered thread frame) ∨
      ∃ thread frame, (receiveMachine.step world call).1 = .delivered thread frame ∧
        world.threads thread = .delivering frame ∧
        (receiveMachine.step world call).2.session.lastDeliveredFrameId =
          some frame.header.frameId ∧
        ∀ prev, world.session.lastDeliveredFrameId = some prev → prev < frame.header.frameId := by
  cases call with
  | call thread =>
    left
    show (step world (.call thread)).2.session.lastDeliveredFrameId = _ ∧
      ∀ _ _, (step world (.call thread)).1 ≠ _
    unfold step
    dsimp only
    split <;> exact ⟨rfl, nofun⟩
  | proceed thread inbound nowNs =>
    have hshows := shows_receiveMediaFrame thread world.session (world.threads thread) inbound nowNs
    rcases hshows.lastDelivered with hsame | ⟨frame, hdelivers⟩
    · exact .inl hsame
    · exact .inr ⟨thread, frame, hdelivers⟩
  | cancel thread | setRouteAuthorized authorized =>
    exact .inl ⟨rfl, nofun⟩
  | advanceRouteEpoch expectedCurrent requestedNext =>
    refine .inl ⟨?_, nofun⟩
    show (world.session.advanceRouteEpoch expectedCurrent requestedNext).2.lastDeliveredFrameId = _
    rcases advanceRouteEpoch_cases with
      hsame | ⟨_, hnext⟩
    · rw [hsame]
    · rw [hnext]

theorem deliveredFrameId_stepAt {id : UInt64}
    (h : deliveredFrameId (receiveMachine.stepAt world call) = some id) :
    (receiveMachine.step world call).2.session.lastDeliveredFrameId = some id ∧
      ∀ prev, world.session.lastDeliveredFrameId = some prev → prev < id := by
  unfold deliveredFrameId at h
  rw [Machine.stepAt_event] at h
  rcases step_lastDelivered with ⟨_, hnone⟩ | ⟨thread, frame, hev, _, hlast, hnewer⟩
  · split at h
    · next thread frame hev => exact absurd hev (hnone thread frame)
    · cases h
  · rw [hev] at h
    cases h
    exact ⟨hlast, hnewer⟩

theorem pairwise_deliveredFrameId {calls : List ReceiveStep} :
    ((receiveMachine.trace world calls).filterMap deliveredFrameId).Pairwise (· < ·) := by
  refine receiveMachine.pairwise_filterMap_trace
    (Q := fun id world => ∃ last, world.session.lastDeliveredFrameId = some last ∧ id ≤ last)
    ?_ ?_ ?_ world calls
  · intro id world call ⟨last, hlast, hle⟩
    rcases step_lastDelivered with ⟨hsame, _⟩ | ⟨_, _, _, _, hnew, hnewer⟩
    · exact ⟨last, hsame.trans hlast, hle⟩
    · exact ⟨_, hnew, UInt64.le_trans hle (UInt64.le_of_lt (hnewer last hlast))⟩
  · intro id world call hid
    exact ⟨id, (deliveredFrameId_stepAt hid).1, UInt64.le_refl _⟩
  · intro id next world call ⟨last, hlast, hle⟩ hnext
    exact UInt64.lt_of_le_of_lt hle ((deliveredFrameId_stepAt hnext).2 last hlast)

theorem traced_ofSession {config : ReassemblyConfig}
    (hnew : new stamp config = .ok session) :
    Traced stamp [] (.ofSession session) := by
  unfold new at hnew
  split at hnew
  · cases hnew
  next reassembler hreas =>
  cases hnew
  obtain ⟨valid, rfl⟩ := Reassembler.new_eq_ok hreas
  exact ⟨rfl, Reassembler.settled_ofValid valid, Reassembler.madeOf_ofValid valid,
    fun _ => trivial⟩

/-- For every session and every run of its calls, the ids of the delivered frames
increase strictly, and each delivered frame was completed by the last datagram
that its call put in, from datagrams that all carry the stamp that the session
had at that moment. -/
theorem delivered_in_order_from_one_stamp {stamp : SessionStamp} {config : ReassemblyConfig}
    {session : ProductSession} (hnew : ProductSession.new stamp config = .ok session)
    (calls : List ReceiveStep) :
    ((receiveMachine.trace (.ofSession session) calls).filterMap deliveredFrameId).Pairwise
        (· < ·) ∧
      ∀ earlier st later thread frame,
        receiveMachine.trace (.ofSession session) calls = earlier ++ st :: later →
          st.event = .delivered thread frame → CompletedFromOneStamp earlier thread frame := by
  refine ⟨pairwise_deliveredFrameId, ?_⟩
  intro earlier st later thread frame htrace hev
  obtain ⟨before, call, _, _, hearlier, hst, _⟩ := receiveMachine.trace_eq_append_cons htrace
  have htraced : Traced stamp earlier (receiveMachine.run (.ofSession session) before) := by
    rw [hearlier]
    exact receiveMachine.trace_induction
      (traced_ofSession hnew) (fun _ _ call h => h.step call) before
  rw [hst, Machine.stepAt_event] at hev
  rcases step_lastDelivered with
    ⟨_, hnone⟩ | ⟨thread', frame', hev', hstate, _⟩
  · exact absurd hev (hnone thread frame)
  rw [hev'] at hev
  cases hev
  have hrch := htraced.reached thread
  rw [hstate] at hrch
  exact hrch

theorem sampleSession_new : new sampleStamp .default = .ok sampleSession := by
  rfl

/-- A datagram with one byte of a frame of two, sent at the route epoch. -/
def samplePart (routeEpoch frameId offset : UInt8) : List UInt8 :=
  [76, 68, 81, 77, 2, 0, 0, 0, 0, 0, 0, 0, 0, 0, 0, 9, 0, 0, 0, 0, 0, 0, 0, 1, 0, 0, 0, 1, 0, 0, 0,
    1, 0, 0, 0, 1, 0, 0, 0, 0, 0, 0, 0, routeEpoch, 0, 0, 0, 0, 0, 0, 0, 99, 76, 68, 83, 75, 2, 1,
    0, 1, 0, 0, 0, 1, 0, 0, 0, 1, 0, 0, 0, 0, 0, 0, 0, frameId, 255, 255, 255, 255, 255, 255, 255,
    255, 0, 0, 0, 2, 0, 0, 0, offset, 0, 1, 0, 0, 42]

/-- A call that receives both datagrams of a frame and returns it. -/
def sampleCall (routeEpoch frameId : UInt8) : List ReceiveStep :=
  .call 0 :: replicate 7 (.proceed 0 (some (samplePart routeEpoch frameId 0)) 5) ++
    replicate 8 (.proceed 0 (some (samplePart routeEpoch frameId 1)) 5)

/-- The route epoch advances between two frames. -/
def sampleCalls : List ReceiveStep :=
  sampleCall 1 7 ++ .advanceRouteEpoch 1 2 :: sampleCall 2 8

/-- The calls return the frames 7 and 8. -/
theorem sample_delivered_in_order :
    (receiveMachine.trace (.ofSession sampleSession) sampleCalls).filterMap deliveredFrameId =
        [7, 8] ∧
      ∀ earlier st later thread frame,
        receiveMachine.trace (.ofSession sampleSession) sampleCalls = earlier ++ st :: later →
          st.event = .delivered thread frame → CompletedFromOneStamp earlier thread frame :=
  ⟨by decide +kernel, (delivered_in_order_from_one_stamp sampleSession_new sampleCalls).2⟩

end LatencyDesk.SocketTransport
