import LatencyDesk.Protocol.AntiReplay
import LatencyDesk.Lib.Since
import LatencyDesk.Transport.Delivery

/-!
# Media reception of the datagram endpoint

The model of `receive_media_datagram` of `AuthenticatedDatagramEndpoint` in
`crates/socket-transport/src/lib.rs`.  The method asks the replay filter about the frame id
of every datagram and drops the answer, and it does not look at the handshake state, which
`send_media_frame` next to it does.  Datagrams that come twice therefore complete their
frame twice, also before the handshake (`replayed_datagrams_complete_twice`).

A reassembler forgets a frame when it hands it out.  Where the endpoint is active and no
datagram brings back a frame that is gone, no key is completed a second time
(`reception_completes_once`).
-/

namespace LatencyDesk.SocketTransport

open Lib Protocol Transport List Option OrderedMap MediaPacket Reassembler Machine

inductive HandshakeState where
  | initial
  | helloSent (clientNonce : Bytes 16)
  | helloAckSent (serverNonce clientNonce : Bytes 16) (deviceFingerprint : Bytes 32)
  | active
  | failed
deriving DecidableEq

/-- `SocketError`, as far as reception returns it. -/
inductive ReceptionError where
  /-- An error of `UdpEndpoint::receive`. -/
  | socket
  | protocol (error : ProtocolError)
  | transport (error : TransportError)

/-- `AuthenticatedDatagramEndpoint`, as far as reception reads it. -/
structure MediaReceiver where
  handshakeState : HandshakeState
  replayFilter : AntiReplayFilter
  reassembler : Reassembler

/-- `received` is what `UdpEndpoint::receive` put in the buffer, unless it failed. -/
def MediaReceiver.receiveMediaDatagram (receiver : MediaReceiver)
    (received : Option (List UInt8)) (nowNs : UInt64) :
    Except ReceptionError IngestOutcome × MediaReceiver :=
  match received with
  | none => (.error .socket, receiver)
  | some datagram =>
    match MediaPacket.decode datagram with
    | .error e => (.error (.protocol e), receiver)
    | .ok packet =>
      let seq := packet.header.frameId
      -- The filter is brought up to date, and what it says is dropped.
      let replayFilter :=
        if 0 < seq then (receiver.replayFilter.checkAndUpdate seq).2 else receiver.replayFilter
      let answer := receiver.reassembler.ingest datagram nowNs
      (answer.1.mapError .transport,
        { receiver with replayFilter := replayFilter, reassembler := answer.2 })

structure ReceptionEvent where
  received : Option (List UInt8)
  result : Except ReceptionError IngestOutcome

def receptionMachine : Machine MediaReceiver (Option (List UInt8) × UInt64) ReceptionEvent where
  step receiver call :=
    record (ReceptionEvent.mk call.1) (receiver.receiveMediaDatagram call.1 call.2)

abbrev ReceptionTrace := List (Step MediaReceiver ReceptionEvent)

/-- The frame of a datagram that decodes, and so goes into the reassembler. -/
def ReceptionEvent.ingestedKey (event : ReceptionEvent) : Option FrameKey :=
  match event.received.map MediaPacket.decode with
  | some (.ok packet) => some (.fromHeader packet.header)
  | _ => none

def ReceptionEvent.completedKey (event : ReceptionEvent) : Option FrameKey :=
  match event.result with
  | .ok (.complete frame) => some (.fromHeader frame.header)
  | _ => none

/-- The keys of the frames that were handed out, oldest first. -/
def completions (h : ReceptionTrace) : List FrameKey := h.filterMap (·.event.completedKey)

/-- No datagram is of a frame that an earlier datagram was of and that is gone. -/
def BringsNothingBack : ReceptionTrace → Prop :=
  Throughout fun earlier st => ∀ key, st.event.ingestedKey = some key →
    st.pre.reassembler.frames.get? key = none → ∀ x ∈ earlier, x.event.ingestedKey ≠ some key

/-! ## One datagram -/

section

variable {r : Reassembler} {datagram : List UInt8} {nowNs : UInt64}

/-- A frame that is handed out is the frame of the datagram, and it is gone. -/
theorem ingest_completes {frame : ReassembledFrame} (h : r.Sound)
    (hdone : (r.ingest datagram nowNs).1 = .ok (.complete frame)) :
    ∃ pkt, decode datagram = .ok pkt ∧
      FrameKey.fromHeader frame.header = .fromHeader pkt.header ∧
      (r.ingest datagram nowNs).2.frames.get? (.fromHeader pkt.header) = none := by
  have hexpire := r.shrinks_expire nowNs
  unfold ingest at hdone ⊢
  dsimp only at hdone
  split at hdone
  · cases hdone
  cases hdec : decode datagram with
  | error e => simp [hdec] at hdone
  | ok pkt =>
    rw [hdec] at hdone
    obtain ⟨hval, hlen⟩ := decode_spec hdec
    have hpkt : pkt.payload ≠ [] := by
      rw [← length_pos_iff, hlen]
      exact hval.fragment.1
    have hprep := hexpire.trans (shrinks_enterEpoch _ pkt.header.codecEpoch)
    unfold ingestPacket at hdone ⊢
    dsimp only at hdone ⊢
    split_ifs at hdone ⊢ with hparity hstale hbudget
    rcases admitFrame_cases (hprep.sound h) hval (Nat.le_of_not_lt hbudget) with
      ⟨r', hfr, -⟩ | ⟨r', part, hfr, hadmd⟩
    · rw [hfr] at hdone
      cases hdone
    rw [hfr] at hdone ⊢
    dsimp only at hdone ⊢
    rw [hadmd.get] at hdone ⊢
    dsimp only at hdone ⊢
    have hins : pkt.header.fragmentOffset.toNat + pkt.payload.length ≤
        part.declared := by
      rw [PartialFrame.declared_of_metadataMatches hadmd.sameMetadata, hlen]
      exact hval.inside
    have hstor := storeFragment_cases hadmd.sound hadmd.get hpkt hins nowNs
    generalize r'.storeFragment (.fromHeader pkt.header) part pkt nowNs = res at hstor hdone
    cases hstor with
    | complete part' frame' r'' hpart hhdr hbytes hshr hgone =>
      cases hdone
      refine ⟨pkt, rfl, ?_, hgone⟩
      have hsame := hadmd.sameMetadata
      simp only [PartialFrame.metadataMatches, Bool.and_eq_true, beq_iff_eq] at hsame
      simp [FrameKey.fromHeader, hhdr, hsame]
    | _ => cases hdone

/-- A frame in flight after a call was so before, or it is the frame of the datagram. -/
theorem inFlight_of_ingest (h : r.Sound) {key : FrameKey}
    (hheld : (r.ingest datagram nowNs).2.frames.get? key ≠ none) :
    r.frames.get? key ≠ none ∨
      ∃ packet, decode datagram = .ok packet ∧ .fromHeader packet.header = key := by
  obtain ⟨part, hget⟩ := ne_none_iff_exists'.1 hheld
  have hcases := ingest_cases h datagram nowNs
  have hkept {r' : Reassembler} (hshr : r.Shrinks r') (hget : r'.frames.get? key = some part) :
      r.frames.get? key ≠ none := by
    have hmem := hshr.frames _ (get?_eq_some.1 hget)
    simp [get?_eq_some.2 hmem]
  generalize r.ingest datagram nowNs = result at hcases hget
  cases hcases with
  | refused e r' herror hshr | duplicate key' r' hshr => exact .inl (hkept hshr hget)
  | complete packet old part' frame r' hdec hpart hpart' hhdr hbytes hshr =>
    exact .inl (hkept hshr hget)
  | pending packet old part' r' hdec hpart hpart' hcfg hfrs hsnd hshort =>
    rcases hfrs _ (get?_eq_some.1 hget) with heq | hold
    · exact .inr ⟨packet, hdec, (Prod.mk.inj heq).1.symm⟩
    · exact .inl (by simp [get?_eq_some.2 hold])

end

/-! ## Runs -/

/-- What a run keeps that brings no frame back. -/
structure CompletesOnce (h : ReceptionTrace) (receiver : MediaReceiver) : Prop where
  settled : receiver.reassembler.Settled
  active : receiver.handshakeState = .active
  nodup : (completions h).Nodup
  gone : ∀ key ∈ completions h, receiver.reassembler.frames.get? key = none ∧
    ∃ x ∈ h, x.event.ingestedKey = some key

open ReceptionEvent

/-- A call does nothing, or it gives its datagram to the reassembler. -/
theorem step_reception_cases (recvr : MediaReceiver)
    (call : Option (List UInt8) × UInt64) :
    let st := receptionMachine.stepAt recvr call
    (st.post = recvr ∧ st.event.completedKey = none) ∨
    ∃ datagram pkt, decode datagram = .ok pkt ∧
      st.event.ingestedKey = some (.fromHeader pkt.header) ∧
      st.post.handshakeState = recvr.handshakeState ∧
      st.post.reassembler = (recvr.reassembler.ingest datagram call.2).2 ∧
      ∀ key, st.event.completedKey = some key →
        ∃ frame, (recvr.reassembler.ingest datagram call.2).1 = .ok (.complete frame) ∧
          FrameKey.fromHeader frame.header = key := by
  obtain ⟨_ | datagram, nowNs⟩ := call
  · exact .inl ⟨rfl, rfl⟩
  cases hdec : decode datagram with
  | error e =>
    simp [receptionMachine, MediaReceiver.receiveMediaDatagram, hdec, completedKey]
  | ok pkt =>
    refine .inr ⟨datagram, pkt, hdec, ?_⟩
    simp only [receptionMachine, MediaReceiver.receiveMediaDatagram, hdec, record_mk,
      completedKey, ingestedKey, stepAt_event,
      stepAt_post, map_some, true_and]
    intro key hkey
    cases hres : (recvr.reassembler.ingest datagram nowNs).1 with
    | error e => simp [hres, Except.mapError] at hkey
    | ok outcome => cases outcome <;> simp_all [Except.mapError]

theorem CompletesOnce.step {h : ReceptionTrace} {recvr : MediaReceiver}
    (honce : CompletesOnce h recvr) (call : Option (List UInt8) × UInt64)
    (hback : ∀ key, (receptionMachine.stepAt recvr call).event.ingestedKey = some key →
      recvr.reassembler.frames.get? key = none → ∀ x ∈ h, x.event.ingestedKey ≠ some key) :
    CompletesOnce (h ++ [receptionMachine.stepAt recvr call])
      (receptionMachine.step recvr call).2 := by
  have hcases := step_reception_cases recvr call
  rw [← stepAt_post]
  generalize receptionMachine.stepAt recvr call = st at hcases hback
  have hcompletions : completions (h ++ [st]) = completions h ++ st.event.completedKey.toList :=
    filterMap_snoc ..
  rcases hcases with ⟨hsame, hnone⟩ |
    ⟨datagram, pkt, hdec, hingested, hstate, hreas, hcompletes⟩
  · rw [hnone, toList_none, append_nil] at hcompletions
    rw [hsame]
    refine ⟨honce.settled, honce.active, hcompletions ▸ honce.nodup, fun key hkey => ?_⟩
    obtain ⟨hgone, x, hx, hseen⟩ := honce.gone key (hcompletions ▸ hkey)
    exact ⟨hgone, x, mem_append_left _ hx, hseen⟩
  have hsnd := honce.settled.toSound
  -- A frame that was handed out is not in flight, so the datagram is of another one.
  have hoth : ∀ key ∈ completions h, key ≠ .fromHeader pkt.header := by
    rintro key hkey rfl
    obtain ⟨hgone, x, hx, hseen⟩ := honce.gone _ hkey
    exact hback _ hingested hgone x hx hseen
  have hnew : ∀ key, st.event.completedKey = some key → key = .fromHeader pkt.header ∧
      st.post.reassembler.frames.get? key = none := by
    intro key hkey
    obtain ⟨_, hfr, rfl⟩ := hcompletes key hkey
    obtain ⟨pkt', hdec', hkey', hgone⟩ := ingest_completes hsnd hfr
    obtain rfl := Except.ok.inj (hdec'.symm.trans hdec)
    rw [hreas, hkey']
    exact ⟨rfl, hgone⟩
  refine ⟨?_, hstate.trans honce.active, ?_, ?_⟩
  · rw [hreas]
    exact ((ingest_cases hsnd datagram call.2).settled honce.settled).1
  · rw [hcompletions, nodup_append]
    refine ⟨honce.nodup, toList_nodup _, ?_⟩
    rintro key hkey _ hlast rfl
    exact hoth key hkey (hnew key (mem_toList.1 hlast)).1
  · rw [hcompletions, forall_mem_append]
    refine ⟨fun key hkey => ?_, fun key hkey => ?_⟩
    · obtain ⟨hgone, x, hx, hseen⟩ := honce.gone key hkey
      refine ⟨?_, x, mem_append_left _ hx, hseen⟩
      rw [hreas]
      by_contra hheld
      rcases inFlight_of_ingest hsnd hheld with hbef | ⟨_, hdec', rfl⟩
      · exact hbef hgone
      · obtain rfl := Except.ok.inj (hdec'.symm.trans hdec)
        exact hoth _ hkey rfl
    · obtain ⟨rfl, hgone⟩ := hnew key (mem_toList.1 hkey)
      exact ⟨hgone, st, mem_append_right _ (mem_singleton_self st), hingested⟩

/-- Reception is safe on an active endpoint to which no frame is brought back. -/
theorem reception_completes_once {start : MediaReceiver}
    (hsettled : start.reassembler.Settled) (hactive : start.handshakeState = .active)
    {calls : List (Option (List UInt8) × UInt64)}
    (hback : BringsNothingBack (receptionMachine.trace start calls)) :
    (∀ st ∈ receptionMachine.trace start calls, st.event.ingestedKey.isSome →
        st.pre.handshakeState = .active) ∧
      (completions (receptionMachine.trace start calls)).Nodup := by
  have hrun := receptionMachine.trace_induction
    (P := fun h recvr => BringsNothingBack h →
      CompletesOnce h recvr ∧ ∀ st ∈ h, st.pre.handshakeState = .active)
    (fun _ => ⟨⟨hsettled, hactive, nodup_nil, by simp [completions]⟩, by simp⟩)
    (fun h recvr call ih hback => ?_) calls hback
  · exact ⟨fun st hst _ => hrun.2 st hst, hrun.1.nodup⟩
  · obtain ⟨hbef, hlast⟩ := throughout_snoc.1 hback
    obtain ⟨honce, hstates⟩ := ih hbef
    refine ⟨honce.step call hlast, ?_⟩
    rw [forall_mem_append, forall_mem_singleton]
    exact ⟨hstates, honce.active⟩

/-! ### The same datagrams twice -/

/-- An endpoint as `AuthenticatedDatagramEndpoint::new` leaves it, in a handshake state. -/
def freshReceiver (handshakeState : HandshakeState) : MediaReceiver :=
  ⟨handshakeState, .new, .ofValid .default ReassemblyConfig.validate_default⟩

/-- The datagrams of a frame, in order. -/
def sampleReceptions : List (Option (List UInt8) × UInt64) :=
  (samplePackets 1).map fun datagram => (some datagram, 5)

/-- Before any handshake, a frame whose datagrams are replayed is handed out twice. -/
theorem replayed_datagrams_complete_twice :
    let trace := receptionMachine.trace (freshReceiver .initial)
      (sampleReceptions ++ sampleReceptions)
    (∃ st ∈ trace, st.event.ingestedKey.isSome ∧ st.pre.handshakeState ≠ .active) ∧
      ¬ (completions trace).Nodup :=
  ⟨⟨_, mem_cons_self, by decide +kernel, by decide⟩, by decide +kernel⟩

theorem sample_reception_completes_once :
    let trace := receptionMachine.trace (freshReceiver .active) sampleReceptions
    (completions trace).length = 1 ∧
      (∀ st ∈ trace, st.event.ingestedKey.isSome → st.pre.handshakeState = .active) ∧
      (completions trace).Nodup := by
  refine ⟨by decide +kernel, reception_completes_once (settled_ofValid ..) rfl ?_⟩
  rw [show sampleReceptions = [((samplePackets 1)[0]?, 5)] ++ [((samplePackets 1)[1]?, 5)] from rfl,
    trace_snoc, BringsNothingBack, throughout_snoc]
  refine ⟨throughout_snoc.2 ⟨throughout_nil, fun _ _ _ _ hx => absurd hx not_mem_nil⟩,
    fun key hkey hnone => ?_⟩
  -- The second datagram finds its frame in flight.
  have hheld : ∀ key ∈ (receptionMachine.stepAt (receptionMachine.run (freshReceiver .active)
      [((samplePackets 1)[0]?, 5)]) ((samplePackets 1)[1]?, 5)).event.ingestedKey,
      ((receptionMachine.run (freshReceiver .active)
        [((samplePackets 1)[0]?, 5)]).reassembler.frames.get? key).isSome := by
    decide +kernel
  have hsome := hheld key hkey
  rw [stepAt_pre] at hnone
  rw [hnone] at hsome
  cases hsome

end LatencyDesk.SocketTransport
