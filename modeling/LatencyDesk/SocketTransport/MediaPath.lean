import LatencyDesk.SocketTransport.Traffic

/-!
# Media from a session to its peer

What `send_media_frame` puts on the wire are datagrams that decode, that carry
the stamp of the session, and that are not longer than the largest packet
budget (`sendMediaFrame_honest`).  A session that takes such a datagram, stamped
with its own stamp, returns no error and stays open: `receiveMediaFrame_honest`
says so of each step of a call, and `ThreadHonest` is what holds of the calls
between their steps.

The reassembler may refuse an honest packet, when its frame is stale or there is
no room for it.  `ingest_error` lists what is left of its errors: those that
`isSkippableIngestError` passes over.
-/

namespace LatencyDesk.SocketTransport

open Lib Protocol Transport Reassembler ProductSession MediaDatagram MediaFlags List

/-! ## The errors of a well-formed packet -/

/-- The session skips the error, or the reassembler does not report it. -/
def Tolerated (error : TransportError) : Prop :=
  isSkippableIngestError error = true ∨ error.isInternal = true

variable {error : TransportError} {part : PartialFrame} {nowNs : UInt64} {r r' : Reassembler}
  {offset limit : Nat} {payload : List UInt8} {key : FrameKey} {pkt : MediaPacket}

theorem checkInsertion_error (h : checkInsertion part offset payload limit = .error error) :
    Tolerated error := by
  unfold checkInsertion checkPrevious checkNext at h
  split_ifs at h
  · cases h
    exact .inl rfl
  cases hlast : (part.fragments.below offset).getLast? with
  | none =>
    rw [hlast] at h
    dsimp only at h
    split at h
    · cases h
    split_ifs at h
    cases h
    exact .inl rfl
  | some prev =>
    rw [hlast] at h
    dsimp only at h
    split_ifs at h
    · cases h
      exact .inr rfl
    · cases h
      exact .inl rfl
    · dsimp only at h
      split at h
      · cases h
      split_ifs at h
      cases h
      exact .inl rfl

theorem insertFragment_error {part' : PartialFrame}
    (h : insertFragment part offset payload nowNs limit = (.error error, part')) :
    Tolerated error := by
  unfold insertFragment at h
  split_ifs at h
  · cases h
    exact .inr rfl
  split at h
  · split_ifs at h
    · cases h
    · cases h
      exact .inl rfl
  · split at h
    · next hcheck =>
      cases h
      exact checkInsertion_error hcheck
    · cases h

theorem copyFragments_error {frags : List (Nat × List UInt8)} {bytes : List UInt8}
    {expectedOffset : Nat} (h : copyFragments frags bytes expectedOffset = .error error) :
    Tolerated error := by
  induction frags generalizing bytes expectedOffset with
  | nil => cases h
  | cons frag rest ih =>
    unfold copyFragments at h
    dsimp only at h
    split_ifs at h
    iterate 4
      · cases h
        exact .inr rfl
    · exact ih h

theorem assemble_error {completedNs : UInt64} (h : assemble part completedNs = .error error) :
    Tolerated error := by
  unfold assemble at h
  split_ifs at h
  · cases h
    exact .inr rfl
  split at h
  · next hcopy =>
    cases h
    exact copyFragments_error hcopy
  · split_ifs at h
    cases h
    exact .inr rfl

theorem makeRoom_error {fuel declared : Nat} (h : r.makeRoom fuel declared = (.error error, r')) :
    Tolerated error := by
  induction fuel generalizing r with
  | zero =>
    cases h
    exact .inl rfl
  | succ fuel ih =>
    unfold makeRoom at h
    split_ifs at h
    · split at h
      · cases h
        exact .inl rfl
      · exact ih h
    · cases h

theorem admitFrame_error {hdr : MediaHeader}
    (h : r.admitFrame hdr nowNs = (.error error, r')) :
    Tolerated error := by
  unfold admitFrame at h
  dsimp only at h
  split at h
  · split_ifs at h
    · cases h
    · cases h
      exact .inl rfl
  · split at h
    · next hroom =>
      cases h
      exact makeRoom_error hroom
    · cases h

theorem finishFragment_error {bytes : Nat}
    (h : r.finishFragment key part bytes nowNs = (.error error, r')) : Tolerated error := by
  unfold finishFragment at h
  split_ifs at h
  · split at h
    · next hassemble =>
      cases h
      exact assemble_error hassemble
    · cases h
  · cases h

theorem storeFragment_error (h : r.storeFragment key part pkt nowNs = (.error error, r')) :
    Tolerated error := by
  unfold storeFragment at h
  dsimp only at h
  split at h
  · cases h
    exact .inl rfl
  split at h
  · cases h
  · exact finishFragment_error h
  next hinsert =>
  cases h
  exact insertFragment_error hinsert

/-- Behind the parity check every error of a packet is tolerated. -/
theorem ingestPacket_error (hparity : pkt.header.flags &&& parity = 0)
    (h : r.ingestPacket pkt nowNs = (.error error, r')) : Tolerated error := by
  unfold ingestPacket at h
  dsimp only at h
  rw [if_neg (not_not.2 hparity)] at h
  split_ifs at h
  · cases h
    exact .inl rfl
  · cases h
    exact .inl rfl
  · split at h
    · next hadmit =>
      cases h
      exact admitFrame_error hadmit
    · split at h
      · cases h
        exact .inl rfl
      · exact storeFragment_error h

/-- A well-formed packet that is not too long is refused only for reasons that
the session skips. -/
theorem ingest_error (hsett : r.Settled) {datagram : List UInt8}
    (hdec : MediaPacket.decode datagram = .ok pkt)
    (hparity : pkt.header.flags &&& parity = 0)
    (hlen : datagram.length ≤ r.config.maxDatagramBytes.toNat)
    (h : r.ingest datagram nowNs = (.error error, r')) :
    isSkippableIngestError error = true := by
  have hinternal : error.isInternal = false := by
    have hcases := ingest_cases hsett.toSound datagram nowNs
    rw [h] at hcases
    exact hcases.not_isInternal
  have hcfg := (r.shrinks_expire nowNs).config
  have htolerated : Tolerated error := by
    unfold ingest at h
    rw [if_neg (by rw [hcfg]; omega), hdec] at h
    exact ingestPacket_error hparity h
  rcases htolerated with hskip | hne
  · exact hskip
  · rw [hinternal] at hne
    cases hne

/-! ## One pass of the receive loop -/

namespace ProductSession

/-- The reassembler of a session is one for its configuration, between calls. -/
structure MediaSound (session : ProductSession) : Prop where
  settled : session.reassembler.Settled
  config : session.reassembler.config = session.reassemblyConfig

/-- What a session keeps while it receives media. -/
structure Received (session session' : ProductSession) : Prop where
  stamp : session'.stamp = session.stamp
  routeEpoch : session'.routeEpoch = session.routeEpoch
  routeAuthorized : session'.routeAuthorized = session.routeAuthorized
  connectionClosed : session'.connectionClosed = session.connectionClosed
  reassemblyConfig : session'.reassemblyConfig = session.reassemblyConfig
  sound : session'.MediaSound

variable {session session' sess'' : ProductSession} (h : session.MediaSound)

include h in
theorem Received.refl : session.Received session :=
  ⟨rfl, rfl, rfl, rfl, rfl, h⟩

theorem Received.trans (h : session.Received session') (h' : session'.Received sess'') :
    session.Received sess'' where
  stamp := h'.stamp.trans h.stamp
  routeEpoch := h'.routeEpoch.trans h.routeEpoch
  routeAuthorized := h'.routeAuthorized.trans h.routeAuthorized
  connectionClosed := h'.connectionClosed.trans h.connectionClosed
  reassemblyConfig := h'.reassemblyConfig.trans h.reassemblyConfig
  sound := h'.sound

theorem Received.currentStamp (h : session.Received session') :
    session'.currentStamp = session.currentStamp := by
  unfold ProductSession.currentStamp
  rw [h.stamp, h.routeEpoch]

include h in
theorem received_reassembler (hsett : r.Settled)
    (hcfg : r.config = session.reassembler.config) :
    session.Received { session with reassembler := r } :=
  ⟨rfl, rfl, rfl, rfl, rfl, ⟨hsett, hcfg.trans h.config⟩⟩

include h in
theorem received_expire (nowNs : UInt64) :
    session.Received { session with reassembler := (session.reassembler.expire nowNs).2 } :=
  have hshr := session.reassembler.shrinks_expire nowNs
  received_reassembler h (h.settled.shrinks hshr) hshr.config

include h in
/-- The reset cannot fail: the configuration has been validated. -/
theorem resetReassembler_eq_ok (routeEpoch : UInt64) :
    ∃ session', session.resetReassembler routeEpoch = .ok session' ∧ session.Received session' := by
  unfold resetReassembler
  split_ifs with hsame
  · have hval : session.reassemblyConfig.validate = .ok () := by
      rw [← h.config]
      exact session.reassembler.valid
    have hnew : Reassembler.new session.reassemblyConfig = .ok (.ofValid _ hval) :=
      dif_pos hval
    rw [hnew]
    exact ⟨_, rfl, rfl, rfl, rfl, rfl, rfl, Reassembler.settled_ofValid hval, rfl⟩
  · exact ⟨session, rfl, .refl h⟩

end ProductSession

variable {session : ProductSession} {bytes : List UInt8} {datagram : MediaDatagram}
  (hsnd : session.MediaSound)

include hsnd in
/-- A well-formed datagram goes into the reassembler, and what comes out is no
reason to close the connection. -/
theorem ingestDatagram_honest
    (hpkt : MediaPacket.decode (bytes.drop quicMediaHeaderLen) = .ok datagram.packet)
    (hparity : datagram.packet.header.flags &&& parity = 0)
    (hlen : (bytes.drop quicMediaHeaderLen).length ≤
      session.reassemblyConfig.maxDatagramBytes.toNat) (thread : Nat) (expected : SessionStamp)
    (nowNs : UInt64) :
    ∃ outcome session', ingestDatagram thread session bytes expected nowNs =
        (.ingested thread bytes outcome, session', .ingested expected outcome) ∧
      session.Received session' ∧
      ∀ error, outcome = .error error → isSkippableIngestError error = true := by
  obtain ⟨fresh, hreset, hfresh⟩ := resetReassembler_eq_ok hsnd expected.routeEpoch
  have hexp := received_expire hfresh.sound nowNs
  have hsett : (fresh.reassembler.expire nowNs).2.Settled := hexp.sound.settled
  have hcases := ingest_cases hsett.toSound (bytes.drop quicMediaHeaderLen) nowNs
  obtain ⟨hafter, hcfg⟩ := hcases.settled hsett
  unfold ingestDatagram
  rw [hreset]
  refine ⟨_, _, rfl, ?_, ?_⟩
  · exact hfresh.trans (hexp.trans (received_reassembler hexp.sound hafter hcfg))
  · intro error herror
    have hfits : (bytes.drop quicMediaHeaderLen).length ≤
        (fresh.reassembler.expire nowNs).2.config.maxDatagramBytes.toNat := by
      rw [hexp.sound.config, hfresh.reassemblyConfig]
      exact hlen
    exact ingest_error hsett hpkt hparity hfits (Prod.ext herror rfl)

/-- A datagram of a session with this stamp. -/
structure HonestDatagram (stamp : SessionStamp) (bytes : List UInt8) : Prop where
  decodes : ∃ datagram, MediaDatagram.decode bytes = .ok datagram ∧ datagram.stamp = stamp ∧
    datagram.packet.header.flags &&& MediaFlags.parity = 0
  length : (bytes.drop quicMediaHeaderLen).length ≤ maxDatagramMtu

/-- What a call holds between two steps, when all that it reads is honest. -/
def ThreadHonest (stamp : SessionStamp) : ReceiveState → Prop
  | .received bytes => HonestDatagram stamp bytes
  | .checking bytes => HonestDatagram stamp bytes
  | .ingesting bytes _ => HonestDatagram stamp bytes
  | .ingested _ outcome => ∀ error, outcome = .error error → isSkippableIngestError error = true
  | _ => True

/-- The event is no error. -/
def ReceiveEvent.Harmless : ReceiveEvent → Prop
  | .failed _ _ => False
  | _ => True

variable {stamp : SessionStamp}

include hsnd in
/-- What the session skips is no reason to close the connection. -/
theorem handleOutcome_honest {outcome : Except TransportError IngestOutcome}
    (hskip : ∀ error, outcome = .error error → isSkippableIngestError error = true) (thread : Nat) :
    let next := handleOutcome thread session outcome
    next.1.Harmless ∧ session.Received next.2.1 ∧ ThreadHonest stamp next.2.2 := by
  unfold handleOutcome
  split
  iterate 2 exact ⟨trivial, .refl hsnd, trivial⟩
  · next error =>
    rw [if_pos (hskip error rfl)]
    exact ⟨trivial, .refl hsnd, trivial⟩

include hsnd in
theorem deliverFrame_honest (frame : ReassembledFrame) (thread : Nat) :
    let next := deliverFrame thread session frame
    next.1.Harmless ∧ session.Received next.2.1 ∧ ThreadHonest stamp next.2.2 := by
  unfold deliverFrame
  dsimp only
  split_ifs
  · exact ⟨trivial, .refl hsnd, trivial⟩
  · exact ⟨trivial, ⟨rfl, rfl, rfl, rfl, rfl, hsnd.settled, hsnd.config⟩, trivial⟩

include hsnd in
/-- A step of a call on an authorized session that reads an honest datagram. -/
theorem receiveMediaFrame_honest {state : ReceiveState}
    (hauthd : session.routeAuthorized = true)
    (hroom : maxDatagramMtu ≤ session.reassemblyConfig.maxDatagramBytes.toNat)
    (hstate : ThreadHonest session.currentStamp state) {inbound : Option (List UInt8)}
    (hreads : state = .receiving → inbound.isSome)
    (hbytes : ∀ bytes ∈ inbound, HonestDatagram session.currentStamp bytes) (thread : Nat)
    (nowNs : UInt64) :
    let next := receiveMediaFrame thread session state inbound nowNs
    next.1.Harmless ∧ session.Received next.2.1 ∧ ThreadHonest session.currentStamp next.2.2 := by
  cases state with
  | idle => exact ⟨trivial, .refl hsnd, trivial⟩
  | starting =>
    simp only [receiveMediaFrame, hauthd]
    exact ⟨trivial, .refl hsnd, trivial⟩
  | expiring => exact ⟨trivial, received_expire hsnd nowNs, trivial⟩
  | receiving =>
    obtain ⟨bytes, rfl⟩ := Option.isSome_iff_exists.1 (hreads rfl)
    obtain ⟨datagram, hdec, _⟩ := (hbytes bytes rfl).decodes
    simp only [receiveMediaFrame, hdec]
    exact ⟨trivial, .refl hsnd, hbytes bytes rfl⟩
  | received bytes =>
    simp only [receiveMediaFrame, hauthd]
    exact ⟨trivial, .refl hsnd, hstate⟩
  | checking bytes =>
    obtain ⟨datagram, hdec, hstp, _⟩ := hstate.decodes
    simp only [receiveMediaFrame, hdec, hstp, ne_eq]
    exact ⟨trivial, .refl hsnd, hstate⟩
  | ingesting bytes expected =>
    obtain ⟨_, hdec, _, hparity⟩ := hstate.decodes
    obtain ⟨outcome, _, hingest, hrecv, hskip⟩ := ingestDatagram_honest hsnd
      (decode_packet hdec) hparity (hstate.length.trans hroom) thread expected
      nowNs
    simp only [receiveMediaFrame, hingest]
    exact ⟨trivial, hrecv, hskip⟩
  | ingested expected outcome =>
    simp only [receiveMediaFrame]
    split_ifs
    · exact ⟨trivial, .refl hsnd, trivial⟩
    · exact handleOutcome_honest hsnd hstate thread
  | delivering frame => exact deliverFrame_honest hsnd frame thread

/-! ## What a session sends -/

variable {frags : List MediaPacket}

theorem submitFragments_mem {expiresAtNs : UInt64}
    {answer : Nat → Except QuicTransportError MediaSendOutcome} {total sent : Nat}
    (h : bytes ∈ (submitFragments stamp nowNs expiresAtNs answer total sent frags).2) :
    ∃ frag ∈ frags, encode stamp expiresAtNs frag.header frag.payload = .ok bytes := by
  induction frags generalizing sent with
  | nil => cases h
  | cons frag rest ih =>
    unfold submitFragments at h
    split at h
    · cases h
    next encoded hencoded =>
    split at h
    · cases h
    · rcases mem_cons.1 h with rfl | hrest
      · exact ⟨frag, mem_cons_self, hencoded⟩
      · obtain ⟨other, hoth, henc⟩ := ih hrest
        exact ⟨other, mem_cons_of_mem _ hoth, henc⟩
    · cases h

variable {media : MediaFrame}

theorem sendFragments_mem {pathMaxDatagramBytes : Nat}
    (h : bytes ∈ (session.sendFragments media pathMaxDatagramBytes frags).2) :
    ∃ expiresAtNs, ∃ frag ∈ frags, encode session.currentStamp expiresAtNs
      frag.header frag.payload = .ok bytes := by
  unfold sendFragments at h
  dsimp only at h
  split_ifs at h
  · cases h
  split at h
  · cases h
  next expiresAtNs _ =>
  refine ⟨expiresAtNs, ?_⟩
  split at h
  all_goals
    next hsubmit =>
    apply submitFragments_mem
    rw [hsubmit]
    exact h

/-- A frame without the parity flag goes out in honest datagrams of the session. -/
theorem sendMediaFrame_honest (hparity : media.spec.flags &&& parity = 0)
    (h : bytes ∈ (session.sendMediaFrame media).2) :
    HonestDatagram session.currentStamp bytes := by
  unfold sendMediaFrame at h
  split_ifs at h
  · cases h
  · cases h
  split at h
  · cases h
  split at h
  · cases h
  split at h
  · cases h
  next frags hfrags =>
  split at h
  · cases h
  next packets hcollect =>
  obtain ⟨_, frag, hfrag, henc⟩ := sendFragments_mem h
  obtain ⟨hspec, hcap⟩ := frameFragmentsWithPacketBudget_eq_ok hfrags
  obtain ⟨hflags, hsize⟩ := FrameFragments.collect_eq_ok hcollect frag hfrag
  obtain ⟨hdec, hlen⟩ := decode_encode henc
  refine ⟨⟨_, hdec, rfl, ?_⟩, ?_⟩
  · rw [hflags, hspec, hparity]
  · rw [length_drop]
    omega

end LatencyDesk.SocketTransport
