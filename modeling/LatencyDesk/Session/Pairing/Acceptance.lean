import LatencyDesk.Session.Pairing.Model

/-!
# How a coordinator reaches acceptance

`Effect` lists what one call can do to a coordinator, and `History` reads a
trace back from the state that it reached.  A pending attempt was opened by a
`begin` whose evidence matched, and the trace since then accounts for its two
flags and for every attempt that it has used up.  An accepted session was
opened the same way, and it was either pinned already or confirmed on both
sides.

A coordinator compares commitments, not codes.  `CommitmentsDistinct` is the
assumption that SHA-256 gives different codes different commitments.
-/

namespace LatencyDesk.Session.Pairing

open Lib Platform Protocol PairingCoordinator List SasCode DeviceIdentityStore PairingState

variable {S : Type} [DeviceIdentityStore S] {sha256 : Sha256} {c c' : PairingCoordinator S}
  {e : PairingEvent} {nowNs : UInt64}

/-- No two SAS codes have the same commitment. -/
def CommitmentsDistinct (sha256 : Sha256) : Prop :=
  ∀ sas sas' : SasCode, sasCommitment sha256 sas = sasCommitment sha256 sas' → sas = sas'

/-- A step of a coordinator. -/
abbrev PairingStep (S : Type) := Step (PairingCoordinator S) PairingEvent

/-! ## What one call can do -/

/-- The `begin` found an idle coordinator, and its evidence matched the
identity that the store returned and the fingerprint of the TLS peer, and had
not expired. -/
structure Opens (c : PairingCoordinator S) (e : PairingEvent) (peerAlias : PeerAlias)
    (evidence : PairingEvidence) (localIdentity : DeviceIdentity) (peerPin : PeerPin) : Prop where
  idle : c.state = .idle
  valid : evidence.validate = .ok ()
  identity : (loadOrCreateIdentity c.store).1 = .ok localIdentity
  fingerprint : evidence.localFingerprint = localIdentity.spkiFingerprint
  peer : evidence.peerFingerprint = peerPin.spkiFingerprint
  call : ∃ nowNs result,
    e = .begin peerAlias evidence peerPin.spkiFingerprint nowNs result ∧
    nowNs < evidence.expiresAtNs

/-- The store answered the `begin` with the pin of the alias. -/
def Selects (c : PairingCoordinator S) (peerAlias : PeerAlias) (selectedPin : Option PeerPin) :
    Prop :=
  (loadPeerPin (loadOrCreateIdentity c.store).2
    peerAlias).1 = .ok selectedPin

/-- The attempt that `begin` opens. -/
def opened (sha256 : Sha256) (peerAlias : PeerAlias) (evidence : PairingEvidence)
    (localIdentity : DeviceIdentity) (peerPin : PeerPin) : PendingPairing :=
  { peerAlias := peerAlias
    evidence := evidence
    localIdentity := localIdentity
    peerPin := peerPin
    expectedSasCommitment := sasCommitment sha256 (fromEvidence sha256 evidence)
    localApproved := false
    peerAcknowledged := false
    attemptsRemaining := defaultMaxSasAttempts }

/-- A confirmation before the expiry of the attempt, and what it turns the
attempt into. -/
inductive Confirms (sha256 : Sha256) (pending : PendingPairing) :
    PairingEvent → PendingPairing → Prop where
  | onLocal {nowNs : UInt64} {result : Except PairingError PairingProgress}
      (htime : nowNs < pending.evidence.expiresAtNs) :
      Confirms sha256 pending (.confirmLocal nowNs result) { pending with localApproved := true }
  | onPeer {sas : SasCode} {nowNs : UInt64} {result : Except PairingError PairingProgress}
      (htime : nowNs < pending.evidence.expiresAtNs)
      (hsas : sasCommitment sha256 sas = pending.expectedSasCommitment) :
      Confirms sha256 pending (.confirmPeer sas nowNs result)
        { pending with peerAcknowledged := true }

/-- The session of an attempt. -/
def PendingPairing.session (pending : PendingPairing) : AcceptedSession :=
  .fromEvidence pending.evidence pending.localIdentity pending.peerPin

/-- The ways in which one call can change a coordinator. -/
inductive Effect (sha256 : Sha256) (c : PairingCoordinator S) :
    PairingEvent → PairingCoordinator S → Prop where
  /-- Nothing changes.  No confirmation reached a pending attempt. -/
  | refuse {e : PairingEvent}
      (hrefused : (∃ peerAlias evidence tls nowNs result,
        e = .begin peerAlias evidence tls nowNs result) ∨ ∀ pending, c.state ≠ .pending pending) :
      Effect sha256 c e c
  | close {e : PairingEvent} {store : S} (hopen : c.state = .idle ∨
      ∃ pending, c.state = .pending pending) :
      Effect sha256 c e { store := store, state := .closed }
  | pinned {e : PairingEvent} {store : S} {peerAlias : PeerAlias} {evidence : PairingEvidence}
      {localIdentity : DeviceIdentity} {peerPin : PeerPin}
      (hopens : Opens c e peerAlias evidence localIdentity peerPin)
      (hselects : Selects c peerAlias (some peerPin)) :
      Effect sha256 c e
        { store := store, state := .accepted (.fromEvidence evidence localIdentity peerPin) }
  | start {e : PairingEvent} {store : S} {peerAlias : PeerAlias} {evidence : PairingEvidence}
      {localIdentity : DeviceIdentity} {peerPin : PeerPin}
      (hopens : Opens c e peerAlias evidence localIdentity peerPin) :
      Effect sha256 c e
        { store := store
          state := .pending (opened sha256 peerAlias evidence localIdentity peerPin) }
  | wait {e : PairingEvent} {pending pending' : PendingPairing}
      (hpending : c.state = .pending pending) (hconfirms : Confirms sha256 pending e pending') :
      Effect sha256 c e { c with state := .pending pending' }
  | mismatch {sas : SasCode} {nowNs : UInt64} {pending : PendingPairing}
      {result : Except PairingError PairingProgress}
      (hpending : c.state = .pending pending)
      (hsas : sasCommitment sha256 sas ≠ pending.expectedSasCommitment)
      (hattempts : pending.attemptsRemaining - 1 ≠ 0) :
      Effect sha256 c (.confirmPeer sas nowNs result)
        { c with
          state := .pending { pending with attemptsRemaining := pending.attemptsRemaining - 1 } }
  | accept {e : PairingEvent} {store : S} {pending pending' : PendingPairing}
      (hpending : c.state = .pending pending) (hconfirms : Confirms sha256 pending e pending')
      (hlocal : pending'.localApproved = true) (hpeer : pending'.peerAcknowledged = true)
      (hstored : (storePeerPin c.store pending'.peerAlias
        pending'.peerPin).1 = .ok ()) :
      Effect sha256 c e { store := store, state := .accepted pending'.session }

theorem begin_effect (peerAlias : PeerAlias)
    (evidence : PairingEvidence) (tls : Bytes 32) (nowNs : UInt64) :
    Effect sha256 c
      (.begin peerAlias evidence tls nowNs (c.begin sha256 peerAlias evidence tls nowNs).1)
      (c.begin sha256 peerAlias evidence tls nowNs).2 := by
  have href : ∀ res, Effect sha256 c (.begin peerAlias evidence tls nowNs res) c :=
    fun res => .refuse (.inl ⟨peerAlias, evidence, tls, nowNs, res, rfl⟩)
  unfold begin
  split
  iterate 3 exact href _
  rename_i hidle
  split
  · exact .close (.inl hidle)
  rename_i hval
  split
  · exact .close (.inl hidle)
  rename_i localIdentity store hident
  split_ifs with hmatch
  · exact .close (.inl hidle)
  simp only [not_or, not_not] at hmatch
  obtain ⟨hlocal, htls, htime, _⟩ := hmatch
  split
  · exact .close (.inl hidle)
  rename_i selectedPin store' hselected
  split
  · exact .close (.inl hidle)
  rename_i peerPin hpin
  have hpeer : tls = peerPin.spkiFingerprint := by
    unfold PeerPin.fromTlsSpkiFingerprint at hpin
    split_ifs at hpin
    obtain rfl := Except.ok.inj hpin
    rfl
  have hopens : ∀ res, Opens c (.begin peerAlias evidence tls nowNs res) peerAlias evidence
      localIdentity peerPin := by
    intro res
    refine ⟨hidle, hval, by rw [hident], hlocal, ?_, nowNs, res, by rw [hpeer],
      UInt64.not_le.1 htime⟩
    rw [← htls, hpeer]
  split
  · split_ifs with hsame
    · exact .close (.inl hidle)
    obtain rfl := not_not.1 hsame
    refine .pinned (hopens _) ?_
    rw [Selects, hident, hselected]
  · exact .start (hopens _)

/-- `progress_or_accept` after a confirmation of the pending attempt. -/
theorem progressOrAccept_effect {pending pending' : PendingPairing}
    {event : Except PairingError PairingProgress → PairingEvent}
    (hpend : c.state = .pending pending)
    (hconfirms : ∀ res, Confirms sha256 pending (event res) pending') :
    Effect sha256 c (event (progressOrAccept { c with state := .pending pending' }).1)
      (progressOrAccept { c with state := .pending pending' }).2 := by
  simp only [progressOrAccept]
  split_ifs with hlocal hpeer
  iterate 2 exact .wait hpend (hconfirms _)
  · split
    · exact .close (.inr ⟨pending, hpend⟩)
    rename_i store hstor
    exact .accept hpend (hconfirms _) (by simpa using hlocal) (by simpa using hpeer)
      (by rw [hstor])

omit [DeviceIdentityStore S] in
theorem pendingMut_cases :
    (∃ error, c.pendingMut nowNs = (.error error, c) ∧ ∀ pending, c.state ≠ .pending pending) ∨
      ∃ pending, c.state = .pending pending ∧
        (c.pendingMut nowNs = (.error .expired, { c with state := .closed }) ∨
          (c.pendingMut nowNs = (.ok pending, c) ∧ nowNs < pending.evidence.expiresAtNs)) := by
  unfold pendingMut
  cases hstate : c.state with
  | pending pending =>
    refine .inr ⟨pending, rfl, ?_⟩
    by_cases htime : pending.evidence.expiresAtNs ≤ nowNs
    · exact .inl (if_pos htime)
    · exact .inr ⟨if_neg htime, UInt64.not_le.1 htime⟩
  | idle | accepted sess | closed => exact .inl ⟨_, rfl, by simp⟩

section

variable (sha256 : Sha256) (c : PairingCoordinator S)

theorem confirmLocal_effect (nowNs : UInt64) :
    Effect sha256 c (.confirmLocal nowNs (c.confirmLocal nowNs).1) (c.confirmLocal nowNs).2 := by
  unfold confirmLocal
  rcases pendingMut_cases with ⟨_, heq, hstate⟩ | ⟨pending, hpend, heq | ⟨heq, htime⟩⟩
  · rw [heq]
    exact .refuse (.inr hstate)
  · rw [heq]
    exact .close (.inr ⟨pending, hpend⟩)
  · rw [heq]
    exact progressOrAccept_effect hpend fun _ => .onLocal htime

theorem confirmPeer_effect (sas : SasCode) (nowNs : UInt64) :
    Effect sha256 c (.confirmPeer sas nowNs (c.confirmPeer sha256 sas nowNs).1)
      (c.confirmPeer sha256 sas nowNs).2 := by
  unfold confirmPeer
  rcases pendingMut_cases with ⟨_, heq, hstate⟩ | ⟨pending, hpend, heq | ⟨heq, htime⟩⟩
  · rw [heq]
    exact .refuse (.inr hstate)
  · rw [heq]
    exact .close (.inr ⟨pending, hpend⟩)
  · rw [heq]
    dsimp only
    split_ifs with hsas hattempts
    · exact progressOrAccept_effect hpend fun _ => .onPeer htime hsas
    · exact .close (.inr ⟨pending, hpend⟩)
    · exact .mismatch hpend hsas hattempts

/-- Every call has one of the effects. -/
theorem step_effect (call : PairingCall) :
    Effect sha256 c ((pairingMachine sha256 S).step c call).1
      ((pairingMachine sha256 S).step c call).2 := by
  cases call with
  | begin peerAlias evidence tls nowNs => exact begin_effect peerAlias evidence tls nowNs
  | confirmLocal nowNs => exact confirmLocal_effect sha256 c nowNs
  | confirmPeer sas nowNs => exact confirmPeer_effect sha256 c sas nowNs

end

/-! ## Accepted and closed are final -/

/-- The coordinator is accepted or closed. -/
def Final (c : PairingCoordinator S) : Prop :=
  c.state = .closed ∨ ∃ session, c.state = .accepted session

theorem Final.effect (hfinal : Final c) (heff : Effect sha256 c e c') : c' = c := by
  have hidle : c.state ≠ .idle := by
    rcases hfinal with h | ⟨sess, h⟩ <;> simp [h]
  have hpend : ∀ pending, c.state ≠ .pending pending := by
    rcases hfinal with h | ⟨_, h⟩ <;> simp [h]
  cases heff with
  | refuse => rfl
  | close hopen =>
    rcases hopen with h | ⟨pending, h⟩
    · exact absurd h hidle
    · exact absurd h (hpend pending)
  | pinned hopens | start hopens => exact absurd hopens.idle hidle
  | wait h | mismatch h | accept h => exact absurd h (hpend _)

/-- No call changes a coordinator that is accepted or closed. -/
theorem Final.run (hfinal : Final c) (calls : List PairingCall) :
    (pairingMachine sha256 S).run c calls = c := by
  refine (pairingMachine sha256 S).run_induction (P := fun c' => c' = c) rfl ?_ calls
  rintro c' call rfl
  exact hfinal.effect (step_effect sha256 c' call)

/-! ## The history behind a state -/

/-- The step confirms the attempt locally, before its evidence expires. -/
def ConfirmsLocally (evidence : PairingEvidence) (st : PairingStep S) : Prop :=
  ∃ nowNs result, st.event = .confirmLocal nowNs result ∧ nowNs < evidence.expiresAtNs

/-- The step confirms the attempt with the SAS of its evidence, before the
evidence expires. -/
def ConfirmsSas (sha256 : Sha256) (evidence : PairingEvidence) (st : PairingStep S) : Prop :=
  ∃ nowNs result,
    st.event = .confirmPeer (fromEvidence sha256 evidence) nowNs result ∧
    nowNs < evidence.expiresAtNs

/-- The step tries another SAS than that of the evidence. -/
def wrongSas (sha256 : Sha256) (evidence : PairingEvidence) (st : PairingStep S) : Bool :=
  match st.event with
  | .confirmPeer sas _ _ => decide (sas ≠ fromEvidence sha256 evidence)
  | _ => false

/-- The trace opened the attempt and accounts for its flags and for the
attempts it has used up. -/
def Waits (sha256 : Sha256) (pending : PendingPairing) (h : List (PairingStep S)) : Prop :=
  ∃ before b since, h = before ++ b :: since ∧
    Opens b.pre b.event pending.peerAlias pending.evidence pending.localIdentity pending.peerPin ∧
    pending.expectedSasCommitment =
      sasCommitment sha256 (fromEvidence sha256 pending.evidence) ∧
    (pending.localApproved = true → ∃ st ∈ since, ConfirmsLocally pending.evidence st) ∧
    (pending.peerAcknowledged = true → ∃ st ∈ since, ConfirmsSas sha256 pending.evidence st) ∧
    since.countP (wrongSas sha256 pending.evidence) + pending.attemptsRemaining =
      defaultMaxSasAttempts ∧
    0 < pending.attemptsRemaining

/-- The trace opened the session with matching evidence, and then either the
store held the pin of the peer already, or both sides confirmed in time after
fewer than three wrong codes and the store took the pin. -/
def WasAccepted (sha256 : Sha256) (session : AcceptedSession) (h : List (PairingStep S)) : Prop :=
  ∃ before b after peerAlias evidence localIdentity peerPin, h = before ++ b :: after ∧
    Opens b.pre b.event peerAlias evidence localIdentity peerPin ∧
    session = .fromEvidence evidence localIdentity peerPin ∧
    (Selects b.pre peerAlias (some peerPin) ∨
      ∃ since a later, after = since ++ a :: later ∧
        (∃ st ∈ since ++ [a], ConfirmsLocally evidence st) ∧
        (∃ st ∈ since ++ [a], ConfirmsSas sha256 evidence st) ∧
        since.countP (wrongSas sha256 evidence) < 3 ∧
        (storePeerPin a.pre.store peerAlias peerPin).1 = .ok ())

/-- The trace explains the state of the coordinator. -/
structure History (sha256 : Sha256) (h : List (PairingStep S)) (c : PairingCoordinator S) :
    Prop where
  waits : ∀ pending, c.state = .pending pending → Waits sha256 pending h
  accepted : ∀ session, c.state = .accepted session → WasAccepted sha256 session h

variable (hdistinct : CommitmentsDistinct sha256)

section Step

variable {h : List (PairingStep S)} {st : PairingStep S} {pending pending' : PendingPairing}
  (hwaits : Waits sha256 pending h)

include hwaits in
/-- One more step of a pending attempt.  A flag that is new is due to the
step, and a lost attempt is a wrong code. -/
theorem Waits.snoc {localApproved peerAcknowledged : Bool} {attemptsRemaining : Nat}
    (hlocal : localApproved = true →
      pending.localApproved = true ∨ ConfirmsLocally pending.evidence st)
    (hpeer : peerAcknowledged = true →
      pending.peerAcknowledged = true ∨ ConfirmsSas sha256 pending.evidence st)
    (hcount : (if wrongSas sha256 pending.evidence st = true then 1 else 0) + attemptsRemaining =
      pending.attemptsRemaining) (hpos : 0 < attemptsRemaining) :
    Waits sha256
      { pending with
        localApproved := localApproved
        peerAcknowledged := peerAcknowledged
        attemptsRemaining := attemptsRemaining } (h ++ [st]) := by
  obtain ⟨before, b, since, rfl, hopens, hsas, hlocal', hpeer', hcount', _⟩ := hwaits
  refine ⟨before, b, since ++ [st], by simp, hopens, hsas, ?_, ?_, ?_, hpos⟩
  · intro happroved
    rcases hlocal happroved with hold | hnew
    · obtain ⟨st', hst', hconfirms⟩ := hlocal' hold
      exact ⟨st', mem_append_left _ hst', hconfirms⟩
    · exact ⟨st, by simp, hnew⟩
  · intro hacknowledged
    rcases hpeer hacknowledged with hold | hnew
    · obtain ⟨st', hst', hconfirms⟩ := hpeer' hold
      exact ⟨st', mem_append_left _ hst', hconfirms⟩
    · exact ⟨st, by simp, hnew⟩
  · rw [countP_append, countP_singleton]
    dsimp only
    omega

variable (hconfirms : Confirms sha256 pending st.event pending')

include hconfirms hwaits hdistinct in
/-- A confirmation keeps the account of a pending attempt. -/
theorem Waits.confirms :
    Waits sha256 pending' (h ++ [st]) := by
  obtain ⟨_, _, _, _, _, hsas, _, _, _, hpos⟩ := id hwaits
  generalize hev : st.event = e at hconfirms
  cases hconfirms with
  | @onLocal nowNs res htime =>
    refine hwaits.snoc (fun _ => .inr ⟨nowNs, res, hev, htime⟩) .inl ?_ hpos
    simp [wrongSas, hev]
  | @onPeer sas nowNs res htime hcommitment =>
    have hcode : sas = fromEvidence sha256 pending.evidence :=
      hdistinct _ _ (hcommitment.trans hsas)
    subst hcode
    refine hwaits.snoc .inl (fun _ => .inr ⟨nowNs, res, hev, htime⟩) ?_ hpos
    simp [wrongSas, hev]

include hconfirms hwaits hdistinct in
/-- The confirmation that completes an attempt accepts it. -/
theorem Waits.accepts (hlocal : pending'.localApproved = true)
    (hpeer : pending'.peerAcknowledged = true)
    (hstor : (storePeerPin st.pre.store pending'.peerAlias
      pending'.peerPin).1 = .ok ()) :
    WasAccepted sha256 pending'.session (h ++ [st]) := by
  obtain ⟨before, b, since, heq, hopens, _, hlocal', hpeer', hcount, hpos⟩ :=
    hwaits.confirms hdistinct hconfirms
  refine ⟨before, b, since, _, _, _, _, heq, hopens, rfl, .inr ?_⟩
  rcases eq_nil_or_concat since with rfl | ⟨init, last, rfl⟩
  · -- The step that opened the attempt is a `begin`, and the last step is not.
    obtain ⟨_, hbst⟩ := append_inj' heq rfl
    obtain ⟨_, _, hbegin, _⟩ := hopens.call
    rw [← (cons.inj hbst).1] at hbegin
    rw [hbegin] at hconfirms
    cases hconfirms
  · have heq' : h ++ [st] = (before ++ b :: init) ++ [last] := by simpa using heq
    obtain ⟨_, hlast⟩ := append_inj' heq' rfl
    obtain rfl := (cons.inj hlast).1
    rw [concat_eq_append] at hlocal' hpeer' hcount
    rw [countP_append, defaultMaxSasAttempts] at hcount
    refine ⟨init, st, [], by simp, hlocal' hlocal, hpeer' hpeer, ?_, hstor⟩
    omega

theorem WasAccepted.snoc {sess : AcceptedSession} (hacc : WasAccepted sha256 sess h) :
    WasAccepted sha256 sess (h ++ [st]) := by
  obtain ⟨before, b, after, peerAlias, evidence, localIdentity, peerPin, rfl, hopens, hsess,
    hreason⟩ := hacc
  refine ⟨before, b, after ++ [st], peerAlias, evidence, localIdentity, peerPin, by simp, hopens,
    hsess, ?_⟩
  rcases hreason with hselects | ⟨since, a, later, rfl, hconf⟩
  · exact .inl hselects
  · exact .inr ⟨since, a, later ++ [st], by simp, hconf⟩

include hdistinct in
theorem History.effect (hhist : History sha256 h c) (heff : Effect sha256 c e c') :
    History sha256 (h ++ [⟨c, e, c'⟩]) c' := by
  cases heff with
  | refuse href =>
    refine ⟨?_, fun sess hacc => (hhist.accepted sess hacc).snoc⟩
    intro pending hpend
    have hwaits := hhist.waits pending hpend
    obtain ⟨_, _, _, _, _, _, _, _, _, hpos⟩ := id hwaits
    refine hwaits.snoc .inl .inl ?_ hpos
    rcases href with ⟨_, _, _, _, _, rfl⟩ | hnone
    · simp [wrongSas]
    · exact absurd hpend (hnone pending)
  | close => exact ⟨by simp, by simp⟩
  | pinned hopens hselects =>
    refine ⟨by simp, ?_⟩
    intro sess hsess
    obtain rfl := accepted.inj hsess
    exact ⟨h, _, [], _, _, _, _, rfl, hopens, rfl, .inl hselects⟩
  | start hopens =>
    refine ⟨?_, by simp⟩
    intro pending hpend
    obtain rfl := PairingState.pending.inj hpend
    exact ⟨h, _, [], rfl, hopens, rfl, by simp [opened], by simp [opened], rfl,
      Nat.succ_pos 2⟩
  | wait hpend hconfirms =>
    refine ⟨?_, by simp⟩
    intro pending' hpend'
    obtain rfl := pending.inj hpend'
    exact (hhist.waits _ hpend).confirms hdistinct hconfirms
  | @mismatch sas nowNs pending res hpend hsas hattempts =>
    refine ⟨?_, by simp⟩
    intro pending' hpend'
    obtain rfl := PairingState.pending.inj hpend'
    have hwaits := hhist.waits _ hpend
    obtain ⟨_, _, _, _, _, hcommitment, _⟩ := id hwaits
    have hcode : sas ≠ fromEvidence sha256 pending.evidence := by
      rintro rfl
      exact hsas hcommitment.symm
    refine hwaits.snoc .inl .inl ?_ (by omega)
    simp only [wrongSas, hcode, ne_eq, not_false_eq_true, decide_true, if_true]
    omega
  | accept hpend hconfirms hlocal hpeer hstor =>
    refine ⟨by simp, ?_⟩
    intro sess hsess
    obtain rfl := accepted.inj hsess
    exact (hhist.waits _ hpend).accepts hdistinct hconfirms hlocal hpeer hstor

end Step

include hdistinct in
/-- The trace of a run explains the state that it reached. -/
theorem history_run (store : S) (calls : List PairingCall) :
    History sha256 ((pairingMachine sha256 S).trace (.new store) calls)
      ((pairingMachine sha256 S).run (.new store) calls) := by
  refine (pairingMachine sha256 S).trace_induction ?_ ?_ calls
  · exact ⟨by simp [new], by simp [new]⟩
  · intro h c call hhist
    exact hhist.effect hdistinct (step_effect sha256 c call)

/-- A coordinator that reached acceptance was opened with matching evidence
and was pinned before or confirmed on both sides.  Once it is accepted or
closed, no call changes it. -/
theorem accepted_session_was_confirmed (hdistinct : CommitmentsDistinct sha256) (store : S)
    (calls : List PairingCall) :
    (∀ session, ((pairingMachine sha256 S).run (.new store) calls).state = .accepted session →
      WasAccepted sha256 session ((pairingMachine sha256 S).trace (.new store) calls)) ∧
    (Final ((pairingMachine sha256 S).run (.new store) calls) →
      ∀ later, (pairingMachine sha256 S).run (.new store) (calls ++ later) =
        (pairingMachine sha256 S).run (.new store) calls) := by
  refine ⟨(history_run hdistinct store calls).accepted, ?_⟩
  intro hfinal later
  rw [Machine.run_append]
  exact hfinal.run later

/-- SHA-256, with every commitment but that of the sample code replaced by the
code itself. -/
def sampleSha256 : Sha256 := fun data =>
  if h : data.length = 32 ∧ data ≠ sasConfirmDomain ++ sampleSas.digits.toList then
    ⟨data.drop 26 ++ List.replicate 26 0, by simp [h.1]⟩
  else
    Sha256.hash data

/-- The replaced commitments show their code. -/
theorem sampleSha256_commitment {sas : SasCode} (hsas : sas ≠ sampleSas) :
    (sasCommitment sampleSha256 sas).toList = sas.digits.toList ++ replicate 26 0 := by
  have hdigits : sasConfirmDomain ++ sas.digits.toList ≠
      sasConfirmDomain ++ sampleSas.digits.toList := by
    intro heq
    exact hsas (eq_of_digits (append_cancel_left heq))
  have hdomain : sasConfirmDomain.length = 26 := by decide +kernel
  have hlen : (sasConfirmDomain ++ sas.digits.toList).length = 32 := by
    rw [length_append, List.Vector.toList_length, hdomain]
  have hdrop : (sasConfirmDomain ++ sas.digits.toList).drop 26 = sas.digits.toList := by
    rw [← hdomain, drop_left]
  have hhash : (sampleSha256 (sasConfirmDomain ++ sas.digits.toList)).toList =
      (sasConfirmDomain ++ sas.digits.toList).drop 26 ++ replicate 26 0 :=
    congrArg List.Vector.toList (dif_pos ⟨hlen, hdigits⟩)
  rw [sasCommitment, hhash, hdrop]

theorem commitmentsDistinct_sampleSha256 : CommitmentsDistinct sampleSha256 := by
  have hsample : ((sasCommitment sampleSha256 sampleSas).toList.drop 6 : List UInt8) ≠
      replicate 26 0 := by
    decide +kernel
  have hoth : ∀ sas, sas ≠ sampleSas →
      sasCommitment sampleSha256 sas ≠ sasCommitment sampleSha256 sampleSas := by
    intro sas hsas heq
    apply hsample
    rw [← heq, sampleSha256_commitment hsas]
    exact drop_left' (List.Vector.toList_length sas.digits)
  intro sas sas' heq
  by_cases hsas : sas = sampleSas
  · by_cases hsas' : sas' = sampleSas
    · rw [hsas, hsas']
    · rw [hsas] at heq
      exact absurd heq.symm (hoth sas' hsas')
  · by_cases hsas' : sas' = sampleSas
    · rw [hsas'] at heq
      exact absurd heq (hoth sas hsas)
    have hlist := congrArg List.Vector.toList heq
    rw [sampleSha256_commitment hsas, sampleSha256_commitment hsas'] at hlist
    exact eq_of_digits (append_cancel_right hlist)

/-- The sample attempt is accepted, and its trace shows why. -/
theorem sample_session_was_confirmed :
    WasAccepted sampleSha256 (.fromEvidence sampleEvidence sampleIdentity samplePin)
      ((pairingMachine sampleSha256 RecordingIdentityStore).trace (.new sampleStore)
        samplePairingCalls) := by
  exact (accepted_session_was_confirmed commitmentsDistinct_sampleSha256 sampleStore
    samplePairingCalls).1 _ (by decide +kernel)

end LatencyDesk.Session.Pairing
