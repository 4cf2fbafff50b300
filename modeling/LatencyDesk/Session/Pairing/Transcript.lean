import LatencyDesk.Session.Pairing.Model

/-!
# The two endpoints of a pairing

Each endpoint builds its own evidence, with its own fingerprint as the local
one, because `begin` compares the local fingerprint with the identity of the
store and the peer fingerprint with that of the TLS peer.  So the evidence of
the second endpoint is the `mirrored` evidence of the first.

`canonical_bytes` writes the local fingerprint before that of the peer at both
endpoints.  The two transcripts are therefore different for every pairing, and
the codes that the two operators are shown come from different hashes.
-/

namespace LatencyDesk.Session.Pairing

open Lib Platform Protocol PairingCoordinator Sha256 SasCode List

/-- The evidence of the same pairing at the other endpoint. -/
def PairingEvidence.mirrored (evidence : PairingEvidence) : PairingEvidence :=
  { evidence with
    localFingerprint := evidence.peerFingerprint
    peerFingerprint := evidence.localFingerprint }

/-- The two endpoints have the same transcript and the same code, and the code
of the first is accepted at every coordinator that the second has opened. -/
def EndpointsAgree (sha256 : Sha256) (evidence : PairingEvidence) : Prop :=
  evidence.canonicalBytes = evidence.mirrored.canonicalBytes ∧
    fromEvidence sha256 evidence = fromEvidence sha256 evidence.mirrored ∧
    ∀ (S : Type) [DeviceIdentityStore S] (store : S) (peerAlias : PeerAlias) (tls : Bytes 32)
      (nowNs nowNs' : UInt64) (prompt : PairingPrompt) (c : PairingCoordinator S),
      (PairingCoordinator.new store).begin sha256 peerAlias evidence.mirrored tls nowNs =
        (.ok (.awaitingSas prompt), c) →
      nowNs' < evidence.expiresAtNs →
      (c.confirmPeer sha256 (fromEvidence sha256 evidence) nowNs').1 ≠ .error .sasMismatch

/-- The transcript determines both fingerprints. -/
theorem fingerprints_of_canonicalBytes {evidence evidence' : PairingEvidence}
    (h : evidence.canonicalBytes = evidence'.canonicalBytes) :
    evidence.localFingerprint = evidence'.localFingerprint ∧
      evidence.peerFingerprint = evidence'.peerFingerprint := by
  obtain ⟨hexp, _⟩ := append_inj' h rfl
  obtain ⟨hpeers, _⟩ := append_inj' hexp (by simp)
  obtain ⟨hlocals, hpeer⟩ := append_inj' hpeers (by simp)
  obtain ⟨_, hlocal⟩ := append_inj' hlocals (by simp)
  exact ⟨List.Vector.eq _ _ hlocal, List.Vector.eq _ _ hpeer⟩

section Confirmation

variable {S : Type} [DeviceIdentityStore S] {sha256 : Sha256} {store : S} {peerAlias : PeerAlias}
  {evidence : PairingEvidence} {tls : Bytes 32} {nowNs : UInt64} {prompt : PairingPrompt}
  {c : PairingCoordinator S}
  (h : (new store).begin sha256 peerAlias evidence tls nowNs = (.ok (.awaitingSas prompt), c))

include h in
/-- A `begin` that asks for the SAS leaves an attempt that expects the code of
its evidence and has all its tries left. -/
theorem state_of_awaitingSas :
    ∃ pend, c.state = .pending pend ∧ pend.evidence = evidence ∧
      pend.expectedSasCommitment = sasCommitment sha256 (fromEvidence sha256 evidence) ∧
      pend.attemptsRemaining = defaultMaxSasAttempts := by
  simp only [begin, new, closeWith] at h
  split at h
  · simp at h
  split at h
  · simp at h
  split_ifs at h
  · simp at h
  split at h
  · simp at h
  split at h
  · simp at h
  split at h
  · split_ifs at h <;> simp at h
  · obtain ⟨_, rfl⟩ := Prod.mk.inj h
    exact ⟨_, rfl, rfl, rfl, rfl⟩

include h in
/-- The first code that the attempt is confirmed with is a mismatch exactly
when its commitment differs. -/
theorem confirmPeer_ne_mismatch_iff (sas : SasCode) {nowNs' : UInt64}
    (htime : nowNs' < evidence.expiresAtNs) :
    (c.confirmPeer sha256 sas nowNs').1 ≠ .error .sasMismatch ↔
      sasCommitment sha256 sas = sasCommitment sha256 (fromEvidence sha256 evidence) := by
  obtain ⟨pend, hpend, rfl, hexpd, hattempts⟩ := state_of_awaitingSas h
  have hopen : c.pendingMut nowNs' = (.ok pend, c) := by
    rw [pendingMut, hpend]
    exact if_neg (UInt64.not_le.2 htime)
  rw [confirmPeer, hopen, ← hexpd]
  dsimp only
  by_cases hsas : sasCommitment sha256 sas = pend.expectedSasCommitment
  · refine iff_of_true ?_ hsas
    simp only [progressOrAccept, closeWith]
    split_ifs
    · simp
    · simp
    · split <;> simp
  · rw [if_neg hsas, hattempts, if_neg (by decide)]
    exact iff_of_false (by simp) hsas

end Confirmation

/-- Endpoints with different fingerprints never agree.  The code of the first
passes at the second only where the two codes have the same commitment by
chance. -/
theorem endpoints_never_agree (sha256 : Sha256) (evidence : PairingEvidence)
    (hdistinct : evidence.localFingerprint ≠ evidence.peerFingerprint) :
    ¬ EndpointsAgree sha256 evidence ∧
      ∀ (S : Type) [DeviceIdentityStore S] (store : S) (peerAlias : PeerAlias) (tls : Bytes 32)
        (nowNs nowNs' : UInt64) (prompt : PairingPrompt) (c : PairingCoordinator S),
        (new store).begin sha256 peerAlias evidence.mirrored tls nowNs =
          (.ok (.awaitingSas prompt), c) →
        nowNs' < evidence.expiresAtNs →
        ((c.confirmPeer sha256 (fromEvidence sha256 evidence) nowNs').1 ≠
            .error .sasMismatch ↔
          sasCommitment sha256 (fromEvidence sha256 evidence) =
            sasCommitment sha256 (fromEvidence sha256 evidence.mirrored)) := by
  refine ⟨?_, ?_⟩
  · rintro ⟨hbytes, _⟩
    exact hdistinct (fingerprints_of_canonicalBytes hbytes).1
  · intro S _ store peerAlias tls nowNs nowNs' prompt c hbegin htime
    exact confirmPeer_ne_mismatch_iff hbegin _ htime

/-- The sample evidence is that of two endpoints that do not agree. -/
theorem sample_endpoints_never_agree :
    sampleEvidence.validate = .ok () ∧ ¬ EndpointsAgree hash sampleEvidence :=
  ⟨by decide, (endpoints_never_agree hash sampleEvidence (by decide)).1⟩

/-- The store of the second endpoint. -/
def mirroredStore : RecordingIdentityStore :=
  { identity := ⟨samplePin.spkiFingerprint, samplePin.nonzero⟩
    storedPin := none
    failStore := false }

/-- The two endpoints of the sample pairing are shown the codes 152471 and
547883, and the second one refuses the code of the first. -/
theorem mirrored_code_rejected :
    (fromEvidence hash sampleEvidence).value = 152471 ∧
      (fromEvidence hash sampleEvidence.mirrored).value = 547883 ∧
      (((new mirroredStore).begin hash sampleAlias
          sampleEvidence.mirrored sampleIdentity.spkiFingerprint 10).2.confirmPeer hash
        (fromEvidence hash sampleEvidence) 20).1 = .error .sasMismatch ∧
      ¬ EndpointsAgree hash sampleEvidence := by
  refine ⟨by decide +kernel, by decide +kernel, by decide +kernel, fun hagree => ?_⟩
  exact hagree.2.2 _ mirroredStore sampleAlias sampleIdentity.spkiFingerprint 10 20
    ⟨sampleEvidence.mirrored, .fromValidValue 547883⟩ _ (Prod.mk.eta.symm.trans
      (congrArg (·, _) (by decide +kernel))) (by decide) (by decide +kernel)

end LatencyDesk.Session.Pairing
