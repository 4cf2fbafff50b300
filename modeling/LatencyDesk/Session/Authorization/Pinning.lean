import LatencyDesk.Lib.Since
import LatencyDesk.Session.Authorization.Invariant

/-!
# How a device gets pinned

A run pins a device in three calls: `begin_pairing` returns an invitation,
`confirm_pairing` proves its secret, and `approve_pairing` answers with the
handle that the confirmation returned.  `Invited`, `Confirmed` and `Paired`
say this about a trace, each on top of the one before it, and `History` ties
them to the pairing state and the pins of the policy.

`Interrupts` lists what ends a pairing in progress from the outside.  A
`confirm_pairing` also ends an invitation, whatever it returns.  After the
successful one a further `confirm_pairing` returns `PairingAlreadyConfirmed`
and changes nothing, so it may stand between the confirmation and the
approval.

The last section counts comparisons.  An invitation is consumed before its
secret is looked at, and generations are never reused, so each secret is
compared with one proof at most.
-/

namespace LatencyDesk.Session.Authorization

open Lib HostAccessPolicy AccessEvent PairingState List

variable {p p' : HostAccessPolicy} {e : AccessEvent}

/-- What the policy keeps of an invitation until it is confirmed. -/
def PairingInvitation.pending (invitation : PairingInvitation) : PendingPairing :=
  { device := invitation.device
    secret := invitation.secret
    cancellationHandle := invitation.cancellationHandle
    expiresAtNs := invitation.expiresAtNs
    generation := invitation.cancellationHandle.generation }

/-- What the policy keeps of an invitation that the handle confirmed. -/
def PairingInvitation.approval (invitation : PairingInvitation)
    (handle : PairingApprovalHandle) : PendingApproval :=
  { handle := handle
    cancellationHandle := invitation.cancellationHandle
    expiresAtNs := invitation.expiresAtNs }

/-! ## The steps of a pairing in a trace -/

/-- The call removed the pin of the device. -/
def RevokesPin (device : DeviceFingerprint) (e : AccessEvent) : Prop :=
  ∃ result, e = .revokeDevice device (.ok result)

/-- The call ends the pairing of the invitation: it cancels it, it sweeps
pairings at or after the deadline, or it revokes the device. -/
def Interrupts (invitation : PairingInvitation) (e : AccessEvent) : Prop :=
  (∃ result, e = .cancelPairing invitation.cancellationHandle result) ∨
    (∃ nowNs, e.pairingSweep = some nowNs ∧ invitation.expiresAtNs ≤ nowNs) ∨
    RevokesPin invitation.device e

/-- The invitation was returned, and no call has confirmed or interrupted it
since. -/
def Invited (invitation : PairingInvitation) (h : AccessTrace) : Prop :=
  Since
    (fun st => ¬ Interrupts invitation st.event ∧
      ∀ proof nowNs result, st.event ≠ .confirmPairing proof nowNs result)
    (fun _ st => ∃ ttlNs nowNs,
      st.event = .beginPairing invitation.device ttlNs nowNs (.ok invitation)) h

/-- The invitation was confirmed in time with its own device and secret, and
no call has rejected or interrupted the pairing since.  Every further
confirmation was refused. -/
def Confirmed (invitation : PairingInvitation) (handle : PairingApprovalHandle)
    (h : AccessTrace) : Prop :=
  Since
    (fun st => ¬ Interrupts invitation st.event ∧
      (∀ result, st.event ≠ .rejectPairing handle result) ∧
      ∀ proof nowNs result, st.event = .confirmPairing proof nowNs result →
        result = .error .pairingAlreadyConfirmed)
    (fun earlier st => ∃ proof nowNs, st.event = .confirmPairing proof nowNs (.ok handle) ∧
      proof.device = invitation.device ∧ proof.secret = invitation.secret ∧
      nowNs < invitation.expiresAtNs ∧ Invited invitation earlier) h

/-- The confirmed device was approved in time with the handle of its
confirmation, and its pin has not been revoked since. -/
def Paired (device : DeviceFingerprint) (h : AccessTrace) : Prop :=
  Since (fun st => ¬ RevokesPin device st.event)
    (fun earlier st => ∃ invitation handle nowNs,
      st.event = .approvePairing handle nowNs (.ok ()) ∧ invitation.device = device ∧
      handle.device = device ∧ nowNs < invitation.expiresAtNs ∧
      Confirmed invitation handle earlier) h

/-! ## The pairing state across one call -/

/-- A sweep leaves a pairing in progress alone, and only before its deadline. -/
theorem sweep_pairing {state : PairingState} (hstate : (e.sweep p).pairing = state)
    (hbusy : state ≠ .idle) :
    p.pairing = state ∧
      ∀ nowNs expiresAtNs, e.pairingSweep = some nowNs →
        state.expiresAtNs = some expiresAtNs → nowNs < expiresAtNs := by
  have hsweep : (e.sweep p).pairing = (e.sweepPairing p).pairing := by
    rcases e.sweep_cases p with ⟨heq, _⟩ | ⟨heq, _⟩ <;> rw [heq]
  rw [hsweep] at hstate
  rcases e.sweepPairing_cases p with ⟨heq, hlt⟩ | heq
  · rw [heq] at hstate
    rw [hstate] at hlt
    exact ⟨hstate, hlt⟩
  · rw [heq] at hstate
    exact absurd hstate.symm hbusy

/-- The call is none of those that speak about a pairing in progress. -/
def Neutral (e : AccessEvent) : Prop :=
  (∀ handle result, e ≠ .cancelPairing handle result) ∧
    (∀ device, ¬ RevokesPin device e) ∧
    (∀ handle result, e ≠ .rejectPairing handle result) ∧
    ∀ proof nowNs result, e ≠ .confirmPairing proof nowNs result

/-- What a call that leaves the pairing state alone did not do to it. -/
def PairingState.Untouched : PairingState → AccessEvent → Prop
  | .idle, _ => True
  | .awaitingProof pending, e =>
    (∀ result, e ≠ .cancelPairing pending.cancellationHandle result) ∧
      ¬ RevokesPin pending.device e ∧
      ∀ proof nowNs result, e ≠ .confirmPairing proof nowNs result
  | .awaitingHostApproval pending, e =>
    (∀ result, e ≠ .cancelPairing pending.cancellationHandle result) ∧
      ¬ RevokesPin pending.handle.device e ∧
      (∀ result, e ≠ .rejectPairing pending.handle result) ∧
      ∀ proof nowNs result, e = .confirmPairing proof nowNs result →
        result = .error .pairingAlreadyConfirmed

theorem Neutral.untouched (hneutral : Neutral e) (state : PairingState) : state.Untouched e := by
  obtain ⟨hcancel, hrevoke, hreject, hconf⟩ := hneutral
  cases state with
  | idle => trivial
  | awaitingProof pending => exact ⟨hcancel _, hrevoke _, hconf⟩
  | awaitingHostApproval pending =>
    exact ⟨hcancel _, hrevoke _, hreject _, fun _ _ _ he => absurd he (hconf _ _ _)⟩

theorem Refused.untouched (href : Refused p e) : p.pairing.Untouched e := by
  have hrevoke : ∀ device, ¬ RevokesPin device e := by
    rintro device ⟨res, rfl⟩
    simp [Refused] at href
  cases hpair : p.pairing with
  | idle => trivial
  | awaitingProof pending =>
    refine ⟨?_, hrevoke _, ?_⟩
    · rintro res rfl
      exact href.1 pending hpair rfl
    · rintro proof nowNs res rfl
      exact href.1 pending hpair
  | awaitingHostApproval pending =>
    refine ⟨?_, hrevoke _, ?_, ?_⟩
    · rintro res rfl
      exact href.2 pending hpair rfl
    · rintro res rfl
      exact href pending hpair rfl
    · rintro proof nowNs res rfl
      obtain ⟨_, _, rfl, herror⟩ := href
      rw [herror pending hpair]

variable {device : DeviceFingerprint}

/-- The revocation of another device leaves a pairing alone. -/
theorem untouched_of_revoked {res : Option SessionAuthorization}
    (hdev : p.pairingDevice ≠ some device) :
    p.pairing.Untouched (.revokeDevice device (.ok res)) := by
  cases hpair : p.pairing with
  | idle => trivial
  | awaitingProof pending | awaitingHostApproval pending =>
    simpa [PairingState.Untouched, RevokesPin, pairingDevice, hpair, eq_comm] using hdev

theorem lt_of_toNat_succ {n next : UInt64} (hnext : next.toNat = n.toNat + 1) : n < next := by
  rw [UInt64.lt_iff_toNat_lt]
  omega

/-- What one effect does to the pairing state. -/
theorem Effect.pairing_cases (heff : Effect p e p') :
    p'.pairing = .idle ∨
      (p'.pairing = p.pairing ∧ p.pairing.Untouched e) ∨
      (∃ invitation ttlNs nowNs,
        e = .beginPairing invitation.device ttlNs nowNs (.ok invitation) ∧
        invitation.cancellationHandle.generation = p.nextGeneration ∧
        p.nextGeneration < p'.nextGeneration ∧
        p'.pairing = .awaitingProof invitation.pending) ∨
      ∃ proof nowNs handle pending, e = .confirmPairing proof nowNs (.ok handle) ∧
        p.pairing = .awaitingProof pending ∧ nowNs < pending.expiresAtNs ∧
        proof.device = pending.device ∧ proof.secret = pending.secret ∧
        handle.device = pending.device ∧
        p'.pairing = .awaitingHostApproval
          { handle := handle
            cancellationHandle := pending.cancellationHandle
            expiresAtNs := pending.expiresAtNs } := by
  have hkept : Neutral e → (p.pairing = p.pairing ∧ p.pairing.Untouched e) :=
    fun hneutral => ⟨rfl, hneutral.untouched _⟩
  cases heff with
  | refuse href => exact .inr (.inl ⟨rfl, href.untouched⟩)
  | drop | approve => exact .inl rfl
  | @begin device ttlNs nowNs _ invitation _ _ _ _ _ hnext hdev hgen =>
    refine .inr (.inr (.inl
      ⟨invitation, ttlNs, nowNs, by rw [hdev], hgen, lt_of_toNat_succ hnext, ?_⟩))
    rw [PairingInvitation.pending, hdev, hgen]
  | @confirm proof nowNs handle pending hpair htime hdev hsecret hhdl =>
    exact .inr (.inr (.inr
      ⟨proof, nowNs, handle, pending, rfl, hpair, htime, hdev, hsecret, hhdl, rfl⟩))
  | register _ hpair | request hpair => exact .inl hpair
  | close hev =>
    refine .inr (.inl (hkept ?_))
    rcases hev with ⟨_, rfl⟩ | ⟨_, _, rfl, _⟩ <;> simp [Neutral, RevokesPin]
  | spend | grant => exact .inr (.inl (hkept (by simp [Neutral, RevokesPin])))
  | forget hev =>
    refine .inr (.inl (hkept ?_))
    rcases hev with ⟨_, _, rfl⟩ | ⟨_, _, _, _, _, rfl⟩ <;> simp [Neutral, RevokesPin]
  | @revoke device result =>
    by_cases hdev : p.pairingDevice = some device
    · exact .inl (if_pos hdev)
    · exact .inr (.inl ⟨if_neg hdev, untouched_of_revoked hdev⟩)

/-! ## The history behind the policy -/

/-- The trace explains the pairing state and every pin that was not there at
the start. -/
structure History (initial : List DeviceFingerprint) (h : AccessTrace) (p : HostAccessPolicy) :
    Prop where
  invited : ∀ pending, p.pairing = .awaitingProof pending →
    ∃ invitation : PairingInvitation, invitation.pending = pending ∧ Invited invitation h
  confirmed : ∀ pending, p.pairing = .awaitingHostApproval pending →
    ∃ invitation : PairingInvitation, invitation.approval pending.handle = pending ∧
      pending.handle.device = invitation.device ∧ Confirmed invitation pending.handle h
  paired : ∀ device, device ∈ p.pinnedDevices → device ∉ initial → Paired device h

variable {invitation : PairingInvitation}

theorem not_interrupts (hcancel : ∀ res, e ≠ .cancelPairing invitation.cancellationHandle res)
    (hsweep : ∀ nowNs, e.pairingSweep = some nowNs → nowNs < invitation.expiresAtNs)
    (hrevoke : ¬ RevokesPin invitation.device e) : ¬ Interrupts invitation e := by
  rintro (⟨res, he⟩ | ⟨nowNs, htime, hle⟩ | hrevs)
  · exact hcancel res he
  · exact UInt64.not_le.2 (hsweep nowNs htime) hle
  · exact hrevoke hrevs

/-- A device that an effect leaves pinned was pinned before and is not
revoked, or the call approved it. -/
theorem Effect.pinned_cases (h : Coherent p) (heff : Effect p e p')
    (hpin : device ∈ p'.pinnedDevices) :
    (device ∈ p.pinnedDevices ∧ ¬ RevokesPin device e) ∨
      ∃ pending nowNs, e = .approvePairing pending.handle nowNs (.ok ()) ∧
        p.pairing = .awaitingHostApproval pending ∧ nowNs < pending.expiresAtNs ∧
        pending.handle.device = device := by
  cases heff with
  | refuse href =>
    refine .inl ⟨hpin, ?_⟩
    rintro ⟨res, rfl⟩
    simp [Refused] at href
  | drop hdrops =>
    refine .inl ⟨hpin, ?_⟩
    rintro ⟨res, rfl⟩
    exact hdrops
  | @approve handle nowNs pending hpair hhdl htime =>
    rw [mem_append, mem_singleton] at hpin
    rcases hpin with hpin | rfl
    · exact .inl ⟨hpin, by simp [RevokesPin]⟩
    · obtain rfl := hhdl
      exact .inr ⟨pending, nowNs, rfl, hpair, htime, rfl⟩
  | close hev =>
    refine .inl ⟨hpin, ?_⟩
    rcases hev with ⟨_, rfl⟩ | ⟨_, _, rfl, _⟩ <;> simp [RevokesPin]
  | forget hev =>
    refine .inl ⟨hpin, ?_⟩
    rcases hev with ⟨_, _, rfl⟩ | ⟨_, _, _, _, _, rfl⟩ <;> simp [RevokesPin]
  | @revoke revoked res =>
    obtain ⟨hne, hmem⟩ := h.nodup.mem_erase_iff.1 hpin
    refine .inl ⟨hmem, ?_⟩
    rintro ⟨_, he⟩
    rw [revokeDevice.injEq] at he
    exact hne he.1.symm
  | _ => exact .inl ⟨hpin, by simp [RevokesPin]⟩

variable {pending : PendingPairing} {call : AccessCall} {calls : List AccessCall}

section Step

variable {initial : List DeviceFingerprint} {h : AccessTrace} (hp : History initial h p)
  (call : AccessCall)

include hp in
theorem History.step_invited
    (hpost : (accessMachine.step p call).2.pairing = .awaitingProof pending) :
    ∃ invitation, invitation.pending = pending ∧
      Invited invitation (h ++ [accessMachine.stepAt p call]) := by
  rcases (step_effect p call).pairing_cases with hidle | ⟨hsame, hunt⟩ |
    ⟨invitation, ttlNs, nowNs, he, _, _, hbegun⟩ | ⟨_, _, _, _, _, _, _, _, _, _, hconf⟩
  · simp [hidle] at hpost
  · rw [hsame] at hpost
    obtain ⟨hbef, htime⟩ := sweep_pairing hpost (by simp)
    rw [hpost] at hunt
    obtain ⟨invitation, rfl, hinvited⟩ := hp.invited pending hbef
    obtain ⟨hcancel, hrevoke, hconfirm⟩ := hunt
    refine ⟨invitation, rfl, hinvited.snoc ⟨?_, hconfirm⟩⟩
    exact not_interrupts hcancel (fun nowNs hnow => htime nowNs _ hnow rfl) hrevoke
  · rw [hbegun, awaitingProof.injEq] at hpost
    exact ⟨invitation, hpost, .of_mark ⟨ttlNs, nowNs, he⟩⟩
  · simp [hconf] at hpost

include hp in
theorem History.step_confirmed {pending : PendingApproval}
    (hpost : (accessMachine.step p call).2.pairing = .awaitingHostApproval pending) :
    ∃ invitation, invitation.approval pending.handle = pending ∧
      pending.handle.device = invitation.device ∧
      Confirmed invitation pending.handle (h ++ [accessMachine.stepAt p call]) := by
  rcases (step_effect p call).pairing_cases with hidle | ⟨hsame, hunt⟩ |
    ⟨_, _, _, _, _, _, hbegun⟩ |
    ⟨proof, nowNs, _, waiting, he, hwait, hnow, hdev, hsecret, hhdl, hconf⟩
  · simp [hidle] at hpost
  · rw [hsame] at hpost
    obtain ⟨hbef, htime⟩ := sweep_pairing hpost (by simp)
    rw [hpost] at hunt
    obtain ⟨invitation, hpend, hdev, hconf⟩ := hp.confirmed pending hbef
    obtain ⟨hcancel, hrevoke, hreject, hconfirm⟩ := hunt
    refine ⟨invitation, hpend, hdev, hconf.snoc ⟨?_, hreject, hconfirm⟩⟩
    rw [← hpend] at hcancel htime
    rw [hdev] at hrevoke
    exact not_interrupts hcancel (fun nowNs hnow => htime nowNs _ hnow rfl) hrevoke
  · simp [hbegun] at hpost
  · rw [hconf, awaitingHostApproval.injEq] at hpost
    subst hpost
    obtain ⟨hbef, _⟩ := sweep_pairing hwait (by simp)
    obtain ⟨invitation, rfl, hinvited⟩ := hp.invited waiting hbef
    exact ⟨invitation, rfl, hhdl, .of_mark ⟨proof, nowNs, he, hdev, hsecret, hnow, hinvited⟩⟩

include hp in
theorem History.step_paired (hcoh : Coherent p) (call : AccessCall)
    (hpin : device ∈ (accessMachine.step p call).2.pinnedDevices) (hnew : device ∉ initial) :
    Paired device (h ++ [accessMachine.stepAt p call]) := by
  rcases (step_effect p call).pinned_cases (hcoh.sweep _) hpin with
    ⟨hbef, hrevs⟩ | ⟨pending, nowNs, he, hpair, htime, rfl⟩
  · rw [(sweep_frame _ p).1] at hbef
    exact (hp.paired device hbef hnew).snoc hrevs
  obtain ⟨hbef, _⟩ := sweep_pairing hpair (by simp)
  obtain ⟨invitation, hpend, hdev, hconf⟩ := hp.confirmed pending hbef
  rw [← hpend] at htime
  exact .of_mark ⟨invitation, pending.handle, nowNs, he, hdev.symm, rfl, htime, hconf⟩

end Step

/-- The trace of a run explains where it ended. -/
theorem history_run (hinitial : Initial p) (calls : List AccessCall) :
    History p.pinnedDevices (accessMachine.trace p calls) (accessMachine.run p calls) := by
  obtain ⟨hcoh, hidle, _⟩ := hinitial.coherent
  refine (accessMachine.trace_induction
    (P := fun h q => Coherent q ∧ History p.pinnedDevices h q)
    ⟨hcoh, by simp [hidle], by simp [hidle], ?_⟩ ?_ calls).2
  · intro device hpin hnew
    exact absurd hpin hnew
  · intro h s call ⟨hs, ih⟩
    exact ⟨hs.step call, fun _ => ih.step_invited call, fun _ => ih.step_confirmed call,
      fun _ => ih.step_paired hs call⟩

/-! ## Comparisons with the secret of an invitation -/

/-- The call compares its proof with the secret of the invitation. -/
def compares (invitation : PairingInvitation) (st : Step HostAccessPolicy AccessEvent) : Bool :=
  match st.event with
  | .confirmPairing _ nowNs _ =>
    decide (st.pre.pairing = .awaitingProof invitation.pending ∧ nowNs < invitation.expiresAtNs)
  | _ => false

/-- The invitation that waits for a proof has a generation below the
counter. -/
def Numbered (p : HostAccessPolicy) : Prop :=
  ∀ pending, p.pairing = .awaitingProof pending → pending.generation < p.nextGeneration

/-- The generation of the invitation is used up, and the invitation does not
wait for a proof. -/
def Consumed (invitation : PairingInvitation) (p : HostAccessPolicy) : Prop :=
  invitation.pending.generation < p.nextGeneration ∧ p.pairing ≠ .awaitingProof invitation.pending

theorem Effect.nextGeneration_le (heff : Effect p e p') :
    p.nextGeneration ≤ p'.nextGeneration := by
  cases heff with
  | begin _ _ _ _ _ hnext | request _ _ _ _ hnext | spend hnext =>
    exact UInt64.le_of_lt (lt_of_toNat_succ hnext)
  | _ => exact UInt64.le_refl _

theorem step_nextGeneration_le :
    p.nextGeneration ≤ (accessMachine.step p call).2.nextGeneration := by
  have hle := (step_effect p call).nextGeneration_le
  rwa [(sweep_frame _ p).2.2] at hle

/-- An invitation that waits after a call waited before it, or the call issued
it under the generation of the counter. -/
theorem step_awaitingProof
    (hpost : (accessMachine.step p call).2.pairing = .awaitingProof pending) :
    (p.pairing = .awaitingProof pending ∧
        ∀ proof nowNs res, (accessMachine.step p call).1 ≠ .confirmPairing proof nowNs res) ∨
      (pending.generation = p.nextGeneration ∧
        p.nextGeneration < (accessMachine.step p call).2.nextGeneration) := by
  rcases (step_effect p call).pairing_cases with hidle | ⟨hsame, hunt⟩ |
    ⟨_, _, _, _, hgen, hlt, hbegun⟩ |
    ⟨_, _, _, _, _, _, _, _, _, _, hconf⟩
  · simp [hidle] at hpost
  · rw [hsame] at hpost
    rw [hpost] at hunt
    exact .inl ⟨(sweep_pairing hpost (by simp)).1, hunt.2.2⟩
  · rw [hbegun, awaitingProof.injEq] at hpost
    rw [(sweep_frame _ p).2.2] at hgen hlt
    refine .inr ⟨?_, hlt⟩
    rw [← hpost]
    exact hgen
  · simp [hconf] at hpost

theorem Numbered.step (hp : Numbered p) (call : AccessCall) :
    Numbered (accessMachine.step p call).2 := by
  intro pending hpost
  rcases step_awaitingProof hpost with ⟨hbef, _⟩ | ⟨hgen, hlt⟩
  · exact UInt64.lt_of_lt_of_le (hp pending hbef) step_nextGeneration_le
  · rw [hgen]
    exact hlt

/-- A comparison consumes the invitation. -/
theorem Numbered.consumed (hp : Numbered p)
    (hcompares : compares invitation (accessMachine.stepAt p call) = true) :
    Consumed invitation (accessMachine.step p call).2 := by
  unfold compares at hcompares
  split at hcompares
  · rename_i proof nowNs res hev
    rw [decide_eq_true_eq] at hcompares
    have hlt := hp _ hcompares.1
    refine ⟨UInt64.lt_of_lt_of_le hlt step_nextGeneration_le, ?_⟩
    intro hpost
    rcases step_awaitingProof hpost with ⟨_, hconf⟩ | ⟨hgen, _⟩
    · exact hconf _ _ _ hev
    · rw [hgen] at hlt
      exact UInt64.lt_irrefl _ hlt
  · simp at hcompares

theorem Consumed.step (hp : Consumed invitation p) (call : AccessCall) :
    Consumed invitation (accessMachine.step p call).2 := by
  refine ⟨UInt64.lt_of_lt_of_le hp.1 step_nextGeneration_le, ?_⟩
  intro hpost
  rcases step_awaitingProof hpost with ⟨hbef, _⟩ | ⟨hgen, _⟩
  · exact hp.2 hbef
  · exact UInt64.ne_of_lt hp.1 hgen

/-- Each invitation is compared with one proof at most. -/
theorem countP_compares_le_one (hp : Numbered p) :
    (accessMachine.trace p calls).countP (compares invitation) ≤ 1 := by
  refine accessMachine.countP_trace_le_one
    (fun _ call hs => hs.step call) (fun _ _ hs => hs.consumed) (fun _ call hs => hs.step call)
    ?_ hp calls
  intro s call hs
  unfold compares
  split
  · rw [decide_eq_false_iff_not]
    exact fun hcompares => hs.2 hcompares.1
  · rfl

/-- A device that a run pinned was paired in that run, and no invitation was
compared with more than one proof.  A comparison is always with the invitation
that was begun last. -/
theorem pinned_device_was_paired (hinitial : Initial p) (calls : List AccessCall) :
    (∀ device, device ∉ p.pinnedDevices →
      device ∈ (accessMachine.run p calls).pinnedDevices →
        Paired device (accessMachine.trace p calls)) ∧
    (∀ pending, (accessMachine.run p calls).pairing = .awaitingProof pending →
      ∃ invitation : PairingInvitation, invitation.pending = pending ∧
        Invited invitation (accessMachine.trace p calls)) ∧
    ∀ invitation, (accessMachine.trace p calls).countP (compares invitation) ≤ 1 := by
  have hhist := history_run hinitial calls
  have hnumd : Numbered p := by
    intro pending hpair
    simp [hinitial.coherent.2.1] at hpair
  refine ⟨?_, hhist.invited, ?_⟩
  · intro device hnew hpin
    exact hhist.paired device hpin hnew
  · intro invitation
    exact countP_compares_le_one hnumd

/-- The sample device was paired by its three calls. -/
theorem sample_device_was_paired :
    Initial .default ∧ Paired sampleDevice (accessMachine.trace .default samplePairingCalls) ∧
      (accessMachine.trace .default samplePairingCalls).countP (compares sampleInvitation) = 1 := by
  have h := pinned_device_was_paired (.inl rfl) samplePairingCalls
  exact ⟨.inl rfl, h.1 sampleDevice (by decide) (by decide +kernel), by decide +kernel⟩

/-- A second confirmation before the approval is refused, and the device is
pinned all the same. -/
theorem repeated_confirmation_keeps_pairing :
    sampleDevice ∉ HostAccessPolicy.default.pinnedDevices ∧
      sampleDevice ∈ (accessMachine.run .default sampleRepeatedCalls).pinnedDevices ∧
      ¬ Since (fun _ => True)
        (fun earlier st => ∃ handle nowNs, st.event = .approvePairing handle nowNs (.ok ()) ∧
          Since (fun st => ∀ proof nowNs result, st.event ≠ .confirmPairing proof nowNs result)
            (fun _ st => ∃ proof nowNs, st.event = .confirmPairing proof nowNs (.ok handle))
            earlier)
        (accessMachine.trace .default sampleRepeatedCalls) := by
  refine ⟨by decide, by decide +kernel, ?_⟩
  have hevents : (accessMachine.trace .default sampleRepeatedCalls).map (·.event) =
      [.beginPairing sampleDevice 100 10 (.ok sampleInvitation),
        .confirmPairing (.fromInvitation sampleInvitation) 20 (.ok sampleApproval),
        .confirmPairing (.fromInvitation sampleInvitation) 25 (.error .pairingAlreadyConfirmed),
        .approvePairing sampleApproval 30 (.ok ())] := by decide +kernel
  simp only [map_eq_cons_iff, map_eq_nil_iff] at hevents
  obtain ⟨s0, _, htrace, h0, s1, _, rfl, h1, s2, _, rfl, h2, s3, _, rfl, h3, rfl⟩ := hevents
  rw [htrace, show [s0, s1, s2, s3] = [] ++ [s0] ++ [s1] ++ [s2] ++ [s3] from rfl]
  simp only [since_snoc, h0, h2]
  simp [not_since_nil]

end LatencyDesk.Session.Authorization
