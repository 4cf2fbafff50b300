import LatencyDesk.Session.Authorization.Step

/-!
# The joint invariant of the policy

`Coherent` is what the seven fields of a policy promise each other after every
call.  A sweep keeps it, and so does each effect on the swept policy, so every
run from an initial policy keeps it.

The authorization epochs are a property of the run, not of one state.
`registeredEpochs` reads the epochs off a trace, and they stay below the
counter that the policy will hand out next.
-/

namespace LatencyDesk.Session.Authorization

open Lib HostAccessPolicy List Option

/-- A trace of the policy, oldest step first. -/
abbrev AccessTrace := List (Step HostAccessPolicy AccessEvent)

/-- The invariant of a policy.

* The pinned devices are pairwise distinct and within their limit.
* A pairing in progress excludes a connection, a request and a session, and
  its device is not pinned.
* The device of the active connection is pinned, and its epoch is below the
  counter.
* A pending request and an active session belong to the active connection, and
  they never coexist. -/
structure Coherent (p : HostAccessPolicy) : Prop where
  nodup : p.pinnedDevices.Nodup
  bounded : p.pinnedDevices.length ≤ maxPinnedDevices
  alone : p.pairing ≠ .idle →
    p.activeConnection = none ∧ p.pendingSession = none ∧ p.activeSession = none
  unpinned : ∀ device, p.pairingDevice = some device → device ∉ p.pinnedDevices
  connection : ∀ conn, p.activeConnection = some conn → conn.device ∈ p.pinnedDevices
  issued : ∀ conn, p.activeConnection = some conn → conn.authorizationEpoch.value < p.nextEpoch
  pending : ∀ request, p.pendingSession = some request → p.activeConnection = some request.context
  active : ∀ grant, p.activeSession = some grant → p.activeConnection = some grant.context
  exclusive : p.pendingSession = none ∨ p.activeSession = none

/-- A field that is cleared when it matches keeps what does not match. -/
theorem ite_any_eq_some {α : Type} {field : Option α} {matching : α → Bool} {a : α} :
    (if field.any matching then none else field) = some a ↔
      field = some a ∧ matching a = false := by
  cases field with
  | none => simp
  | some b =>
    rw [any_some]
    split
    · next hb =>
      refine ⟨nofun, ?_⟩
      rintro ⟨⟨⟩, ha⟩
      rw [hb] at ha
      cases ha
    · next hb =>
      refine ⟨fun hab => ⟨hab, ?_⟩, And.left⟩
      cases hab
      exact Bool.not_eq_true _ ▸ hb

namespace Coherent

variable {p p' : HostAccessPolicy} {e : AccessEvent}

section

variable (h : Coherent p)

include h

/-- An active session leaves no pairing in progress. -/
theorem idle_of_connection {conn : ConnectionContext} (hconn : p.activeConnection = some conn) :
    p.pairing = .idle := by
  by_contra hpair
  rw [(h.alone hpair).1] at hconn
  simp at hconn

/-- A connection closes together with its request and its session. -/
theorem closed :
    Coherent { p with activeConnection := none, pendingSession := none, activeSession := none } :=
  ⟨h.nodup, h.bounded, fun _ => ⟨rfl, rfl, rfl⟩, h.unpinned, by simp, by simp, by simp,
    by simp, Or.inl rfl⟩

/-- A pairing can end at any time. -/
theorem dropped : Coherent { p with pairing := .idle } :=
  { h with alone := by simp, unpinned := by simp [pairingDevice] }

theorem sweepPairing (e : AccessEvent) : Coherent (e.sweepPairing p) := by
  rcases e.sweepPairing_cases p with ⟨heq, _⟩ | heq
  · rw [heq]
    exact h
  · rw [heq]
    exact h.dropped

theorem sweep (e : AccessEvent) : Coherent (e.sweep p) := by
  rcases e.sweep_cases p with ⟨heq, _⟩ | ⟨heq, _⟩
  · rw [heq]
    exact h.sweepPairing e
  · rw [heq]
    exact (h.sweepPairing e).closed

/-- The revocation of a device takes its connection and everything on it. -/
theorem revoked {dev : DeviceFingerprint} (hpin : dev ∈ p.pinnedDevices) :
    Coherent
      { p with
        pinnedDevices := p.pinnedDevices.erase dev
        activeConnection :=
          if p.activeConnection.any (·.device == dev) then none else p.activeConnection
        pendingSession :=
          if p.pendingSession.any (·.device == dev) then none else p.pendingSession
        pairing := if p.pairingDevice = some dev then .idle else p.pairing
        activeSession :=
          if p.activeSession.any (·.device == dev) then none else p.activeSession } := by
  -- The branch of `revoke_device` that ends a pairing is never taken: the
  -- device is pinned, and the device of a pairing is not.
  have hoth : p.pairingDevice ≠ some dev := fun hdev => h.unpinned dev hdev hpin
  rw [if_neg hoth]
  refine ⟨h.nodup.erase dev, le_trans length_erase_le h.bounded, ?_, ?_, ?_, ?_, ?_, ?_, ?_⟩
  · intro hpair
    obtain ⟨hconn, hpend, hact⟩ := h.alone hpair
    simp [hconn, hpend, hact]
  · intro other hsome hmem
    exact h.unpinned other hsome (mem_of_mem_erase hmem)
  · intro conn hconn
    rw [ite_any_eq_some, beq_eq_false_iff_ne] at hconn
    exact (mem_erase_of_ne hconn.2).2 (h.connection conn hconn.1)
  · intro conn hconn
    rw [ite_any_eq_some] at hconn
    exact h.issued conn hconn.1
  · intro req hreq
    rw [ite_any_eq_some, beq_eq_false_iff_ne] at hreq
    rw [ite_any_eq_some, beq_eq_false_iff_ne]
    exact ⟨h.pending req hreq.1, hreq.2⟩
  · intro grant hgrant
    rw [ite_any_eq_some, beq_eq_false_iff_ne] at hgrant
    rw [ite_any_eq_some, beq_eq_false_iff_ne]
    exact ⟨h.active grant hgrant.1, hgrant.2⟩
  · rcases h.exclusive with hnone | hnone
    · exact .inl (by simp [hnone])
    · exact .inr (by simp [hnone])

/-- Each effect keeps the invariant. -/
theorem effect (heff : Effect p e p') : Coherent p' := by
  cases heff with
  | refuse => exact h
  | drop => exact h.dropped
  | begin hunpinned hpair hpending hactive hconnection =>
    refine { h with alone := fun _ => ⟨hconnection, hpending, hactive⟩, unpinned := ?_ }
    intro device hdev
    obtain rfl := some.inj hdev
    exact hunpinned
  | @confirm _ _ handle pending hpair _ _ _ hhdl =>
    have hbusy : p.pairing ≠ .idle := by simp [hpair]
    refine { h with alone := fun _ => h.alone hbusy, unpinned := ?_ }
    intro device hdev
    obtain rfl := some.inj hdev
    exact h.unpinned handle.device (by simp [pairingDevice, hpair, hhdl])
  | approve hpair _ _ hunpinned hroom =>
    have hbusy : p.pairing ≠ .idle := by simp [hpair]
    obtain ⟨hconn, hpend, hact⟩ := h.alone hbusy
    refine ⟨?_, ?_, by simp, by simp [pairingDevice], by simp [hconn], by simp [hconn],
      by simp [hpend], by simp [hact], .inl hpend⟩
    · rw [nodup_append]
      refine ⟨h.nodup, by simp, ?_⟩
      intro a ha b hb hab
      rw [mem_singleton] at hb
      subst hb hab
      exact hunpinned ha
    · simp only [length_append, length_singleton]
      omega
  | register hpin hpair hnext hdev hep =>
    refine ⟨h.nodup, h.bounded, by simp [hpair], h.unpinned, ?_, ?_, by simp, by simp,
      .inl rfl⟩
    · intro conn hconn
      obtain rfl := some.inj hconn
      rw [hdev]
      exact hpin
    · intro conn hconn
      obtain rfl := some.inj hconn
      rw [hep, UInt32.lt_iff_toNat_lt]
      dsimp only
      omega
  | close => exact h.closed
  | request hpair hconnection _ hactive _ hctx =>
    refine { h with alone := by simp [hpair], pending := ?_, exclusive := .inr hactive }
    intro request hreq
    obtain rfl := some.inj hreq
    rw [hctx]
    exact hconnection
  | spend =>
    exact { h with }
  | grant hpending hconnection hctx =>
    have hidle := h.idle_of_connection hconnection
    refine { h with alone := by simp [hidle], pending := by simp, active := ?_,
                    exclusive := .inl rfl }
    intro grant hgrant
    obtain rfl := some.inj hgrant
    rw [hctx]
    exact hconnection
  | forget =>
    refine { h with alone := ?_, pending := by simp, exclusive := .inl rfl }
    intro hpair
    obtain ⟨hconn, _, hact⟩ := h.alone hpair
    exact ⟨hconn, rfl, hact⟩
  | revoke hpin => exact h.revoked hpin

theorem step (call : AccessCall) : Coherent (accessMachine.step p call).2 :=
  (h.sweep _).effect (step_effect p call)

theorem run (calls : List AccessCall) : Coherent (accessMachine.run p calls) :=
  accessMachine.run_induction h (fun _ call hs => hs.step call) calls

end

end Coherent

/-! ## Initial policies -/

/-- A policy without a pairing, a connection, a request or a session. -/
def Quiescent (p : HostAccessPolicy) : Prop :=
  p.pairing = .idle ∧ p.activeConnection = none ∧ p.pendingSession = none ∧ p.activeSession = none

theorem coherent_of_pinAll {devices : List DeviceFingerprint} :
    ∀ {p q : HostAccessPolicy}, p.pinAll devices = .ok q → Coherent p → Quiescent p →
      Coherent q ∧ Quiescent q := by
  induction devices with
  | nil =>
    intro p q h hp hquiet
    obtain rfl := Except.ok.inj h
    exact ⟨hp, hquiet⟩
  | cons dev devices ih =>
    intro p q h hp hquiet
    rw [pinAll, pin] at h
    split_ifs at h with hpin
    rw [isPinned_iff] at hpin
    refine ih h ⟨?_, ?_, hp.alone, ?_, ?_, ?_, ?_, ?_, hp.exclusive⟩ hquiet
    · rw [nodup_append]
      refine ⟨hp.nodup, by simp, ?_⟩
      intro a ha b hb hab
      rw [mem_singleton] at hb
      subst hb hab
      exact hpin ha
    · simp only [length_append, length_singleton]
      omega
    · simp [pairingDevice, hquiet.1]
    iterate 2 simp [hquiet.2.1]
    · simp [hquiet.2.2.1]
    · simp [hquiet.2.2.2]

/-- Every initial policy is coherent and quiescent. -/
theorem Initial.coherent {p : HostAccessPolicy} (h : Initial p) :
    Coherent p ∧ Quiescent p := by
  have hdefault : Coherent .default ∧ Quiescent .default := by
    refine ⟨⟨?_, ?_, ?_, ?_, ?_, ?_, ?_, ?_, ?_⟩, rfl, rfl, rfl, rfl⟩ <;>
      simp [HostAccessPolicy.default]
  rcases h with rfl | ⟨_, hdevices⟩
  · exact hdefault
  · exact coherent_of_pinAll hdevices hdefault.1 hdefault.2

/-! ## Authorization epochs -/

/-- The epoch that a successful registration returned. -/
def AccessEvent.registeredEpoch : AccessEvent → Option UInt32
  | .register _ _ (.ok context) => some context.authorizationEpoch.value
  | _ => none

/-- The epochs that the registrations of a trace returned, oldest first. -/
def registeredEpochs (h : AccessTrace) : List UInt32 :=
  h.filterMap fun st => st.event.registeredEpoch

/-- Only a registration moves the epoch counter, and it hands out the value
that the counter had. -/
theorem Effect.nextEpoch {p p' : HostAccessPolicy} {e : AccessEvent}
    (heff : Effect p e p') :
    (e.registeredEpoch = none ∧ p'.nextEpoch = p.nextEpoch) ∨
      (e.registeredEpoch = some p.nextEpoch ∧ p'.nextEpoch.toNat = p.nextEpoch.toNat + 1) := by
  cases heff with
  | @refuse e href =>
    refine .inl ⟨?_, rfl⟩
    cases e with
    | register _ _ result =>
      obtain ⟨_, rfl⟩ := href
      rfl
    | _ => rfl
  | @drop e hdrops => cases e <;> first | exact hdrops.elim | exact .inl ⟨rfl, rfl⟩
  | begin | confirm | approve | request | spend | grant | revoke => exact .inl ⟨rfl, rfl⟩
  | register _ _ hnext _ hep =>
    exact .inr ⟨by simp [AccessEvent.registeredEpoch, hep], hnext⟩
  | close hev =>
    rcases hev with ⟨_, rfl⟩ | ⟨_, _, rfl, _⟩ <;> exact .inl ⟨rfl, rfl⟩
  | forget hev =>
    rcases hev with ⟨_, _, rfl⟩ | ⟨_, _, _, _, _, rfl⟩ <;> exact .inl ⟨rfl, rfl⟩

variable (p : HostAccessPolicy)

theorem step_nextEpoch (call : AccessCall) :
    ((accessMachine.step p call).1.registeredEpoch = none ∧
        (accessMachine.step p call).2.nextEpoch = p.nextEpoch) ∨
      ((accessMachine.step p call).1.registeredEpoch = some p.nextEpoch ∧
        (accessMachine.step p call).2.nextEpoch.toNat = p.nextEpoch.toNat + 1) := by
  have heff := (step_effect p call).nextEpoch
  rwa [((accessMachine.step p call).1.sweep_frame p).2.1] at heff

/-- A registered epoch is the value that the counter had. -/
theorem step_registeredEpoch {p : HostAccessPolicy} {call : AccessCall} {epoch : UInt32}
    (hregd : (accessMachine.step p call).1.registeredEpoch = some epoch) :
    epoch = p.nextEpoch ∧
      (accessMachine.step p call).2.nextEpoch.toNat = p.nextEpoch.toNat + 1 := by
  rcases step_nextEpoch p call with ⟨hnone, _⟩ | ⟨hsome, hnext⟩
  · rw [hnone] at hregd
    cases hregd
  · rw [hsome] at hregd
    exact ⟨(some.inj hregd).symm, hnext⟩

/-- The epochs of a run increase strictly, because each of them stays below the
counter. -/
theorem registeredEpochs_pairwise (calls : List AccessCall) :
    (registeredEpochs (accessMachine.trace p calls)).Pairwise (· < ·) := by
  apply accessMachine.pairwise_filterMap_trace (Q := fun epoch p => epoch < p.nextEpoch)
  · intro epoch s call hbelow
    rw [UInt32.lt_iff_toNat_lt] at hbelow ⊢
    rcases step_nextEpoch s call with ⟨_, heq⟩ | ⟨_, hnext⟩
    · rw [heq]
      exact hbelow
    · omega
  · intro epoch s call hregd
    obtain ⟨heq, hnext⟩ := step_registeredEpoch hregd
    rw [heq, UInt32.lt_iff_toNat_lt]
    omega
  · intro epoch epoch' s call hbelow hregd
    rw [(step_registeredEpoch hregd).1]
    exact hbelow

/-- After every call of a run from an initial policy the invariant holds, and
the epochs that registrations returned increase strictly. -/
theorem policy_stays_coherent {p : HostAccessPolicy} (hinitial : Initial p)
    (calls : List AccessCall) :
    Coherent (accessMachine.run p calls) ∧
      (registeredEpochs (accessMachine.trace p calls)).Pairwise (· < ·) :=
  ⟨hinitial.coherent.1.run calls, registeredEpochs_pairwise p calls⟩

theorem sample_policy_stays_coherent :
    Initial .default ∧
      (accessMachine.run .default sampleSessionCalls).activeSession = some sampleGrant ∧
      Coherent (accessMachine.run .default sampleSessionCalls) ∧
      (registeredEpochs (accessMachine.trace .default sampleSessionCalls)).Pairwise (· < ·) :=
  ⟨Or.inl rfl, by decide +kernel, policy_stays_coherent (Or.inl rfl) sampleSessionCalls⟩

end LatencyDesk.Session.Authorization
