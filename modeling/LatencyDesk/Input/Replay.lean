import LatencyDesk.Input.Reconciler

/-!
# Replayed and reordered input

A message is stamped with its epoch and its sequence.  `Past stamp r` says
that the reconciler `r` has left the stamp behind: its epoch is newer, or it
is the epoch of the stamp and either retired or already at the sequence of the
stamp.  A message that is applied makes its own stamp past, no call takes a
stamp out of the past, and a message is only applied when its stamp comes
after every past one.  The messages may be any values of the public type, also
those that no wire message decodes to.  A message that is refused changes
nothing within the current epoch, while one that starts an epoch has already
cleared the held state.
-/

namespace LatencyDesk.Input

open Lib InputReconciler Option

/-- The epoch and the sequence of a message. -/
abbrev Stamp := UInt32 × UInt64

/-- The lexicographic order of stamps. -/
abbrev Stamp.Before : Stamp → Stamp → Prop := Prod.Lex (· < ·) (· < ·)

def InputMessage.stamp (message : InputMessage) : Stamp := (message.sessionEpoch, message.sequence)

/-- The stamp of a message that was applied. -/
def ReconcilerEvent.applied : ReconcilerEvent → Option Stamp
  | .apply message (.ok (.applied _)) => some message.stamp
  | _ => none

/-- The stamps of the applied messages of a trace, oldest first. -/
def appliedStamps (h : InputTrace) : List Stamp := h.filterMap fun st => st.event.applied

/-! ## Epoch and sequence across one call -/

variable {epoch : UInt32}

section Frame

variable (r : InputReconciler)

/-- An event moves neither the epoch nor the sequence. -/
theorem applyFresh_frame (event : InputEvent) :
    (r.applyFresh event).2.epoch = r.epoch ∧
      (r.applyFresh event).2.epochRetired = r.epochRetired ∧
      (r.applyFresh event).2.lastSequence = r.lastSequence := by
  cases event with
  | key code pressed | pointerButton button pressed =>
    simp only [applyFresh]
    split_ifs
    · exact ⟨rfl, rfl, rfl⟩
    · split <;> exact ⟨rfl, rfl, rfl⟩
  | _ => exact ⟨rfl, rfl, rfl⟩

variable (message : InputMessage)

/-- A message of the current epoch is applied under its own sequence, after
the last one, or it changes neither epoch nor sequence. -/
theorem applySequenced_cases :
    ((∀ actions, (r.applySequenced message).1 ≠ .ok (.applied actions)) ∧
        (r.applySequenced message).2.epoch = r.epoch ∧
        (r.applySequenced message).2.epochRetired = r.epochRetired ∧
        (r.applySequenced message).2.lastSequence = r.lastSequence) ∨
      ((∀ seq, r.lastSequence = some seq → seq < message.sequence) ∧
        (r.applySequenced message).2.epoch = r.epoch ∧
        (r.applySequenced message).2.epochRetired = r.epochRetired ∧
        (r.applySequenced message).2.lastSequence = some message.sequence) := by
  unfold applySequenced
  split_ifs with hstale
  · exact .inl ⟨by simp, rfl, rfl, rfl⟩
  have hfr := applyFresh_frame r message.event
  split
  · rename_i error r' heq
    rw [heq] at hfr
    exact .inl ⟨by simp, hfr⟩
  · rename_i actions r' heq
    rw [heq] at hfr
    refine .inr ⟨?_, hfr.1, hfr.2.1, rfl⟩
    intro seq hseq
    rw [hseq, any_some, decide_eq_true_eq] at hstale
    exact UInt64.not_le.1 hstale

/-- A message of a newer epoch moves to that epoch. -/
theorem applyNewer_epoch :
    (r.applyNewer message).2.epoch = some message.sessionEpoch ∧
      ∀ actions, (r.applyNewer message).1 = .ok (.applied actions) →
        (r.applyNewer message).2.lastSequence = some message.sequence := by
  unfold applyNewer
  have hfr := applyFresh_frame
    { r.releaseAll.2 with
      epoch := some message.sessionEpoch
      epochRetired := false
      lastSequence := none } message.event
  split
  · rename_i error r' heq
    rw [heq] at hfr
    exact ⟨hfr.1, by simp⟩
  · rename_i actions r' heq
    rw [heq] at hfr
    exact ⟨hfr.1, fun _ _ => rfl⟩

/-- What `apply` can do to the epoch and the sequence of a reconciler that has
an epoch: nothing, a move to a newer epoch, or the next sequence of an epoch
that is not retired. -/
theorem apply_cases (hep : r.epoch = some epoch) (message : InputMessage) :
    ((∀ actions, (r.apply message).1 ≠ .ok (.applied actions)) ∧
        (r.apply message).2.epoch = r.epoch ∧
        (r.apply message).2.epochRetired = r.epochRetired ∧
        (r.apply message).2.lastSequence = r.lastSequence) ∨
      (epoch < message.sessionEpoch ∧ (r.apply message).2.epoch = some message.sessionEpoch) ∨
      (message.sessionEpoch = epoch ∧ r.epochRetired = false ∧
        (∀ seq, r.lastSequence = some seq → seq < message.sequence) ∧
        (r.apply message).2.epoch = some epoch ∧
        (r.apply message).2.epochRetired = false ∧
        (r.apply message).2.lastSequence = some message.sequence) := by
  unfold apply
  by_cases hretired : r.epochRetired = true
  · rw [if_pos hretired, hep, any_some]
    by_cases hle : message.sessionEpoch ≤ epoch
    · rw [if_pos (decide_eq_true hle)]
      exact .inl ⟨by simp, hep, rfl, rfl⟩
    have hlt := UInt32.not_le.1 hle
    have hge : ¬ message.sessionEpoch < epoch := fun h => hle (UInt32.le_of_lt h)
    rw [if_neg (by simpa using hle), applyActive]
    simp only [if_neg hge, if_pos hlt]
    exact .inr (.inl ⟨hlt, (applyNewer_epoch _ message).1⟩)
  · rw [if_neg hretired, applyActive, hep]
    rw [Bool.not_eq_true] at hretired
    dsimp only
    split_ifs with hlt hgt
    · exact .inl ⟨by simp, hep, rfl, rfl⟩
    · exact .inr (.inl ⟨hgt, (applyNewer_epoch r message).1⟩)
    have hsame : message.sessionEpoch = epoch :=
      UInt32.le_antisymm (UInt32.not_lt.1 hgt) (UInt32.not_lt.1 hlt)
    rcases applySequenced_cases r message with ⟨hnot, hkept⟩ | ⟨hnext, hkept⟩
    · rw [hep] at hkept
      exact .inl ⟨hnot, hkept⟩
    · rw [hep, hretired] at hkept
      exact .inr (.inr ⟨hsame, hretired, hnext, hkept⟩)

variable {message : InputMessage} {actions : List AppliedInput}

theorem applyActive_stamp (happ : (r.applyActive message).1 = .ok (.applied actions)) :
    (r.applyActive message).2.epoch = some message.sessionEpoch ∧
      (r.applyActive message).2.lastSequence = some message.sequence := by
  unfold applyActive at happ ⊢
  split
  · next epoch hep =>
    rw [hep] at happ
    dsimp only at happ ⊢
    split_ifs at happ ⊢ with hlt hgt
    · simp at happ
    · obtain ⟨hmoved, hlast⟩ := applyNewer_epoch r message
      exact ⟨hmoved, hlast actions happ⟩
    · have hsame : message.sessionEpoch = epoch :=
        UInt32.le_antisymm (UInt32.not_lt.1 hgt) (UInt32.not_lt.1 hlt)
      rcases applySequenced_cases r message with ⟨hnot, _⟩ | ⟨_, hkept, _, hlast⟩
      · exact absurd happ (hnot actions)
      · exact ⟨by rw [hkept, hep, hsame], hlast⟩
  next hep =>
  rw [hep] at happ
  rcases applySequenced_cases { r with epoch := some message.sessionEpoch, epochRetired := false }
    message with ⟨hnot, _⟩ | ⟨_, hkept, _, hlast⟩
  · exact absurd happ (hnot actions)
  · exact ⟨hkept, hlast⟩

/-- A message that is applied leaves its epoch and its sequence behind. -/
theorem apply_stamp (happ : (r.apply message).1 = .ok (.applied actions)) :
    (r.apply message).2.epoch = some message.sessionEpoch ∧
      (r.apply message).2.lastSequence = some message.sequence := by
  unfold apply at happ ⊢
  split_ifs at happ ⊢
  · simp at happ
  all_goals exact applyActive_stamp _ happ

end Frame

/-! ## The past -/

/-- The reconciler has left the stamp behind. -/
def Past (stamp : Stamp) (r : InputReconciler) : Prop :=
  ∃ epoch, r.epoch = some epoch ∧
    (stamp.1 < epoch ∨
      (stamp.1 = epoch ∧
        (r.epochRetired = true ∨ ∃ sequence, r.lastSequence = some sequence ∧ stamp.2 ≤ sequence)))

section Past

variable {r : InputReconciler} {stamp : Stamp}

/-- A past stamp comes before every message that is applied, and stays past. -/
theorem Past.apply (hpast : Past stamp r) (message : InputMessage) :
    Past stamp (r.apply message).2 ∧
      ∀ actions, (r.apply message).1 = .ok (.applied actions) →
        Stamp.Before stamp message.stamp := by
  obtain ⟨current, hcurr, hbehind⟩ := hpast
  have hle : stamp.1 ≤ current := by
    rcases hbehind with hlt | ⟨heq, _⟩
    · exact UInt32.le_of_lt hlt
    · exact heq ▸ UInt32.le_refl _
  rcases apply_cases r hcurr message with ⟨hnot, hep, hretired, hlast⟩ |
    ⟨hnewer, hep⟩ | ⟨hsame, hact, hnext, hep, hretired, hlast⟩
  · refine ⟨⟨current, hep.trans hcurr, ?_⟩, fun actions happ => absurd happ (hnot _)⟩
    rw [hretired, hlast]
    exact hbehind
  · have hlt : stamp.1 < message.sessionEpoch := UInt32.lt_of_le_of_lt hle hnewer
    exact ⟨⟨_, hep, .inl hlt⟩, fun _ _ => Prod.Lex.left _ _ hlt⟩
  · rcases hbehind with hlt | ⟨heq, hbehind⟩
    · refine ⟨⟨current, hep, .inl hlt⟩, fun _ _ => Prod.Lex.left _ _ ?_⟩
      rw [hsame]
      exact hlt
    · rw [hact] at hbehind
      obtain ⟨seq, hseq, hle'⟩ := hbehind.resolve_left Bool.false_ne_true
      have hlt : stamp.2 < message.sequence :=
        UInt64.lt_of_le_of_lt hle' (hnext seq hseq)
      refine ⟨⟨current, hep, .inr ⟨heq, .inr ⟨_, hlast, UInt64.le_of_lt hlt⟩⟩⟩, ?_⟩
      intro _ _
      exact Prod.lex_def.2 (.inr ⟨heq.trans hsame.symm, hlt⟩)

theorem Past.step (hpast : Past stamp r) (call : InputCall) :
    Past stamp (inputMachine.step r call).2 := by
  cases call with
  | apply message => exact (hpast.apply message).1
  | disconnectReleasePlan =>
    obtain ⟨current, hcurr, hbehind⟩ := hpast
    refine ⟨current, hcurr, ?_⟩
    rcases hbehind with hlt | ⟨heq, _⟩
    · exact .inl hlt
    refine .inr ⟨heq, .inl ?_⟩
    show r.epoch.isSome = true
    rw [hcurr]
    rfl
  | releaseAllPlan => exact hpast

variable {call : InputCall} (happ : (inputMachine.step r call).1.applied = some stamp)

include happ in
/-- Only `apply` applies a message. -/
theorem applied_eq_some :
    ∃ message actions, call = .apply message ∧
      (r.apply message).1 = .ok (.applied actions) ∧ message.stamp = stamp := by
  cases call with
  | apply message =>
    have happ' : (ReconcilerEvent.apply message (r.apply message).1).applied = some stamp :=
      happ
    unfold ReconcilerEvent.applied at happ'
    split at happ'
    · rename_i msg' actions heq
      obtain ⟨rfl, hres⟩ := ReconcilerEvent.apply.inj heq
      exact ⟨message, actions, rfl, hres, some.inj happ'⟩
    · simp at happ'
  | disconnectReleasePlan | releaseAllPlan =>
    simp [inputMachine, record, ReconcilerEvent.applied] at happ

include happ in
/-- An applied message makes its own stamp past. -/
theorem past_of_applied :
    Past stamp (inputMachine.step r call).2 := by
  obtain ⟨_, _, rfl, hres, rfl⟩ := applied_eq_some happ
  obtain ⟨hep, hlast⟩ := apply_stamp r hres
  exact ⟨_, hep, .inr ⟨rfl, .inr ⟨_, hlast, UInt64.le_refl _⟩⟩⟩

/-- An applied message comes after every past stamp. -/
theorem Past.before_applied (hpast : Past stamp r) {stamp' : Stamp}
    (happ : (inputMachine.step r call).1.applied = some stamp') :
    Stamp.Before stamp stamp' := by
  obtain ⟨message, actions, rfl, hres, rfl⟩ := applied_eq_some happ
  exact (hpast.apply message).2 actions hres

/-- A disconnect makes every stamp of the active epoch past. -/
theorem past_of_disconnect (hep : r.epoch = some epoch) {seq : UInt64} :
    Past (epoch, seq) (inputMachine.step r .disconnectReleasePlan).2 := by
  refine ⟨epoch, hep, .inr ⟨rfl, .inl ?_⟩⟩
  show r.epoch.isSome = true
  rw [hep]
  rfl

end Past

/-- After a disconnect only newer epochs are applied. -/
theorem epoch_lt_of_disconnect {r : InputReconciler} (hep : r.epoch = some epoch)
    {calls : List InputCall} {stamp : Stamp} (hstp : stamp ∈ appliedStamps
      (inputMachine.trace (inputMachine.step r .disconnectReleasePlan).2 calls)) :
    epoch < stamp.1 := by
  rw [appliedStamps, List.mem_filterMap] at hstp
  obtain ⟨_, hst, happ⟩ := hstp
  obtain ⟨before, call, _, _, rfl⟩ := inputMachine.mem_trace hst
  have hpast : Past (epoch, stamp.2)
      (inputMachine.run (inputMachine.step r .disconnectReleasePlan).2 before) :=
    inputMachine.run_induction (past_of_disconnect hep)
      (fun _ call hs => hs.step call) before
  rcases Prod.lex_def.1 (hpast.before_applied happ) with hlt | ⟨_, hlt⟩
  · exact hlt
  · exact absurd hlt (UInt64.lt_irrefl _)

/-- The applied messages of a run come in strictly increasing order of epoch
and sequence.  After a disconnect, only newer epochs are applied. -/
theorem applied_messages_increase (r : InputReconciler) (calls : List InputCall) :
    (appliedStamps (inputMachine.trace r calls)).Pairwise Stamp.Before ∧
      ∀ before st after actions epoch,
        inputMachine.trace r calls = before ++ st :: after →
        st.event = .disconnectReleasePlan actions → st.pre.epoch = some epoch →
        ∀ stamp ∈ appliedStamps after, epoch < stamp.1 := by
  refine ⟨?_, ?_⟩
  · apply inputMachine.pairwise_filterMap_trace (Q := Past)
    · intro stamp s call hpast
      exact hpast.step call
    · intro stamp s call happ
      exact past_of_applied happ
    · intro stamp stamp' s call hpast happ
      exact hpast.before_applied happ
  · intro before st after actions epoch htrace hev hep stamp hstp
    obtain ⟨_, call, _, _, _, rfl, rfl⟩ := inputMachine.trace_eq_append_cons htrace
    cases call with
    | disconnectReleasePlan => exact epoch_lt_of_disconnect hep hstp
    | apply message | releaseAllPlan => simp [inputMachine, record] at hev

/-- A message that arrives again after a disconnect stays ignored, and the next
epoch goes on. -/
theorem sample_messages_increase :
    appliedStamps (inputMachine.trace .default
        [.apply samplePress, .disconnectReleasePlan, .apply samplePress, .apply sampleWheel]) =
      [(1, 5), (2, 0)] ∧
    List.Pairwise Stamp.Before (appliedStamps (inputMachine.trace .default
        [.apply samplePress, .disconnectReleasePlan, .apply samplePress, .apply sampleWheel])) ∧
    ∀ stamp ∈ appliedStamps (inputMachine.trace
        (inputMachine.run .default [.apply samplePress, .disconnectReleasePlan])
        [.apply samplePress, .apply sampleWheel]), 1 < stamp.1 := by
  obtain ⟨hincrease, hnewer⟩ := applied_messages_increase .default
    [.apply samplePress, .disconnectReleasePlan, .apply samplePress, .apply sampleWheel]
  refine ⟨by decide +kernel, hincrease, ?_⟩
  exact hnewer (inputMachine.trace .default [.apply samplePress])
    (inputMachine.stepAt (inputMachine.run .default [.apply samplePress]) .disconnectReleasePlan)
    _ _ 1 rfl rfl (by decide +kernel)

/-! ## Refused messages -/

section Refused

variable {r : InputReconciler} {message : InputMessage} {error : InputError}

theorem applyFresh_of_error {event : InputEvent} (h : (r.applyFresh event).1 = .error error) :
    (r.applyFresh event).2 = r := by
  revert h
  cases event with
  | key code pressed | pointerButton button pressed =>
    simp only [applyFresh]
    split_ifs
    · exact nofun
    split
    · exact fun _ => rfl
    · exact nofun
  | _ => exact nofun

theorem applySequenced_of_error (h : (r.applySequenced message).1 = .error error) :
    (r.applySequenced message).2 = r := by
  revert h
  unfold applySequenced
  split_ifs
  · exact nofun
  split
  · next heq =>
    intro _
    have hfresh := applyFresh_of_error (congrArg Prod.fst heq)
    rwa [heq] at hfresh
  · exact nofun

theorem epoch_applyActive_of_error (h : (r.applyActive message).1 = .error error) :
    (r.applyActive message).2.epoch = some message.sessionEpoch := by
  revert h
  unfold applyActive
  split
  · next epoch hep =>
    split_ifs with holder hnewer
    · exact nofun
    · exact fun _ => (applyNewer_epoch r message).1
    intro h
    have hsame : epoch = message.sessionEpoch :=
      UInt32.le_antisymm (UInt32.not_lt.1 holder) (UInt32.not_lt.1 hnewer)
    rw [applySequenced_of_error h, hep, hsame]
  · intro h
    rw [applySequenced_of_error h]

/-- A call of `apply` that fails leaves the reconciler as it was exactly when the message is of
the current epoch. -/
theorem refused_message_changes_nothing_iff (h : (r.apply message).1 = .error error) :
    (r.apply message).2 = r ↔ r.epoch = some message.sessionEpoch := by
  constructor
  · intro hsame
    rw [← hsame]
    revert h
    unfold apply
    split_ifs
    · exact nofun
    all_goals exact epoch_applyActive_of_error
  · intro hep
    revert h
    unfold apply applyActive
    rw [hep, any_some, if_pos (decide_eq_true UInt32.le_rfl)]
    dsimp only
    rw [if_neg (UInt32.lt_irrefl _), if_neg (UInt32.lt_irrefl _)]
    split_ifs
    · exact nofun
    · exact applySequenced_of_error

end Refused

/-- Key 30 is held, and a message of the next epoch presses a key that does not exist. -/
theorem refused_message_forgets_a_key :
    let r := (default.apply samplePress).2
    let refused := r.apply { sessionEpoch := 2, sequence := 0, event := .key 600 true }
    r.state.keyPressed 30 = true ∧ refused.1.toOption = none ∧ refused.2.epoch = some 2 ∧
      refused.2.state.keyPressed 30 = false := by
  decide

theorem sample_message_changes_nothing :
    let r := (default.apply samplePress).2
    (r.apply { sessionEpoch := 1, sequence := 6, event := .key 600 true }).2 = r :=
  (@refused_message_changes_nothing_iff _ _ (.key 600) (by decide)).2 (by decide)

end LatencyDesk.Input
