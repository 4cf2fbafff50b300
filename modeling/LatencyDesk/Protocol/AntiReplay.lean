import LatencyDesk.Lib.Bits
import LatencyDesk.Lib.Machine
import LatencyDesk.Protocol.Types

/-!
# The replay filter

The model of `AntiReplayFilter` in `crates/protocol/src/lib.rs`: the largest
sequence number that was accepted, and a bitmap of the 128 numbers up to it.

The specification has no window in it.  It is the list of the numbers that were
accepted, and `Admissible` says which number may come next.  `Windows` connects
the two: a bit of the map is set exactly when its number was accepted.  The
filter keeps that in both of its updates, the one that slides the window and the
one that marks a number inside it, and `replay_filter_is_exact` follows for every
sequence of calls.
-/

namespace LatencyDesk.Protocol

open Lib List

/-- The largest number, and which below it were seen. -/
structure AntiReplayFilter where
  maxSequence : UInt64
  bitmap : BitVec 128

namespace AntiReplayFilter

/-- `WINDOW_SIZE`. -/
def windowSize : UInt64 := 128

def new : AntiReplayFilter := { maxSequence := 0, bitmap := 0 }

/-- A number is new and inside the window. -/
def check (filter : AntiReplayFilter) (sequence : UInt64) : Except ProtocolError Unit :=
  if sequence = 0 then
    .error (.replayedPacket 0)
  else if filter.maxSequence < sequence then
    .ok ()
  else
    let diff := filter.maxSequence - sequence
    if windowSize ≤ diff then
      .error (.replayedPacket sequence)
    else if hasBit filter.bitmap diff.toNat then
      .error (.replayedPacket sequence)
    else
      .ok ()

def update (filter : AntiReplayFilter) (sequence : UInt64) : AntiReplayFilter :=
  if filter.maxSequence < sequence then
    let shift := sequence - filter.maxSequence
    { maxSequence := sequence
      bitmap := if windowSize ≤ shift then 1 else filter.bitmap <<< shift.toNat ||| 1 }
  else
    let diff := filter.maxSequence - sequence
    if diff < windowSize then
      { filter with bitmap := putBit filter.bitmap diff.toNat true }
    else
      filter

def checkAndUpdate (filter : AntiReplayFilter) (sequence : UInt64) :
    Except ProtocolError Unit × AntiReplayFilter :=
  match filter.check sequence with
  | .error e => (.error e, filter)
  | .ok () => (.ok (), filter.update sequence)

end AntiReplayFilter

/-- A call of `check_and_update`, as its caller sees it. -/
structure ReplayEvent where
  sequence : UInt64
  result : Except ProtocolError Unit

def ReplayEvent.accepted (event : ReplayEvent) : Option UInt64 :=
  match event.result with
  | .ok () => some event.sequence
  | .error _ => none

def replayMachine : Machine AntiReplayFilter UInt64 ReplayEvent where
  step filter sequence := record (ReplayEvent.mk sequence) (filter.checkAndUpdate sequence)

abbrev ReplayTrace := List (Step AntiReplayFilter ReplayEvent)

/-! ## The specification -/

/-- The numbers that were accepted, oldest first. -/
def acceptedNumbers (h : ReplayTrace) : List UInt64 := h.filterMap (·.event.accepted)

def largest : List UInt64 → Nat
  | [] => 0
  | sequence :: rest => max sequence.toNat (largest rest)

/-- The number may be accepted after the ones in the list. -/
structure Admissible (accepted : List UInt64) (sequence : UInt64) : Prop where
  nonzero : sequence ≠ 0
  fresh : sequence ∉ accepted
  recent : (largest accepted : Int) - 128 < sequence.toNat

variable {sequence : UInt64} {accepted : List UInt64}

theorem largest_snoc :
    largest (accepted ++ [sequence]) = max (largest accepted) sequence.toNat := by
  induction accepted with
  | nil => simp [largest]
  | cons first rest ih => rw [cons_append, largest, largest, ih, Nat.max_assoc]

theorem le_largest (h : sequence ∈ accepted) :
    sequence.toNat ≤ largest accepted := by
  induction accepted with
  | nil => cases h
  | cons first rest ih =>
    rcases mem_cons.1 h with rfl | hrest
    · exact Nat.le_max_left _ _
    · exact (ih hrest).trans (Nat.le_max_right _ _)

/-! ## The window -/

/-- The bits of the filter are the accepted numbers, as far as the window reaches. -/
structure Windows (accepted : List UInt64) (filter : AntiReplayFilter) : Prop where
  top : filter.maxSequence.toNat = largest accepted
  bits : ∀ sequence : UInt64, sequence ≠ 0 → sequence ≤ filter.maxSequence →
    filter.maxSequence.toNat - sequence.toNat < 128 →
      (hasBit filter.bitmap (filter.maxSequence.toNat - sequence.toNat) = true ↔
        sequence ∈ accepted)

section

variable {accepted : List UInt64} {filter : AntiReplayFilter} {sequence : UInt64}

theorem windows_new : Windows [] .new where
  top := rfl
  bits sequence _ _ _ := by simp [AntiReplayFilter.new]

theorem windowSize_le_iff {diff : UInt64} :
    AntiReplayFilter.windowSize ≤ diff ↔ 128 ≤ diff.toNat := by
  rfl

section

variable (h : Windows accepted filter)

include h

/-- The check accepts exactly the admissible numbers. -/
theorem Windows.check_eq_ok_iff (sequence : UInt64) :
    filter.check sequence = .ok () ↔ Admissible accepted sequence := by
  have hlargest := h.top
  unfold AntiReplayFilter.check
  dsimp only
  split
  · next hzero => exact ⟨nofun, fun hadm => absurd hzero hadm.nonzero⟩
  next hzero =>
  split
  · next hnewer =>
    have hlt := UInt64.lt_iff_toNat_lt.1 hnewer
    refine ⟨fun _ => ⟨hzero, fun hmem => ?_, by omega⟩, fun _ => rfl⟩
    have hle := le_largest hmem
    omega
  · next hnewer =>
    have hle : sequence ≤ filter.maxSequence := UInt64.not_lt.1 hnewer
    have hsub := UInt64.toNat_sub_of_le _ _ hle
    split
    · next hold =>
      rw [windowSize_le_iff] at hold
      refine ⟨nofun, fun hadm => ?_⟩
      have hrecent := hadm.recent
      omega
    · next hold =>
      rw [windowSize_le_iff] at hold
      have hbits := h.bits sequence hzero hle (by omega)
      rw [hsub]
      split_ifs with hbit
      · exact ⟨nofun, fun hadm => absurd (hbits.1 hbit) hadm.fresh⟩
      · exact ⟨fun _ => ⟨hzero, fun hmem => hbit (hbits.2 hmem), by omega⟩, fun _ => rfl⟩

/-- A number above the window: the window slides up to it. -/
theorem Windows.slide (hnewer : filter.maxSequence < sequence) :
    Windows (accepted ++ [sequence]) (filter.update sequence) := by
  have hlt := UInt64.lt_iff_toNat_lt.1 hnewer
  have hshift := UInt64.toNat_sub_of_le _ _ (UInt64.le_of_lt hnewer)
  have hlargest := h.top
  unfold AntiReplayFilter.update
  rw [if_pos hnewer]
  refine ⟨by rw [largest_snoc]; dsimp only; omega, fun other hzero hle hwindow => ?_⟩
  dsimp only at hle hwindow ⊢
  have hle' := UInt64.le_iff_toNat_le.1 hle
  rw [mem_append, mem_singleton, ← UInt64.toNat_inj]
  by_cases hfar : AntiReplayFilter.windowSize ≤ sequence - filter.maxSequence
  · -- Everything that was accepted is below the new window.
    rw [if_pos hfar]
    rw [windowSize_le_iff] at hfar
    rw [show (1 : BitVec 128) = 1#128 from rfl, hasBit_one hwindow, decide_eq_true_eq]
    constructor
    · intro heq
      exact .inr (by omega)
    · rintro (hmem | heq)
      · have hold := le_largest hmem
        omega
      · omega
  · rw [if_neg hfar]
    rw [show (1 : BitVec 128) = 1#128 from rfl,
      hasBit_shiftLeft_or_one _ (by omega : 0 < (sequence - filter.maxSequence).toNat) hwindow]
    split_ifs
    · exact ⟨fun _ => .inr (by omega), fun _ => rfl⟩
    rw [Bool.and_eq_true, decide_eq_true_eq, hshift]
    constructor
    · rintro ⟨hreach, hbit⟩
      have hidx : sequence.toNat - other.toNat - (sequence.toNat - filter.maxSequence.toNat) =
        filter.maxSequence.toNat - other.toNat := by omega
      rw [hidx] at hbit
      have hoth : other ≤ filter.maxSequence := UInt64.le_iff_toNat_le.2 (by omega)
      exact .inl ((h.bits other hzero hoth (by omega)).1 hbit)
    · rintro (hmem | heq)
      · have hold := le_largest hmem
        have hidx : sequence.toNat - other.toNat -
          (sequence.toNat - filter.maxSequence.toNat) =
            filter.maxSequence.toNat - other.toNat := by omega
        have hoth : other ≤ filter.maxSequence := UInt64.le_iff_toNat_le.2 (by omega)
        refine ⟨by omega, ?_⟩
        rw [hidx]
        exact (h.bits other hzero hoth (by omega)).2 hmem
      · omega

/-- A number inside the window: its bit is set. -/
theorem Windows.mark (hold : ¬filter.maxSequence < sequence)
    (hrecent : (largest accepted : Int) - 128 < sequence.toNat) :
    Windows (accepted ++ [sequence]) (filter.update sequence) := by
  have hle : sequence ≤ filter.maxSequence := UInt64.not_lt.1 hold
  have hle' := UInt64.le_iff_toNat_le.1 hle
  have hsub := UInt64.toNat_sub_of_le _ _ hle
  have hlargest := h.top
  have hwindow : filter.maxSequence - sequence < AntiReplayFilter.windowSize := by
    rw [← UInt64.not_le, windowSize_le_iff]
    omega
  unfold AntiReplayFilter.update
  rw [if_neg hold, if_pos hwindow]
  refine ⟨by rw [largest_snoc]; dsimp only; omega, fun other hzero hoth hreach => ?_⟩
  dsimp only at hoth hreach
  have hoth' := UInt64.le_iff_toNat_le.1 hoth
  rw [hasBit_putBit _ (by omega) hreach, mem_append, mem_singleton, ← UInt64.toNat_inj]
  split_ifs
  · exact ⟨fun _ => .inr (by omega), fun _ => rfl⟩
  · rw [h.bits other hzero hoth hreach]
    exact ⟨.inl, fun hmem => hmem.resolve_right (by omega)⟩

theorem Windows.update (hadm : Admissible accepted sequence) :
    Windows (accepted ++ [sequence]) (filter.update sequence) := by
  by_cases hnewer : filter.maxSequence < sequence
  · exact h.slide hnewer
  · exact h.mark hnewer hadm.recent

end

end

/-! ## Every run -/

/-- What holds after every run: the window, and that no number was accepted twice. -/
structure Filtered (h : ReplayTrace) (filter : AntiReplayFilter) : Prop where
  windows : Windows (acceptedNumbers h) filter
  nodup : (acceptedNumbers h).Nodup

open AntiReplayFilter

theorem Filtered.step {h : ReplayTrace} {filter : AntiReplayFilter} (hfilt : Filtered h filter)
    (sequence : UInt64) :
    Filtered (h ++ [replayMachine.stepAt filter sequence])
      (replayMachine.step filter sequence).2 := by
  have hcheck := hfilt.windows.check_eq_ok_iff sequence
  cases hres : filter.check sequence with
  | error e =>
    have hstep : replayMachine.step filter sequence = (⟨sequence, .error e⟩, filter) := by
      simp [replayMachine, checkAndUpdate, hres]
    have hnumbers : acceptedNumbers (h ++ [replayMachine.stepAt filter sequence]) =
        acceptedNumbers h := by
      rw [acceptedNumbers, filterMap_snoc, Machine.stepAt_event, hstep]
      exact append_nil _
    rw [hstep]
    exact ⟨hnumbers ▸ hfilt.windows, hnumbers ▸ hfilt.nodup⟩
  | ok =>
    have hadm := hcheck.1 hres
    have hstep : replayMachine.step filter sequence =
        (⟨sequence, .ok ()⟩, filter.update sequence) := by
      simp [replayMachine, checkAndUpdate, hres]
    have hnumbers : acceptedNumbers (h ++ [replayMachine.stepAt filter sequence]) =
        acceptedNumbers h ++ [sequence] := by
      rw [acceptedNumbers, filterMap_snoc, Machine.stepAt_event, hstep]
      rfl
    rw [hstep]
    refine ⟨hnumbers ▸ hfilt.windows.update hadm, ?_⟩
    rw [hnumbers, nodup_append]
    refine ⟨hfilt.nodup, nodup_singleton _, fun a ha b hb heq => ?_⟩
    rw [mem_singleton.1 hb] at heq
    exact hadm.fresh (heq ▸ ha)

theorem filtered_run (sequences : List UInt64) :
    Filtered (replayMachine.trace .new sequences) (replayMachine.run .new sequences) :=
  replayMachine.trace_induction ⟨windows_new, nodup_nil⟩
    (fun _ _ sequence hfilt => hfilt.step sequence) sequences

/-- After every sequence of calls the next number is accepted exactly when it is admissible:
not zero, not accepted before, and above the largest accepted number minus 128.  So no number
is accepted twice. -/
theorem replay_filter_is_exact (sequences : List UInt64) :
    let accepted := acceptedNumbers (replayMachine.trace .new sequences)
    (∀ sequence, ((replayMachine.run .new sequences).checkAndUpdate sequence).1 = .ok () ↔
      sequence ≠ 0 ∧ sequence ∉ accepted ∧
        (largest accepted : Int) - 128 < (sequence.toNat : Int)) ∧
      accepted.Nodup := by
  have hfilt := filtered_run sequences
  refine ⟨fun sequence => ?_, hfilt.nodup⟩
  have hcheck := hfilt.windows.check_eq_ok_iff sequence
  have hres : ((replayMachine.run .new sequences).checkAndUpdate sequence).1 =
      (replayMachine.run .new sequences).check sequence := by
    unfold checkAndUpdate
    split
    all_goals next hcheck => rw [hcheck]
  rw [hres, hcheck]
  exact ⟨fun h => ⟨h.nonzero, h.fresh, h.recent⟩, fun h => ⟨h.1, h.2.1, h.2.2⟩⟩

example :
    acceptedNumbers (replayMachine.trace .new [5, 3, 5, 200, 72, 73, 0, 73]) = [5, 3, 200, 73] := by
  decide +kernel

end LatencyDesk.Protocol
