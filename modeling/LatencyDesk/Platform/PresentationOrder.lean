import LatencyDesk.Lib.Since
import LatencyDesk.Platform.Presentation

/-!
# Frames are presented in order

Between two resets of the continuity, the frames that are handed to the renderer get
newer and newer in the order of display epoch, codec epoch and frame id.  `Ordered`
says so for each entry of the log, with what goes along with it.

The invariant `InOrder` links the queue to the log.  The queue holds frames that were
accepted since the last reset, oldest first, all of them newer than what was handed
over, and all of them below the watermark from which frames are accepted.
-/

namespace LatencyDesk.Platform

open Lib List PresentationWorld PresentationCoordinator PresentationQueue Note List.Pairwise
  PresentableFrame

/-- The frame was accepted since the last reset. -/
def Accepted (log : List Note) (frame : PresentableFrame) : Prop :=
  Since (· ≠ .reset) (fun _ note => note = .accepted frame) log

/-- The frame was handed over since the last reset. -/
def HandedOver (log : List Note) (frame : PresentableFrame) : Prop :=
  Since (· ≠ .reset)
    (fun _ note => ∃ nowNs lease queued remaining,
      note = .presented nowNs lease queued remaining ∧ lease.frame = frame) log

/-- What an entry of the log says about the entries before it. -/
def Ordered (log : List Note) : Note → Prop
  | .accepted frame => ∀ other, Accepted log other → frame.Newer other
  | .presented nowNs lease queued remaining =>
    nowNs < lease.frame.deadlineNs ∧ Accepted log lease.frame ∧
      (∀ other, HandedOver log other → lease.frame.Newer other) ∧
      (∀ other ∈ queued, nowNs < other.deadlineNs → other = lease.frame ∨ lease.frame.Newer other) ∧
      remaining = []
  | _ => True

/-- The entries that order frames. -/
def Note.orders : Note → Bool
  | .accepted _ | .presented .. | .reset => true
  | _ => false

structure InOrder (queue : PresentationQueue) (log : List Note) : Prop where
  throughout : Throughout Ordered log
  items : ∀ frame ∈ queue.items, Accepted log frame
  increasing : queue.items.Pairwise fun a b => a.rank < b.rank
  watermark : ∀ frame, Accepted log frame → frame.rank < queue.watermark
  behind : ∀ frame, HandedOver log frame →
    frame.rank < queue.watermark ∧ ∀ other ∈ queue.items, frame.rank < other.rank

variable {queue : PresentationQueue} {log : List Note}

theorem inOrder_nil (capacity : Nat) : InOrder ⟨capacity, [], none, none⟩ [] where
  throughout := throughout_nil
  items _ hmem := absurd hmem not_mem_nil
  increasing := nil
  watermark _ hacc := absurd hacc not_since_nil
  behind _ hhanded := absurd hhanded not_since_nil

/-! ## The log -/

variable {frame : PresentableFrame} {note : Note}

theorem accepted_snoc :
    Accepted (log ++ [note]) frame ↔ note = .accepted frame ∨ note ≠ .reset ∧ Accepted log frame :=
  since_snoc

theorem handedOver_snoc :
    HandedOver (log ++ [note]) frame ↔
      (∃ nowNs lease queued remaining,
        note = .presented nowNs lease queued remaining ∧ lease.frame = frame) ∨
      note ≠ .reset ∧ HandedOver log frame :=
  since_snoc

section

variable (hnote : note.orders = false)

include hnote

theorem accepted_snoc_of_not_orders :
    Accepted (log ++ [note]) frame ↔ Accepted log frame := by
  rw [accepted_snoc]
  constructor
  · rintro (rfl | ⟨-, hacc⟩)
    · cases hnote
    · exact hacc
  · intro hacc
    refine .inr ⟨?_, hacc⟩
    rintro rfl
    cases hnote

theorem handedOver_snoc_of_not_orders :
    HandedOver (log ++ [note]) frame ↔ HandedOver log frame := by
  rw [handedOver_snoc]
  constructor
  · rintro (⟨_, _, _, _, rfl, -⟩ | ⟨-, hhanded⟩)
    · cases hnote
    · exact hhanded
  · intro hhanded
    refine .inr ⟨?_, hhanded⟩
    rintro rfl
    cases hnote

theorem ordered_of_not_orders : Ordered log note := by
  cases note <;> trivial

end

theorem InOrder.snoc (hin : InOrder queue log) (hnote : note.orders = false) :
    InOrder queue (log ++ [note]) where
  throughout := throughout_snoc.2 ⟨hin.throughout, ordered_of_not_orders hnote⟩
  items frame hmem := (accepted_snoc_of_not_orders hnote).2 (hin.items frame hmem)
  increasing := hin.increasing
  watermark frame hacc := hin.watermark frame ((accepted_snoc_of_not_orders hnote).1 hacc)
  behind frame hhanded := hin.behind frame ((handedOver_snoc_of_not_orders hnote).1 hhanded)

variable {notes : List Note}

section

variable (hin : InOrder queue log)

include hin

/-- Entries that order nothing. -/
theorem InOrder.append (hnotes : notes.any orders = false) :
    InOrder queue (log ++ notes) := by
  induction notes generalizing log with
  | nil => rwa [append_nil]
  | cons note notes ih =>
    rw [any_cons, Bool.or_eq_false_iff] at hnotes
    rw [← singleton_append, ← append_assoc]
    exact ih (hin.snoc hnotes.1) hnotes.2

/-! ## The queue -/

/-- Frames leave the queue. -/
theorem InOrder.shrink {after : PresentationQueue}
    (hitems : after.items.Sublist queue.items) (hep : after.latestEpoch = queue.latestEpoch)
    (hid : after.latestFrameId = queue.latestFrameId) : InOrder after log := by
  have hwatermark : after.watermark = queue.watermark := by
    simp only [PresentationQueue.watermark, hep, hid]
  exact
    { throughout := hin.throughout
      items := fun frame hmem => hin.items frame (hitems.subset hmem)
      increasing := hin.increasing.sublist hitems
      watermark := fun frame hacc => hwatermark ▸ hin.watermark frame hacc
      behind := fun frame hhanded =>
        ⟨hwatermark ▸ (hin.behind frame hhanded).1,
          fun other hmem => (hin.behind frame hhanded).2 other (hitems.subset hmem)⟩ }

/-- A frame joins the queue. -/
theorem InOrder.accept (hstale : queue.stale frame = false) :
    InOrder (queue.enqueue frame).2 (log ++ [.accepted frame]) := by
  have hfresh : queue.watermark ≤ frame.rank := by
    by_contra hlt
    rw [stale_iff.2 (by omega)] at hstale
    cases hstale
  obtain ⟨_, hkept, hitems⟩ := queue.enqueue_items frame
  constructor
  · refine throughout_snoc.2 ⟨hin.throughout, ?_⟩
    intro other hacc
    have := hin.watermark other hacc
    exact newer_iff_rank.2 (by omega)
  · intro other hmem
    rw [hitems, mem_append, mem_singleton] at hmem
    rcases hmem with hmem | rfl
    · exact accepted_snoc.2 (.inr ⟨nofun, hin.items other (hkept.subset hmem)⟩)
    · exact accepted_snoc.2 (.inl rfl)
  · rw [hitems, pairwise_append]
    refine ⟨hin.increasing.sublist hkept, pairwise_singleton _ _, ?_⟩
    intro other hmem frame' hfr'
    rw [mem_singleton] at hfr'
    subst hfr'
    have := hin.watermark other (hin.items other (hkept.subset hmem))
    omega
  · intro other hacc
    rw [watermark_enqueue]
    rcases accepted_snoc.1 hacc with heq | ⟨-, hbef⟩
    · cases heq
      omega
    · have := hin.watermark other hbef
      omega
  · intro other hhanded
    rcases handedOver_snoc.1 hhanded with ⟨_, _, _, _, heq, -⟩ | ⟨-, hbef⟩
    · cases heq
    obtain ⟨hlt, hqueued⟩ := hin.behind other hbef
    rw [watermark_enqueue, hitems]
    refine ⟨by omega, ?_⟩
    intro next hmem
    rw [mem_append, mem_singleton] at hmem
    rcases hmem with hmem | rfl
    · exact hqueued next (hkept.subset hmem)
    · omega

end

/-- Every frame before the last one of an increasing list is older. -/
theorem newer_of_getLast {frames : List PresentableFrame} {newest : PresentableFrame}
    (hincreasing : frames.Pairwise fun a b => a.rank < b.rank)
    (hnewest : frames.getLast? = some newest) {other : PresentableFrame} (hmem : other ∈ frames) :
    other = newest ∨ newest.Newer other := by
  obtain ⟨_, rfl⟩ := getLast?_eq_some_iff.1 hnewest
  rw [pairwise_append] at hincreasing
  rw [mem_append, mem_singleton] at hmem
  rcases hmem with hmem | rfl
  · exact .inr (newer_iff_rank.2 (hincreasing.2.2 other hmem newest (mem_singleton_self newest)))
  · exact .inl rfl

/-- A frame leaves the queue for the renderer. -/
theorem InOrder.present (hin : InOrder queue log) {nowNs : UInt64} {lease : PresentationLease}
    (hnewest : (queue.retained nowNs).getLast? = some lease.frame) :
    InOrder { queue with items := [] } (log ++ [.presented nowNs lease queue.items []]) := by
  have hretained : lease.frame ∈ queue.retained nowNs := mem_of_getLast? hnewest
  rw [retained, mem_filter, decide_eq_true_iff] at hretained
  obtain ⟨hqueued, hlive⟩ := hretained
  have hincreasing : (queue.retained nowNs).Pairwise fun a b => a.rank < b.rank :=
    hin.increasing.sublist filter_sublist
  have hacc := hin.items lease.frame hqueued
  constructor
  · refine throughout_snoc.2 ⟨hin.throughout, hlive, hacc, ?_, ?_, rfl⟩
    · intro other hhanded
      exact newer_iff_rank.2 ((hin.behind other hhanded).2 _ hqueued)
    · intro other hmem hunexpired
      refine newer_of_getLast hincreasing hnewest ?_
      rw [retained, mem_filter]
      exact ⟨hmem, decide_eq_true hunexpired⟩
  · exact fun _ hmem => absurd hmem not_mem_nil
  · exact nil
  · intro other hoth
    rcases accepted_snoc.1 hoth with heq | ⟨-, hbef⟩
    · cases heq
    · exact hin.watermark other hbef
  · intro other hhanded
    refine ⟨?_, fun _ hmem => absurd hmem not_mem_nil⟩
    rcases handedOver_snoc.1 hhanded with ⟨_, _, _, _, heq, rfl⟩ | ⟨-, hbef⟩
    · cases heq
      exact hin.watermark _ hacc
    · exact (hin.behind other hbef).1

/-- The continuity is reset. -/
theorem InOrder.reset (hin : InOrder queue log) (epoch : Option Epochs) :
    InOrder (queue.resetContinuity epoch) (log ++ [.reset]) where
  throughout := throughout_snoc.2 ⟨hin.throughout, trivial⟩
  items _ hmem := absurd hmem not_mem_nil
  increasing := nil
  watermark frame hacc := by
    rcases accepted_snoc.1 hacc with heq | ⟨hne, -⟩
    · cases heq
    · exact absurd rfl hne
  behind frame hhanded := by
    rcases handedOver_snoc.1 hhanded with ⟨_, _, _, _, heq, -⟩ | ⟨hne, -⟩
    · cases heq
    · exact absurd rfl hne

/-! ## The world -/

theorem move_orders {world : PresentationWorld} {move : RendererMove} :
    (world.move move).coordinator = world.coordinator ∧
      ∃ notes, (world.move move).log = world.log ++ notes ∧ notes.any orders = false := by
  have hnone : ∃ notes, world.log = world.log ++ notes ∧ notes.any orders = false :=
    ⟨[], (append_nil _).symm, rfl⟩
  cases move with
  | submitGuard idx submitNs queueDepthAfterSubmit loads =>
    simp only [move]
    split
    · split
      · exact ⟨rfl, hnone⟩
      · exact ⟨rfl, [_], rfl, rfl⟩
    · exact ⟨rfl, hnone⟩
  | rejectGuard idx e =>
    simp only [move]
    split
    all_goals exact ⟨rfl, hnone⟩
  | dropToken idx =>
    simp only [move]
    split
    · exact ⟨rfl, [_], rfl, rfl⟩
    all_goals exact ⟨rfl, hnone⟩
  | receive token =>
    simp only [move]
    split_ifs
    all_goals exact ⟨rfl, hnone⟩

/-- The frames of a world are in order. -/
def PresentationWorld.InOrder (world : PresentationWorld) : Prop :=
  Platform.InOrder world.coordinator.queue world.log

variable {world : PresentationWorld} (hin : world.InOrder)

open Platform.InOrder

include hin in
theorem inOrder_move (move : RendererMove) : (world.move move).InOrder := by
  obtain ⟨hcoordinator, _, hlog, hnotes⟩ := move_orders
  unfold PresentationWorld.InOrder
  rw [hcoordinator, hlog]
  exact append hin hnotes

include hin in
theorem inOrder_moves (moves : List RendererMove) :
    (moves.foldl PresentationWorld.move world).InOrder := by
  induction moves generalizing world with
  | nil => exact hin
  | cons move moves ih => exact ih (inOrder_move hin move)

include hin in
theorem inOrder_returned (outcome : PresentOutcome) :
    (world.returned outcome).2.InOrder := by
  unfold returned
  split
  · exact hin
  · split
    all_goals exact hin

include hin in
/-- A method of the coordinator that leaves the frames of the queue. -/
theorem inOrder_finish {coord : PresentationCoordinator}
    (hqueue : coord.queue = world.coordinator.queue) (hnotes : notes.any orders = false) :
    (world.finish coord notes).InOrder := by
  unfold PresentationWorld.InOrder finish
  rw [hqueue]
  exact append hin hnotes

variable (coord : PresentationCoordinator)

theorem settle_orders (lease : PresentationLease) {token? : Option Token} :
    (coord.settle lease token?).2.queue = coord.queue ∧
      (coord.settle lease token?).1.2.any orders = false := by
  unfold settle
  split
  iterate 2 split_ifs <;> exact ⟨rfl, rfl⟩
  all_goals exact ⟨rfl, rfl⟩

include hin in
theorem inOrder_submit (frame : PresentableFrame) (nowNs : UInt64) (loads : Loads) :
    (world.submit frame nowNs loads).2.InOrder := by
  rcases world.submit_cases frame nowNs loads with ⟨hstale, heq⟩ | heq
  · rw [heq]
    exact accept hin hstale
  · rw [heq]
    exact inOrder_finish hin rfl rfl

include hin in
theorem inOrder_presentNext (nowNs : UInt64) (loads : PresentationCoordinator.HandoffLoads)
    (moves : List RendererMove) (outcome : PresentOutcome) :
    (world.presentNext nowNs loads moves outcome).2.InOrder := by
  unfold presentNext
  rcases world.coordinator.handOff_cases nowNs loads with
    ⟨res, after, heq, hidles⟩ | ⟨lease, after, heq, hhands⟩
  · rw [heq]
    have hshrunk := shrink hin hidles.items hidles.latestEpoch hidles.latestFrameId
    simpa only [PresentationWorld.InOrder, finish, append_nil] using hshrunk
  rw [heq]
  -- The guard that joins the tokens is not part of the order.
  have hcalled : PresentationWorld.InOrder
      { world.finish after
          [.presented nowNs lease world.coordinator.queue.items after.queue.items] with
        tokens := world.tokens ++ [.guard lease] } := by
    rw [hhands.after_eq]
    exact present hin hhands.newest
  have hpres := inOrder_returned (inOrder_moves hcalled moves) outcome
  exact inOrder_finish hpres (settle_orders _ _).1 (settle_orders _ _).2

variable (answer : Option (Except PlatformError Unit))

theorem cancelInFlight_orders :
    (coord.cancelInFlight answer).2.queue = coord.queue ∧
      (coord.cancelInFlight answer).1.2.any orders = false := by
  unfold cancelInFlight
  split
  · exact ⟨rfl, rfl⟩
  split
  iterate 2 exact ⟨rfl, rfl⟩
  · rename_i inFlight _ _
    cases inFlight <;> exact ⟨rfl, rfl⟩

include hin in
theorem inOrder_shutdown :
    (world.finish (world.coordinator.shutdown answer).2
      (world.coordinator.shutdown answer).1.2).InOrder := by
  have hcancelled := cancelInFlight_orders world.coordinator answer
  unfold shutdown
  generalize world.coordinator.cancelInFlight answer = cancelled at hcancelled
  obtain ⟨⟨res, _⟩, _⟩ := cancelled
  obtain ⟨hqueue, hnotes⟩ := hcancelled
  have hfin := inOrder_finish hin hqueue hnotes
  rcases res with _ | _ | _
  · exact hfin
  · exact hfin
  · have hreset := reset hfin none
    simpa only [PresentationWorld.InOrder, finish, append_assoc] using hreset

include hin in
theorem inOrder_act (call : CoordinatorCall) : (world.act call).2.InOrder := by
  cases call with
  | submit frame nowNs loads => exact inOrder_submit hin frame nowNs loads
  | presentNext nowNs loads moves outcome => exact inOrder_presentNext hin nowNs loads moves outcome
  | pollPresentCompletion answer =>
    simp only [act, pollPresentCompletion]
    split
    iterate 4 exact inOrder_finish hin rfl rfl
    · split
      all_goals exact inOrder_finish hin rfl rfl
  | cancelInFlight answer =>
    obtain ⟨hqueue, hnotes⟩ := cancelInFlight_orders world.coordinator answer
    exact inOrder_finish hin hqueue hnotes
  | shutdown answer => exact inOrder_shutdown hin answer
  | resetEpochs displayEpoch codecEpoch =>
    simp only [act, resetEpochs]
    split
    · split_ifs
      all_goals exact inOrder_finish hin rfl rfl
    split_ifs
    · exact inOrder_finish hin rfl rfl
    · exact reset hin _
  | drop => exact hin

include hin in
theorem inOrder_step (call : PresentationCall) :
    (world.step call).2.InOrder := by
  cases call with
  | call call =>
    simp only [step]
    split_ifs
    · exact inOrder_act hin call
    · exact hin
  | move move => exact inOrder_move hin move

/-! ## What the log says -/

/-- The frame that an entry hands over. -/
def Note.handed? : Note → Option PresentableFrame
  | .presented _ lease _ _ => some lease.frame
  | _ => none

theorem Note.handed?_eq_some :
    note.handed? = some frame ↔
      ∃ nowNs lease queued remaining,
        note = .presented nowNs lease queued remaining ∧ lease.frame = frame := by
  constructor
  · intro hhanded
    cases note with
    | presented nowNs lease queued remaining =>
      exact ⟨nowNs, lease, queued, remaining, rfl, Option.some.inj hhanded⟩
    | _ => cases hhanded
  · rintro ⟨_, _, _, _, rfl, rfl⟩
    rfl

variable {before stretch : List Note}

/-- A frame that is handed over in the last stretch of the log. -/
theorem handedOver_of_mem (hreset : reset ∉ stretch)
    (hmem : frame ∈ stretch.filterMap handed?) :
    HandedOver (before ++ stretch) frame := by
  obtain ⟨note, hnote, hhanded⟩ := mem_filterMap.1 hmem
  obtain ⟨earlier, later, rfl⟩ := append_of_mem hnote
  refine ⟨before ++ earlier, note, later, by rw [append_assoc],
    handed?_eq_some.1 hhanded, ?_⟩
  rintro _ hlater rfl
  exact hreset (mem_append_right _ (mem_cons_of_mem _ hlater))

/-- Between two resets every frame that is handed over is newer than those before it. -/
theorem newer_of_throughout (hthru : Throughout Ordered (before ++ stretch))
    (hreset : reset ∉ stretch) :
    (stretch.filterMap handed?).Pairwise fun earlier later => later.Newer earlier := by
  induction stretch using reverseRecOn with
  | nil => exact List.Pairwise.nil
  | append_singleton stretch note ih =>
    rw [mem_append, not_or] at hreset
    rw [← append_assoc] at hthru
    obtain ⟨hbef, hordered⟩ := throughout_snoc.1 hthru
    rw [filterMap_append, pairwise_append]
    refine ⟨ih hbef hreset.1, ?_, ?_⟩
    · cases hnote : note.handed? <;> simp [hnote]
    · intro earlier hearlier later hlater
      obtain ⟨_, hmem, hhanded⟩ := mem_filterMap.1 hlater
      rw [mem_singleton] at hmem
      subst hmem
      obtain ⟨_, _, _, _, rfl, rfl⟩ := handed?_eq_some.1 hhanded
      exact hordered.2.2.1 earlier (handedOver_of_mem hreset.1 hearlier)

/-- In every run, whatever the renderer does, the frames that are handed over between two resets
get newer and newer, so that none is handed over twice.  Each of them was accepted in the same
stretch, is handed over before its deadline, and leaves nothing in the queue. -/
theorem presentation_is_monotone (coordinatorId : Option UInt64) (calls : List PresentationCall) :
    let log := (presentationMachine.run (start coordinatorId) calls).log
    Throughout Ordered log ∧
      ∀ before stretch after, log = before ++ stretch ++ after → Note.reset ∉ stretch →
        (stretch.filterMap Note.handed?).Pairwise fun earlier later => later.Newer earlier := by
  have hstart : (start coordinatorId).InOrder := inOrder_nil 1
  have hthru := (presentationMachine.run_induction hstart
    (fun _ call hin => inOrder_step hin call) calls).throughout
  refine ⟨hthru, ?_⟩
  intro before stretch after hlog hreset
  rw [hlog] at hthru
  exact newer_of_throughout hthru.of_append hreset

end LatencyDesk.Platform
