import LatencyDesk.Input.Wire
import LatencyDesk.Lib.Machine

/-!
# The input queue of the Windows viewer

The model of `InputEventQueue` in `native/windows/input_event_queue.hpp` and of
`window_event_to_input` in `apps/client/src/main.rs`.  The queue drops only motion until it
overflows, and after that it has no more than the marker to give (`queue_drops_only_motion`).

`window_event_to_input` leaves the position of a button event out, so that the host places it by
the last motion.  A full queue drops that motion (`full_queue_moves_a_click`).  While there is
room at every push, a click keeps its position (`clicks_keep_their_position`).
-/

namespace LatencyDesk.Input

open Lib List InputEvent

inductive InputKind where
  | mouseMove
  | button
  | key
  | wheel
  | releaseAll
  | overflow
deriving DecidableEq

structure QueuedInput where
  kind : InputKind
  button : UInt8 := 0
  pressed : Bool := false
  x : Int32 := 0
  y : Int32 := 0
  wheel : Int32 := 0
  vk : UInt32 := 0
deriving DecidableEq

/-- The queue between the window and the sender. -/
structure InputEventQueue where
  events : List QueuedInput
  overflowLatched : Bool

def isMouseMove (event : QueuedInput) : Bool := event.kind = .mouseMove

/-- Folds motion, and latches an overflow. -/
def InputEventQueue.push (queue : InputEventQueue) (event : QueuedInput) : InputEventQueue :=
  if queue.overflowLatched then queue
  else if isMouseMove event then
    if queue.events.getLast?.any isMouseMove then
      { queue with events := queue.events.dropLast ++ [event] }
    else if queue.events.length < 64 then { queue with events := queue.events ++ [event] }
    else queue
  else if queue.events.length < 64 then { queue with events := queue.events ++ [event] }
  else if queue.events.any isMouseMove then
    { queue with events := queue.events.eraseP isMouseMove ++ [event] }
  else ⟨[{ kind := .overflow }], true⟩

/-- The stream of a viewer, with the table of its keys.  For a longer side `i32::clamp` panics. -/
structure Stream where
  win32VkToHidUsage : UInt16 → Option UInt16
  width : UInt32
  height : UInt32
  width_le : width ≤ 0x80000000 := by decide
  height_le : height ≤ 0x80000000 := by decide

/-- `position.clamp(0, size.saturating_sub(1) as i32)`. -/
def clampTo (size : UInt32) (position : Int32) : UInt32 :=
  (max 0 (min (if size = 0 then 0 else size - 1).toInt32 position)).toUInt32

/-- What the sender makes of an event. -/
def Stream.windowEventToInput (stream : Stream) (event : QueuedInput) : Option InputEvent :=
  match event.kind with
  | .mouseMove => some (.pointerMotionAbsolute (clampTo stream.width event.x)
      (clampTo stream.height event.y) stream.width stream.height)
  | .button => some (.pointerButton event.button event.pressed)
  | .key => (stream.win32VkToHidUsage event.vk.toUInt16).map (.key · event.pressed)
  | .wheel => some (.wheel 0 (max (-32768) (min 32767 event.wheel)).toInt16)
  | .releaseAll => some .releaseAll
  | .overflow => none

def InputEventQueue.pop (queue : InputEventQueue) : Option QueuedInput × InputEventQueue :=
  (queue.events.head?, { queue with events := queue.events.tail })

/-- A queue with what has been pushed onto it and popped from it. -/
structure QueueRun where
  queue : InputEventQueue := ⟨[], false⟩
  pushed : List QueuedInput := []
  popped : List QueuedInput := []

inductive QueueCall where
  | push (event : QueuedInput)
  | pop

namespace QueueRun

def push (run : QueueRun) (event : QueuedInput) : QueueRun :=
  { run with queue := run.queue.push event, pushed := run.pushed ++ [event] }

def pop (run : QueueRun) : QueueRun :=
  { run with queue := run.queue.pop.2, popped := run.popped ++ run.queue.pop.1.toList }

end QueueRun

def queueMachine : Machine QueueRun QueueCall Unit where
  step
    | run, .push event => ((), run.push event)
    | run, .pop => ((), run.pop)

/-- The events that are popped or will be, as long as the queue drops none of them. -/
def QueueRun.passed (run : QueueRun) : List QueuedInput := run.popped ++ run.queue.events

variable {run : QueueRun} {queue : InputEventQueue}

/-- An event that the queue may not drop. -/
def isKept (event : QueuedInput) : Bool := !isMouseMove event

/-- A push drops only motion, or it meets a full queue without motion and leaves the marker alone
in it. -/
theorem push_cases (event : QueuedInput) (h : queue.overflowLatched = false) :
    ((queue.push event).overflowLatched = false ∧
        (queue.push event).events.filter isKept = (queue.events ++ [event]).filter isKept) ∨
      isMouseMove event = false ∧ 64 ≤ queue.events.length ∧ queue.events.any isMouseMove = false ∧
        queue.push event = ⟨[{ kind := .overflow }], true⟩ := by
  unfold InputEventQueue.push
  rw [h, if_neg Bool.false_ne_true]
  split_ifs with hmove hlast hroom hroom hany
  · obtain ⟨_, hget, hmouse⟩ := (Option.any_eq_true _ _).1 hlast
    obtain ⟨_, hevents⟩ := getLast?_eq_some_iff.1 hget
    simp [hevents, isKept, hmouse]
  · exact .inl ⟨rfl, rfl⟩
  · simp [h, isKept, hmove]
  · exact .inl ⟨rfl, rfl⟩
  · obtain ⟨_, hmem, hmouse⟩ := any_eq_true.1 hany
    obtain ⟨_, _, _, _, hfnd, hevents, herase⟩ := exists_of_eraseP hmem hmouse
    rw [herase, hevents]
    simp [isKept, hfnd]
  · simp_all

theorem pop_passed (run : QueueRun) : run.pop.passed = run.passed := by
  cases hevents : run.queue.events <;>
    simp [QueueRun.pop, InputEventQueue.pop, QueueRun.passed, hevents]

theorem length_push_le (event : QueuedInput) (h : queue.events.length ≤ 64) :
    (queue.push event).events.length ≤ 64 := by
  unfold InputEventQueue.push
  split_ifs <;> simp [length_eraseP, *] <;> omega

/-- An event other than motion met a full queue without motion.  What was popped before and the
marker are all that the queue gives. -/
def Overflowed (calls : List QueueCall) (passed : List QueuedInput) : Prop :=
  ∃ earlier event later, calls = earlier ++ .push event :: later ∧ isMouseMove event = false ∧
    let full := queueMachine.run {} earlier
    full.queue.overflowLatched = false ∧ 64 ≤ full.queue.events.length ∧
      full.queue.events.any isMouseMove = false ∧
      passed = full.popped ++ [{ kind := .overflow }]

theorem Overflowed.snoc {calls : List QueueCall} {passed : List QueuedInput}
    (h : Overflowed calls passed) (call : QueueCall) : Overflowed (calls ++ [call]) passed := by
  obtain ⟨earlier, event, later, rfl, hfull⟩ := h
  exact ⟨earlier, event, later ++ [call], append_assoc .., hfull⟩

structure Kept (calls : List QueueCall) (run : QueueRun) : Prop where
  bounded : run.queue.events.length ≤ 64
  inOrder : run.queue.overflowLatched = false →
    run.passed.filter isKept = run.pushed.filter isKept
  latched : run.queue.overflowLatched = true → Overflowed calls run.passed

variable {calls : List QueueCall}

theorem Kept.pop (h : Kept calls run) : Kept (calls ++ [.pop]) run.pop where
  bounded := by
    have htail : run.pop.queue.events.length = run.queue.events.length - 1 := length_tail
    have := h.bounded
    omega
  inOrder hopen := by
    rw [pop_passed]
    exact h.inOrder hopen
  latched hlatched := by
    rw [pop_passed]
    exact (h.latched hlatched).snoc _

theorem Kept.push (h : Kept calls run) (hrun : queueMachine.run {} calls = run)
    (event : QueuedInput) : Kept (calls ++ [.push event]) (run.push event) := by
  suffices (run.push event).queue.overflowLatched = false ∧
      (run.push event).passed.filter isKept = (run.push event).pushed.filter isKept ∨
      (run.push event).queue.overflowLatched = true ∧
        Overflowed (calls ++ [.push event]) (run.push event).passed by
    refine ⟨length_push_le event h.bounded, fun hopen => ?_, fun hlatched => ?_⟩
    · simpa [hopen] using this
    · simpa [hlatched] using this
  unfold QueueRun.push QueueRun.passed
  dsimp only
  cases hlatched : run.queue.overflowLatched with
  | true =>
    have hsame : run.queue.push event = run.queue := if_pos hlatched
    rw [hsame]
    exact .inr ⟨hlatched, (h.latched hlatched).snoc _⟩
  | false =>
    rcases push_cases event hlatched with ⟨hopen, hevents⟩ | ⟨hkind, hfull, hany, hmarker⟩
    · have horder := h.inOrder hlatched
      rw [QueueRun.passed, filter_append] at horder
      rw [filter_append, hevents, filter_append, filter_append, ← append_assoc, horder]
      exact .inl ⟨hopen, rfl⟩
    · rw [hmarker]
      subst hrun
      exact .inr ⟨rfl, calls, event, [], rfl, hkind, hlatched, hfull, hany, rfl⟩

/-- For every interleaving of pushes and pops the queue holds at most 64 events.  Until it
overflows, the events other than motion that are popped or queued are those pushed, in order.
After that only the marker follows what was popped before. -/
theorem queue_drops_only_motion (calls : List QueueCall) :
    Kept calls (queueMachine.run {} calls) := by
  induction calls using reverseRecOn with
  | nil => exact ⟨Nat.zero_le 64, fun _ => rfl, nofun⟩
  | append_singleton calls call ih =>
    rw [Machine.run_snoc]
    cases call with
    | push event => exact ih.push rfl event
    | pop => exact ih.pop

/-! ## The position of a click -/

def latestMotion (events : List QueuedInput) : Option QueuedInput :=
  (events.filter isMouseMove).getLast?

/-- A button event has the position of the latest motion. -/
def InPlace (events : List QueuedInput) (event : QueuedInput) : Prop :=
  event.kind = .button → ∃ motion ∈ latestMotion events, motion.x = event.x ∧ motion.y = event.y

/-- Every button event has the position of the latest motion before it. -/
def AllInPlace (events : List QueuedInput) : Prop :=
  ∀ before event after, events = before ++ event :: after → InPlace before event

variable {events : List QueuedInput} {event : QueuedInput}

theorem allInPlace_snoc :
    AllInPlace (events ++ [event]) ↔ AllInPlace events ∧ InPlace events event := by
  constructor
  · intro h
    refine ⟨fun before next after heq => h before next (after ++ [event]) ?_, h events event [] rfl⟩
    rw [heq, append_assoc, cons_append]
  · rintro ⟨hall, hlast⟩ before next after heq
    rcases eq_nil_or_concat' after with rfl | ⟨after, last, rfl⟩
    · obtain ⟨rfl, hnext⟩ := append_inj' heq rfl
      rwa [← (cons.inj hnext).1]
    · rw [← cons_append, ← append_assoc] at heq
      exact hall before next after (append_inj' heq rfl).1

/-- There is room for the event, and it is in place. -/
def QueueRun.roomFor (run : QueueRun) : QueueCall → Prop
  | .push event => run.queue.events.length < 64 ∧ InPlace run.pushed event
  | .pop => True

/-- The position that the next click would get is that of the latest motion pushed. -/
structure Placed (run : QueueRun) : Prop where
  opened : run.queue.overflowLatched = false
  latest : latestMotion run.passed = latestMotion run.pushed
  inPlace : AllInPlace run.passed

theorem latestMotion_snoc : latestMotion (events ++ [event]) =
    if isMouseMove event then some event else latestMotion events := by
  unfold latestMotion
  split <;> simp [*]

theorem Placed.push (h : Placed run) (hroom : run.queue.events.length < 64)
    (hplace : InPlace run.pushed event) : Placed (run.push event) := by
  obtain ⟨hopen, hlatest, hall⟩ := h
  unfold QueueRun.push InputEventQueue.push
  rw [hopen, if_neg Bool.false_ne_true, if_pos hroom, if_pos hroom]
  split_ifs with hmove hlast
  · obtain ⟨motion, hget, hmouse⟩ := (Option.any_eq_true _ _).1 hlast
    obtain ⟨front, hevents⟩ := getLast?_eq_some_iff.1 hget
    rw [QueueRun.passed, hevents, ← append_assoc, allInPlace_snoc] at hall
    refine ⟨rfl, ?_, ?_⟩
    · simp [QueueRun.passed, hevents, ← append_assoc, latestMotion_snoc, hmove]
    · simp only [QueueRun.passed, hevents, dropLast_concat, ← append_assoc]
      refine allInPlace_snoc.2 ⟨hall.1, fun hbutton => ?_⟩
      rw [isMouseMove, hbutton] at hmove
      cases hmove
  all_goals
    unfold InPlace at hplace
    rw [← hlatest] at hplace
    refine ⟨rfl, ?_, ?_⟩
    · simp only [QueueRun.passed, ← append_assoc, latestMotion_snoc]
      rw [← hlatest, QueueRun.passed]
    · simp only [QueueRun.passed, ← append_assoc]
      exact allInPlace_snoc.2 ⟨hall, hplace⟩

theorem Placed.step (call : QueueCall) (hcall : run.roomFor call) (h : Placed run) :
    Placed (queueMachine.step run call).2 := by
  cases call with
  | push event => exact h.push hcall.1 hcall.2
  | pop => exact ⟨h.opened, pop_passed run ▸ h.latest, pop_passed run ▸ h.inPlace⟩

def InputEvent.isMotion : InputEvent → Bool
  | .pointerMotionAbsolute .. => true
  | _ => false

/-- The last place of the pointer that the host is told. -/
def lastPlace (inputs : List InputEvent) : Option InputEvent := (inputs.filter isMotion).getLast?

def Stream.placeOf (stream : Stream) (event : QueuedInput) : InputEvent :=
  .pointerMotionAbsolute (clampTo stream.width event.x) (clampTo stream.height event.y)
    stream.width stream.height

theorem filter_windowEventToInput (stream : Stream) (event : QueuedInput) :
    (stream.windowEventToInput event).toList.filter isMotion =
      if isMouseMove event then [stream.placeOf event] else [] := by
  unfold Stream.windowEventToInput isMouseMove
  cases hkind : event.kind with
  | key =>
    dsimp only
    cases stream.win32VkToHidUsage event.vk.toUInt16 <;> rfl
  | _ => rfl

theorem lastPlace_filterMap (stream : Stream) (events : List QueuedInput) :
    lastPlace (events.filterMap stream.windowEventToInput) =
      (latestMotion events).map stream.placeOf := by
  induction events using reverseRecOn with
  | nil => rfl
  | append_singleton events event ih =>
    rw [lastPlace, filterMap_snoc, filter_append, filter_windowEventToInput, latestMotion_snoc]
    split
    · simp
    · rwa [append_nil]

/-- Where each button event is pushed with the position of the latest motion and no push finds the
queue full, the host is told that position before the click. -/
theorem clicks_keep_their_position (stream : Stream) {calls : List QueueCall}
    (hcalls : queueMachine.Along QueueRun.roomFor {} calls) {before after : List QueuedInput}
    {event : QueuedInput}
    (hpopped : (queueMachine.run {} calls).popped = before ++ event :: after)
    (hkind : event.kind = .button) :
    lastPlace (before.filterMap stream.windowEventToInput) = some (stream.placeOf event) := by
  have hplaced := (queueMachine.along_induction (P := Placed) (Q := fun _ => True)
    (fun run call hcall h => ⟨h.step call hcall, trivial⟩)
    ⟨rfl, rfl, fun _ _ _ hnil => by simp [QueueRun.passed] at hnil⟩ hcalls).1
  obtain ⟨motion, hmotion, hx, hy⟩ := hplaced.inPlace before event
    (after ++ (queueMachine.run {} calls).queue.events)
    (by rw [QueueRun.passed, hpopped, append_assoc, cons_append]) hkind
  rw [lastPlace_filterMap, hmotion, Option.map_some]
  simp [Stream.placeOf, hx, hy]

def sampleStream : Stream := { win32VkToHidUsage := fun _ => none, width := 1_920, height := 1_080 }

def sampleMotion : QueuedInput := { kind := .mouseMove, x := 5, y := 5 }

def sampleClick : QueuedInput := { kind := .button, pressed := true, x := 5, y := 5 }

theorem sample_click_keeps_its_position :
    lastPlace ([sampleMotion].filterMap sampleStream.windowEventToInput) =
      some (sampleStream.placeOf sampleClick) :=
  have hcalls : queueMachine.Along QueueRun.roomFor {}
      [.push sampleMotion, .push sampleClick, .pop, .pop] :=
    ⟨⟨by decide, nofun⟩, ⟨by decide, fun _ => ⟨_, rfl, rfl, rfl⟩⟩, trivial, trivial, trivial⟩
  clicks_keep_their_position sampleStream hcalls
    (show _ = [sampleMotion] ++ sampleClick :: [] from rfl) rfl

/-- The queue is full of wheel events and refuses the motion.  After a pop it takes the click. -/
theorem full_queue_moves_a_click :
    let run := queueMachine.run {} (replicate 64 (.push { kind := .wheel }) ++
      [.push sampleMotion, .pop, .push sampleClick] ++ replicate 64 .pop)
    run.pushed = replicate 64 { kind := .wheel } ++ [sampleMotion, sampleClick] ∧
      run.popped = replicate 64 { kind := .wheel } ++ [sampleClick] ∧
      lastPlace (run.popped.filterMap sampleStream.windowEventToInput) = none := by
  decide +kernel

end LatencyDesk.Input
