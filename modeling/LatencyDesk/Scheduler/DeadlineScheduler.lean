import LatencyDesk.Lib.Machine
import LatencyDesk.Lib.Selection
import LatencyDesk.Lib.Word
import Mathlib.Data.Prod.Lex

/-!
# The deadline scheduler

The model of `crates/scheduler/src/lib.rs`.  An `Instant` is a number.  `usize` is
`UInt64`, so the byte counter wraps as it does in a release build.

The loops take entries out of the vector with `swap_remove` while they go over it.
`dropExpired` and `evictFor` also return the items that they take out, which the
source only counts.
-/

namespace LatencyDesk.Scheduler

open Lib

inductive PriorityClass where
  | input
  | control
  | recoveryVideo
  | realtimeVideo
  | audio
  | refinement
deriving DecidableEq

/-- Lower ranks are more urgent. -/
def PriorityClass.rank : PriorityClass → Nat
  | .input => 0
  | .control => 1
  | .recoveryVideo => 2
  | .realtimeVideo => 3
  | .audio => 4
  | .refinement => 5

structure ScheduledItem where
  id : UInt64
  priority : PriorityClass
  deadline : Nat
  payloadBytes : UInt64
deriving DecidableEq

/-- The order of the comparators: by class, then by deadline, then by id. -/
def ScheduledItem.urgency (item : ScheduledItem) : ℕ ×ₗ ℕ ×ₗ ℕ :=
  toLex (item.priority.rank, toLex (item.deadline, item.id.toNat))

inductive PushOutcome where
  | inserted (evicted : Nat)
  | rejectedOversize
  | rejectedCapacity
deriving DecidableEq

/-- A bounded queue of items with deadlines. -/
structure DeadlineScheduler where
  maxItems : Nat
  maxBytes : UInt64
  queuedBytes : UInt64
  items : List ScheduledItem

namespace DeadlineScheduler

/-- `new`, which panics when a cap is zero. -/
def new (maxItems : Nat) (maxBytes : UInt64) : Option DeadlineScheduler :=
  if 0 < maxItems ∧ 0 < maxBytes then
    some { maxItems := maxItems, maxBytes := maxBytes, queuedBytes := 0, items := [] }
  else
    none

/-- `swap_remove` of an item and the subtraction of its bytes. -/
def removeAt (s : DeadlineScheduler) (index : Fin s.items.length) : DeadlineScheduler :=
  { s with
    queuedBytes := s.queuedBytes - (s.items.get index).payloadBytes
    items := swapRemove s.items index }

/-- The loop of `drop_expired`, from an index on. -/
def dropExpiredFrom (now : Nat) (s : DeadlineScheduler) (index : Nat) :
    List ScheduledItem × DeadlineScheduler :=
  if h : index < s.items.length then
    if (s.items.get ⟨index, h⟩).deadline ≤ now then
      let next := dropExpiredFrom now (s.removeAt ⟨index, h⟩) index
      (s.items.get ⟨index, h⟩ :: next.1, next.2)
    else
      dropExpiredFrom now s (index + 1)
  else
    ([], s)
termination_by s.items.length - index
decreasing_by
  · simp only [removeAt, length_swapRemove]
    omega
  · omega

/-- Takes out what is past its deadline. -/
def dropExpired (s : DeadlineScheduler) (now : Nat) : List ScheduledItem × DeadlineScheduler :=
  dropExpiredFrom now s 0

/-- A cap would be exceeded with the item. -/
def isFullFor (s : DeadlineScheduler) (item : ScheduledItem) : Bool :=
  s.maxItems ≤ s.items.length || s.maxBytes < saturatingAdd s.queuedBytes item.payloadBytes

/-- The item that a push evicts next. -/
def victim (s : DeadlineScheduler) (item : ScheduledItem) : Option (Fin s.items.length) :=
  greatestBy (fun index => (s.items.get index).urgency)
    ((List.finRange s.items.length).filter fun index =>
      item.priority.rank < (s.items.get index).priority.rank)

/-- The eviction loop of `push`.  It says whether there is room for the item. -/
def evictFor (item : ScheduledItem) (s : DeadlineScheduler) :
    List ScheduledItem × Bool × DeadlineScheduler :=
  if s.isFullFor item then
    match s.victim item with
    | none => ([], false, s)
    | some index =>
      let next := evictFor item (s.removeAt index)
      (s.items.get index :: next.1, next.2)
  else
    ([], true, s)
termination_by s.items.length
decreasing_by
  have hindex := index.isLt
  simp only [removeAt, length_swapRemove]
  omega

/-- What a push does: its outcome, the items that had expired, and the items that it evicted. -/
structure Push where
  outcome : PushOutcome
  expired : List ScheduledItem
  evicted : List ScheduledItem

/-- Evicts less urgent items until the new one fits. -/
def push (s : DeadlineScheduler) (item : ScheduledItem) (now : Nat) : Push × DeadlineScheduler :=
  if s.maxBytes < item.payloadBytes then
    (⟨.rejectedOversize, [], []⟩, s)
  else
    let (expired, s) := s.dropExpired now
    match evictFor item s with
    | (evicted, false, s) => (⟨.rejectedCapacity, expired, evicted⟩, s)
    | (evicted, true, s) =>
      (⟨.inserted (expired.length + evicted.length), expired, evicted⟩,
        { s with
          queuedBytes := s.queuedBytes + item.payloadBytes
          items := s.items ++ [item] })

/-- The index of the most urgent item. -/
def mostUrgent (s : DeadlineScheduler) : Option (Fin s.items.length) :=
  leastBy (fun index => (s.items.get index).urgency) (List.finRange s.items.length)

/-- What `pop_next` does: the item that it returns, and the items that had expired. -/
structure Pop where
  item : Option ScheduledItem
  expired : List ScheduledItem

/-- Takes the most urgent item that has not expired. -/
def popNext (s : DeadlineScheduler) (now : Nat) : Pop × DeadlineScheduler :=
  let (expired, s) := s.dropExpired now
  match s.mostUrgent with
  | none => (⟨none, expired⟩, s)
  | some index => (⟨some (s.items.get index), expired⟩, s.removeAt index)

/-- What `popNext` would take. -/
def peek (s : DeadlineScheduler) (now : Nat) : Option ScheduledItem :=
  leastBy ScheduledItem.urgency (s.items.filter fun item => now < item.deadline)

end DeadlineScheduler

/-! ## The scheduler as a machine -/

inductive SchedulerCall where
  | push (item : ScheduledItem) (now : Nat)
  | popNext (now : Nat)

inductive SchedulerEvent where
  | pushed (item : ScheduledItem) (now : Nat) (result : DeadlineScheduler.Push)
  | popped (now : Nat) (result : DeadlineScheduler.Pop)

def schedulerMachine : Machine DeadlineScheduler SchedulerCall SchedulerEvent where
  step s
    | .push item now => record (.pushed item now) (s.push item now)
    | .popNext now => record (.popped now) (s.popNext now)

end LatencyDesk.Scheduler
