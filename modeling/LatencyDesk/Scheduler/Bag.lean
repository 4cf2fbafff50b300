import LatencyDesk.Scheduler.DeadlineScheduler
import Mathlib.Algebra.BigOperators.Group.Multiset.Basic
import Mathlib.Algebra.Order.BigOperators.Group.Multiset

/-!
# A bounded bag of items

What the scheduler is for, without its vector: a multiset of items under two caps.
A push first lets go of what has expired, then of the least urgent items below the
class of the new one while there is no room, and a pop takes the most urgent item.

`SpecPush` and `SpecPop` say which results and which next bags are allowed.  They
determine the bag up to the choice between items of the same urgency.
-/

namespace LatencyDesk.Scheduler

open Lib Multiset

abbrev Bag := Multiset ScheduledItem

namespace Bag

/-- The bytes of all items. -/
def total (bag : Bag) : Nat := (bag.map (·.payloadBytes.toNat)).sum

def expired (bag : Bag) (now : Nat) : Bag := bag.filter (·.deadline ≤ now)

def live (bag : Bag) (now : Nat) : Bag := bag.filter (now < ·.deadline)

@[simp] theorem total_add {bag bag' : Bag} : total (bag + bag') = total bag + total bag' := by
  simp [total]

@[simp] theorem total_cons (item : ScheduledItem) (bag : Bag) :
    total (item ::ₘ bag) = item.payloadBytes.toNat + total bag := by
  simp [total]

theorem expired_add_live (bag : Bag) {now : Nat} : bag.expired now + bag.live now = bag := by
  simpa [expired, live] using filter_add_not (·.deadline ≤ now) bag

/-- A bag that was split into what has expired and what has not. -/
theorem eq_expired_live {bag old rest : Bag} {now : Nat} (hsum : old + rest = bag)
    (hold : ∀ item ∈ old, item.deadline ≤ now) (hrest : ∀ item ∈ rest, now < item.deadline) :
    old = bag.expired now ∧ rest = bag.live now := by
  subst hsum
  have hnone : rest.filter (·.deadline ≤ now) = 0 :=
    filter_eq_nil.2 fun item hitem => Nat.not_le.2 (hrest item hitem)
  have hnone' : old.filter (now < ·.deadline) = 0 :=
    filter_eq_nil.2 fun item hitem => Nat.not_lt.2 (hold item hitem)
  unfold expired live
  rw [filter_add, filter_add, hnone, hnone', add_zero, zero_add,
    filter_eq_self.2 hold, filter_eq_self.2 hrest]
  exact ⟨rfl, rfl⟩

end Bag

/-- The caps of a scheduler. -/
structure Caps where
  items : Nat
  bytes : Nat

/-- A cap would be exceeded with the item. -/
def Caps.Full (caps : Caps) (bag : Bag) (item : ScheduledItem) : Prop :=
  caps.items ≤ bag.card ∨ caps.bytes < bag.total + item.payloadBytes.toNat

/-- The item is queued, it is less urgent by class, and no such item is less urgent. -/
structure Victim (bag : Bag) (item victim : ScheduledItem) : Prop where
  mem : victim ∈ bag
  lessUrgent : item.priority.rank < victim.priority.rank
  greatest : ∀ other ∈ bag, item.priority.rank < other.priority.rank →
    other.urgency ≤ victim.urgency

/-- Evictions for an item, one after the other, each of them while a cap would be exceeded. -/
inductive Evicts (caps : Caps) (item : ScheduledItem) : Bag → List ScheduledItem → Bag → Prop where
  | done (bag : Bag) : Evicts caps item bag [] bag
  | evict {victim : ScheduledItem} {bag rest : Bag} {evicted : List ScheduledItem} :
      caps.Full (victim ::ₘ bag) item → Victim (victim ::ₘ bag) item victim →
      Evicts caps item bag evicted rest → Evicts caps item (victim ::ₘ bag) (victim :: evicted) rest

/-- What a push may do. -/
inductive SpecPush (caps : Caps) (item : ScheduledItem) (now : Nat) (bag : Bag) :
    DeadlineScheduler.Push → Bag → Prop where
  | oversize : caps.bytes < item.payloadBytes.toNat →
      SpecPush caps item now bag ⟨.rejectedOversize, [], []⟩ bag
  | rejected {expired evicted : List ScheduledItem} {rest : Bag} :
      (expired : Bag) = bag.expired now → Evicts caps item (bag.live now) evicted rest →
      caps.Full rest item → (∀ other ∈ rest, other.priority.rank ≤ item.priority.rank) →
      SpecPush caps item now bag ⟨.rejectedCapacity, expired, evicted⟩ rest
  | inserted {expired evicted : List ScheduledItem} {rest : Bag} :
      (expired : Bag) = bag.expired now → Evicts caps item (bag.live now) evicted rest →
      ¬caps.Full rest item →
      SpecPush caps item now bag
        ⟨.inserted (expired.length + evicted.length), expired, evicted⟩ (item ::ₘ rest)

/-- What `pop_next` may do. -/
inductive SpecPop (now : Nat) (bag : Bag) : DeadlineScheduler.Pop → Bag → Prop where
  | empty {expired : List ScheduledItem} :
      (expired : Bag) = bag.expired now → bag.live now = 0 → SpecPop now bag ⟨none, expired⟩ 0
  | popped {item : ScheduledItem} {expired : List ScheduledItem} {rest : Bag} :
      (expired : Bag) = bag.expired now → item ::ₘ rest = bag.live now →
      (∀ other ∈ rest, item.urgency ≤ other.urgency) →
      SpecPop now bag ⟨some item, expired⟩ rest

section

variable {caps : Caps} {item : ScheduledItem} {now : Nat} {bag bag' : Bag}

theorem Evicts.conserves {evicted : List ScheduledItem} (h : Evicts caps item bag evicted bag') :
    (evicted : Bag) + bag' = bag := by
  induction h with
  | done bag => exact zero_add bag
  | evict _ _ _ ih => rw [← cons_coe, cons_add, ih]

/-- The items that a push puts into the bag. -/
def pushInserted (item : ScheduledItem) : PushOutcome → Bag
  | .inserted _ => {item}
  | _ => 0

/-- A push takes items out of the bag and then puts in its own. -/
theorem SpecPush.removes {res : DeadlineScheduler.Push}
    (h : SpecPush caps item now bag res bag') :
    ∃ kept, (res.expired : Bag) + res.evicted + kept = bag ∧
      bag' = kept + pushInserted item res.outcome := by
  cases h with
  | oversize => exact ⟨bag, zero_add _, (add_zero _).symm⟩
  | rejected hexp hevicts =>
    refine ⟨bag', ?_, (add_zero _).symm⟩
    rw [hexp, add_assoc, hevicts.conserves, Bag.expired_add_live]
  | @inserted expired evicted rest hexp hevicts =>
    refine ⟨rest, ?_, ?_⟩
    · rw [hexp, add_assoc, hevicts.conserves, Bag.expired_add_live]
    · rw [add_comm]
      rfl

theorem SpecPop.conserves {res : DeadlineScheduler.Pop} (h : SpecPop now bag res bag') :
    (res.expired : Bag) + (res.item.toList : Bag) + bag' = bag := by
  cases h with
  | empty hexp hlive =>
    show _ + 0 + 0 = bag
    rw [hexp, add_zero, add_zero]
    conv_rhs => rw [← Bag.expired_add_live bag, hlive, add_zero]
  | @popped item expired rest hexp hlive =>
    show (expired : Bag) + {item} + bag' = bag
    rw [hexp, add_assoc, singleton_add, hlive, Bag.expired_add_live]

end

end LatencyDesk.Scheduler
