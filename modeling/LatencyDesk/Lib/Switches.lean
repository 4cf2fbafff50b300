import Mathlib.Data.List.Nodup

/-!
# Boards of switches

A board says of every switch whether it is on.  An action sets one switch, and
it is effective when the switch was the other way before.  `flips` is the list
of actions that takes one board to another over a list of switches, and it is
the shape of every reconciliation loop: visit each switch once, compare, and
act where the two boards differ.

`setAll_flips` says that the list does its work, and `effective_flips` that
none of its actions is redundant.  Both need that no switch is visited twice.
-/

namespace LatencyDesk.Lib

open Function List

variable {K : Type}

/-- Which switches are on. -/
abbrev Board (K : Type) := K → Bool

/-- The actions that take one board to another over the listed switches. -/
def flips (current desired : Board K) (keys : List K) : List (K × Bool) :=
  (keys.filter fun k => current k != desired k).map fun k => (k, desired k)

variable {keys : List K}

theorem flips_congr {current current' desired : Board K} (h : ∀ k ∈ keys, current k = current' k) :
    flips current desired keys = flips current' desired keys := by
  rw [flips]
  congr 1
  apply filter_congr
  intro k hk
  rw [h k hk]

variable (current desired : Board K)

theorem flips_append (xs ys : List K) :
    flips current desired (xs ++ ys) = flips current desired xs ++ flips current desired ys := by
  rw [flips, filter_append, map_append, flips, flips]

variable [DecidableEq K]

/-- The board after one action. -/
def setOne (board : Board K) (action : K × Bool) : Board K :=
  Function.update board action.1 action.2

variable (board : Board K) (action : K × Bool)

theorem setOne_apply (k : K) :
    setOne board action k = if k = action.1 then action.2 else board k :=
  update_apply ..

/-- The board after the actions, in order. -/
def setAll (board : Board K) (actions : List (K × Bool)) : Board K :=
  actions.foldl setOne board

@[simp] theorem setAll_nil : setAll board [] = board := rfl

@[simp] theorem setAll_cons (actions : List (K × Bool)) :
    setAll board (action :: actions) = setAll (setOne board action) actions := rfl

theorem setAll_append (xs ys : List (K × Bool)) :
    setAll board (xs ++ ys) = setAll (setAll board xs) ys :=
  foldl_append

variable {board : Board K} {actions : List (K × Bool)} {k : K}

/-- Actions that turn switches on leave on what is on. -/
theorem setAll_on (hactions : ∀ action ∈ actions, action.2 = true) (hk : board k = true) :
    setAll board actions k = true := by
  induction actions generalizing board with
  | nil => exact hk
  | cons action actions ih =>
    rw [forall_mem_cons] at hactions
    apply ih hactions.2
    by_cases heq : k = action.1
    · subst heq
      rw [setOne, update_self]
      exact hactions.1
    · rw [setOne, update_of_ne heq]
      exact hk

/-- A switch that goes off has an action that turns it off. -/
theorem mem_of_setAll (hoff : setAll board actions k = false) (hon : board k = true) :
    (k, false) ∈ actions := by
  induction actions generalizing board with
  | nil => simp [hon] at hoff
  | cons action actions ih =>
    by_cases heq : action = (k, false)
    · simp [heq]
    · refine mem_cons_of_mem _ (ih hoff ?_)
      grind [setOne_apply]

/-- Every action changes the board that it acts on. -/
def Effective (board : Board K) : List (K × Bool) → Prop
  | [] => True
  | action :: actions => board action.1 ≠ action.2 ∧ Effective (setOne board action) actions

theorem effective_append {xs ys : List (K × Bool)} :
    Effective board (xs ++ ys) ↔ Effective board xs ∧ Effective (setAll board xs) ys := by
  induction xs generalizing board with
  | nil => simp [Effective]
  | cons action xs ih =>
    rw [cons_append, Effective, ih, Effective, setAll_cons, and_assoc]

theorem flips_cons {key : K} (hkey : key ∉ keys) :
    (current key = desired key ∧
        flips current desired (key :: keys) = flips current desired keys) ∨
      (current key ≠ desired key ∧
        flips current desired (key :: keys) =
          (key, desired key) :: flips (setOne current (key, desired key)) desired keys) := by
  by_cases heq : current key = desired key
  · simp [flips, heq]
  have hrest : flips current desired keys =
      flips (setOne current (key, desired key)) desired keys := by
    apply flips_congr
    intro k hk
    have hne : k ≠ key := fun h => hkey (h ▸ hk)
    rw [setOne, update_of_ne hne]
  rw [← hrest]
  simp [flips, heq]

/-- The actions set the listed switches and no other. -/
theorem setAll_flips (hnodup : keys.Nodup) :
    setAll current (flips current desired keys) =
      fun k => if k ∈ keys then desired k else current k := by
  induction keys generalizing current with
  | nil => simp [flips]
  | cons key keys ih =>
    rw [nodup_cons] at hnodup
    funext k
    rcases flips_cons current desired hnodup.1 with ⟨heq, hflips⟩ | ⟨_, hflips⟩
    · rw [hflips, ih _ hnodup.2]
      by_cases hk : k = key
      · subst hk
        simp [heq]
      · simp [hk]
    · rw [hflips, setAll_cons, ih _ hnodup.2]
      by_cases hk : k = key
      · subst hk
        simp [setOne]
      · simp [hk, setOne]

/-- No action of the list is redundant. -/
theorem effective_flips (hnodup : keys.Nodup) :
    Effective current (flips current desired keys) := by
  induction keys generalizing current with
  | nil => trivial
  | cons key keys ih =>
    rw [nodup_cons] at hnodup
    rcases flips_cons current desired hnodup.1 with ⟨_, hflips⟩ | ⟨hne, hflips⟩
    · rw [hflips]
      exact ih _ hnodup.2
    · rw [hflips]
      exact ⟨hne, ih _ hnodup.2⟩

end LatencyDesk.Lib
