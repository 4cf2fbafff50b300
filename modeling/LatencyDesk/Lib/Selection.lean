import Mathlib.Data.List.Perm.Basic
import Mathlib.Order.Lattice

/-!
# Taking entries out of an unordered vector

`swapRemove` is `Vec::swap_remove`: the last entry takes the place of the one that
is removed.  `perm_swapRemove` says that nothing else happens to the entries.

`leastBy` and `greatestBy` are `Iterator::min_by` and `Iterator::max_by` for an
order that is given by a key.  On ties the one returns the first entry and the
other one the last.  Both keep the best entry so far (`choose`), and what a caller
needs of them is that the entry is one of the list (`choose_mem`) and that its key
is the least or the greatest (`leastBy_le`, `le_greatestBy`).
-/

namespace LatencyDesk.Lib

open List

section SwapRemove

variable {α : Type}

/-- `Vec::swap_remove`, for the vector that is left. -/
def swapRemove (items : List α) (i : Fin items.length) : List α :=
  (items.set i (items.getLast (List.ne_nil_of_length_pos (Nat.zero_lt_of_lt i.isLt)))).dropLast

section

variable (items : List α) (i : Fin items.length)

@[simp] theorem length_swapRemove :
    (swapRemove items i).length = items.length - 1 := by
  simp [swapRemove]

theorem perm_swapRemove :
    (items.get i :: swapRemove items i).Perm items := by
  obtain ⟨i, hi⟩ := i
  have hne : items ≠ [] := ne_nil_of_length_pos (Nat.zero_lt_of_lt hi)
  obtain ⟨front, last, rfl⟩ := eq_nil_or_concat' items |>.resolve_left hne
  unfold swapRemove
  simp only [getLast_append_singleton]
  by_cases hlast : i < front.length
  · rw [set_append_left _ _ hlast, dropLast_concat, get_eq_getElem, getElem_append_left hlast]
    -- The removed entry and the last one change places.
    have hswap : (front[i] :: front.set i last).Perm (last :: front) :=
      set_perm_cons_eraseIdx hlast last |>.cons _ |>.trans (List.Perm.swap _ _ _) |>.trans
        ((getElem_cons_eraseIdx_perm hlast).cons _)
    exact hswap.trans (perm_append_singleton last front).symm
  · have hi' : i = front.length := by
      simp only [length_append, length_cons, length_nil] at hi
      omega
    subst hi'
    simp only [get_eq_getElem, getElem_concat_length, set_append_right _ _ (Nat.le_refl _),
      Nat.sub_self, set_cons_zero, dropLast_concat]
    exact (perm_append_singleton last front).symm

/-- The entries before the removed one stay where they are. -/
theorem getElem_swapRemove_of_lt {j : Nat} (hj : j < i) (hlt : j < (swapRemove items i).length) :
    (swapRemove items i)[j] = items.get ⟨j, Nat.lt_trans hj i.isLt⟩ := by
  have hne : (i : Nat) ≠ j := by omega
  simp only [swapRemove, getElem_dropLast, getElem_set_ne hne, get_eq_getElem]

end

end SwapRemove

section Selection

variable {α κ : Type}

/-- The entry that is left when `replaces best item` decides of each entry whether it takes the
place of the best one so far. -/
def choose (replaces : α → α → Bool) : List α → Option α
  | [] => none
  | first :: rest =>
    some (rest.foldl (fun best item => if replaces best item then item else best) first)

variable {items : List α} {replaces : α → α → Bool}

@[simp] theorem choose_eq_none :
    choose replaces items = none ↔ items = [] := by
  cases items <;> simp [choose]

variable {item : α}

theorem choose_mem (h : choose replaces items = some item) :
    item ∈ items := by
  have hfold : ∀ rest first,
      rest.foldl (fun best item => if replaces best item then item else best) first ∈
        first :: rest := by
    intro rest
    induction rest with
    | nil => exact fun _ => mem_singleton_self _
    | cons next rest ih =>
      intro first
      rw [foldl_cons]
      rcases mem_cons.1 (ih (if replaces first next then next else first)) with hkept | hlater
      · rw [hkept]
        split_ifs
        · exact mem_cons_of_mem _ mem_cons_self
        · exact mem_cons_self
      · exact mem_cons_of_mem _ (mem_cons_of_mem _ hlater)
  cases items with
  | nil => cases h
  | cons first rest =>
    cases h
    exact hfold rest first

/-- What is chosen is below every entry, when an entry is replaced by one below it and kept
otherwise. -/
theorem choose_below {B : α → α → Prop} (hrefl : ∀ a, B a a)
    (htrans : ∀ a b c, B a b → B b c → B a c)
    (hreplaced : ∀ best item, replaces best item = true → B item best)
    (hkept : ∀ best item, replaces best item = false → B best item)
    (h : choose replaces items = some item) :
    ∀ other ∈ items, B item other := by
  have hfold : ∀ rest first other, other ∈ first :: rest →
      B (rest.foldl (fun best item => if replaces best item then item else best) first)
        other := by
    intro rest
    induction rest with
    | nil =>
      intro first other hoth
      rw [mem_singleton.1 hoth]
      exact hrefl _
    | cons next rest ih =>
      intro first other hoth
      have hbest := ih (if replaces first next then next else first) _ mem_cons_self
      rcases mem_cons.1 hoth with rfl | hrest
      · refine htrans _ _ _ hbest ?_
        split_ifs with hif
        · exact hreplaced _ _ hif
        · exact hrefl _
      · rcases mem_cons.1 hrest with rfl | hlater
        · refine htrans _ _ _ hbest ?_
          split_ifs with hif
          · exact hrefl _
          · exact hkept _ _ (Bool.eq_false_iff.2 hif)
        · exact ih _ other (mem_cons_of_mem _ hlater)
  cases items with
  | nil => cases h
  | cons first rest =>
    cases h
    exact hfold rest first

variable [LinearOrder κ] (key : α → κ)

/-- `Iterator::min_by`, for the order of the key. -/
def leastBy : List α → Option α := choose fun best item => decide (key item < key best)

/-- `Iterator::max_by`, for the order of the key. -/
def greatestBy : List α → Option α := choose fun best item => decide (key best ≤ key item)

variable {key}

theorem leastBy_le (h : leastBy key items = some item) :
    ∀ other ∈ items, key item ≤ key other :=
  choose_below (B := fun a b => key a ≤ key b) (fun _ => le_refl _)
    (fun _ _ _ => le_trans) (fun _ _ hlt => (of_decide_eq_true hlt).le)
    (fun _ _ hlt => not_lt.1 (of_decide_eq_false hlt)) h

theorem le_greatestBy (h : greatestBy key items = some item) :
    ∀ other ∈ items, key other ≤ key item :=
  choose_below (B := fun a b => key b ≤ key a) (fun _ => le_refl _)
    (fun _ _ _ hab hbc => le_trans hbc hab) (fun _ _ hle => of_decide_eq_true hle)
    (fun _ _ hle => (not_le.1 (of_decide_eq_false hle)).le) h

end Selection

end LatencyDesk.Lib
