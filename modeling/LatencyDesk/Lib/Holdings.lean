import Mathlib.Data.List.Perm.Basic

/-!
# Slots and what they hold

A list of slots, some of which hold something.  `held` lists the holdings with the
index of their slot, so that an owner list which agrees with it up to order names
every holding exactly once.  A change of one slot changes its own holding alone:
`exists_held_set`.
-/

namespace LatencyDesk.Lib

open List Option

section Held

variable {α β : Type} (view : α → Option β)

/-- The holding of one slot. -/
def holding (index : Nat) (slot : α) : List (Nat × β) :=
  (view slot).toList.map (Prod.mk index)

/-- The holdings of slots that stand from an index on. -/
def heldFrom : Nat → List α → List (Nat × β)
  | _, [] => []
  | start, slot :: slots => holding view start slot ++ heldFrom (start + 1) slots

def held (slots : List α) : List (Nat × β) := heldFrom view 0 slots

variable {view} {i : Nat} {slot : α} {b : β}

theorem mem_holding {idx : Nat} :
    (i, b) ∈ holding view idx slot ↔ i = idx ∧ view slot = some b := by
  rw [holding, List.mem_map]
  constructor
  · rintro ⟨_, hb', heq⟩
    rw [mem_toList] at hb'
    cases heq
    exact ⟨rfl, hb'⟩
  · rintro ⟨rfl, hview⟩
    exact ⟨b, by rw [mem_toList]; exact hview, rfl⟩

variable {slots : List α}

theorem mem_heldFrom {start : Nat} :
    (i, b) ∈ heldFrom view start slots ↔
      start ≤ i ∧ ∃ slot, slots[i - start]? = some slot ∧ view slot = some b := by
  induction slots generalizing start with
  | nil => simp [heldFrom]
  | cons first slots ih =>
    rw [heldFrom, mem_append, mem_holding, ih]
    constructor
    · rintro (⟨rfl, hview⟩ | ⟨hle, slot, hget, hview⟩)
      · exact ⟨Nat.le_refl _, first, by simp, hview⟩
      · refine ⟨by omega, slot, ?_, hview⟩
        rw [show i - start = i - (start + 1) + 1 by omega]
        exact hget
    · rintro ⟨hle, slot, hget, hview⟩
      by_cases hi : i = start
      · subst hi
        rw [Nat.sub_self, getElem?_cons_zero, some.injEq] at hget
        exact .inl ⟨rfl, hget ▸ hview⟩
      · rw [show i - start = i - (start + 1) + 1 by omega] at hget
        exact .inr ⟨by omega, slot, hget, hview⟩

theorem mem_held :
    (i, b) ∈ held view slots ↔ ∃ slot, slots[i]? = some slot ∧ view slot = some b := by
  rw [held, mem_heldFrom]
  simp

variable (start : Nat)

theorem nodup_heldFrom (slots : List α) :
    ((heldFrom view start slots).map Prod.fst).Nodup := by
  induction slots generalizing start with
  | nil => exact nodup_nil
  | cons first slots ih =>
    rw [heldFrom, map_append, nodup_append]
    refine ⟨?_, ih (start + 1), ?_⟩
    · rw [holding]
      cases view first <;> simp
    · intro i hi j hj hij
      obtain ⟨⟨_, _⟩, hb, rfl⟩ := mem_map.1 hi
      obtain ⟨⟨_, _⟩, hb', hji⟩ := mem_map.1 hj
      have hstart := (mem_holding.1 hb).1
      have hle := (mem_heldFrom.1 hb').1
      omega

/-- No slot holds twice. -/
theorem nodup_held : ((held view slots).map Prod.fst).Nodup :=
  nodup_heldFrom 0 slots

theorem length_heldFrom (slots : List α) :
    (heldFrom view start slots).length = slots.countP fun slot => (view slot).isSome := by
  induction slots generalizing start with
  | nil => rfl
  | cons first slots ih =>
    rw [heldFrom, length_append, ih, holding, countP_cons]
    cases view first <;> simp [Nat.add_comm]

theorem length_held :
    (held view slots).length = slots.countP fun slot => (view slot).isSome :=
  length_heldFrom 0 slots

theorem exists_heldFrom_set (hslot : slots[i]? = some slot) :
    ∃ others, (heldFrom view start slots).Perm (holding view (start + i) slot ++ others) ∧
      ∀ new, (heldFrom view start (slots.set i new)).Perm
        (holding view (start + i) new ++ others) := by
  induction slots generalizing start i with
  | nil => simp at hslot
  | cons first slots ih =>
    cases i with
    | zero =>
      rw [getElem?_cons_zero, some.injEq] at hslot
      subst hslot
      exact ⟨heldFrom view (start + 1) slots, List.Perm.refl _, fun new => List.Perm.refl _⟩
    | succ i =>
      obtain ⟨others, hbef, hafter⟩ := ih (start + 1) hslot
      rw [show start + 1 + i = start + (i + 1) by omega] at hbef
      simp only [show start + 1 + i = start + (i + 1) by omega] at hafter
      refine ⟨holding view start first ++ others, ?_, fun new => ?_⟩
      · exact (hbef.append_left _).trans (perm_append_comm_assoc _ _ _)
      · exact ((hafter new).append_left _).trans (perm_append_comm_assoc _ _ _)

/-- A change of one slot leaves what the others hold. -/
theorem exists_held_set (hslot : slots[i]? = some slot) :
    ∃ others, (held view slots).Perm (holding view i slot ++ others) ∧
      ∀ new, (held view (slots.set i new)).Perm (holding view i new ++ others) := by
  obtain ⟨others, hbef, hafter⟩ := exists_heldFrom_set 0 hslot
  rw [Nat.zero_add] at hbef hafter
  exact ⟨others, hbef, hafter⟩

end Held

end LatencyDesk.Lib
