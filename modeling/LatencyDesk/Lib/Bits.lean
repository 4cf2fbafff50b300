import Mathlib.Data.Nat.Bitwise

/-!
# Single bits of a machine word

A word of `n` bits as a set of `n` flags.  `hasBit` is the test
`word & (1 << i) != 0`, and `putBit` sets or clears a bit with the same mask.
`hasBit_putBit` says that the test reads back what was put, and that no other
bit changes.  `hasBit_shiftLeft_or_one` is the step of a window that slides.
-/

namespace LatencyDesk.Lib

open BitVec

variable {n : Nat}

/-- `word & (1 << i) != 0`. -/
def hasBit (word : BitVec n) (i : Nat) : Bool := word &&& (1#n <<< i) != 0

/-- `word | (1 << i)`, or `word & !(1 << i)`. -/
def putBit (word : BitVec n) (i : Nat) (on : Bool) : BitVec n :=
  if on then word ||| (1#n <<< i) else word &&& ~~~(1#n <<< i)

variable {i j : Nat}

/-- The mask has exactly its own bit. -/
theorem getLsbD_mask (hi : i < n) :
    (1#n <<< i).getLsbD j = decide (j = i) := by
  by_cases hji : j = i
  · subst hji
    simp [hi]
  by_cases hlt : j < i
  · simp [hlt, hji]
  · have hsub : j - i ≠ 0 := by omega
    simp [hsub, hji]

variable (word : BitVec n)

theorem hasBit_eq_getLsbD (hi : i < n) :
    hasBit word i = word.getLsbD i := by
  rw [hasBit, Bool.eq_iff_iff, bne_iff_ne]
  constructor
  · intro hne
    by_contra hbit
    apply hne
    apply eq_of_getLsbD_eq
    intro j _
    rw [getLsbD_and, getLsbD_mask hi]
    by_cases hji : j = i
    · subst hji
      simpa using hbit
    · simp [hji]
  · intro hbit heq
    have hzero := congrArg (fun b => b.getLsbD i) heq
    simp [getLsbD_mask hi, hbit] at hzero

@[simp] theorem hasBit_zero : hasBit (0#n) i = false := by
  simp [hasBit]

/-- The bit that was put reads back, and every other bit is unchanged. -/
theorem hasBit_putBit (hi : i < n) (hj : j < n) (on : Bool) :
    hasBit (putBit word i on) j = if j = i then on else hasBit word j := by
  rw [hasBit_eq_getLsbD _ hj, hasBit_eq_getLsbD _ hj, putBit]
  cases on with
  | true =>
    rw [if_pos rfl, getLsbD_or, getLsbD_mask hi]
    by_cases hji : j = i <;> simp [hji]
  | false =>
    rw [if_neg Bool.false_ne_true, getLsbD_and, getLsbD_not, getLsbD_mask hi]
    by_cases hji : j = i <;> simp [hji, hj]

/-- The bits of a word that moved up, behind a new bit at the bottom. -/
theorem hasBit_shiftLeft_or_one {shift : Nat} (hshift : 0 < shift) (hi : i < n) :
    hasBit (word <<< shift ||| 1#n) i =
      if i = 0 then true else decide (shift ≤ i) && hasBit word (i - shift) := by
  have hn : 0 < n := by omega
  rw [hasBit_eq_getLsbD _ hi, hasBit_eq_getLsbD _ (by omega : i - shift < n), getLsbD_or,
    getLsbD_shiftLeft]
  by_cases hzero : i = 0
  · simp [hzero, hn]
  by_cases hle : shift ≤ i
  · simp [hzero, hle, hi]
  · simp [hzero, hle]

theorem hasBit_one (hi : i < n) : hasBit (1#n) i = decide (i = 0) := by
  have hn : 0 < n := by omega
  rw [hasBit_eq_getLsbD _ hi]
  simp [hn]

end LatencyDesk.Lib
