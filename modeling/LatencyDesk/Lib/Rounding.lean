import Mathlib.Algebra.Order.BigOperators.Ring.Finset
import Mathlib.Tactic.Linarith

/-!
# Rounding to a lattice

Let `rows` be integer vectors in which the vector `target` has the rational
coordinates `coeffs / den`.  Every multiple of `target` then has a vector close
to it that is an integer combination of the rows: the coordinates are rounded
to the nearest integer.  The distance in each coordinate is at most half the
sum of the absolute values in that column.

If the rows vanish modulo `modulus` under a linear form, every multiple of the
value at `target` is the value of a vector with small entries.
-/

namespace LatencyDesk.Lib.Rounding

open Finset

/-- The integer closest to a fraction. -/
theorem exists_nearest {a : ℤ} {den : ℤ} (hden : 0 < den) :
    ∃ q, 2 * |a - q * den| ≤ den := by
  refine ⟨(2 * a + den) / (2 * den), ?_⟩
  have hpos : 0 < 2 * den := by omega
  have hdiv := Int.mul_ediv_add_emod (2 * a + den) (2 * den)
  have hlo := Int.emod_nonneg (2 * a + den) (ne_of_gt hpos)
  have hhi := Int.emod_lt_of_pos (2 * a + den) hpos
  generalize (2 * a + den) / (2 * den) = q at hdiv
  generalize (2 * a + den) % (2 * den) = r at hdiv hlo hhi
  have htwice : 2 * (a - q * den) = r - den := by linarith
  have habs : |2 * (a - q * den)| ≤ den := by
    rw [abs_le]
    omega
  rwa [abs_mul] at habs

section

variable {ι κ : Type} [Fintype κ] {rows : κ → ι → ℤ} {coeffs : κ → ℤ}
  {target : ι → ℤ} {den bound : ℤ}

/-- A multiple of the target is close to an integer combination of the rows. -/
theorem exists_close (hden : 0 < den)
    (hspan : ∀ i, ∑ k, coeffs k * rows k i = den * target i)
    (hcolumn : ∀ i, ∑ k, |rows k i| ≤ 2 * bound) {x : ℤ} :
    ∃ mult : κ → ℤ, ∀ i, |x * target i - ∑ k, mult k * rows k i| ≤ bound := by
  choose mult hmult using fun k => exists_nearest hden
  refine ⟨mult, ?_⟩
  intro i
  -- The distance is the combination of the rows with the rounding errors.
  have herror : den * (x * target i - ∑ k, mult k * rows k i) =
      ∑ k, (x * coeffs k - mult k * den) * rows k i := by
    calc den * (x * target i - ∑ k, mult k * rows k i)
        = x * (den * target i) - den * ∑ k, mult k * rows k i := by ring
      _ = x * ∑ k, coeffs k * rows k i - den * ∑ k, mult k * rows k i := by rw [hspan i]
      _ = ∑ k, (x * coeffs k - mult k * den) * rows k i := by
        rw [mul_sum, mul_sum, ← sum_sub_distrib]
        refine sum_congr rfl fun k _ => ?_
        ring
  have hscaled : 2 * (den * |x * target i - ∑ k, mult k * rows k i|) ≤ den * (2 * bound) := by
    calc 2 * (den * |x * target i - ∑ k, mult k * rows k i|)
        = 2 * |∑ k, (x * coeffs k - mult k * den) * rows k i| := by
          rw [← herror, abs_mul, abs_of_pos hden]
      _ ≤ 2 * ∑ k, |(x * coeffs k - mult k * den) * rows k i| := by
          have := abs_sum_le_sum_abs (fun k => (x * coeffs k - mult k * den) * rows k i) univ
          linarith
      _ = ∑ k, 2 * |x * coeffs k - mult k * den| * |rows k i| := by
          rw [mul_sum]
          refine sum_congr rfl fun k _ => ?_
          rw [abs_mul]
          ring
      _ ≤ ∑ k, den * |rows k i| :=
          sum_le_sum fun k _ => mul_le_mul_of_nonneg_right (hmult k) (abs_nonneg _)
      _ = den * ∑ k, |rows k i| := by rw [mul_sum]
      _ ≤ den * (2 * bound) := mul_le_mul_of_nonneg_left (hcolumn i) (le_of_lt hden)
  have hcancel : den * |x * target i - ∑ k, mult k * rows k i| ≤ den * bound := by linarith
  exact le_of_mul_le_mul_left hcancel hden

/-- Every multiple of the value at the target is, modulo `modulus`, the value
of a vector with small entries. -/
theorem exists_small [Fintype ι] (hden : 0 < den)
    (hspan : ∀ i, ∑ k, coeffs k * rows k i = den * target i)
    (hcolumn : ∀ i, ∑ k, |rows k i| ≤ 2 * bound) {weights : ι → ℤ} {modulus : ℤ}
    (hrows : ∀ k, modulus ∣ ∑ i, rows k i * weights i) {x : ℤ} :
    ∃ v : ι → ℤ, (∀ i, |v i| ≤ bound) ∧
      modulus ∣ x * ∑ i, target i * weights i - ∑ i, v i * weights i := by
  obtain ⟨mult, hclose⟩ := exists_close hden hspan hcolumn
  refine ⟨fun i => x * target i - ∑ k, mult k * rows k i, hclose, ?_⟩
  have hdiff : x * ∑ i, target i * weights i -
      ∑ i, (x * target i - ∑ k, mult k * rows k i) * weights i =
        ∑ k, mult k * ∑ i, rows k i * weights i := by
    simp only [sub_mul, sum_sub_distrib, sum_mul, mul_sum, mul_assoc]
    rw [sub_sub_cancel, sum_comm]
  rw [hdiff]
  exact dvd_sum fun k _ => Dvd.dvd.mul_left (hrows k) (mult k)

end

end LatencyDesk.Lib.Rounding
