import LatencyDesk.Lib.Fnv
import LatencyDesk.Lib.Rounding
import Mathlib.Algebra.BigOperators.Fin
import Mathlib.Data.Int.ModEq

/-!
# Second preimages of FNV-1a

One step of the hash replaces the low byte of the state by any byte that the
input chooses and then multiplies.  Only the `upper` 56 bits of the state and
the chosen low byte matter for the next state.  On the upper bits the step is
`y ↦ prime * y + carry c` modulo `2 ^ 56`, where `c` is the chosen low byte.

The low bytes `5 + 10 * d` with `d < 26` have carries in arithmetic progression
(`carry_digit`).  With them thirty steps add a combination of the digits with
powers of the prime as weights.  The integer vectors that vanish modulo
`2 ^ 56` under these weights form a lattice, and `latticeBasis` is a reduced
basis of it whose columns have absolute sum at most 24.  Rounding to the lattice
gives digits for every value, so thirty bytes lead from any state to any upper
half (`exists_absorbAll_upper`).

A message of 32 bytes therefore has a different message of 32 bytes with the
same hash: change the first byte, steer the upper bits back with the next
thirty bytes and choose the last low byte as before.
-/

namespace LatencyDesk.Lib.Fnv

open List Finset Nat

/-! ## The step on the upper bits -/

/-- The state without its low byte. -/
def upper (h : UInt64) : Nat := h.toNat / 256

/-- The low byte that the step multiplies. -/
def chosen (h : UInt64) (byte : UInt8) : UInt8 := h.toUInt8 ^^^ byte

/-- What the product carries out of the low byte. -/
def carry (c : UInt8) : Nat := c.toNat * prime.toNat / 256

variable (h : UInt64)

theorem upper_lt : upper h < 2 ^ 56 := by
  have hlt : h.toNat < 2 ^ 64 := UInt64.toNat_lt h
  unfold upper
  omega

theorem chosen_chosen (c : UInt8) : chosen h (chosen h c) = c := by
  unfold chosen
  rw [← UInt8.xor_assoc, UInt8.xor_self, UInt8.zero_xor]

variable (byte : UInt8)

/-- The input byte changes only the low byte. -/
theorem toNat_xor_byte :
    (h ^^^ byte.toUInt64).toNat = 256 * upper h + (chosen h byte).toNat := by
  have hbyte : byte.toNat < 2 ^ 8 := UInt8.toNat_lt byte
  have hdiv : (h.toNat ^^^ byte.toNat) / 2 ^ 8 = h.toNat / 2 ^ 8 := by
    rw [xor_div_two_pow, div_eq_of_lt hbyte, xor_zero]
  have hmod : (h.toNat ^^^ byte.toNat) % 2 ^ 8 = h.toNat % 2 ^ 8 ^^^ byte.toNat := by
    rw [xor_mod_two_pow, mod_eq_of_lt hbyte]
  have hchosen : (chosen h byte).toNat = h.toNat % 2 ^ 8 ^^^ byte.toNat := by
    rw [chosen, UInt8.toNat_xor, UInt64.toNat_toUInt8]
  rw [hchosen, ← hmod, upper]
  rw [show (256 : Nat) = 2 ^ 8 from rfl, ← hdiv]
  exact (div_add_mod _ _).symm

/-- The next state is a function of the upper bits and the chosen byte. -/
theorem toNat_absorb :
    (absorb h byte).toNat = (256 * upper h + (chosen h byte).toNat) * prime.toNat % 2 ^ 64 := by
  rw [absorb, UInt64.toNat_mul, toNat_xor_byte]

theorem absorb_eq {h h' : UInt64} {byte byte' : UInt8} (hupper : upper h = upper h')
    (hchosen : chosen h byte = chosen h' byte') : absorb h byte = absorb h' byte' := by
  rw [← UInt64.toNat_inj, toNat_absorb, toNat_absorb, hupper, hchosen]

theorem upper_absorb :
    upper (absorb h byte) = (prime.toNat * upper h + carry (chosen h byte)) % 2 ^ 56 := by
  have hsplit : (256 * upper h + (chosen h byte).toNat) * prime.toNat =
      (chosen h byte).toNat * prime.toNat + 256 * (prime.toNat * upper h) := by ring
  rw [upper, toNat_absorb, show (2 : Nat) ^ 64 = 256 * 2 ^ 56 from rfl,
    mod_mul_right_div_self, hsplit, add_mul_div_left _ _ (by decide), add_comm]
  rfl

/-! ## Steering the upper bits -/

/-- The step on the upper bits, on any ring. -/
def hornerStep {R : Type} [CommRing R] (p y d : R) : R := p * y + d

variable {R : Type} {n : Nat}

/-- Horner's scheme as a sum. -/
theorem foldl_hornerStep [CommRing R] (p y : R) (x : Fin n → R) :
    (ofFn x).foldl (hornerStep p) y = p ^ n * y + ∑ i : Fin n, x i * p ^ (n - 1 - i.val) := by
  induction n generalizing y with
  | zero => simp
  | succ n ih =>
    rw [ofFn_succ, foldl_cons, ih, Fin.sum_univ_succ]
    have htail : ∀ i : Fin n, n + 1 - 1 - i.succ.val = n - 1 - i.val := by
      intro i
      rw [Fin.val_succ]
      omega
    simp only [htail, hornerStep]
    rw [show n + 1 - 1 - (0 : Fin (n + 1)).val = n from by simp]
    ring

/-- The same for terms in arithmetic progression. -/
theorem foldl_hornerStep_affine [CommRing R] (p y a step : R) (d : Fin n → R) :
    (ofFn fun i => a + d i * step).foldl (hornerStep p) y =
      p ^ n * y + ∑ i : Fin n, a * p ^ (n - 1 - i.val) +
        step * ∑ i : Fin n, d i * p ^ (n - 1 - i.val) := by
  rw [foldl_hornerStep, mul_sum, add_assoc, ← sum_add_distrib]
  refine congrArg (_ + ·) (sum_congr rfl fun i _ => ?_)
  ring

theorem foldl_hornerStep_modEq {m p y y' : ℤ} (h : y ≡ y' [ZMOD m]) {ds : List ℤ} :
    ds.foldl (hornerStep p) y ≡ ds.foldl (hornerStep p) y' [ZMOD m] := by
  induction ds generalizing y y' with
  | nil => exact h
  | cons d ds ih => exact ih ((h.mul_left p).add_right d)

theorem upper_absorb_modEq :
    (upper (absorb h byte) : ℤ) ≡
      hornerStep (prime.toNat : ℤ) (upper h) (carry (chosen h byte)) [ZMOD 2 ^ 56] := by
  rw [upper_absorb]
  push_cast
  exact Int.mod_modEq _ _

/-- Some input chooses the given low bytes one after the other. -/
theorem exists_absorbAll_chosen (cs : List UInt8) (h : UInt64) :
    ∃ bytes, bytes.length = cs.length ∧
      (upper (absorbAll h bytes) : ℤ) ≡
        (cs.map fun c => (carry c : ℤ)).foldl (hornerStep prime.toNat) (upper h) [ZMOD 2 ^ 56] := by
  induction cs generalizing h with
  | nil => exact ⟨[], rfl, Int.ModEq.refl _⟩
  | cons c cs ih =>
    obtain ⟨bytes, hlen, hupper⟩ := ih (absorb h (chosen h c))
    refine ⟨chosen h c :: bytes, by rw [length_cons, hlen, length_cons], ?_⟩
    have hstep := upper_absorb_modEq h (chosen h c)
    rw [chosen_chosen] at hstep
    exact hupper.trans (foldl_hornerStep_modEq hstep)

/-- Low bytes whose carries are in arithmetic progression. -/
def digit (d : Nat) : UInt8 := UInt8.ofNat (5 + 10 * d)

theorem carry_digit : ∀ d < 26, carry (digit d) = 21474836488 + d * 42949672977 := by
  decide

/-! ## The lattice of the weights -/

/-- The weight of the digit at a position. -/
def weight (i : Fin 30) : ℤ := prime.toNat ^ (30 - 1 - i.val)

theorem weight_eq (i : Fin 30) : weight i = (prime.toNat : ℤ) ^ (30 - 1 - i.val) := rfl

/-- A reduced basis of the vectors that vanish modulo `2 ^ 56` under the
weights. -/
def latticeBasis : List (List ℤ) :=
  [[-1, 0, 0, 0, 0, -1, 0, -1, 0, 0, 0, -1, 0, -1, 0,
    1, 0, 0, 2, 0, -1, 1, 2, 1, 2, 0, 1, 1, 0, 1],
   [1, 1, 0, 0, -1, -2, 0, 0, -1, 0, 1, 0, 0, 1, 0,
    0, 0, -1, 0, -1, 0, -2, 0, 0, 0, 0, 0, 2, -5, 1],
   [1, 0, -2, 0, 1, 0, 1, 0, 0, 0, 0, 0, -1, -2, 0,
    0, 1, -1, -1, 0, 1, 0, 0, -2, -1, 0, -4, 0, 0, 1],
   [0, 0, 2, -1, 0, 0, 0, 0, 4, 0, 0, 0, 0, 2, -1,
    -2, 0, -1, 2, 0, 0, -1, 0, -5, 0, 0, 1, 0, 0, 0],
   [0, 0, 0, 2, -1, 0, 0, 0, 0, 4, 0, 0, 0, 0, 2,
    -1, -2, 0, -1, 2, 0, 0, -1, 0, -5, 0, 0, 1, 0, 0],
   [0, 0, 0, -1, -1, 0, 2, -2, 0, 3, 0, 2, 0, -1, 0,
    0, 0, 0, 0, -3, 0, -1, 3, 0, 0, 0, 2, 1, 0, 0],
   [1, 3, 0, 0, 1, 2, -2, -1, 0, 2, 0, 1, -1, 0, 0,
    0, -1, 0, 0, 0, 0, 0, 0, -3, -1, 0, 1, 2, 0, 0],
   [0, -1, 1, 2, 1, 0, 0, 0, 0, 0, -1, 0, 0, -3, 0,
    0, 1, -1, 0, 0, -1, 0, -1, -2, 1, -1, 0, -3, 2, 0],
   [-1, -1, 3, 0, 0, 1, 0, 0, -3, 0, 0, 0, -2, 0, -1,
    -1, -1, 0, -1, 0, 0, 1, 0, 0, 0, -1, 0, -3, -1, 1],
   [-1, 0, -1, 0, 0, -3, 2, 1, 0, 0, 0, 0, 4, -1, 1,
    1, 1, 1, -1, -1, 0, 0, 0, 0, 0, 0, 1, -1, 0, 1],
   [-2, -2, 0, -1, 1, 2, -1, 3, 0, -2, 1, 0, 1, 0, 0,
    0, 0, 0, -2, 0, 1, 0, 0, 0, 1, -1, 0, 0, 0, 1],
   [-1, 0, 1, 0, -1, -1, 1, 1, 0, 1, -2, 0, 0, -1, -1,
    1, 2, 0, 0, 1, -1, -4, 0, -1, 0, 0, 0, 0, 0, 1],
   [0, -4, 1, 1, 0, 0, 0, 0, 0, 0, 0, 1, 1, 0, -2,
    0, 0, 0, 2, 2, 0, 0, 0, 1, 1, 1, -2, -1, 1, 1],
   [2, 1, -1, 3, 0, 1, -2, 0, -1, -3, 0, 1, 1, 0, 0,
    -1, 0, 0, 0, -1, 0, 0, -1, 0, 0, 1, 0, 0, 1, 1],
   [1, 0, -2, 0, 0, -2, 0, 0, 0, 1, 1, 0, 0, -1, -1,
    0, 0, 0, 1, 0, -1, 1, 2, -3, 0, 0, 0, -1, 3, 1],
   [1, 0, 2, 0, 2, -1, 0, -2, 0, 1, 0, 1, -1, 0, 1,
    -1, 0, 0, 0, 0, 0, -2, -2, 0, -1, 1, 0, 0, 1, 2],
   [1, -1, 0, 0, 0, -2, 0, -2, 0, 0, 2, 0, 0, -4, 0,
    -1, 0, 0, 0, 0, 0, 0, 2, 0, 0, 1, 1, 0, 1, 4],
   [1, 0, 1, 0, 1, 0, -2, -1, 0, 0, 1, -3, 1, 0, -2,
    -1, -1, 0, 0, -1, -2, 0, -1, 0, 2, 0, 3, 0, 0, 0],
   [0, 2, 0, 0, -1, 0, -1, -1, 3, 1, 1, 0, 1, 0, -2,
    1, -1, 0, 0, -4, 1, 1, -1, 0, 0, -1, 0, 1, 0, 0],
   [1, 0, 0, 2, -2, 0, -1, 0, 2, -1, 0, -1, 2, 0, 1,
    0, 0, 3, 0, -2, 0, 0, -2, 1, 0, 0, 0, 3, 0, 0],
   [0, 0, 2, 0, 0, -2, 0, 0, -2, 1, -2, -1, 2, 0, 1,
    2, -2, -1, 1, 0, 0, 0, 0, 0, 0, 0, -2, 1, 2, 0],
   [0, -2, 1, 2, 0, 0, -1, -1, 0, -1, 3, 0, 0, 2, 0,
    0, 0, 1, -1, 1, -1, 0, -1, 1, 1, -2, 1, 0, 0, 1],
   [-3, 0, 0, 2, -1, 0, 1, 0, 0, 0, 0, 1, 0, 0, 0,
    -2, 0, 2, 2, 0, 1, -2, -1, 0, 1, 0, 0, -1, -1, 3],
   [0, -1, 0, -1, 1, 0, -1, 0, -2, 0, -1, -3, 0, 0, 0,
    1, 2, 2, -3, 1, 0, 2, 2, 0, 0, 2, 1, 0, 0, 0],
   [0, 0, 0, -1, -2, -1, -1, 0, 3, 0, 0, -2, -1, 0, -4,
    2, 1, 0, 0, 1, 1, 1, 0, 0, 0, 2, -1, -1, 1, 0],
   [-2, 0, 0, -1, -2, -1, -1, 1, 0, 0, -2, -1, 0, -1, 0,
    2, 0, 2, 0, 0, 0, -1, 0, 1, 2, -4, 0, -1, 1, 0],
   [-1, 0, 1, 2, 1, 1, -1, 0, 0, 2, -1, 0, -1, 0, -1,
    1, 3, 1, 0, 0, 5, 0, 0, -2, 0, 1, 0, 0, 1, 0],
   [1, 1, 0, -2, 1, 0, 1, 2, 1, 0, 0, 1, -1, 0, -2,
    0, -3, -1, 1, -2, -2, 0, 0, 0, 1, 1, 0, 0, -1, 1],
   [0, -3, -2, 0, 0, 0, -1, -1, -2, 1, 4, 0, -1, -2, -1,
    1, 0, -1, 0, 0, -1, -2, 0, 0, 0, -1, 0, 0, 1, 1],
   [0, 0, 1, 0, -1, 1, 1, -1, 0, 0, 0, 2, -2, -1, 0,
    0, -1, -2, -1, 0, 0, 1, 1, -1, 2, 2, -2, 0, 1, 2]]

/-- The coordinates of `2 ^ 56` times the last unit vector in the basis. -/
def latticeCoeffs : List ℤ :=
  [-435080117000995545, -385495797747260150, -350830591474581187, 425445709302806909,
    49244289319874520, -916962307350238744, -453053766953640491, -421638678387123087,
    -235890083668405831, -35772475444625044, -909476514682288557, 500534290090621563,
    162045925889641345, 39869608655147399, -382558303313858416, -561252792777257411,
    554015584558050933, -213140534558459049, 927053256265539638, -357723499883403561,
    -157423208501773562, -40354878248017407, -146839386944536623, 639676247798031748,
    -1134435360740378828, 226708170400738662, 312293163164925208, 370330412584925226,
    411655149054821021, 355021188749362239]

def basisRow (k i : Fin 30) : ℤ := (latticeBasis.getD k.val []).getD i.val 0

def basisCoeff (k : Fin 30) : ℤ := latticeCoeffs.getD k.val 0

def lastUnit (i : Fin 30) : ℤ := if i = 29 then 1 else 0

theorem dvd_basisRow : ∀ k, (2 ^ 56 : ℤ) ∣ ∑ i, basisRow k i * weight i := by
  decide +kernel

theorem sum_basisCoeff : ∀ i, ∑ k, basisCoeff k * basisRow k i = 2 ^ 56 * lastUnit i := by
  decide +kernel

theorem sum_abs_basisRow : ∀ i, ∑ k, |basisRow k i| ≤ 2 * 12 := by
  decide +kernel

theorem sum_lastUnit : ∑ i, lastUnit i * weight i = 1 := by
  decide +kernel

/-- Every number is a combination of the weights with digits below 25. -/
theorem exists_digits {t : ℤ} :
    ∃ d : Fin 30 → Nat, (∀ i, d i < 25) ∧ ∑ i, (d i : ℤ) * weight i ≡ t [ZMOD 2 ^ 56] := by
  -- The digits are centred at 12.
  obtain ⟨v, hsmall, hdvd⟩ := Rounding.exists_small (by decide) sum_basisCoeff sum_abs_basisRow
    dvd_basisRow
  have hnonneg : ∀ i, 0 ≤ v i + 12 := fun i => by
    have := (abs_le.1 (hsmall i)).1
    omega
  refine ⟨fun i => (v i + 12).toNat, ?_, ?_⟩
  · intro i
    have := (abs_le.1 (hsmall i)).2
    show (v i + 12).toNat < 25
    omega
  · have hsum : ∑ i, ((v i + 12).toNat : ℤ) * weight i =
        ∑ i, v i * weight i + ∑ i, 12 * weight i := by
      rw [← sum_add_distrib]
      refine sum_congr rfl fun i _ => ?_
      rw [Int.toNat_of_nonneg (hnonneg i)]
      ring
    have hshift : t - (∑ i, v i * weight i + ∑ i, 12 * weight i) =
        t - ∑ i, 12 * weight i - ∑ i, v i * weight i := by ring
    rw [sum_lastUnit, mul_one] at hdvd
    rw [hsum, Int.modEq_iff_dvd, hshift]
    exact hdvd

/-- The step between the carries is invertible modulo `2 ^ 56`. -/
theorem carryStep_inv : (42949672977 : ℤ) * 36402798223487217 ≡ 1 [ZMOD 2 ^ 56] := by
  decide

/-- Thirty bytes lead from any state to any upper bits. -/
theorem exists_absorbAll_upper (target : ℤ) :
    ∃ bytes : List UInt8, bytes.length = 30 ∧
      (upper (absorbAll h bytes) : ℤ) ≡ target [ZMOD 2 ^ 56] := by
  -- What the first carries and the starting state contribute.
  generalize hbase : (prime.toNat : ℤ) ^ 30 * upper h + ∑ i, 21474836488 * weight i = base
  obtain ⟨d, hdigits, hsum⟩ := exists_digits
  obtain ⟨bytes, hlen, hupper⟩ := exists_absorbAll_chosen (ofFn fun i => digit (d i)) h
  refine ⟨bytes, by rw [hlen, length_ofFn], hupper.trans ?_⟩
  have hcarry : ((ofFn fun i => digit (d i)).map fun c => (carry c : ℤ)) =
      ofFn fun i => (21474836488 + d i * 42949672977 : ℤ) := by
    rw [map_ofFn]
    congr 1
    funext i
    have hdigit := carry_digit (d i) (by have := hdigits i; omega)
    show (carry (digit (d i)) : ℤ) = _
    rw [hdigit, cast_add, cast_mul, cast_ofNat, cast_ofNat]
  have hvalue := foldl_hornerStep_affine (prime.toNat : ℤ) (upper h) 21474836488 42949672977
    fun i => (d i : ℤ)
  simp only [← weight_eq, hbase] at hvalue
  rw [hcarry, hvalue]
  calc base + 42949672977 * ∑ i, (d i : ℤ) * weight i
      ≡ base + 42949672977 * (36402798223487217 * (target - base)) [ZMOD 2 ^ 56] :=
        (hsum.mul_left _).add_left _
    _ = base + 42949672977 * 36402798223487217 * (target - base) := by ring
    _ ≡ base + 1 * (target - base) [ZMOD 2 ^ 56] := (carryStep_inv.mul_right _).add_left _
    _ = target := by ring

/-! ## Second preimages -/

theorem absorbAll_append (xs ys : List UInt8) :
    absorbAll h (xs ++ ys) = absorbAll (absorbAll h xs) ys :=
  foldl_append

/-- A message of 32 bytes shares its hash with another message of 32 bytes. -/
theorem exists_second_preimage {msg : List UInt8} (hlen : msg.length = 32) :
    ∃ msg', msg'.length = 32 ∧ msg' ≠ msg ∧ absorbAll h msg' = absorbAll h msg := by
  cases msg with
  | nil => cases hlen
  | cons first rest =>
    obtain ⟨middle, last, rfl⟩ : ∃ middle last, rest = middle ++ [last] := by
      have hne : rest ≠ [] := by
        rintro rfl
        cases hlen
      exact ⟨rest.dropLast, rest.getLast hne, (dropLast_append_getLast hne).symm⟩
    obtain ⟨middle', hmiddle, hupper⟩ := exists_absorbAll_upper (absorb h (first + 1))
      (upper (absorbAll (absorb h first) middle))
    have hsame : upper (absorbAll (absorb h (first + 1)) middle') =
        upper (absorbAll (absorb h first) middle) := by
      have hlt := upper_lt (absorbAll (absorb h (first + 1)) middle')
      have hlt' := upper_lt (absorbAll (absorb h first) middle)
      unfold Int.ModEq at hupper
      omega
    refine ⟨(first + 1) :: (middle' ++
      [chosen (absorbAll (absorb h (first + 1)) middle')
        (chosen (absorbAll (absorb h first) middle) last)]), ?_, ?_, ?_⟩
    · rw [length_cons, length_append, hmiddle]
      rfl
    · intro heq
      rw [List.cons.injEq] at heq
      have hone : (1 : UInt8) = 0 := by
        have := heq.1
        rwa [UInt8.add_eq_left] at this
      exact absurd hone (by decide)
    · show absorbAll (absorb h (first + 1)) _ = absorbAll (absorb h first) _
      rw [absorbAll_append, absorbAll_append]
      exact absorb_eq hsame (chosen_chosen _ _)

end LatencyDesk.Lib.Fnv
