import Mathlib.Data.Vector.Basic

/-!
# Byte arrays and machine words

`Bytes n` is the fixed-size array `[u8; n]`.  It is a list with its length, so
equality and evaluation stay those of lists.  `beNat` and `leNat` read a byte
string as a number, and `beBytes` writes one; the machine words of the
repository convert through them.

`checkedAdd` is `u64::checked_add`, and `checkedAdd32` the same for `u32`.  A
proof reads them through `checkedAdd_eq_some` and `checkedAdd_eq_none`, which
speak of the values as numbers and never of the wrapped sum.  The saturating
operations are read through their `toNat` lemmas in the same way.
-/

namespace LatencyDesk.Lib

open Option UInt64 Nat

/-- The array type `[u8; n]`. -/
abbrev Bytes (n : Nat) := List.Vector UInt8 n

/-- `bytes.iter().all(|byte| *byte == 0)`. -/
def Bytes.isZero {n : Nat} (bytes : Bytes n) : Bool :=
  bytes.toList.all (· == 0)

/-- A byte string literal `b"..."`.  Only ASCII literals occur. -/
def asciiBytes (text : String) : List UInt8 :=
  text.toList.map fun char => UInt8.ofNat char.toNat

/-- The number that a byte string writes, most significant byte first. -/
def beNat (bytes : List UInt8) : Nat :=
  bytes.foldl (fun value byte => value * 256 + byte.toNat) 0

/-- The number that a byte string writes, least significant byte first. -/
def leNat (bytes : List UInt8) : Nat := beNat bytes.reverse

/-- The `n` low bytes of a number, most significant byte first. -/
def beBytes : Nat → Nat → List UInt8
  | 0, _ => []
  | n + 1, value => UInt8.ofNat (value / 256 ^ n) :: beBytes n value

variable {value : Nat}

@[simp] theorem length_beBytes {n : Nat} : (beBytes n value).length = n := by
  induction n with
  | zero => rfl
  | succ n ih => simp [beBytes, ih]

/-- Reading what `beBytes` wrote, after some digits. -/
theorem foldl_beBytes (n value start : Nat) :
    (beBytes n value).foldl (fun value byte => value * 256 + byte.toNat) start =
      start * 256 ^ n + value % 256 ^ n := by
  induction n generalizing start with
  | zero => simp [beBytes, mod_one]
  | succ n ih =>
    have hmod : value % 256 ^ (n + 1) = value % 256 ^ n + 256 ^ n * (value / 256 ^ n % 256) :=
      mod_pow_succ
    have hbyte : (UInt8.ofNat (value / 256 ^ n)).toNat = value / 256 ^ n % 256 :=
      UInt8.toNat_ofNat'
    rw [beBytes, List.foldl_cons, ih, hbyte, hmod, Nat.pow_succ, Nat.add_mul, Nat.mul_assoc,
      mul_comm 256, mul_comm (value / 256 ^ n % 256)]
    omega

variable {n : Nat}

/-- A number that fits is read back. -/
theorem beNat_beBytes (h : value < 256 ^ n) : beNat (beBytes n value) = value := by
  rw [beNat, foldl_beBytes, mod_eq_of_lt h]
  omega

theorem drop_beBytes {k : Nat} (h : n ≤ k) : (beBytes n value).drop k = [] :=
  List.drop_eq_nil_of_le (by rw [length_beBytes]; exact h)

theorem ofNat_beNat_beBytes16 (value : UInt16) :
    UInt16.ofNat (beNat (beBytes 2 value.toNat)) = value := by
  rw [beNat_beBytes (UInt16.toNat_lt value), UInt16.ofNat_toNat]

theorem ofNat_beNat_beBytes32 (value : UInt32) :
    UInt32.ofNat (beNat (beBytes 4 value.toNat)) = value := by
  rw [beNat_beBytes (UInt32.toNat_lt value), UInt32.ofNat_toNat]

theorem ofNat_beNat_beBytes64 (value : UInt64) :
    UInt64.ofNat (beNat (beBytes 8 value.toNat)) = value := by
  rw [beNat_beBytes (UInt64.toNat_lt value), UInt64.ofNat_toNat]

/-! ## Checked addition -/

/-- `u64::checked_add`. -/
def checkedAdd (a b : UInt64) : Option UInt64 :=
  if a.toNat + b.toNat < 2 ^ 64 then some (a + b) else none

/-- `u32::checked_add`. -/
def checkedAdd32 (a b : UInt32) : Option UInt32 :=
  if a.toNat + b.toNat < 2 ^ 32 then some (a + b) else none

variable {a b c : UInt64}

/-- A checked sum is the sum of the numbers. -/
theorem checkedAdd_eq_some :
    checkedAdd a b = some c ↔ c.toNat = a.toNat + b.toNat := by
  unfold checkedAdd
  split
  · rename_i hlt
    rw [Option.some.injEq, ← UInt64.toNat_inj, UInt64.toNat_add, mod_eq_of_lt hlt]
    exact eq_comm
  · have hc : c.toNat < 2 ^ 64 := toNat_lt c
    simp only [reduceCtorEq, false_iff]
    omega

/-- A checked sum fails exactly when the sum of the numbers does not fit. -/
theorem checkedAdd_eq_none :
    checkedAdd a b = none ↔ 2 ^ 64 ≤ a.toNat + b.toNat := by
  unfold checkedAdd
  split <;> simp <;> omega

theorem checkedAdd32_eq_some {a b c : UInt32} :
    checkedAdd32 a b = some c ↔ c.toNat = a.toNat + b.toNat := by
  unfold checkedAdd32
  split
  · rename_i hlt
    rw [Option.some.injEq, ← UInt32.toNat_inj, UInt32.toNat_add, mod_eq_of_lt hlt]
    exact eq_comm
  · have hc : c.toNat < 2 ^ 32 := UInt32.toNat_lt c
    simp only [reduceCtorEq, false_iff]
    omega

theorem checkedAdd32_eq_none {a b : UInt32} :
    checkedAdd32 a b = none ↔ 2 ^ 32 ≤ a.toNat + b.toNat := by
  unfold checkedAdd32
  split <;> simp <;> omega

/-! ## Saturating arithmetic -/

/-- `u64::saturating_add`. -/
def saturatingAdd (a b : UInt64) : UInt64 := (checkedAdd a b).getD 0xFFFFFFFFFFFFFFFF

/-- `u32::saturating_add`. -/
def saturatingAdd32 (a b : UInt32) : UInt32 := (checkedAdd32 a b).getD 0xFFFFFFFF

/-- `u64::saturating_sub`. -/
def saturatingSub (a b : UInt64) : UInt64 := if b ≤ a then a - b else 0

variable (a b : UInt64)

/-- A saturating sum is the sum of the numbers up to the largest word. -/
theorem toNat_saturatingAdd :
    (saturatingAdd a b).toNat = min (a.toNat + b.toNat) (2 ^ 64 - 1) := by
  unfold saturatingAdd
  cases hsum : checkedAdd a b with
  | some c =>
    have hc : c.toNat < 2 ^ 64 := toNat_lt c
    rw [checkedAdd_eq_some] at hsum
    rw [getD_some]
    omega
  | none =>
    rw [checkedAdd_eq_none] at hsum
    rw [getD_none, show (0xFFFFFFFFFFFFFFFF : UInt64).toNat = 2 ^ 64 - 1 from rfl]
    omega

theorem toNat_saturatingAdd32 (a b : UInt32) :
    (saturatingAdd32 a b).toNat = min (a.toNat + b.toNat) (2 ^ 32 - 1) := by
  unfold saturatingAdd32
  cases hsum : checkedAdd32 a b with
  | some c =>
    have hc : c.toNat < 2 ^ 32 := UInt32.toNat_lt c
    rw [checkedAdd32_eq_some] at hsum
    rw [getD_some]
    omega
  | none =>
    rw [checkedAdd32_eq_none] at hsum
    rw [getD_none, show (0xFFFFFFFF : UInt32).toNat = 2 ^ 32 - 1 from rfl]
    omega

theorem toNat_saturatingSub :
    (saturatingSub a b).toNat = a.toNat - b.toNat := by
  unfold saturatingSub
  split
  · rename_i hle
    exact UInt64.toNat_sub_of_le _ _ hle
  rename_i hlt
  rw [le_iff_toNat_le] at hlt
  rw [UInt64.toNat_zero]
  omega

/-- A product of 32-bit words that is taken with 64 bits does not wrap. -/
theorem mul32_lt (a b : UInt32) : a.toNat * b.toNat < 2 ^ 64 :=
  Nat.mul_lt_mul'' (c := 2 ^ 32) (d := 2 ^ 32) a.toNat_lt b.toNat_lt

theorem toNat_mul32 (a b : UInt32) : (a.toUInt64 * b.toUInt64).toNat = a.toNat * b.toNat := by
  rw [UInt64.toNat_mul, UInt32.toNat_toUInt64, UInt32.toNat_toUInt64,
    Nat.mod_eq_of_lt (mul32_lt a b)]

/-- A time before the earlier of two times. -/
theorem lt_min64 : a < min b c ↔ a < b ∧ a < c := by
  have hmin : min b c = if b ≤ c then b else c := rfl
  rw [hmin]
  simp only [lt_iff_toNat_lt, le_iff_toNat_le]
  split <;> omega

end LatencyDesk.Lib
