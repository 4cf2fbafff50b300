import LatencyDesk.Lib.Word

/-!
# Slices of byte strings

`slice bytes start length` is `&bytes[start..start + length]`.  A decoder reads
its fields from slices, and an encoder writes fields one behind the other.  The
lemmas connect the two views:

* a string is what an encoder wrote when its slices are the parts
  (`eq_iff_slice`, `slice_eq_append`, `slice_eq_cons`);
* a field that is read is a given value exactly when the slice is what the value
  is written as (`readBytes_eq_iff`, `word16_eq_iff` and the like).

So the proof that a format is canonical takes a string apart once, and both
directions come out of it.  Text is a `String` with its UTF-8 bytes.
-/

namespace LatencyDesk.Lib

open List Nat

/-- `&bytes[start..start + length]`, inside the bytes. -/
def slice (bytes : List UInt8) (start length : Nat) : List UInt8 :=
  (bytes.drop start).take length

section

variable {bytes front back : List UInt8} {start length rest : Nat}

theorem length_slice (h : start + length ≤ bytes.length) :
    (slice bytes start length).length = length := by
  rw [slice, length_take, length_drop]
  omega

theorem slice_append_slice :
    slice bytes start length ++ slice bytes (start + length) rest =
      slice bytes start (length + rest) := by
  rw [slice, slice, slice, take_add, drop_drop]

/-- The slice up to the end. -/
theorem slice_eq_drop (h : bytes.length ≤ start + length) :
    slice bytes start length = bytes.drop start := by
  rw [slice, take_of_length_le]
  rw [length_drop]
  omega

theorem slice_take {stop : Nat} (h : start + length ≤ stop) :
    slice (bytes.take stop) start length = slice bytes start length := by
  rw [slice, drop_take, take_take, min_eq_left (by omega), slice]

/-- A slice of its full length lies inside the string. -/
theorem le_of_slice_eq {part : List UInt8} (h : slice bytes start length = part)
    (hlen : part.length = length) (hstart : start ≤ bytes.length) :
    start + length ≤ bytes.length := by
  have hlong : (slice bytes start length).length = length := by rw [h, hlen]
  rw [slice, length_take, length_drop] at hlong
  omega

/-- A string and its slice from the front. -/
theorem eq_iff_slice {whole : List UInt8} :
    bytes = whole ↔ bytes.length = whole.length ∧ slice bytes 0 whole.length = whole := by
  constructor
  · intro h
    subst h
    exact ⟨rfl, by rw [slice_eq_drop (by omega), drop_zero]⟩
  · intro ⟨hlen, hslice⟩
    rwa [slice_eq_drop (by omega)] at hslice

theorem slice_eq_append (hlen : front.length = length) :
    slice bytes start (length + rest) = front ++ back ↔
      slice bytes start length = front ∧ slice bytes (start + length) rest = back := by
  rw [← slice_append_slice]
  constructor
  · intro h
    have hlong : (slice bytes start length).length ≤ length := length_take_le _ _
    by_cases hfull : (slice bytes start length).length = length
    · exact append_inj h (hfull.trans hlen.symm)
    -- The string ends inside the first slice, so the second one is empty.
    have hempty : slice bytes (start + length) rest = [] := by
      rw [slice, length_take, length_drop] at hfull
      rw [slice, drop_eq_nil_of_le (by omega), take_nil]
    have hsum := congrArg List.length h
    rw [hempty, length_append, length_append, length_nil] at hsum
    omega
  · intro ⟨hfront, hback⟩
    rw [hfront, hback]

/-- A field in front of the rest, when the slice of the field says what is read. -/
theorem slice_eq_field (rest : Nat) {field : Prop}
    (hfield : field ↔ slice bytes start length = front)
    (hlen : front.length = length) :
    slice bytes start (length + rest) = front ++ back ↔
      field ∧ slice bytes (start + length) rest = back := by
  rw [slice_eq_append hlen, hfield]

/-- One byte is a slice. -/
theorem slice_one (h : start < bytes.length) : slice bytes start 1 = [bytes.getD start 0] := by
  rw [slice, drop_eq_getElem_cons h, take_succ_cons, take_zero,
    getD_eq_getElem?_getD, getElem?_eq_getElem h, Option.getD_some]

theorem slice_eq_cons {byte : UInt8} (h : start < bytes.length) :
    slice bytes start (length + 1) = byte :: back ↔
      bytes.getD start 0 = byte ∧ slice bytes (start + 1) length = back := by
  rw [add_comm length 1, ← slice_append_slice, slice_one h, singleton_append, cons.injEq]

end

/-! ## Numbers -/

variable (bytes : List UInt8) {text : String}

/-- Reading on after some digits. -/
theorem foldl_eq_add_beNat (start : Nat) :
    bytes.foldl (fun value byte => value * 256 + byte.toNat) start =
      start * 256 ^ bytes.length + beNat bytes := by
  induction bytes generalizing start with
  | nil => simp [beNat]
  | cons byte rest ih =>
    rw [beNat, foldl_cons, foldl_cons, ih, ih, length_cons, pow_succ',
    Nat.zero_add, Nat.add_mul, Nat.mul_assoc, Nat.add_assoc]

theorem beNat_cons (byte : UInt8) (rest : List UInt8) :
    beNat (byte :: rest) = byte.toNat * 256 ^ rest.length + beNat rest := by
  rw [beNat, foldl_cons, foldl_eq_add_beNat, Nat.zero_add]

theorem beNat_lt : beNat bytes < 256 ^ bytes.length := by
  induction bytes with
  | nil => decide
  | cons byte rest ih =>
    have hbyte : byte.toNat + 1 ≤ 256 := UInt8.toNat_lt byte
    have hmul := mul_le_mul_right (256 ^ rest.length) hbyte
    rw [Nat.add_mul] at hmul
    rw [beNat_cons, length_cons]
    omega

/-- The digits in front do not change the ones behind. -/
theorem beBytes_add (n high low : Nat) : beBytes n (high * 256 ^ n + low) = beBytes n low := by
  induction n generalizing high with
  | zero => rfl
  | succ n ih =>
    have hpow : high * 256 ^ (n + 1) = high * 256 * 256 ^ n := by
      rw [pow_succ', mul_assoc]
    have hhead : (high * 256 * 256 ^ n + low) / 256 ^ n = high * 256 + low / 256 ^ n := by
      rw [Nat.mul_comm (high * 256), Nat.mul_add_div (Nat.pow_pos (by decide))]
    rw [beBytes, hpow, ih]
    congr 1
    apply UInt8.toNat_inj.1
    rw [UInt8.toNat_ofNat', UInt8.toNat_ofNat']
    omega

/-- A number that was read is written with the same bytes. -/
theorem beBytes_beNat : beBytes bytes.length (beNat bytes) = bytes := by
  induction bytes with
  | nil => rfl
  | cons byte rest ih =>
    have hhead : UInt8.ofNat (beNat (byte :: rest) / 256 ^ rest.length) = byte := by
      rw [beNat_cons, Nat.mul_comm, Nat.mul_add_div (Nat.pow_pos (by decide)),
        div_eq_of_lt (beNat_lt rest), add_zero, UInt8.ofNat_toNat]
    rw [length_cons, beBytes, hhead, beNat_cons, beBytes_add, ih]

/-! ## Words, arrays and text -/

section

variable {bytes : List UInt8} {start length : Nat}

theorem beBytes_beNat_slice (h : start + length ≤ bytes.length) :
    beBytes length (beNat (slice bytes start length)) = slice bytes start length := by
  have hwrite := beBytes_beNat (slice bytes start length)
  rwa [length_slice h] at hwrite

theorem beNat_slice_lt :
    beNat (slice bytes start length) < 256 ^ length :=
  Nat.lt_of_lt_of_le (beNat_lt _) (Nat.pow_le_pow_right (by decide) (length_take_le _ _))

theorem word16_eq_iff {word : UInt16} (h : start + 2 ≤ bytes.length) :
    UInt16.ofNat (beNat (slice bytes start 2)) = word ↔
      slice bytes start 2 = beBytes 2 word.toNat := by
  constructor
  · intro hword
    rw [← hword, UInt16.toNat_ofNat_of_lt' beNat_slice_lt, beBytes_beNat_slice h]
  · intro hslice
    rw [hslice, ofNat_beNat_beBytes16]

theorem word32_eq_iff {word : UInt32} (h : start + 4 ≤ bytes.length) :
    UInt32.ofNat (beNat (slice bytes start 4)) = word ↔
      slice bytes start 4 = beBytes 4 word.toNat := by
  constructor
  · intro hword
    rw [← hword, UInt32.toNat_ofNat_of_lt' beNat_slice_lt, beBytes_beNat_slice h]
  · intro hslice
    rw [hslice, ofNat_beNat_beBytes32]

theorem word64_eq_iff {word : UInt64} (h : start + 8 ≤ bytes.length) :
    UInt64.ofNat (beNat (slice bytes start 8)) = word ↔
      slice bytes start 8 = beBytes 8 word.toNat := by
  constructor
  · intro hword
    rw [← hword, UInt64.toNat_ofNat_of_lt' beNat_slice_lt, beBytes_beNat_slice h]
  · intro hslice
    rw [hslice, ofNat_beNat_beBytes64]

/-- A length that is written with two bytes. -/
theorem length16_eq_iff (h : start + 2 ≤ bytes.length) (hlen : length < 2 ^ 16) :
    (UInt16.ofNat (beNat (slice bytes start 2))).toNat = length ↔
      slice bytes start 2 = beBytes 2 length := by
  have hword := UInt16.toNat_ofNat_of_lt' hlen
  rw [← hword, UInt16.toNat_inj, word16_eq_iff h]

theorem length32_eq_iff (h : start + 4 ≤ bytes.length) (hlen : length < 2 ^ 32) :
    (UInt32.ofNat (beNat (slice bytes start 4))).toNat = length ↔
      slice bytes start 4 = beBytes 4 length := by
  have hword := UInt32.toNat_ofNat_of_lt' hlen
  rw [← hword, UInt32.toNat_inj, word32_eq_iff h]

/-- `array.copy_from_slice(&bytes[start..start + n])`, inside the bytes. -/
def readBytes (n : Nat) (bytes : List UInt8) (start : Nat) : Bytes n :=
  ⟨(bytes.drop start).takeD n 0, List.takeD_length _ _ _⟩

theorem readBytes_eq_iff {n : Nat} {array : Bytes n} (h : start + n ≤ bytes.length) :
    readBytes n bytes start = array ↔ slice bytes start n = array.toList := by
  have hread : (readBytes n bytes start).toList = slice bytes start n := by
    show takeD n (bytes.drop start) 0 = slice bytes start n
    rw [takeD_eq_take _ (by rw [length_drop]; omega), slice]
  rw [← hread]
  exact ⟨congrArg _, List.Vector.eq _ _⟩

end

/-- The UTF-8 bytes of a text. -/
def utf8Bytes (text : String) : List UInt8 := text.toByteArray.data.toList

/-- `std::str::from_utf8`. -/
def fromUtf8 (bytes : List UInt8) : Option String := String.fromUTF8? ⟨bytes.toArray⟩

@[simp] theorem fromUtf8_utf8Bytes : fromUtf8 (utf8Bytes text) = some text := by
  unfold fromUtf8 utf8Bytes String.fromUTF8?
  simp only [text.isValidUTF8]
  rfl

theorem utf8Bytes_of_fromUtf8 {bytes : List UInt8} (h : fromUtf8 bytes = some text) :
    utf8Bytes text = bytes := by
  unfold fromUtf8 String.fromUTF8? at h
  split at h
  · cases h
    rfl
  · cases h

end LatencyDesk.Lib
