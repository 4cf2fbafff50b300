import LatencyDesk.Lib.InPlace

/-!
# Packed and planar pictures

`split_nv12_into_i420` and `i420_to_nv12` in `crates/h264/src/software.rs`.  An NV12
picture is a plane of luma bytes and then the chroma bytes in pairs, an I420 picture
has a plane for each.  `none` is the error `InvalidNv12`.
-/

namespace LatencyDesk.H264

open Lib List

def saturatingMul (a b : Nat) : Nat := min (a * b) (2 ^ 64 - 1)

/-- A buffer with the rows of a plane, one for each stride.  Its other bytes are padding. -/
structure Strided (plane : List UInt8) (width height stride : Nat) (buffer : List UInt8) :
    Prop where
  wide : width ≤ stride
  inside : ∀ row < height, row * stride + width ≤ buffer.length
  addressable : buffer.length < 2 ^ 64
  rows : ∀ row < height, ∀ col < width, buffer[row * stride + col]? = plane[row * width + col]?

variable {width height : Nat} {f : Nat → UInt8}

theorem saturatingMul_eq (h : width * height < 2 ^ 64) :
    saturatingMul width height = width * height :=
  min_eq_left (Nat.le_sub_one_of_lt h)

/-- A byte of a plane is read in its row. -/
theorem Strided.read {plane buffer : List UInt8} {stride : Nat}
    (h : Strided plane width height stride buffer)
    (hplane : ∀ index < width * height, plane[index]? = some (f index))
    (row col : Nat) (hrow : row < height) (hcol : col < width) :
    buffer[saturatingMul row stride + col]? = some (f (row * width + col)) := by
  have hread := h.rows row hrow col hcol
  rw [hplane _ (row_add_lt hrow hcol)] at hread
  obtain ⟨hlt, -⟩ := List.getElem?_eq_some_iff.1 hread
  have hend := h.addressable
  rwa [saturatingMul_eq (by omega)]

variable {nv12 y u v : List UInt8} (hsize : width * height < 2 ^ 64)
  (hnv12 : nv12.length = width * height + width * height / 2) (hy : y.length = width * height)
  (hu : u.length = width * height / 4) (hv : v.length = width * height / 4)

end LatencyDesk.H264
