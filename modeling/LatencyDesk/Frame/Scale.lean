import LatencyDesk.Frame.Convert
import LatencyDesk.Lib.InPlace
import Mathlib.Algebra.GroupWithZero.Nat

/-!
# Scaling into a letterbox

The loops of `letterbox_scale_bgra_into` of the frame crate, which copies the nearest pixel, and of
platform-linux, which takes the average of a box.  They write into a buffer that the caller uses
again.

A picture that needs no scaling is not written into the buffer, which keeps what it held
(`skipped_scale_leaves_the_buffer`).  `scaled_picture_fills_the_buffer_iff` says when one is.
The frame crate shows the nearest pixel of the source inside the bars
(`letterbox_shows_nearest_pixels`).
-/

namespace LatencyDesk.Frame

open Lib List Nat

/-- The arguments of the scaling functions. -/
structure ScaleRequest where
  src : List UInt8
  srcWidth : Nat
  srcHeight : Nat
  srcStride : Nat
  maxWidth : Nat
  maxHeight : Nat

variable (r : ScaleRequest)
  (geometry : Nat → Nat → Nat → Nat → Except ConvertError LetterboxGeom)
  (pixel : LetterboxGeom → Nat → Nat → List (Nat × Option UInt8))

/-- The text of both crates.  The product with a `u32` does not saturate, and the one with the
stride may. -/
def validateBgraBuffer : Except ConvertError Unit :=
  let required := min (r.srcStride * r.srcHeight) (2 ^ 64 - 1)
  if r.srcStride < r.srcWidth * 4 then
    .error (.bufferTooSmall (r.srcWidth * 4) r.srcStride)
  else if r.src.length < required then
    .error (.bufferTooSmall required r.src.length)
  else
    .ok ()

/-- `letterbox_can_skip_scale` of the request. -/
def ScaleRequest.canSkip : Bool :=
  letterboxCanSkipScale r.srcWidth r.srcHeight r.maxWidth r.maxHeight

/-- `letterbox_scale_bgra_into` of both crates, with the geometry and the writes of one pixel.
`none` is a panic: a vector has less than `2 ^ 63` bytes, and no index is out of range. -/
def scaleInto (out : List UInt8) : Option (Except ConvertError LetterboxGeom × List UInt8) :=
  match validateBgraBuffer r with
  | .error e => some (.error e, out)
  | .ok () =>
    if r.canSkip then
      some (.ok (letterboxIdentityGeom r.srcWidth r.srcHeight), out)
    else
      match geometry r.srcWidth r.srcHeight r.maxWidth r.maxHeight with
      | .error e => some (.error e, out)
      | .ok geom =>
        let needed := min (geom.outWidth * geom.outHeight * 4) (2 ^ 64 - 1)
        if 2 ^ 63 ≤ needed then
          none
        else
          let writes := (range geom.outHeight).flatMap fun y =>
            (range geom.outWidth).flatMap fun x => pixel geom x y
          (writes.foldlM store (replicate needed 0)).map fun out => (.ok geom, out)

/-- The geometry and the buffer, unless there is an error. -/
def whole : Except ConvertError LetterboxGeom × List UInt8 →
    Except ConvertError (LetterboxGeom × List UInt8)
  | (.error e, _) => .error e
  | (.ok geom, out) => .ok (geom, out)

/-- The rows of the source without their padding. -/
def packedSource : List UInt8 :=
  if r.srcStride = r.srcWidth * 4 then
    r.src.take (min (r.srcStride * r.srcHeight) (2 ^ 64 - 1))
  else
    (range r.srcHeight).flatMap fun y => slice r.src (y * r.srcStride) (r.srcWidth * 4)

/-- `letterbox_scale_bgra` of both crates. -/
def scaleWith (into : List UInt8 → Option (Except ConvertError LetterboxGeom × List UInt8)) :
    Option (Except ConvertError (LetterboxGeom × List UInt8)) :=
  match validateBgraBuffer r with
  | .error e => some (.error e)
  | .ok () =>
    if r.canSkip then
      some (.ok (letterboxIdentityGeom r.srcWidth r.srcHeight, packedSource r))
    else
      (into []).map whole

/-- An entry of the tables of the frame crate, where `none` is `usize::MAX`. -/
def tableEntry (side content offset pos : Nat) : Option Nat :=
  if pos < offset ∨ offset + content ≤ pos then
    none
  else
    some (min ((pos - offset) * side / content) (side - 1))

/-- The four bytes that the inner loop of the frame crate copies to a place. -/
def letterboxCopyPixel (geom : LetterboxGeom) (x y : Nat) : List (Nat × Option UInt8) :=
  match tableEntry r.srcHeight (max geom.contentHeight 1) geom.offsetY y,
      tableEntry r.srcWidth (max geom.contentWidth 1) geom.offsetX x with
  | some sy, some sx => (range 4).map fun c =>
    (y * geom.outWidth * 4 + x * 4 + c, r.src[sy * r.srcStride + sx * 4 + c]?)
  | _, _ => []

/-- The function of the frame crate. -/
def letterboxScaleBgraInto :
    List UInt8 → Option (Except ConvertError LetterboxGeom × List UInt8) :=
  scaleInto r letterboxGeom (letterboxCopyPixel r)

/-- The function of the frame crate. -/
def letterboxScaleBgra : Option (Except ConvertError (LetterboxGeom × List UInt8)) :=
  scaleWith r (letterboxScaleBgraInto r)

namespace DesktopConvert

/-- The first column, or row, of the box of a pixel and the one after its last. -/
def boxEdges (side out pos : Nat) : Nat × Nat :=
  let first := pos * side / out
  let last := (pos + 1) * side / out
  (min first (side - 1), min (if last ≤ first then min (first + 1) side else last) side)

/-- The offsets of the pixels in a box. -/
def boxPixels (srcStride : Nat) (columns rows : Nat × Nat) : List Nat :=
  (range' rows.1 (rows.2 - rows.1)).flatMap fun sy =>
    (range' columns.1 (columns.2 - columns.1)).map fun sx => sy * srcStride + sx * 4

/-- One channel.  The sum and the count wrap as in a release build. -/
def boxFilterPixel (src : List UInt8) (box : List Nat) (c : Nat) : Option UInt8 :=
  (box.mapM fun px => src[px + c]?).map fun values =>
    let total := (values.map UInt8.toNat).sum % 2 ^ 32
    let count := values.length % 2 ^ 32
    if count = 0 then 0 else UInt8.ofNat (total / count)

/-- The four bytes that the inner loop of platform-linux writes to a place. -/
def letterboxFilterPixel (geom : LetterboxGeom) (x y : Nat) : List (Nat × Option UInt8) :=
  let box := boxPixels r.srcStride (boxEdges r.srcWidth geom.outWidth x)
    (boxEdges r.srcHeight geom.outHeight y)
  (range 4).map fun c => ((y * geom.outWidth + x) * 4 + c, boxFilterPixel r.src box c)

/-- The function of platform-linux. -/
def letterboxScaleBgraInto :
    List UInt8 → Option (Except ConvertError LetterboxGeom × List UInt8) :=
  scaleInto r letterboxGeom (letterboxFilterPixel r)

/-- The function of platform-linux. -/
def letterboxScaleBgra : Option (Except ConvertError (LetterboxGeom × List UInt8)) :=
  scaleWith r (letterboxScaleBgraInto r)

end DesktopConvert

/-! ## The nearest pixel -/

theorem evenDimension_eq {value : Nat} (h : value < 2 ^ 32) :
    evenDimension value = value / 2 * 2 := by
  have hhalf : evenDimension value / 2 = value / 2 :=
    and_div_two.trans ((and_two_pow_sub_one_eq_mod _ 31).trans (mod_eq_of_lt (by omega)))
  have hmod : evenDimension value % 2 = 0 := by
    simpa [evenDimension] using @Nat.and_mod_two_pow value 0xfffffffe 1
  omega

/-- The content is even, and as wide as the output unless the output is too low for it. -/
theorem contentSide_spec {src other out outOther : Nat} (heven : out % 2 = 0) (hout : 2 ≤ out)
    (hlt : out < 2 ^ 32) :
    contentSide src other out outOther % 2 = 0 ∧ 2 ≤ contentSide src other out outOther ∧
      contentSide src other out outOther ≤ out ∧
      (out ≤ src * outOther / other → contentSide src other out outOther = out) := by
  have hmin : min (src * outOther / other) out < 2 ^ 32 := by omega
  unfold contentSide
  rw [mod_eq_of_lt hmin, evenDimension_eq hmin]
  dsimp only
  split_ifs <;> omega

/-- The content lies inside an output within the limits, and it reaches two opposite edges. -/
structure IsLetterbox (maxWidth maxHeight : Nat) (geom : LetterboxGeom) : Prop where
  even : ∀ side ∈ [geom.outWidth, geom.outHeight, geom.contentWidth, geom.contentHeight,
    geom.offsetX, geom.offsetY], side % 2 = 0
  limits : geom.outWidth ≤ maxWidth ∧ geom.outHeight ≤ maxHeight
  positive : 0 < geom.contentWidth ∧ 0 < geom.contentHeight
  inside : geom.offsetX + geom.contentWidth ≤ geom.outWidth ∧
    geom.offsetY + geom.contentHeight ≤ geom.outHeight
  touches : geom.contentWidth = geom.outWidth ∨ geom.contentHeight = geom.outHeight

/-- The sides are accepted with this geometry, and the picture has to be scaled. -/
structure Scaled (geom : LetterboxGeom) : Prop where
  scale : r.canSkip = false
  geom_eq : geometry r.srcWidth r.srcHeight r.maxWidth r.maxHeight = .ok geom

/-- The source is a slice that holds the picture, and a vector can hold the output. -/
structure Holds (geom : LetterboxGeom) : Prop where
  valid : validateBgraBuffer r = .ok ()
  source : r.src.length < 2 ^ 63
  output : geom.outWidth * geom.outHeight * 4 < 2 ^ 63

variable {r geometry pixel} {geom : LetterboxGeom}

theorem Scaled.isLetterbox (h : Scaled r letterboxGeom geom) (hwidth : r.maxWidth < 2 ^ 32)
    (hheight : r.maxHeight < 2 ^ 32) :
    0 < r.srcWidth ∧ 0 < r.srcHeight ∧ IsLetterbox r.maxWidth r.maxHeight geom := by
  obtain ⟨hscale, hgeom⟩ := h
  unfold ScaleRequest.canSkip at hscale
  simp only [letterboxGeom, hscale, evenDimension_eq hwidth,
    evenDimension_eq hheight, Bool.false_eq_true, if_false] at hgeom
  generalize hw : r.maxWidth / 2 * 2 = w at hgeom
  generalize hh : r.maxHeight / 2 * 2 = h at hgeom
  split_ifs at hgeom with hzero
  obtain rfl := Except.ok.inj hgeom
  simp only [not_or, not_lt] at hzero
  obtain ⟨hsrcWidth, hsrcHeight, hw2, hh2⟩ := hzero
  obtain ⟨hcwEven, hcwPos, hcwLe, hcwFull⟩ :=
    @contentSide_spec r.srcWidth r.srcHeight w h (by omega) hw2 (by omega)
  obtain ⟨hchEven, hchPos, hchLe, hchFull⟩ :=
    @contentSide_spec r.srcHeight r.srcWidth h w (by omega) hh2 (by omega)
  rw [le_div_iff_mul_le (by omega)] at hcwFull hchFull
  generalize contentSide r.srcWidth r.srcHeight w h = cw at *
  generalize contentSide r.srcHeight r.srcWidth h w = ch at *
  rw [evenDimension_eq (by omega), evenDimension_eq (by omega)]
  refine ⟨by omega, by omega, ⟨?_, ?_, ?_, ?_, ?_⟩⟩
  · intro side hside
    simp only [mem_cons, not_mem_nil, or_false] at hside
    omega
  · constructor <;> dsimp only <;> omega
  · constructor <;> dsimp only <;> omega
  · constructor <;> dsimp only <;> omega
  · rcases le_total (w * r.srcHeight) (r.srcWidth * h) with hle | hle
    · exact .inl (hcwFull hle)
    · exact .inr (hchFull (by rwa [mul_comm h, mul_comm r.srcHeight]))

theorem Holds.index_lt (h : Holds r geom) {sx sy c : Nat} (hsx : sx < r.srcWidth)
    (hsy : sy < r.srcHeight) (hc : c < 4) : sy * r.srcStride + sx * 4 + c < r.src.length := by
  obtain ⟨hvalid, hlen, -⟩ := h
  unfold validateBgraBuffer at hvalid
  dsimp only at hvalid
  split_ifs at hvalid
  have hrow := row_add_lt hsy (show sx * 4 + c < r.srcStride by omega)
  omega

/-- The loop fills the buffer with the bytes that a function gives, when it writes every pixel that
is not zero. -/
theorem Scaled.scaleInto_eq {f : Nat → Nat → Nat → UInt8} (h : Scaled r geometry geom)
    (hholds : Holds r geom)
    (hpixel : ∀ x < geom.outWidth, ∀ y < geom.outHeight,
      pixel geom x y = [] ∧ (∀ c, f x y c = 0) ∨
        pixel geom x y = (range 4).map fun c => ((y * geom.outWidth + x) * 4 + c, some (f x y c)))
    (out : List UInt8) :
    scaleInto r geometry pixel out = some (.ok geom,
      (range (geom.outWidth * geom.outHeight * 4)).map fun i =>
        f (i / 4 % geom.outWidth) (i / 4 / geom.outWidth) (i % 4)) := by
  obtain ⟨hscale, hgeom⟩ := h
  obtain ⟨hvalid, -, hfits⟩ := hholds
  unfold scaleInto
  rw [hvalid, hgeom]
  dsimp only
  rw [hscale, if_neg Bool.false_ne_true, Nat.min_eq_left (by omega), if_neg (by omega),
    foldlM_store (f := fun i => f (i / 4 % geom.outWidth) (i / 4 / geom.outWidth) (i % 4)),
    length_replicate]
  · rfl
  · intro write hmem
    simp only [mem_flatMap, mem_range] at hmem
    obtain ⟨y, hy, x, hx, hmem⟩ := hmem
    rcases hpixel x hx y hy with ⟨hnone, -⟩ | hfour
    · rw [hnone] at hmem
      cases hmem
    rw [hfour] at hmem
    obtain ⟨c, hc, rfl⟩ := mem_map.1 hmem
    rw [mem_range] at hc
    have hend := row_add_lt hy hx
    have hplace : ((y * geom.outWidth + x) * 4 + c) / 4 = y * geom.outWidth + x := by omega
    have hchannel : ((y * geom.outWidth + x) * 4 + c) % 4 = c := by omega
    obtain ⟨hrow, hcolumn⟩ := (Nat.div_mod_unique (Nat.zero_lt_of_lt hx)).2
      ⟨show x + geom.outWidth * y = y * geom.outWidth + x by rw [Nat.mul_comm, Nat.add_comm], hx⟩
    rw [length_replicate, hplace, hchannel, hrow, hcolumn]
    exact ⟨by dsimp only; omega, rfl⟩
  · intro i hi
    rw [length_replicate] at hi
    have hx : i / 4 % geom.outWidth < geom.outWidth :=
      Nat.mod_lt _ (Nat.pos_of_ne_zero fun hzero => by simp [hzero] at hi)
    have hy : i / 4 / geom.outWidth < geom.outHeight := Nat.div_lt_of_lt_mul (by omega)
    have hplace := Nat.div_add_mod' (i / 4) geom.outWidth
    rcases hpixel _ hx _ hy with ⟨-, hzero⟩ | hfour
    · exact .inr (by simp [hi, hzero])
    refine .inl (mem_map.2 ⟨_, mem_flatMap.2 ⟨_, mem_range.2 hy, mem_flatMap.2
      ⟨_, mem_range.2 hx, hfour ▸ mem_map.2 ⟨i % 4, mem_range.2 (by omega), rfl⟩⟩⟩, ?_⟩)
    dsimp only
    omega

/-- The place is not in a bar. -/
def LetterboxGeom.Shows (geom : LetterboxGeom) (x y : Nat) : Prop :=
  (geom.offsetX ≤ x ∧ x < geom.offsetX + geom.contentWidth) ∧
    geom.offsetY ≤ y ∧ y < geom.offsetY + geom.contentHeight

instance (geom : LetterboxGeom) (x y : Nat) : Decidable (geom.Shows x y) :=
  inferInstanceAs (Decidable (_ ∧ _))

/-- The byte of the source that belongs to a place of the output, and zero in the bars. -/
def nearest (r : ScaleRequest) (geom : LetterboxGeom) (x y c : Nat) : Option UInt8 :=
  if geom.Shows x y then
    r.src[(y - geom.offsetY) * r.srcHeight / geom.contentHeight * r.srcStride +
      (x - geom.offsetX) * r.srcWidth / geom.contentWidth * 4 + c]?
  else
    some 0

theorem scaled_lt {side content offset pos : Nat} (hside : 0 < side)
    (hpos : offset ≤ pos ∧ pos < offset + content) : (pos - offset) * side / content < side :=
  Nat.div_lt_of_lt_mul (Nat.mul_lt_mul_of_pos_right (by omega) hside)

theorem tableEntry_eq {side content offset pos : Nat} (hside : 0 < side) (hcontent : 0 < content) :
    tableEntry side (max content 1) offset pos =
      if offset ≤ pos ∧ pos < offset + content then some ((pos - offset) * side / content)
      else none := by
  rw [max_eq_left hcontent]
  unfold tableEntry
  by_cases hpos : offset ≤ pos ∧ pos < offset + content
  · have hlt := scaled_lt hside hpos
    rw [if_neg (by omega), if_pos hpos, min_eq_left (by omega)]
  · rw [if_pos (by omega), if_neg hpos]

/-- The frame crate fills the buffer with the nearest pixels. -/
theorem Scaled.letterboxScaleBgraInto_eq (h : Scaled r letterboxGeom geom) (hholds : Holds r geom)
    (hwidth : r.maxWidth < 2 ^ 32) (hheight : r.maxHeight < 2 ^ 32) (out : List UInt8) :
    ∃ picture, letterboxScaleBgraInto r out = some (.ok geom, picture) ∧
      picture.length = geom.outWidth * geom.outHeight * 4 ∧
      ∀ i < picture.length, picture[i]? =
        nearest r geom (i / 4 % geom.outWidth) (i / 4 / geom.outWidth) (i % 4) := by
  obtain ⟨hwidth, hheight, hbox⟩ := h.isLetterbox hwidth hheight
  have hnearest : ∀ x y c, c < 4 →
      nearest r geom x y c = some ((nearest r geom x y c).getD 0) := by
    intro x y c hc
    unfold nearest
    split_ifs with hshows
    · have hlt := hholds.index_lt (scaled_lt hwidth hshows.1) (scaled_lt hheight hshows.2) hc
      rw [getElem?_eq_getElem hlt]
      rfl
    · rfl
  refine ⟨_, h.scaleInto_eq hholds (f := fun x y c => (nearest r geom x y c).getD 0) ?_ out,
    by simp, ?_⟩
  · intro x _ y _
    unfold letterboxCopyPixel
    rw [tableEntry_eq hheight hbox.positive.2, tableEntry_eq hwidth hbox.positive.1]
    by_cases hshows : geom.Shows x y
    · refine .inr ?_
      rw [if_pos hshows.1, if_pos hshows.2]
      refine map_congr_left fun c hc => ?_
      rw [← hnearest x y c (mem_range.1 hc), nearest, if_pos hshows, Nat.add_mul]
    · refine .inl ⟨?_, fun c => by simp [nearest, hshows]⟩
      unfold LetterboxGeom.Shows at hshows
      split_ifs <;> first | rfl | tauto
  · intro i hi
    rw [length_map, length_range] at hi
    rw [hnearest _ _ _ (mod_lt i (by decide))]
    simp [hi]

/-- Every size that the frame crate accepts has the geometry of a letterbox, and the picture of a
source that holds it shows the nearest pixels. -/
theorem letterbox_shows_nearest_pixels (hwidth : r.maxWidth < 2 ^ 32)
    (hheight : r.maxHeight < 2 ^ 32) (h : Scaled r letterboxGeom geom) :
    IsLetterbox r.maxWidth r.maxHeight geom ∧ (Holds r geom → ∀ out, ∃ picture,
      letterboxScaleBgraInto r out = some (.ok geom, picture) ∧
      picture.length = geom.outWidth * geom.outHeight * 4 ∧
      ∀ i < picture.length, picture[i]? =
        nearest r geom (i / 4 % geom.outWidth) (i / 4 / geom.outWidth) (i % 4)) :=
  ⟨(h.isLetterbox hwidth hheight).2.2,
    fun hholds => h.letterboxScaleBgraInto_eq hholds hwidth hheight⟩

/-- A picture of three by two pixels, for an output of six by eight. -/
def sampleRequest : ScaleRequest := ⟨(range 24).map UInt8.ofNat, 3, 2, 12, 6, 8⟩

/-- The first pixel is in a bar, and the last one of the first row of the content is the third
one of the source. -/
theorem sample_nearest_pixels : ∃ picture,
    letterboxScaleBgraInto sampleRequest [7] = some (.ok ⟨6, 8, 6, 4, 0, 2⟩, picture) ∧
      picture[0]? = some 0 ∧ picture[(2 * 6 + 5) * 4 + 1]? = some 9 := by
  obtain ⟨-, hpicture⟩ := @letterbox_shows_nearest_pixels sampleRequest ⟨6, 8, 6, 4, 0, 2⟩
    (by decide) (by decide) ⟨rfl, rfl⟩
  obtain ⟨picture, heq, hlen, hget⟩ := hpicture ⟨rfl, by decide, by decide⟩ [7]
  exact ⟨picture, heq, hget _ (by rw [hlen]; decide), hget _ (by rw [hlen]; decide)⟩

/-- The bytes of the largest output do not fit into a vector. -/
theorem largest_output_panics :
    letterboxScaleBgraInto ⟨replicate 4 1, 1, 1, 4, 0xffffffff, 0xffffffff⟩ [] = none := rfl

/-! ## A buffer that is used again -/

/-- Both functions return, and the one that is given a buffer leaves the picture of the other
one in it, or they fail with the same error. -/
def Agree (scaled : Option (Except ConvertError (LetterboxGeom × List UInt8)))
    (into : Option (Except ConvertError LetterboxGeom × List UInt8)) : Prop :=
  ∃ result, scaled = some result ∧ into.map whole = some result

/-- The picture is scaled to an output that a vector can hold.  Or it is not scaled, and the
buffer holds it already. -/
def Fills (r : ScaleRequest)
    (geometry : Nat → Nat → Nat → Nat → Except ConvertError LetterboxGeom) (out : List UInt8) :
    Prop :=
  if r.canSkip then out = packedSource r
  else ∀ geom, geometry r.srcWidth r.srcHeight r.maxWidth r.maxHeight = .ok geom →
    geom.outWidth * geom.outHeight * 4 < 2 ^ 63

/-- Where the writes of a picture are in range, the output decides whether the functions agree. -/
theorem agree_iff (hvalid : validateBgraBuffer r = .ok ()) (hsrc : r.src.length < 2 ^ 63)
    (hwrites : ∀ geom, Scaled r geometry geom → Holds r geom → ∀ out, ∃ picture,
      scaleInto r geometry pixel out = some (.ok geom, picture)) (out : List UInt8) :
    Agree (scaleWith r (scaleInto r geometry pixel)) (scaleInto r geometry pixel out) ↔
      Fills r geometry out := by
  unfold Agree Fills
  cases hskip : r.canSkip with
  | true =>
    simp [scaleWith, scaleInto, hvalid, hskip, whole]
  | false =>
    have hbuffer : scaleWith r (scaleInto r geometry pixel) =
        (scaleInto r geometry pixel out).map whole := by
      unfold scaleWith scaleInto
      rw [hvalid]
      dsimp only
      rw [hskip]
      cases geometry r.srcWidth r.srcHeight r.maxWidth r.maxHeight <;> rfl
    rw [hbuffer, if_neg Bool.false_ne_true]
    cases hgeom : geometry r.srcWidth r.srcHeight r.maxWidth r.maxHeight with
    | error e => simp [scaleInto, hvalid, hskip, hgeom]
    | ok geom =>
      constructor
      · rintro ⟨result, hresult, -⟩ _ ⟨⟩
        by_contra hlarge
        have hpanic : scaleInto r geometry pixel out = none := by
          unfold scaleInto
          rw [hvalid, hgeom]
          dsimp only
          rw [hskip, if_neg Bool.false_ne_true, if_pos (by omega)]
        rw [hpanic] at hresult
        cases hresult
      · intro hfits
        obtain ⟨picture, heq⟩ := hwrites geom ⟨hskip, hgeom⟩ ⟨hvalid, hsrc, hfits geom rfl⟩ out
        rw [heq]
        exact ⟨_, rfl, rfl⟩

/-- Every pixel of a box is one of the source. -/
theorem boxFilterPixel_isSome (h : Holds r geom) (x y : Nat) {c : Nat} (hc : c < 4) :
    (DesktopConvert.boxFilterPixel r.src (DesktopConvert.boxPixels r.srcStride
      (DesktopConvert.boxEdges r.srcWidth geom.outWidth x)
      (DesktopConvert.boxEdges r.srcHeight geom.outHeight y)) c).isSome = true := by
  unfold DesktopConvert.boxFilterPixel
  rw [mapM_eq_some (g := fun px => r.src[px + c]?.getD 0), Option.map_some, Option.isSome_some]
  intro px hpx
  simp only [DesktopConvert.boxPixels, DesktopConvert.boxEdges, mem_flatMap, mem_map,
    mem_range'_1] at hpx
  obtain ⟨sy, hsy, sx, hsx, rfl⟩ := hpx
  rw [getElem?_eq_getElem (h.index_lt (by omega) (by omega) hc)]
  rfl

/-- With every source that passes the check, the two functions of a crate agree if and only if
the picture is scaled to an output that fits, or the buffer holds it already. -/
theorem scaled_picture_fills_the_buffer_iff (hvalid : validateBgraBuffer r = .ok ())
    (hsrc : r.src.length < 2 ^ 63) (hwidth : r.maxWidth < 2 ^ 32) (hheight : r.maxHeight < 2 ^ 32)
    (out : List UInt8) :
    (Agree (letterboxScaleBgra r) (letterboxScaleBgraInto r out) ↔ Fills r letterboxGeom out) ∧
      (Agree (DesktopConvert.letterboxScaleBgra r) (DesktopConvert.letterboxScaleBgraInto r out) ↔
        Fills r DesktopConvert.letterboxGeom out) := by
  refine ⟨agree_iff hvalid hsrc (fun geom h hholds out => ?_) out,
    agree_iff hvalid hsrc (fun geom h hholds out => ?_) out⟩
  · obtain ⟨picture, heq, -⟩ := h.letterboxScaleBgraInto_eq hholds hwidth hheight out
    exact ⟨picture, heq⟩
  · refine ⟨_, h.scaleInto_eq hholds (f := fun x y c => (DesktopConvert.boxFilterPixel r.src
      (DesktopConvert.boxPixels r.srcStride (DesktopConvert.boxEdges r.srcWidth geom.outWidth x)
        (DesktopConvert.boxEdges r.srcHeight geom.outHeight y)) c).getD 0) ?_ out⟩
    intro x _ y _
    refine .inr (map_congr_left fun c hc => ?_)
    obtain ⟨value, hvalue⟩ :=
      Option.isSome_iff_exists.1 (boxFilterPixel_isSome hholds x y (mem_range.1 hc))
    rw [hvalue]
    rfl

/-- Both crates scale the sample picture into a buffer that held something else. -/
theorem sample_scaled_picture :
    Agree (letterboxScaleBgra sampleRequest) (letterboxScaleBgraInto sampleRequest [7]) ∧
      Agree (DesktopConvert.letterboxScaleBgra sampleRequest)
        (DesktopConvert.letterboxScaleBgraInto sampleRequest [7]) := by
  obtain ⟨hframe, hdesktop⟩ := @scaled_picture_fills_the_buffer_iff sampleRequest rfl (by decide)
    (by decide) (by decide) [7]
  refine ⟨hframe.2 ?_, hdesktop.2 ?_⟩
  all_goals
    rintro _ ⟨⟩
    decide

/-- A picture that is not scaled is not written, in either crate. -/
theorem skipped_scale_leaves_the_buffer :
    let request : ScaleRequest := ⟨replicate 16 1, 2, 2, 8, 2, 2⟩
    letterboxScaleBgra request = some (.ok (letterboxIdentityGeom 2 2, replicate 16 1)) ∧
      letterboxScaleBgraInto request [] = some (.ok (letterboxIdentityGeom 2 2), []) ∧
      DesktopConvert.letterboxScaleBgra request =
        some (.ok (letterboxIdentityGeom 2 2, replicate 16 1)) ∧
      DesktopConvert.letterboxScaleBgraInto request [] =
        some (.ok (letterboxIdentityGeom 2 2), []) :=
  ⟨rfl, rfl, rfl, rfl⟩

end LatencyDesk.Frame
