import LatencyDesk.Lib.Slice

/-!
# Pictures between host and client

A software access unit is a header with the sides of the picture and the NV12
bytes.  Three crates parse it, with the same checks and different arithmetic
(`access_unit_parsers_agree_iff`).

A picture that does not fit is scaled into a letterbox.  The client's pointer is
mapped back with both ends fixed, while the picture was sampled with every pixel
as wide as the next one, and still a click lands where the picture shows it
(`click_lands_on_shown_pixel`).
-/

namespace LatencyDesk.Frame

open Lib List Nat Option

/-! ## Access units -/

/-- `u32::from_le_bytes`. -/
def fromLeBytes (bytes : List UInt8) : UInt32 := UInt32.ofNat (leNat bytes)

/-- `u32::to_le_bytes`. -/
def toLeBytes (value : UInt32) : List UInt8 := (beBytes 4 value.toNat).reverse

/-- `usize::checked_mul`. -/
def checkedMul (a b : UInt64) : Option UInt64 :=
  if a.toNat * b.toNat < 2 ^ 64 then some (a * b) else none

/-- `nv12_len` of both crates.  The sum wraps as in a release build. -/
def nv12Len (width height : UInt32) : UInt64 :=
  width.toUInt64 * height.toUInt64 + width.toUInt64 * height.toUInt64 / 2

/-- The three copies of `parse_nv12_access_unit` differ in the length that they expect. -/
def parseWith (expected : UInt32 → UInt32 → Option UInt64) (bytes : List UInt8) :
    Option (UInt32 × UInt32 × List UInt8) :=
  if bytes.length < 8 then
    none
  else
    let width := fromLeBytes (slice bytes 0 4)
    let height := fromLeBytes (slice bytes 4 4)
    if width < 2 ∨ height < 2 ∨ width % 2 ≠ 0 ∨ height % 2 ≠ 0 then
      none
    else
      match expected width height with
      | none => none
      | some expected =>
        if UInt64.ofNat bytes.length ≠ 8 + expected then
          none
        else
          some (width, height, bytes.drop 8)

/-- A size and as many NV12 bytes as it needs. -/
def parseNv12AccessUnit : List UInt8 → Option (UInt32 × UInt32 × List UInt8) :=
  parseWith fun width height => some (nv12Len width height)

/-- The copy in `desktop_convert.rs` of platform-linux. -/
def DesktopConvert.parseNv12AccessUnit : List UInt8 → Option (UInt32 × UInt32 × List UInt8) :=
  parseWith fun width height => some (nv12Len width height)

/-- The copy of the client. -/
def Client.parseNv12AccessUnit : List UInt8 → Option (UInt32 × UInt32 × List UInt8) :=
  parseWith fun width height =>
    ((checkedMul width.toUInt64 height.toUInt64).bind fun area => checkedMul area 3).map (· / 2)

/-- The exact number of payload bytes of a picture. -/
def payloadLength (width height : UInt32) : Nat := width.toNat * height.toNat * 3 / 2

/-- Eight bytes of header and a whole picture. -/
structure IsAccessUnit (bytes : List UInt8) (width height : UInt32) (payload : List UInt8) :
    Prop where
  bytes_eq : bytes = toLeBytes width ++ (toLeBytes height ++ payload)
  least : 2 ≤ width ∧ 2 ≤ height
  even : width % 2 = 0 ∧ height % 2 = 0
  length_eq : payload.length = payloadLength width height

theorem fromLeBytes_eq_iff {bytes : List UInt8} {value : UInt32} (h : bytes.length = 4) :
    fromLeBytes bytes = value ↔ bytes = toLeBytes value := by
  have hslice : slice bytes.reverse 0 4 = bytes.reverse := slice_eq_drop (by simp [h])
  rw [fromLeBytes, leNat, ← hslice, word32_eq_iff (by simp [h]), hslice, toLeBytes,
    reverse_eq_iff]

section

variable {bytes payload : List UInt8} {width height : UInt32}

theorem header_eq_iff :
    bytes = toLeBytes width ++ (toLeBytes height ++ payload) ↔
      8 ≤ bytes.length ∧ fromLeBytes (slice bytes 0 4) = width ∧
        fromLeBytes (slice bytes 4 4) = height ∧ bytes.drop 8 = payload := by
  have hword : ∀ value, (toLeBytes value).length = 4 := by simp [toLeBytes]
  have hsplit : bytes = slice bytes 0 4 ++ (slice bytes 4 4 ++ bytes.drop 8) := by
    rw [← append_assoc, slice_append_slice, slice, drop_zero, take_append_drop]
  by_cases hlong : 8 ≤ bytes.length
  · have hfirst : (slice bytes 0 4).length = 4 := length_slice (by omega)
    have hsnd : (slice bytes 4 4).length = 4 := length_slice (by omega)
    rw [fromLeBytes_eq_iff hfirst, fromLeBytes_eq_iff hsnd]
    constructor
    · intro heq
      obtain ⟨hwidth, hrest⟩ :=
        append_inj (hsplit.symm.trans heq) (hfirst.trans (hword _).symm)
      exact ⟨hlong, hwidth, append_inj hrest (hsnd.trans (hword _).symm)⟩
    · rintro ⟨-, hwidth, hheight, rfl⟩
      rwa [← hwidth, ← hheight]
  · simp only [hlong, false_and, iff_false]
    rintro rfl
    simp [hword, ← add_assoc] at hlong

/-- The string starts with the sides of a picture that can be read. -/
structure HasHeader (bytes : List UInt8) (width height : UInt32) : Prop where
  long : 8 ≤ bytes.length
  width_eq : fromLeBytes (slice bytes 0 4) = width
  height_eq : fromLeBytes (slice bytes 4 4) = height
  least : 2 ≤ width ∧ 2 ≤ height
  even : width % 2 = 0 ∧ height % 2 = 0

/-- Every copy refuses a string without a header, and compares the length of one with it. -/
theorem parseWith_eq_some {expected : UInt32 → UInt32 → Option UInt64} :
    parseWith expected bytes = some (width, height, payload) ↔
      HasHeader bytes width height ∧ bytes.drop 8 = payload ∧
        ∃ length, expected width height = some length ∧ UInt64.ofNat bytes.length = 8 + length := by
  unfold parseWith
  constructor
  · intro h
    dsimp only at h
    split_ifs at h with hshort hsides
    split at h
    · cases h
    rename_i length hlength
    split_ifs at h with hlen
    cases h
    simp only [not_or, not_not, UInt32.not_lt] at hsides hlen
    exact ⟨⟨by omega, rfl, rfl, ⟨hsides.1, hsides.2.1⟩, hsides.2.2⟩, rfl, length, hlength, hlen⟩
  · rintro ⟨⟨hlong, rfl, rfl, hleast, heven⟩, rfl, length, hlength, hlen⟩
    rw [if_neg (by omega)]
    simp [UInt32.not_lt.2 hleast.1, UInt32.not_lt.2 hleast.2, heven, hlength, hlen]

theorem isAccessUnit_iff : IsAccessUnit bytes width height payload ↔
    HasHeader bytes width height ∧ bytes.drop 8 = payload ∧
      bytes.length = 8 + payloadLength width height := by
  constructor
  · rintro ⟨heq, hleast, heven, hpay⟩
    obtain ⟨hlong, hwidth, hheight, rfl⟩ := header_eq_iff.1 heq
    rw [length_drop] at hpay
    exact ⟨⟨hlong, hwidth, hheight, hleast, heven⟩, rfl, by omega⟩
  · rintro ⟨⟨hlong, hwidth, hheight, hleast, heven⟩, rfl, hpay⟩
    exact ⟨header_eq_iff.2 ⟨hlong, hwidth, hheight, rfl⟩, hleast, heven, by rw [length_drop]; omega⟩

/-- The unchecked length is the exact one up to a wrap. -/
theorem nv12Len_eq_iff (hlen : bytes.length < 2 ^ 63) :
    (∃ length, some (nv12Len width height) = some length ∧
        UInt64.ofNat bytes.length = 8 + length) ↔
      bytes.length = (8 + payloadLength width height) % 2 ^ 64 := by
  have hsum : payloadLength width height =
      width.toNat * height.toNat + width.toNat * height.toNat / 2 := by
    rw [payloadLength]
    omega
  simp only [Option.some.injEq, exists_eq_left']
  simp only [nv12Len, ← UInt64.toNat_inj, UInt64.toNat_add, UInt64.toNat_div, toNat_mul32,
    UInt64.toNat_ofNat', UInt64.reduceToNat, hsum]
  omega

/-- Where the checked product fails, no slice is as long as the picture. -/
theorem checkedMul_exact (hlen : bytes.length < 2 ^ 63) :
    (∃ length, ((checkedMul width.toUInt64 height.toUInt64).bind fun area =>
        checkedMul area 3).map (· / 2) = some length ∧
        UInt64.ofNat bytes.length = 8 + length) ↔
      bytes.length = 8 + payloadLength width height := by
  unfold payloadLength
  have harea := mul32_lt width height
  have hproduct := toNat_mul32 width height
  rw [checkedMul, UInt32.toNat_toUInt64, UInt32.toNat_toUInt64, if_pos harea, bind_some,
    checkedMul, hproduct]
  split_ifs with hthree
  · simp only [map_some, Option.some.injEq, exists_eq_left']
    simp only [← UInt64.toNat_inj, UInt64.toNat_add, UInt64.toNat_div, UInt64.toNat_mul,
      hproduct, UInt64.toNat_ofNat', UInt64.reduceToNat] at hthree ⊢
    rw [mod_eq_of_lt hthree]
    omega
  · simp only [UInt64.reduceToNat, map_none, reduceCtorEq, false_and, exists_false,
      false_iff] at hthree ⊢
    omega

end

/-- The exact length of the picture does not fit the machine word, and wraps to the length of the
string. -/
def Wraps (bytes : List UInt8) : Prop :=
  ∃ width height, HasHeader bytes width height ∧ 2 ^ 64 ≤ 8 + payloadLength width height ∧
    bytes.length = (8 + payloadLength width height) % 2 ^ 64

theorem client_accepts_iff {bytes : List UInt8} (hlen : bytes.length < 2 ^ 63)
    (width height : UInt32) (payload : List UInt8) :
    Client.parseNv12AccessUnit bytes = some (width, height, payload) ↔
      IsAccessUnit bytes width height payload := by
  rw [isAccessUnit_iff, ← checkedMul_exact hlen]
  exact parseWith_eq_some

/-- The three copies return the same, and accept exactly the access units, if and only if the
length does not wrap. -/
theorem access_unit_parsers_agree_iff (bytes : List UInt8) (hlen : bytes.length < 2 ^ 63) :
    ((∀ width height payload, Client.parseNv12AccessUnit bytes = some (width, height, payload) ↔
          IsAccessUnit bytes width height payload) ∧
        parseNv12AccessUnit bytes = Client.parseNv12AccessUnit bytes ∧
        DesktopConvert.parseNv12AccessUnit bytes = Client.parseNv12AccessUnit bytes) ↔
      ¬Wraps bytes := by
  have hagree : parseNv12AccessUnit bytes = Client.parseNv12AccessUnit bytes ↔ ¬Wraps bytes := by
    constructor
    · rintro heq ⟨width, height, hheader, hbig, hwrap⟩
      have hparse : parseNv12AccessUnit bytes = some (width, height, bytes.drop 8) :=
        parseWith_eq_some.2 ⟨hheader, rfl, (nv12Len_eq_iff hlen).2 hwrap⟩
      rw [heq, client_accepts_iff hlen, isAccessUnit_iff] at hparse
      omega
    · intro hfits
      ext ⟨width, height, payload⟩
      rw [client_accepts_iff hlen, isAccessUnit_iff]
      refine parseWith_eq_some.trans (and_congr_right fun hheader => and_congr_right fun _ => ?_)
      rw [nv12Len_eq_iff hlen]
      have := not_and.2 fun hbig hwrap => hfits ⟨width, height, hheader, hbig, hwrap⟩
      omega
  have hdesktop : DesktopConvert.parseNv12AccessUnit bytes = parseNv12AccessUnit bytes := rfl
  rw [hdesktop, and_self, and_iff_right (client_accepts_iff hlen)]
  exact hagree

/-- The header with the sides `0xc8daac60` and `0xd9863832`, whose length wraps to 32 bytes. -/
def wrappingHeader : List UInt8 := [0x60, 0xac, 0xda, 0xc8, 0x32, 0x38, 0x86, 0xd9]

/-- Two copies accept 40 bytes as a picture with 18 exabytes. -/
theorem wrapped_length_is_accepted :
    parseNv12AccessUnit (wrappingHeader ++ List.replicate 32 0) =
        some (0xc8daac60, 0xd9863832, List.replicate 32 0) ∧
      DesktopConvert.parseNv12AccessUnit (wrappingHeader ++ List.replicate 32 0) =
        some (0xc8daac60, 0xd9863832, List.replicate 32 0) ∧
      Client.parseNv12AccessUnit (wrappingHeader ++ List.replicate 32 0) = none := by
  decide

/-- The header that wraps, with one byte of payload less. -/
theorem sample_access_unit :
    let bytes := wrappingHeader ++ List.replicate 31 0
    ¬Wraps bytes ∧ parseNv12AccessUnit bytes = Client.parseNv12AccessUnit bytes := by
  intro bytes
  have hfits : ¬Wraps bytes := by
    rintro ⟨_, _, ⟨-, rfl, rfl, -⟩, -, hwrap⟩
    exact absurd hwrap (by decide)
  exact ⟨hfits, ((access_unit_parsers_agree_iff bytes (by decide)).2 hfits).2.1⟩

/-! ## Letterboxing

A `u32` is a number below `2 ^ 32`, and the products of two of them do not overflow a `u64`. -/

inductive ConvertError where
  | invalidDimensions
  | bufferTooSmall (required actual : Nat)

/-- The output and where the content lies in it. -/
structure LetterboxGeom where
  outWidth : Nat
  outHeight : Nat
  contentWidth : Nat
  contentHeight : Nat
  offsetX : Nat
  offsetY : Nat

def evenDimension (value : Nat) : Nat := value &&& 0xfffffffe

def letterboxIdentityGeom (width height : Nat) : LetterboxGeom :=
  ⟨width, height, width, height, 0, 0⟩

/-- The picture is even and fits unscaled. -/
def letterboxCanSkipScale (srcWidth srcHeight maxWidth maxHeight : Nat) : Bool :=
  2 ≤ srcWidth ∧ 2 ≤ srcHeight ∧ srcWidth % 2 = 0 ∧ srcHeight % 2 = 0 ∧
    srcWidth ≤ maxWidth ∧ srcHeight ≤ maxHeight

/-- `content_width` from the product of the source side and the other output side, and
`content_height` with the sides exchanged. -/
def contentSide (src other out outOther : Nat) : Nat :=
  let side := evenDimension (min (src * outOther / other) out % 2 ^ 32)
  min (if side = 0 then 2 else side) out

/-- The scaled content, centred in an even output. -/
def letterboxGeom (srcWidth srcHeight maxWidth maxHeight : Nat) :
    Except ConvertError LetterboxGeom :=
  let outWidth := evenDimension maxWidth
  let outHeight := evenDimension maxHeight
  if srcWidth = 0 ∨ srcHeight = 0 ∨ outWidth < 2 ∨ outHeight < 2 then
    .error .invalidDimensions
  else if letterboxCanSkipScale srcWidth srcHeight maxWidth maxHeight then
    .ok (letterboxIdentityGeom srcWidth srcHeight)
  else
    let contentWidth := contentSide srcWidth srcHeight outWidth outHeight
    let contentHeight := contentSide srcHeight srcWidth outHeight outWidth
    .ok
      { outWidth
        outHeight
        contentWidth
        contentHeight
        offsetX := evenDimension ((outWidth - contentWidth) / 2)
        offsetY := evenDimension ((outHeight - contentHeight) / 2) }

/-- The geometry of platform-linux, without bars. -/
def DesktopConvert.letterboxGeom (srcWidth srcHeight maxWidth maxHeight : Nat) :
    Except ConvertError LetterboxGeom :=
  let maxW := evenDimension maxWidth
  let maxH := evenDimension maxHeight
  if srcWidth = 0 ∨ srcHeight = 0 ∨ maxW < 2 ∨ maxH < 2 then
    .error .invalidDimensions
  else if letterboxCanSkipScale srcWidth srcHeight maxWidth maxHeight then
    .ok (letterboxIdentityGeom srcWidth srcHeight)
  else if srcHeight * maxW ≤ srcWidth * maxH then
    .ok (letterboxIdentityGeom maxW
      (min (max (evenDimension (srcHeight * maxW / srcWidth % 2 ^ 32)) 2) maxH))
  else
    .ok (letterboxIdentityGeom
      (min (max (evenDimension (srcWidth * maxH / srcHeight % 2 ^ 32)) 2) maxW) maxH)

/-- A coordinate, scaled from one side to another. -/
def scaleX (value ofSize toSize : Nat) : Nat :=
  if ofSize ≤ 1 then 0 else value * (toSize - 1) / (ofSize - 1) % 2 ^ 32

/-- One coordinate of `map_letterboxed_pointer`. -/
def mapAxis (value size out offset content screen : Nat) : Nat :=
  let p := scaleX (min value (size - 1)) size out
  min (scaleX (min (p - offset) (content - 1)) content screen) (screen - 1)

/-- The text of both crates. -/
def mapLetterboxedPointer (x y width height : Nat) (geom : LetterboxGeom)
    (screenWidth screenHeight : Nat) : Nat × Nat :=
  if width = 0 ∨ height = 0 ∨ screenWidth = 0 ∨ screenHeight = 0 then
    (0, 0)
  else
    (mapAxis x width geom.outWidth geom.offsetX geom.contentWidth screenWidth,
      mapAxis y height geom.outHeight geom.offsetY geom.contentHeight screenHeight)

/-- The columns, or rows, of the screen that pixel `c` of the content shows. -/
def ShownBy (content screen c pos : Nat) : Prop :=
  c * screen / content ≤ pos ∧ pos < (c + 1) * screen / content

theorem evenDimension_le (value : Nat) : evenDimension value ≤ value := and_le_left

/-- The limits are accepted with this geometry, in one of the crates. -/
def IsGeom (srcWidth srcHeight maxWidth maxHeight : UInt32) (geom : LetterboxGeom) : Prop :=
  letterboxGeom srcWidth.toNat srcHeight.toNat maxWidth.toNat maxHeight.toNat = .ok geom ∨
    DesktopConvert.letterboxGeom srcWidth.toNat srcHeight.toNat maxWidth.toNat maxHeight.toNat =
      .ok geom

/-- Both crates put the content inside the output. -/
structure LetterboxGeom.Fits (geom : LetterboxGeom) : Prop where
  width : geom.offsetX + geom.contentWidth ≤ geom.outWidth ∧ geom.outWidth < 2 ^ 32
  height : geom.offsetY + geom.contentHeight ≤ geom.outHeight ∧ geom.outHeight < 2 ^ 32

theorem letterboxIdentityGeom_fits {width height : Nat} (hwidth : width < 2 ^ 32)
    (hheight : height < 2 ^ 32) : (letterboxIdentityGeom width height).Fits :=
  ⟨⟨Nat.zero_add _ ▸ Nat.le_refl _, hwidth⟩, ⟨Nat.zero_add _ ▸ Nat.le_refl _, hheight⟩⟩

theorem bar_add_content_le {content out : Nat} (h : content ≤ out) :
    evenDimension ((out - content) / 2) + content ≤ out := by
  have := evenDimension_le ((out - content) / 2)
  omega

theorem fits_of_isGeom {srcWidth srcHeight maxWidth maxHeight : UInt32} {geom : LetterboxGeom}
    (h : IsGeom srcWidth srcHeight maxWidth maxHeight geom) : geom.Fits := by
  have hsrcWidth := srcWidth.toNat_lt
  have hsrcHeight := srcHeight.toNat_lt
  have hwidth := lt_of_le_of_lt (evenDimension_le _) maxWidth.toNat_lt
  have hheight := lt_of_le_of_lt (evenDimension_le _) maxHeight.toNat_lt
  rcases h with h | h
  · simp only [letterboxGeom] at h
    split_ifs at h <;> cases h
    · exact letterboxIdentityGeom_fits hsrcWidth hsrcHeight
    · exact ⟨⟨bar_add_content_le (min_le_right _ _), hwidth⟩,
        ⟨bar_add_content_le (min_le_right _ _), hheight⟩⟩
  · simp only [DesktopConvert.letterboxGeom] at h
    split_ifs at h <;> cases h <;> apply letterboxIdentityGeom_fits <;> omega

/-- Rounding with the ends fixed stays inside the box that the picture is sampled from.  The two
divisions differ by less than the source is wider than the content. -/
theorem shownBy_of_ends {c content screen : Nat} (hc : c < content) (hscreen : content ≤ screen) :
    ShownBy content screen c (if content ≤ 1 then 0 else c * (screen - 1) / (content - 1)) := by
  obtain ⟨d, rfl⟩ := Nat.exists_eq_add_of_le hscreen
  obtain ⟨k, rfl⟩ : ∃ k, content = k + 1 := ⟨content - 1, by omega⟩
  have hscaled : k + 1 + d - 1 = k + d := by omega
  rw [Nat.add_sub_cancel, hscaled]
  split_ifs with hone
  · obtain rfl : k = 0 := by omega
    obtain rfl : c = 0 := by omega
    simp only [ShownBy]
    omega
  · have hk : 0 < k := by omega
    constructor
    · -- The sampled start `q` is at least `c`.
      rw [Nat.le_div_iff_mul_le hk]
      have hq := Nat.div_mul_le_self (c * (k + 1 + d)) (k + 1)
      have hcq : c ≤ c * (k + 1 + d) / (k + 1) := by
        rw [Nat.le_div_iff_mul_le (by omega)]
        exact Nat.mul_le_mul_left c (by omega)
      grind
    · rw [← Nat.add_one_le_iff, Nat.le_div_iff_mul_le (by omega)]
      have hr := Nat.div_mul_le_self (c * (k + d)) k
      have hrc : c * (k + d) / k ≤ c + d := by
        apply Nat.div_le_of_le_mul
        have := Nat.mul_le_mul_right d (Nat.le_of_lt_succ hc)
        grind
      grind

theorem mapAxis_shownBy {x out offset content screen : Nat}
    (hx : offset ≤ x ∧ x < offset + content) (hfits : offset + content ≤ out ∧ out < 2 ^ 32)
    (hcontent : content ≤ screen) (hscreen : screen < 2 ^ 32) :
    ShownBy content screen (x - offset) (mapAxis x out out offset content screen) := by
  have hbox := shownBy_of_ends (c := x - offset) (by omega) hcontent
  have hout : scaleX x out out = x := by
    rw [scaleX]
    split_ifs with hone
    · omega
    · rw [Nat.mul_div_cancel _ (by omega)]
      omega
  have hlast : (x - offset + 1) * screen / content ≤ screen := by
    apply Nat.div_le_of_le_mul
    exact Nat.mul_le_mul_right screen (by omega)
  have hscale : scaleX (x - offset) content screen =
      if content ≤ 1 then 0 else (x - offset) * (screen - 1) / (content - 1) := by
    have := hbox.2
    rw [scaleX]
    split_ifs at this ⊢ with hone
    · rfl
    · rw [Nat.mod_eq_of_lt (by omega)]
  rw [← hscale] at hbox
  have := hbox.2
  rw [mapAxis, Nat.min_eq_left (by omega : x ≤ out - 1), hout,
    Nat.min_eq_left (by omega : x - offset ≤ content - 1), Nat.min_eq_left (by omega)]
  exact hbox

/-- A click on a pixel of the content lands on the part of the screen that the pixel shows. -/
theorem click_lands_on_shown_pixel (srcWidth srcHeight maxWidth maxHeight : UInt32)
    (geom : LetterboxGeom) (hgeom : IsGeom srcWidth srcHeight maxWidth maxHeight geom)
    (hwidth : geom.contentWidth ≤ srcWidth.toNat) (hheight : geom.contentHeight ≤ srcHeight.toNat)
    (x y : Nat) (hx : geom.offsetX ≤ x ∧ x < geom.offsetX + geom.contentWidth)
    (hy : geom.offsetY ≤ y ∧ y < geom.offsetY + geom.contentHeight) :
    let click := mapLetterboxedPointer x y geom.outWidth geom.outHeight geom srcWidth.toNat
      srcHeight.toNat
    ShownBy geom.contentWidth srcWidth.toNat (x - geom.offsetX) click.1 ∧
      ShownBy geom.contentHeight srcHeight.toNat (y - geom.offsetY) click.2 := by
  have hfits := fits_of_isGeom hgeom
  have := hfits.width
  have := hfits.height
  rw [mapLetterboxedPointer, if_neg (by omega)]
  exact ⟨mapAxis_shownBy hx hfits.width hwidth srcWidth.toNat_lt,
    mapAxis_shownBy hy hfits.height hheight srcHeight.toNat_lt⟩

/-- A screen of sixteen by four pixels between two bars. -/
theorem sample_click : ShownBy 8 16 7 15 ∧ ShownBy 2 4 1 3 :=
  click_lands_on_shown_pixel 16 4 8 8 ⟨8, 8, 8, 2, 0, 2⟩ (.inl rfl) (by decide) (by decide) 7 3
    (by decide) (by decide)

end LatencyDesk.Frame
