import LatencyDesk.Lib.Word

/-!
# Inspection of Annex-B access units

The model of `inspect_annex_b` in `crates/h264/src/lib.rs` with every error path:
the search for start codes, the loop over the NAL units, and the parser that
reads the class of a slice from its first bits.  The loops that move a cursor
over the bytes are recursions over the bytes that are left.
-/

namespace LatencyDesk.H264

open Lib

/-- `MAX_ACCESS_UNIT_BYTES`. -/
def maxAccessUnitBytes : Nat := 16 * 1024 * 1024

/-- `MAX_NAL_UNITS`. -/
def maxNalUnits : Nat := 2_048

/-- `MAX_RBSP_BYTES`. -/
def maxRbspBytes : Nat := 4 * 1024 * 1024

/-- `H264Error`, as the inspector and the planner report it. -/
inductive H264Error where
  | accessUnitSize (bytes : Nat)
  | missingStartCode
  | leadingGarbage
  | malformed
  | forbiddenZeroBit
  | tooManyNalUnits
  | unsupportedNalType (nalType : UInt8)
  | dataPartitionUnsupported
  | noPicture
  | mixedPictureTypes
  | bFrameDetected
  | rbspLimit (bytes : Nat)
  | malformedEscape (cursor : Nat) (byte : UInt8)
  | truncatedSlice
  | expGolombOverflow
  | recoveryPointRequired
  | invalidDependency
  | frameIdExhausted
  | nonMonotonicEpoch
deriving DecidableEq

inductive SliceClass where
  | p
  | b
  | i
  | sp
  | si
deriving DecidableEq

structure AnnexBSummary where
  nalUnits : UInt16
  hasSps : Bool
  hasPps : Bool
  hasIdrSlice : Bool
  hasNonIdrSlice : Bool
  hasAud : Bool
  hasBSlice : Bool
deriving DecidableEq

namespace AnnexBSummary

/-- `AnnexBSummary::default`. -/
def default : AnnexBSummary :=
  { nalUnits := 0, hasSps := false, hasPps := false, hasIdrSlice := false
    hasNonIdrSlice := false, hasAud := false, hasBSlice := false }

def containsPicture (summary : AnnexBSummary) : Bool :=
  summary.hasIdrSlice || summary.hasNonIdrSlice

def validateLowDelay (summary : AnnexBSummary) : Except H264Error AnnexBSummary :=
  if summary.hasBSlice then .error .bFrameDetected else .ok summary

end AnnexBSummary

/-! ## Bits -/

structure BitReader where
  bytes : List UInt8
  bitOffset : Nat

namespace BitReader

def readBit (reader : BitReader) : Except H264Error (UInt8 × BitReader) :=
  match reader.bytes[reader.bitOffset / 8]? with
  | none => .error .truncatedSlice
  | some byte =>
    let bit := (byte >>> UInt8.ofNat (7 - reader.bitOffset % 8)) &&& 1
    .ok (bit, { reader with bitOffset := reader.bitOffset + 1 })

/-- The loop of `read_ue` that counts leading zeros.  It stops after 32. -/
def countLeading : Nat → BitReader → Nat → Except H264Error (Nat × BitReader)
  | 0, _, _ => .error .expGolombOverflow
  | fuel + 1, reader, leading =>
    match reader.readBit with
    | .error e => .error e
    | .ok (bit, reader) =>
      if bit = 0 then
        if 31 < leading + 1 then .error .expGolombOverflow
        else countLeading fuel reader (leading + 1)
      else
        .ok (leading, reader)

/-- The loop of `read_ue` that reads the bits behind the first one. -/
def readSuffix : Nat → BitReader → UInt32 → Except H264Error (UInt32 × BitReader)
  | 0, reader, suffix => .ok (suffix, reader)
  | count + 1, reader, suffix =>
    match reader.readBit with
    | .error e => .error e
    | .ok (bit, reader) => readSuffix count reader (suffix <<< 1 ||| bit.toUInt32)

/-- An unsigned Exp-Golomb number. -/
def readUe (reader : BitReader) : Except H264Error (UInt32 × BitReader) :=
  match countLeading 32 reader 0 with
  | .error e => .error e
  | .ok (leading, reader) =>
    match readSuffix leading reader 0 with
    | .error e => .error e
    | .ok (suffix, reader) =>
      match checkedAdd32 ((1 : UInt32) <<< UInt32.ofNat leading - 1) suffix with
      | none => .error .expGolombOverflow
      | some value => .ok (value, reader)

end BitReader

/-! ## Slices -/

/-- The loop of `unescape_rbsp_prefix`. -/
def unescapeLoop (outputLimit : Nat) : List UInt8 → Nat → Nat → List UInt8 →
    Except H264Error (List UInt8)
  | [], _, _, rbsp => .ok rbsp
  | byte :: rest, cursor, zeroCount, rbsp =>
    if outputLimit ≤ rbsp.length then
      .ok rbsp
    else if 2 ≤ zeroCount ∧ byte ≤ 3 then
      if byte ≠ 3 then
        .error (.malformedEscape cursor byte)
      else
        match rest.head? with
        | none => .error (.malformedEscape cursor 0xff)
        | some next =>
          if 3 < next then .error (.malformedEscape cursor next)
          else unescapeLoop outputLimit rest (cursor + 1) 0 rbsp
    else
      unescapeLoop outputLimit rest (cursor + 1) (if byte = 0 then min (zeroCount + 1) 255 else 0)
        (rbsp ++ [byte])

/-- The payload without its emulation bytes. -/
def unescapeRbspPrefix (ebsp : List UInt8) (outputLimit : Nat) :
    Except H264Error (List UInt8) :=
  if outputLimit = 0 ∨ maxRbspBytes < outputLimit ∨
      maxRbspBytes + maxRbspBytes / 2 < ebsp.length then
    .error (.rbspLimit ebsp.length)
  else
    unescapeLoop outputLimit ebsp 0 0 []

/-- The class that a slice type stands for. -/
def sliceClassOf (sliceType : UInt32) : Except H264Error SliceClass :=
  match (sliceType % 5).toNat with
  | 0 => .ok .p
  | 1 => .ok .b
  | 2 => .ok .i
  | 3 => .ok .sp
  | 4 => .ok .si
  | _ => .error .malformed

/-- The type of a slice, from its header. -/
def parseSliceClass (ebsp : List UInt8) : Except H264Error SliceClass :=
  -- Trailing zero bytes do not belong to the slice.
  let payload := (ebsp.reverse.dropWhile fun byte => decide (byte = 0)).reverse
  if payload = [] then
    .error .truncatedSlice
  else
    match unescapeRbspPrefix payload 64 with
    | .error e => .error e
    | .ok rbsp =>
      match BitReader.readUe { bytes := rbsp, bitOffset := 0 } with
      | .error e => .error e
      | .ok (_, bits) =>
        match bits.readUe with
        | .error e => .error e
        | .ok (sliceType, _) => sliceClassOf sliceType

/-! ## NAL units -/

/-- The length of the start code at the head of the bytes. -/
def startCodeLength (rest : List UInt8) : Option Nat :=
  if rest.take 4 = [0, 0, 0, 1] then some 4
  else if rest.take 3 = [0, 0, 1] then some 3
  else none

/-- The loop of `find_start_codes`, with fuel for the bytes that are left. -/
def findStartCodesFrom : Nat → List UInt8 → Nat → List (Nat × Nat) →
    Except H264Error (List (Nat × Nat))
  | 0, _, _, starts => .ok starts
  | fuel + 1, rest, cursor, starts =>
    if rest.length < 3 then
      .ok starts
    else
      match startCodeLength rest with
      | some length =>
        if starts.length = maxNalUnits then .error .tooManyNalUnits
        else findStartCodesFrom fuel (rest.drop length) (cursor + length)
          (starts ++ [(cursor, length)])
      | none => findStartCodesFrom fuel (rest.drop 1) (cursor + 1) starts

/-- Where each start code begins and ends. -/
def findStartCodes (bytes : List UInt8) : Except H264Error (List (Nat × Nat)) :=
  findStartCodesFrom bytes.length bytes 0 []

/-- One NAL unit in the loop of `inspect_annex_b`. -/
def inspectNal (summary : AnnexBSummary) (nal : List UInt8) : Except H264Error AnnexBSummary :=
  let header := nal.headD 0
  if header &&& 0x80 ≠ 0 then
    .error .forbiddenZeroBit
  else
    let nalType := header &&& 0x1f
    if 2 ^ 16 ≤ summary.nalUnits.toNat + 1 then
      .error .tooManyNalUnits
    else
      let summary := { summary with nalUnits := summary.nalUnits + 1 }
      match nalType.toNat with
      | 1 | 5 =>
        match parseSliceClass nal.tail with
        | .error e => .error e
        | .ok sliceClass =>
          .ok
            { summary with
              hasBSlice := summary.hasBSlice || decide (sliceClass = .b)
              hasNonIdrSlice := summary.hasNonIdrSlice || decide (nalType = 1)
              hasIdrSlice := summary.hasIdrSlice || decide (nalType = 5) }
      | 2 | 3 | 4 => .error .dataPartitionUnsupported
      | 7 => .ok { summary with hasSps := true }
      | 8 => .ok { summary with hasPps := true }
      | 9 => .ok { summary with hasAud := true }
      | 0 | 24 | 25 | 26 | 27 | 28 | 29 | 30 | 31 => .error (.unsupportedNalType nalType)
      | _ => .ok summary

/-- The loop of `inspect_annex_b` over the start codes. -/
def inspectNals (bytes : List UInt8) :
    List (Nat × Nat) → AnnexBSummary → Except H264Error AnnexBSummary
  | [], summary => .ok summary
  | (start, length) :: rest, summary =>
    let nalStart := start + length
    let nalEnd := (rest.head?.map Prod.fst).getD bytes.length
    if nalEnd ≤ nalStart then
      .error .malformed
    else
      match inspectNal summary ((bytes.take nalEnd).drop nalStart) with
      | .error e => .error e
      | .ok summary => inspectNals bytes rest summary

/-- The checks of `inspect_annex_b` after its loop. -/
def finishInspection (summary : AnnexBSummary) : Except H264Error AnnexBSummary :=
  if summary.containsPicture = false then .error .noPicture
  else if summary.hasIdrSlice ∧ summary.hasNonIdrSlice then .error .mixedPictureTypes
  else summary.validateLowDelay

/-- Looks at every NAL unit of an access unit. -/
def inspectAnnexB (bytes : List UInt8) : Except H264Error AnnexBSummary :=
  if bytes = [] ∨ maxAccessUnitBytes < bytes.length then
    .error (.accessUnitSize bytes.length)
  else
    match findStartCodes bytes with
    | .error e => .error e
    | .ok starts =>
      match starts.head? with
      | none => .error .missingStartCode
      | some (first, _) =>
        if (bytes.take first).any fun byte => decide (byte ≠ 0) then
          .error .leadingGarbage
        else
          match inspectNals bytes starts .default with
          | .error e => .error e
          | .ok summary => finishInspection summary

/-- An accepted unit has no B slice, and is an IDR picture or not, but not both. -/
theorem inspectAnnexB_eq_ok {bytes : List UInt8} {summary : AnnexBSummary}
    (h : inspectAnnexB bytes = .ok summary) :
    summary.hasBSlice = false ∧ summary.hasNonIdrSlice = !summary.hasIdrSlice := by
  unfold inspectAnnexB at h
  split at h
  · cases h
  split at h
  · cases h
  split at h
  · cases h
  split at h
  · cases h
  split at h
  · cases h
  unfold finishInspection AnnexBSummary.validateLowDelay at h
  split_ifs at h with hpicture
  unfold AnnexBSummary.containsPicture at hpicture
  cases hidr : summary.hasIdrSlice <;> cases hnon : summary.hasNonIdrSlice <;> simp_all

end LatencyDesk.H264
